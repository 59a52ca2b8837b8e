import ReportCompiler.Proofs.Cell.Variables
import ReportCompiler.Proofs.Formula.Lossless
import ReportCompiler.Proofs.Formula.Soundness
import ReportCompiler.Proofs.Session.Meaning
import ReportCompiler.Proofs.Target.Denotation

/-!
# Expressions stand on one line

The texts of a workbook reach an expression as literals, as numbers and as names made from titles.
None of them has a control character there, and writing an expression adds none, so that it stands
on one line.

## Main definitions

* `Expr.oneLine` - no text inside an expression has a control character.

## Main results

* `controlFree_render` - **an expression of such texts is written without control characters.**
* `Derives.oneLine` - formulas derive such expressions, when their references stand for such.
* `oneLine_meaning` - **the meaning of every cell is such an expression**, when the name of the
  accessor has no control character.
-/

namespace ReportCompiler

open Formula Text Target

/-! ### Numbers -/

namespace Decimal

theorem controlFree_of_isDigit {cs : List Char} (h : ∀ c ∈ cs, c.isDigit) : ControlFree cs :=
  fun c hc => not_isControl_of_isDigit (h c hc)

theorem controlFree_takeWhile_isDigit (cs : List Char) :
    ControlFree (cs.takeWhile Char.isDigit) :=
  controlFree_of_isDigit (List.all_eq_true.mp List.all_takeWhile)

theorem controlFree_toDigits (n : Nat) : ControlFree (Nat.toDigits 10 n) :=
  controlFree_of_isDigit (isDigit_toDigits n)

theorem controlFree_of_exponentDigits? {cs : List Char} {n : Nat}
    (h : exponentDigits? cs = some n) : ControlFree cs := by
  unfold exponentDigits? at h
  split at h
  case isTrue hall =>
    obtain ⟨-, hall⟩ := (Bool.and_eq_true _ _).mp hall
    exact controlFree_of_isDigit (List.all_eq_true.mp hall)
  case isFalse => cases h

theorem controlFree_of_splitSign {cs : List Char} (h : ControlFree (splitSign cs).2) :
    ControlFree cs := by
  unfold splitSign at h
  split at h
  · exact controlFree_cons.mpr ⟨rfl, h⟩
  · exact controlFree_cons.mpr ⟨rfl, h⟩
  · exact h

theorem controlFree_of_power? {cs : List Char} (h : (power? cs).isSome) : ControlFree cs := by
  cases cs with
  | nil => exact controlFree_nil
  | cons c rest =>
    rw [power?] at h
    split at h
    case isFalse => cases h
    case isTrue hmark =>
      have hc : isControl c = false := by
        rcases (by simpa using hmark : c = 'e' ∨ c = 'E') with rfl | rfl <;> rfl
      refine controlFree_cons.mpr ⟨hc, controlFree_of_splitSign ?_⟩
      cases hdigits : exponentDigits? (splitSign rest).2 with
      | none => simp [hdigits] at h
      | some n => exact controlFree_of_exponentDigits? hdigits

theorem controlFree_of_splitFraction {cs : List Char} (h : ControlFree (splitFraction cs).2) :
    ControlFree cs := by
  unfold splitFraction at h
  split at h
  case h_1 rest =>
    refine controlFree_cons.mpr ⟨rfl, ?_⟩
    rw [← List.takeWhile_append_dropWhile (p := Char.isDigit) (l := rest), controlFree_append]
    exact ⟨controlFree_takeWhile_isDigit rest, h⟩
  case h_2 => exact h

/-- A numeral has no controls. -/
theorem controlFree_of_isNumeral {cs : List Char} (h : isNumeral cs) : ControlFree cs := by
  have hrest : (power? (splitFraction (cs.dropWhile Char.isDigit)).2).isSome := by
    unfold isNumeral numeral? at h
    simp only at h
    split at h
    case isTrue => cases h
    case isFalse => simpa using h
  rw [← List.takeWhile_append_dropWhile (p := Char.isDigit) (l := cs), controlFree_append]
  exact ⟨controlFree_takeWhile_isDigit cs,
    controlFree_of_splitFraction (controlFree_of_power? hrest)⟩

theorem controlFree_zeros (n : Nat) : ControlFree (zeros n).toList := by
  rw [zeros, String.toList_ofList]
  intro c hc
  rw [List.eq_of_mem_replicate hc]
  rfl

theorem controlFree_signText (negative : Bool) : ControlFree (signText negative).toList := by
  cases negative <;> decide

theorem controlFree_positional (s : Scaled) : ControlFree (positional s).toList := by
  have hdigits := controlFree_toDigits s.digits
  have htake (n : Nat) : ControlFree ((Nat.toDigits 10 s.digits).take n) := fun c hc =>
    hdigits c (List.mem_of_mem_take hc)
  have hdrop (n : Nat) : ControlFree ((Nat.toDigits 10 s.digits).drop n) := fun c hc =>
    hdigits c (List.mem_of_mem_drop hc)
  unfold positional
  simp only
  split
  · simp [hdigits, controlFree_zeros]
  · split
    · simp [hdigits, controlFree_zeros, isControl]
    · simp [htake, hdrop, isControl]

theorem controlFree_valueText (n : Binary64) : ControlFree (valueText n).toList := by
  cases n with
  | nan => decide
  | infinite negative =>
    rw [valueText, String.toList_append, controlFree_append]
    exact ⟨controlFree_signText negative, by decide⟩
  | finite negative m e =>
    rw [valueText, String.toList_append, controlFree_append]
    refine ⟨controlFree_signText negative, ?_⟩
    split
    · decide
    · exact controlFree_positional _

/-- A number is written without controls. -/
theorem controlFree_literalText (n : Binary64) : ControlFree (literalText n).toList := by
  unfold literalText
  split
  case h_1 negative k _ =>
    split
    case isTrue =>
      rw [String.toList_append, controlFree_append, digitText, String.toList_ofList]
      exact ⟨controlFree_signText (negative && k != 0), controlFree_toDigits k⟩
    case isFalse => exact controlFree_valueText n
  case h_2 => exact controlFree_valueText n

end Decimal

/-! ### Names -/

namespace Address

theorem controlFree_variableName (cell : Address) : ControlFree cell.variableName.toList :=
  fun c hc => not_isControl_of_isWordChar (cell.isWordChar_variableName c hc)

end Address

/-! ### Expressions -/

namespace Formula

namespace Expr

mutual

/-- No literal, name or other text inside the expression has a control character. -/
def oneLine : Expr → Prop
  | number t | text t | var t | raw t => ControlFree t.toList
  | bool _ => True
  | list items => oneLineAll items
  | group inner => inner.oneLine
  | unary _ operand => operand.oneLine
  | percent operand => operand.oneLine
  | binary _ left right => left.oneLine ∧ right.oneLine
  | conditional cond onTrue onFalse => cond.oneLine ∧ onTrue.oneLine ∧ onFalse.oneLine
  | call _ args => oneLineAll args

/-- The same of several expressions. -/
def oneLineAll : List Expr → Prop
  | [] => True
  | e :: rest => e.oneLine ∧ oneLineAll rest

end

theorem oneLineAll_iff {es : List Expr} : oneLineAll es ↔ ∀ e ∈ es, e.oneLine := by
  induction es with
  | nil => simp [oneLineAll]
  | cons e rest ih => rw [oneLineAll, ih, List.forall_mem_cons]

end Expr

theorem controlFree_joined {parts : List String} (h : ∀ part ∈ parts, ControlFree part.toList) :
    ControlFree (Function.joined parts).toList :=
  .intercalate (by decide) h

theorem controlFree_between {before inner after : String} (hbefore : ControlFree before.toList)
    (hinner : ControlFree inner.toList) (hafter : ControlFree after.toList) :
    ControlFree (before ++ inner ++ after).toList := by
  simp only [String.toList_append, controlFree_append]
  exact ⟨⟨hbefore, hinner⟩, hafter⟩

theorem controlFree_operandText {inner outer : Strength} {written : String} {strict : Bool}
    (h : ControlFree written.toList) :
    ControlFree (Expr.operandText inner written outer strict).toList := by
  unfold Expr.operandText
  split
  · exact controlFree_between (by decide) h (by decide)
  · exact h

theorem controlFree_binaryText {op : BinaryOp} {l r : Strength} {left right : String}
    (hleft : ControlFree left.toList) (hright : ControlFree right.toList) :
    ControlFree (Expr.binaryText op l left r right).toList := by
  have hsymbol : ControlFree op.targetSymbol.toList := by cases op <;> decide
  unfold Expr.binaryText
  split
  · refine controlFree_between ?_ hright (by decide)
    exact controlFree_between (by decide) hleft (by decide)
  · refine controlFree_between ?_ (by decide) (controlFree_operandText hright)
    exact controlFree_between (controlFree_operandText hleft) (by decide) hsymbol

theorem controlFree_conditionalText {cond onTrue onFalse : String}
    (hcond : ControlFree cond.toList) (htrue : ControlFree onTrue.toList)
    (hfalse : ControlFree onFalse.toList) :
    ControlFree (Function.conditionalText cond onTrue onFalse).toList := by
  unfold Function.conditionalText
  refine controlFree_between (controlFree_between ?_ hcond (by decide)) hfalse (by decide)
  exact controlFree_between (by decide) htrue (by decide)

theorem controlFree_callText (f : Function) {args : List String}
    (h : ∀ arg ∈ args, ControlFree arg.toList) : ControlFree (f.callText args).toList := by
  have hjoined := controlFree_joined h
  have harg (i : Nat) : ControlFree (args.getD i "False").toList := by
    rw [List.getD_eq_getElem?_getD]
    cases hget : args[i]? with
    | none => decide
    | some arg => exact h arg (List.mem_of_getElem? hget)
  cases f with
  | «if» => exact controlFree_conditionalText (harg 0) (harg 1) (harg 2)
  | average =>
    exact controlFree_between (controlFree_between (by decide) hjoined (by decide)) hjoined
      (by decide)
  | or | count | sum | guardLimitLower | guardLimitUpper =>
    exact controlFree_between (by decide) hjoined (by decide)

mutual

/-- **An expression of texts without controls is written without controls.** -/
theorem controlFree_render (e : Expr) (h : e.oneLine) : ControlFree e.render.toList := by
  match e with
  | .number text => exact h
  | .text literal => exact h
  | .bool b => cases b <;> decide
  | .var name => exact h
  | .raw text => exact h
  | .list items =>
    exact controlFree_between (by decide) (controlFree_joined (controlFree_renderAll items h))
      (by decide)
  | .group inner => exact controlFree_between (by decide) (controlFree_render inner h) (by decide)
  | .unary op operand =>
    have hsymbol : ControlFree op.symbol.toList := by cases op <;> decide
    rw [Expr.render, String.toList_append, controlFree_append]
    exact ⟨hsymbol, controlFree_operandText (controlFree_render operand h)⟩
  | .percent operand =>
    exact controlFree_between (by decide) (controlFree_operandText (controlFree_render operand h))
      (by decide)
  | .binary op left right =>
    exact controlFree_binaryText (controlFree_render left h.1) (controlFree_render right h.2)
  | .conditional cond onTrue onFalse =>
    exact controlFree_conditionalText (controlFree_render cond h.1)
      (controlFree_render onTrue h.2.1) (controlFree_render onFalse h.2.2)
  | .call func args => exact controlFree_callText func (controlFree_renderAll args h)

theorem controlFree_renderAll (es : List Expr) (h : Expr.oneLineAll es) :
    ∀ part ∈ Expr.renderAll es, ControlFree part.toList := by
  match es with
  | [] => simp [Expr.renderAll]
  | e :: rest =>
    exact List.forall_mem_cons.mpr ⟨controlFree_render e h.1, controlFree_renderAll rest h.2⟩

end

/-! ### Formulas -/

section

variable {ε : Type} {resolve : String → Except ε Expr}

theorem isNumeral_of_operandSubkind {s : String} (h : Token.operandSubkind s = .number) :
    Decimal.isNumeral s.toList := by
  unfold Token.operandSubkind at h
  split at h
  · cases h
  · cases h
  · split at h
    · cases h
    · split at h
      case isTrue hnumber => exact ((Bool.and_eq_true _ _).mp hnumber).2
      case isFalse => cases h

theorem Operand.oneLine {t : Token} {e : Expr} (h : Operand resolve t e) (ht : t.Proper)
    (hresolve : ∀ ref e, resolve ref = .ok e → e.oneLine) : e.oneLine := by
  cases h with
  | reference _ h => exact hresolve _ _ h
  | text => exact controlFree_textLiteral t.value
  | number hnumber =>
    simp only [Token.is, Bool.and_eq_true, decide_eq_true_eq] at hnumber
    have hsort := (ht.sorted hnumber.1).symm.trans hnumber.2
    exact Decimal.controlFree_of_isNumeral (isNumeral_of_operandSubkind hsort)
  | logical => trivial

theorem oneLine_getD_zero {arg : Option Expr} (h : ∀ e ∈ arg, e.oneLine) :
    (arg.getD (.number "0")).oneLine := by
  cases arg with
  | none =>
    change ControlFree "0".toList
    decide
  | some e => exact h e rfl

theorem oneLine_argumentItems {e : Expr} (h : e.oneLine) :
    ∀ item ∈ argumentItems e, item.oneLine := by
  unfold argumentItems
  split
  case h_1 items => exact Expr.oneLineAll_iff.mp h
  case h_2 => simpa using h

theorem CallMakes.oneLine {f : Function} {args : List (Option Expr)} {e : Expr}
    (h : CallMakes f args e) (hargs : ∀ arg ∈ args, ∀ a ∈ arg, a.oneLine) : e.oneLine := by
  cases h with
  | ifThen cond onTrue =>
    simp only [List.forall_mem_cons] at hargs
    exact ⟨hargs.1 cond rfl, oneLine_getD_zero hargs.2.1, trivial⟩
  | ifThenElse cond onTrue onFalse =>
    simp only [List.forall_mem_cons] at hargs
    exact ⟨hargs.1 cond rfl, oneLine_getD_zero hargs.2.1, oneLine_getD_zero hargs.2.2.1⟩
  | other =>
    refine Expr.oneLineAll_iff.mpr fun item hitem => ?_
    obtain ⟨a, ha, hmem⟩ := List.mem_flatMap.mp hitem
    obtain ⟨arg, harg, rfl⟩ := List.mem_filterMap.mp ha
    exact oneLine_argumentItems (hargs _ harg a rfl) item hmem

theorem oneLine_grouped {e : Expr} (h : e.oneLine) : (grouped e).oneLine := by
  unfold grouped
  split <;> exact h

mutual

/-- **Formulas derive expressions without control characters**, when their references stand for
such. -/
theorem Derives.oneLine {k : Nat} {ts : List Token} {e : Expr}
    (hresolve : ∀ ref e, resolve ref = .ok e → e.oneLine) :
    Derives resolve k ts e → (∀ t ∈ ts, t.Proper) → e.oneLine
  | .tighter h, hts => Derives.oneLine hresolve h hts
  | .binary hleft _ hright _ _, hts => by
    obtain ⟨hbefore, hafter⟩ := List.forall_mem_append.mp hts
    exact ⟨Derives.oneLine hresolve hleft hbefore,
      Derives.oneLine hresolve hright (List.forall_mem_cons.mp hafter).2⟩
  | .percent h _ _, hts => by
    have hoperand := Derives.oneLine hresolve h (List.forall_mem_append.mp hts).1
    exact hoperand
  | .sign _ _ h _, hts => by
    have hoperand := Derives.oneLine hresolve h (List.forall_mem_cons.mp hts).2
    exact hoperand
  | .operand h, hts => h.oneLine (List.forall_mem_singleton.mp hts) hresolve
  | .group _ h _, hts => by
    have hinner := (List.forall_mem_append.mp (List.forall_mem_cons.mp hts).2).1
    exact oneLine_grouped (Derives.oneLine hresolve h hinner)
  | .call _ _ hargs _ hcall, hts => by
    have hinner := (List.forall_mem_append.mp (List.forall_mem_cons.mp hts).2).1
    exact hcall.oneLine (DerivesAll.oneLine hresolve hargs hinner)

theorem DerivesAll.oneLine {ts : List Token} {args : List (Option Expr)}
    (hresolve : ∀ ref e, resolve ref = .ok e → e.oneLine) :
    DerivesAll resolve ts args → (∀ t ∈ ts, t.Proper) → ∀ arg ∈ args, ∀ a ∈ arg, a.oneLine
  | .last h, hts => List.forall_mem_singleton.mpr (DerivesArgument.oneLine hresolve h hts)
  | .more h _ hargs, hts => by
    obtain ⟨hbefore, hafter⟩ := List.forall_mem_append.mp hts
    exact List.forall_mem_cons.mpr ⟨DerivesArgument.oneLine hresolve h hbefore,
      DerivesAll.oneLine hresolve hargs (List.forall_mem_cons.mp hafter).2⟩

theorem DerivesArgument.oneLine {ts : List Token} {arg : Option Expr}
    (hresolve : ∀ ref e, resolve ref = .ok e → e.oneLine) :
    DerivesArgument resolve ts arg → (∀ t ∈ ts, t.Proper) → ∀ a ∈ arg, a.oneLine
  | .empty, _ => by simp
  | .given h, hts => by
    rintro _ ⟨⟩
    exact Derives.oneLine hresolve h hts

end

end

end Formula

/-! ### Cells -/

theorem CellValue.oneLine_toExpr (v : CellValue) : v.toExpr.oneLine := by
  cases v with
  | number n => exact Decimal.controlFree_literalText n
  | boolean b => trivial
  | empty => exact controlFree_quoted ""
  | text s => exact controlFree_quoted s
  | error s => exact controlFree_quoted s

theorem Override.oneLine_toExpr {accessor : String} (h : ControlFree accessor.toList)
    (o : Override) : (o.toExpr accessor).oneLine := by
  cases o with
  | label text => exact controlFree_quoted text
  | constant value => exact value.oneLine_toExpr
  | getter g =>
    have hmethod : ControlFree g.method.toList := by cases g <;> decide
    refine controlFree_between ?_ hmethod (by decide)
    rw [String.toList_append, controlFree_append]
    exact ⟨h, by decide⟩
  | event name thread =>
    have hthread : ControlFree (toString thread).toList := by
      rw [Nat.toString_eq_repr, Nat.repr, String.toList_ofList]
      exact Decimal.controlFree_toDigits thread
    have hname := controlFree_quoted name
    refine controlFree_between (controlFree_between ?_ hname (by decide)) hthread (by decide)
    rw [String.toList_append, controlFree_append]
    exact ⟨h, by decide⟩

namespace Source

variable {src : Source} (haccessor : ControlFree src.layout.accessor.toList)

include haccessor

theorem oneLine_standIn {cell : Address} {e : Expr} (h : src.standIn cell = .ok e) :
    e.oneLine := by
  unfold standIn at h
  split at h
  · cases h
  · rw [← Except.ok.inj h]
    exact Override.oneLine_toExpr haccessor _
  · rw [← Except.ok.inj h]
    exact cell.controlFree_variableName

theorem oneLine_answer {sheet reference : String} {e : Expr}
    (h : src.answer sheet reference = .ok e) : e.oneLine := by
  unfold answer at h
  split at h
  · cases h
  · exact oneLine_standIn haccessor h
  · next cells _ =>
    cases hmap : cells.mapM src.standIn with
    | error why =>
      rw [hmap] at h
      cases h
    | ok es =>
      rw [hmap] at h
      rw [← Except.ok.inj h]
      refine Expr.oneLineAll_iff.mpr fun e' he' => ?_
      obtain ⟨c, -, hstandIn⟩ := exists_of_mem_mapM hmap e' he'
      exact oneLine_standIn haccessor hstandIn

/-- **The meaning of a cell has no control characters.** -/
theorem oneLine_meaning {cell : Address} {e : Expr} (h : src.meaning cell = .ok e) :
    e.oneLine := by
  unfold meaning at h
  split at h
  · cases h
  · rw [← Except.ok.inj h]
    exact Override.oneLine_toExpr haccessor _
  · split at h
    · rw [← Except.ok.inj h]
      exact CellValue.oneLine_toExpr _
    · split at h
      · cases h
      · next ts htokens =>
        have hproper : ∀ t ∈ solid ts, t.Proper := fun t ht =>
          proper_of_tokenize htokens t (List.mem_of_mem_filter ht)
        exact (isFormula_of_run h).1.oneLine (fun _ _ => oneLine_answer haccessor) hproper

end Source

end ReportCompiler
