import ReportCompiler.Proofs.Formula.Parsing
import ReportCompiler.Proofs.Formula.References
import ReportCompiler.Proofs.Formula.Soundness

/-!
# What is derived is read

The rules of the grammar are followed by the reader: tokens that derive an expression on a layer are
read as that expression by the part of the reader which the layer belongs to, whatever follows that
does not go on with it.  With the converse, the reader reads exactly the formulas of the grammar, so
that a token list is a formula of one expression at most.

## Main results

* `Derives.written` - what is derived on a layer is read on it.
* `Derives.resolves` - all references in tokens that derive something are resolved.
* `parseFormula_ok_iff` - **a token list is read as an expression if and only if the grammar derives
  it from the solid tokens.**
-/

namespace ReportCompiler.Formula

variable {ε : Type} {resolve : String → Except ε Expr}

/-- The answers of the resolver, with any expression where it has none. -/
def answerOf (resolve : String → Except ε Expr) (reference : String) : Expr :=
  (resolve reference).toOption.getD (.list [])

theorem answerOf_eq {reference : String} {e : Expr} (h : resolve reference = .ok e) :
    answerOf resolve reference = e := by
  rw [answerOf, h]
  rfl

/-! ### Layers -/

theorem Operand.written {t : Token} {e : Expr} (h : Operand resolve t e) :
    Written (answerOf resolve) 8 [t] e := by
  have hsort {sort : TokenSubkind} {e : Expr} (ht : t.is .operand sort)
      (h : operandExprOf? (answerOf resolve) sort t.value = some e) :
      Written (answerOf resolve) 8 [t] e := by
    simp only [Token.is, Bool.and_eq_true, decide_eq_true_eq] at ht
    exact written_operand ht.1 (by rw [ht.2, h])
  cases h with
  | reference ht h => exact hsort ht (congrArg some (answerOf_eq h))
  | text ht => exact hsort ht rfl
  | number ht => exact hsort ht rfl
  | logical ht => exact hsort ht rfl

theorem endsExpression_of_isArgSep {t : Token} (h : t.isArgSep) : t.endsExpression := by
  simp only [Token.isArgSep, Bool.and_eq_true, decide_eq_true_eq] at h
  simp [Token.endsExpression, h.1]

theorem endsExpression_of_closer {t : Token} (h : t.is .func .closer) : t.endsExpression := by
  simp [Token.endsExpression, h]

mutual

/-- **What is derived on a layer is read on it.** -/
theorem Derives.written {k : Nat} {ts : List Token} {e : Expr} :
    Derives resolve k ts e → k ≤ 8 ∧ Written (answerOf resolve) k ts e
  | .tighter h => by
    obtain ⟨hk, h⟩ := Derives.written h
    exact ⟨Nat.le_of_succ_le hk, h.weaken_succ (Nat.le_of_succ_le_succ hk)⟩
  | .binary hleft ht hright hl hr =>
    ⟨Nat.le_trans (precedence_le _) (by omega),
      (Derives.written hleft).2.binary ht (Derives.written hright).2 hl hr⟩
  | .percent h ht he => ⟨by omega, (Derives.written h).2.percent ht he⟩
  | .sign ht hop h he => ⟨by omega, (Derives.written h).2.sign ht hop he⟩
  | .operand h => ⟨by omega, h.written⟩
  | .group ho h hc => by
    obtain ⟨hk, h⟩ := Derives.written h
    exact ⟨by omega, h.group ho (by omega) hk hc⟩
  | .call ho hf hargs hc hcall => by
    refine ⟨by omega, fun rest => ?_⟩
    rw [List.append_assoc]
    exact gives_call ho hf (DerivesAll.arguments hargs hc (apply_eq_ok_iff.mpr hcall) rest)

/-- The arguments of a call are read one after another, up to its closer. -/
theorem DerivesAll.arguments {ts : List Token} {args : List (Option Expr)} {f : Function}
    {opener : String} {before : List (Option Expr)} {c : Token} {e : Expr} :
    DerivesAll resolve ts args → c.is .func .closer → f.apply (before ++ args) = .ok e →
      ∀ rest, Arguments (answerOf resolve) f opener before (ts ++ c :: rest) e rest
  | .last h, hc, hf, rest =>
    arguments_last hc (DerivesArgument.gives h (endsExpression_of_closer hc)) hf
  | .more h ht hargs, hc, hf, rest => by
    rw [List.append_assoc]
    refine arguments_step ht (DerivesArgument.gives h (endsExpression_of_isArgSep ht)) ?_
    refine DerivesAll.arguments hargs hc ?_ rest
    rwa [List.append_assoc]

/-- An argument is read up to the comma or closer behind it. -/
theorem DerivesArgument.gives {ts rest : List Token} {arg : Option Expr} {t : Token} :
    DerivesArgument resolve ts arg → t.endsExpression →
      GivesArgument (answerOf resolve) (ts ++ t :: rest) arg (t :: rest)
  | .empty, ht => by
    refine givesArgument_none ?_ ht
    rcases kind_of_endsExpression ht with hkind | hkind | hkind <;> simp [hkind]
  | .given h, ht => by
    obtain ⟨hk, h⟩ := Derives.written h
    exact (h.expression (by omega) hk (stops_of_endsExpression ht rest)).argument

end

/-! ### References -/

/-- The resolver has an answer for every reference among the tokens. -/
def Resolves (resolve : String → Except ε Expr) (ts : List Token) : Prop :=
  ∀ t ∈ ts, t.isReference → ∃ e, resolve t.value = .ok e

theorem resolves_nil : Resolves resolve [] := by
  intro t ht
  cases ht

theorem Resolves.cons {t : Token} {ts : List Token} (h : Resolves resolve ts)
    (ht : t.isReference = false) : Resolves resolve (t :: ts) := by
  intro u hu href
  rcases List.mem_cons.mp hu with rfl | hu
  · rw [ht] at href
    cases href
  · exact h u hu href

theorem Resolves.append {ts us : List Token} (h : Resolves resolve ts)
    (hu : Resolves resolve us) : Resolves resolve (ts ++ us) := by
  intro t ht
  rcases List.mem_append.mp ht with ht | ht
  · exact h t ht
  · exact hu t ht

theorem Operand.resolves {t : Token} {e : Expr} (h : Operand resolve t e) :
    Resolves resolve [t] := by
  have hliteral {sort : TokenSubkind} (ht : t.is .operand sort) (hsort : sort ≠ .range) :
      Resolves resolve [t] := by
    simp only [Token.is, Bool.and_eq_true, decide_eq_true_eq] at ht
    exact resolves_nil.cons (isReference_of_subkind (by rw [ht.2]; exact hsort))
  cases h with
  | reference ht h =>
    intro u hu _
    rw [List.mem_singleton.mp hu]
    exact ⟨e, h⟩
  | text ht => exact hliteral ht (by decide)
  | number ht => exact hliteral ht (by decide)
  | logical ht => exact hliteral ht (by decide)

mutual

/-- All references in tokens that derive something are resolved. -/
theorem Derives.resolves {k : Nat} {ts : List Token} {e : Expr} :
    Derives resolve k ts e → Resolves resolve ts
  | .tighter h => Derives.resolves h
  | .binary hleft ht hright _ _ =>
    (Derives.resolves hleft).append
      ((Derives.resolves hright).cons (isReference_of_binaryOp? ht))
  | .percent h ht _ =>
    (Derives.resolves h).append (resolves_nil.cons (isReference_of_kind (by simp [ht])))
  | .sign ht _ h _ => (Derives.resolves h).cons (isReference_of_kind (by simp [ht]))
  | .operand h => h.resolves
  | .group ho h hc =>
    ((Derives.resolves h).append
      (resolves_nil.cons (isReference_of_is hc (by decide)))).cons
        (isReference_of_is ho (by decide))
  | .call ho _ hargs hc _ =>
    ((DerivesAll.resolves hargs).append
      (resolves_nil.cons (isReference_of_is hc (by decide)))).cons
        (isReference_of_is ho (by decide))

theorem DerivesAll.resolves {ts : List Token} {args : List (Option Expr)} :
    DerivesAll resolve ts args → Resolves resolve ts
  | .last h => DerivesArgument.resolves h
  | .more h ht hargs =>
    (DerivesArgument.resolves h).append
      ((DerivesAll.resolves hargs).cons (isReference_of_isArgSep ht))

theorem DerivesArgument.resolves {ts : List Token} {arg : Option Expr} :
    DerivesArgument resolve ts arg → Resolves resolve ts
  | .empty => resolves_nil
  | .given h => Derives.resolves h

end

/-- Where the resolver answers every reference that is asked for, it leads to the same result as
the function of its answers. -/
theorem Reading.Consumes.run_of_answered {α : Type} {Q : List String → α → Prop}
    {r : Reading α} {refs : List String} {raise : Fault → ε} {a : α}
    (hr : r.Consumes (fun _ => True) Q refs)
    (hrefs : ∀ reference ∈ refs, ∃ e, resolve reference = .ok e)
    (h : r.answered (answerOf resolve) = .ok a) :
    r.run resolve (fun why => .error (raise why)) = .ok a := by
  induction r generalizing refs with
  | done b =>
    obtain rfl := Except.ok.inj h
    rfl
  | fault why => cases h
  | ask reference next ih =>
    obtain ⟨rest, rfl, hnext⟩ := hr
    obtain ⟨e, he⟩ := hrefs reference List.mem_cons_self
    rw [answered, answerOf_eq he] at h
    rw [run, he]
    exact ih e (hnext e trivial) (fun ref href => hrefs ref (List.mem_cons_of_mem _ href)) h

/-! ### Whole formulas -/

/-- What the grammar derives is what the formula is read as. -/
theorem run_of_isFormula {raise : Fault → ε} {ts : List Token} {e : Expr}
    (h : IsFormula resolve ts e) :
    (parseFormula ts).run resolve (fun why => .error (raise why)) = .ok e := by
  obtain ⟨hderives, hscalar⟩ := h
  have hread := hderives.written.2.expression (by omega) (by omega) (stops_nil 1)
  rw [List.append_nil] at hread
  refine (parseFormula_consumes .trivial ts).run_of_answered (fun reference href => ?_)
    (parseFormula_answered hread hscalar)
  obtain ⟨t, ht, rfl⟩ := List.mem_map.mp href
  obtain ⟨hmem, hreference⟩ := List.mem_filter.mp ht
  exact hderives.resolves t hmem hreference

/-- **The reader reads exactly the formulas of the grammar.**  A token list is read as an expression
if and only if its solid tokens derive that expression.  So they derive one at most, and blanks make
no difference, neither to the expression nor to the fault where there is none. -/
theorem parseFormula_ok_iff (resolve : String → Except ε Expr) (raise : Fault → ε)
    (ts : List Token) :
    (∀ e, (parseFormula ts).run resolve (fun why => .error (raise why)) = .ok e ↔
      IsFormula resolve (solid ts) e) ∧
    (∀ e e', IsFormula resolve (solid ts) e → IsFormula resolve (solid ts) e' → e = e') ∧
    ∀ ts', solid ts' = solid ts → parseFormula ts' = parseFormula ts := by
  have hsolid : parseFormula (solid ts) = parseFormula ts :=
    parseFormula_eq_of_solid (solid_solid ts)
  have hread {e : Expr} (h : IsFormula resolve (solid ts) e) :
      (parseFormula ts).run resolve (fun why => .error (raise why)) = .ok e :=
    hsolid ▸ run_of_isFormula h
  refine ⟨fun e => ⟨isFormula_of_run, hread⟩, fun e e' h h' => ?_, fun ts' h => ?_⟩
  · exact Except.ok.inj ((hread h).symm.trans (hread h'))
  · exact parseFormula_eq_of_solid h

/-- Two to the power of a negated percentage, with a blank in it. -/
def negatedPercentage : List Token :=
  [⟨.operand, .number, "2"⟩, ⟨.infixOp, .plain, "^"⟩, ⟨.whitespace, .plain, " "⟩,
    ⟨.prefixOp, .plain, "-"⟩, ⟨.operand, .range, "A1"⟩, ⟨.postfixOp, .plain, "%"⟩]

/-- Every reference stands for a variable of its own name. -/
def byName (reference : String) : Except Fault Expr :=
  .ok (.var reference)

theorem derives_negatedPercentage :
    IsFormula byName (solid negatedPercentage)
      (.binary .pow (.number "2") (.percent (.unary .neg (.var "A1")))) := by
  refine ⟨?_, rfl⟩
  have htwo : Derives byName 5 [⟨.operand, .number, "2"⟩] (.number "2") :=
    .tighter (.tighter (.tighter (.operand (.number rfl))))
  have hreference : Derives byName 7 [⟨.operand, .range, "A1"⟩] (.var "A1") :=
    .tighter (.operand (.reference rfl rfl))
  have hpercentage := Derives.percent (t := ⟨.postfixOp, .plain, "%"⟩) (.tighter
    (.sign (t := ⟨.prefixOp, .plain, "-"⟩) rfl rfl hreference rfl)) rfl rfl
  have hpower := Derives.binary (t := ⟨.infixOp, .plain, "^"⟩) htwo rfl hpercentage rfl rfl
  exact .tighter (.tighter (.tighter (.tighter hpower)))

/-- The sign binds the reference, the percent sign both, the operator all of it, and the tokens are
a formula of nothing else. -/
theorem parseFormula_ok_iff_negatedPercentage :
    (parseFormula negatedPercentage).run byName .error =
        .ok (.binary .pow (.number "2") (.percent (.unary .neg (.var "A1")))) ∧
    (∀ e, IsFormula byName (solid negatedPercentage) e →
      e = .binary .pow (.number "2") (.percent (.unary .neg (.var "A1")))) ∧
    parseFormula (solid negatedPercentage) = parseFormula negatedPercentage := by
  obtain ⟨hiff, hunique, hblank⟩ := parseFormula_ok_iff byName id negatedPercentage
  exact ⟨(hiff _).mpr derives_negatedPercentage,
    fun e he => hunique _ _ he derives_negatedPercentage, hblank _ (solid_solid _)⟩

end ReportCompiler.Formula
