import ReportCompiler.Proofs.Formula.References
import ReportCompiler.Proofs.Session.Invariant
import ReportCompiler.Proofs.Target.Denotation
import ReportCompiler.Proofs.Target.Render

/-!
# The functions that instructions call

The trees that expressions stand for call a handful of helpers by name, and the accessor by its
methods.  Nothing that a workbook holds can make an instruction call anything else.

## Main definitions

* `Tree.callees` - the names of the functions that a tree calls.
* `helperNames`, `Tree.CallsHelpers` - the helpers, and the trees that call nothing else.

## Main results

* `SpellsItems.methodCall` - the call of a method is read as such.
* `Override.target_getter`, `Override.target_event` - the accessor is called by its methods.
* `compositional_callsHelpers` - that only helpers are called passes from parts to wholes.
* `Source.callsHelpers_meaning` - **the meaning of a cell calls only helpers.**
-/

namespace ReportCompiler

open Formula

namespace Target

/-! ### Callees -/

/-- The name that the tree is. -/
def Tree.ownName : Tree → List String
  | .name n => [n]
  | _ => []

mutual

/-- The names of the functions that are called in the tree.  A method is called on an object and is
not found by its name. -/
def Tree.callees : Tree → List String
  | .number _ | .string _ | .bool _ | .name _ => []
  | .list items => calleesAll items
  | .unary _ operand => operand.callees
  | .binary _ left right => left.callees ++ right.callees
  | .conditional cond onTrue onFalse => cond.callees ++ onTrue.callees ++ onFalse.callees
  | .call func args => func.ownName ++ func.callees ++ calleesAll args
  | .attribute object _ => object.callees
  | .subscript container index => container.callees ++ index.callees

/-- The names of the functions that are called in several trees. -/
def Tree.calleesAll : List Tree → List String
  | [] => []
  | t :: rest => t.callees ++ calleesAll rest

end

theorem Tree.calleesAll_eq_flatMap (ts : List Tree) : calleesAll ts = ts.flatMap callees := by
  induction ts with
  | nil => rfl
  | cons t rest ih =>
    change t.callees ++ calleesAll rest = _
    rw [ih, List.flatMap_cons]

/-! ### Method calls -/

theorem WrittenItems.methodCall {ls : List Lexeme} {ts : List Tree} (h : WrittenItems ls ts)
    (object method : String) :
    Written .atom (.name object :: .symbol .dot :: .name method :: .symbol .leftBracket ::
        (ls ++ [.symbol .rightBracket]))
      (.call (.attribute (.name object) method) ts) := by
  intro rest hrest
  have hobject := gives_atom_single (x := .name object) (t := .name object) fun _ => by
    rw [readAtom]
  refine gives_primary (hobject _) (trails_attribute ?_)
  rw [List.append_eq, List.cons_append, List.append_assoc]
  exact trails_call (h .rightBracket rest (Or.inl rfl)) hrest.trails

theorem exists_cons_of_isName {s : String} (h : isName s) :
    ∃ c cs, s.toList = c :: cs ∧ isNameStart c := by
  simp only [isName, Bool.and_eq_true] at h
  obtain ⟨hword, -⟩ := h
  split at hword
  case h_1 => cases hword
  case h_2 c cs hs => exact ⟨c, cs, hs, ((Bool.and_eq_true _ _).mp hword).1⟩

/-- The call of a method, with its object in front and its arguments in brackets. -/
theorem SpellsItems.methodCall {object method text : String} {ts : List Tree}
    (h : SpellsItems text ts) (hobject : isName object) (hmethod : isName method) :
    Spells .atom (object ++ "." ++ method ++ "(" ++ text ++ ")")
      (.call (.attribute (.name object) method) ts) := by
  obtain ⟨ls, hlex, hls⟩ := h
  refine ⟨_, ?_, hls.methodCall object method⟩
  have htext : (object ++ "." ++ method ++ "(" ++ text ++ ")").toList =
      object.toList ++ '.' :: (method.toList ++ '(' :: (text.toList ++ [')'])) := by simp
  obtain ⟨c, cs, hchars, hc⟩ := exists_cons_of_isName hmethod
  have hdigit : c.isDigit = false := (Bool.or_eq_false_iff.mp (isNameStart_inert hc).2).1
  -- the point ends the name of the object, and the bracket that of the method
  have hcall : lex (method.toList ++ '(' :: (text.toList ++ [')'])) =
      some (.name method :: .symbol .leftBracket :: (ls ++ [.symbol .rightBracket])) := by
    rw [lex_append (breaks_cons rfl _) (lex_name hmethod),
      lex_enclosed (a := .leftBracket) (b := .rightBracket) (by decide) (by decide) rfl hlex]
    rfl
  have hpoint : lex ('.' :: (method.toList ++ '(' :: (text.toList ++ [')']))) =
      some (.symbol .dot :: .name method :: .symbol .leftBracket ::
        (ls ++ [.symbol .rightBracket])) := by
    rw [hchars, List.cons_append] at hcall ⊢
    rw [lex_point hdigit, hcall]
    rfl
  rw [htext, lex_name_append hobject (by simp; decide), hpoint]
  rfl

theorem primary?_of_spells {text : String} {t : Tree} (h : Spells .atom text t) :
    primary? text = some t := by
  obtain ⟨ls, hlex, hls⟩ := h
  have hread := hls (stops_nil _)
  rw [List.append_nil] at hread
  obtain ⟨r, hread, hr⟩ := hread
  rw [primary?, hlex, Option.bind_some, hread]
  simp [hr]

end Target

theorem Formula.Expr.callees_number (text : String) : (number text).target.callees = [] := by
  change (if beginsWithMinus text then Target.Tree.unary .neg (.number _) else .number _).callees = []
  split <;> rfl

/-! ### Overrides -/

namespace Override

variable {accessor : String} (h : Target.isName accessor)

include h

/-- A single value is the call of a method without arguments. -/
theorem target_getter (g : Getter) :
    ((getter g).toExpr accessor).target = .call (.attribute (.name accessor) g.method) [] := by
  have hmethod : Target.isName g.method := by cases g <;> decide
  have hnone : Target.SpellsItems "" [] := ⟨[], Target.lex_nil, Target.writtenItems_nil⟩
  have hspells : Target.Spells .atom (accessor ++ "." ++ g.method ++ "()") _ :=
    (hnone.methodCall h hmethod).congr (by simp)
  rw [toExpr, Expr.target, Target.primary?_of_spells hspells, Option.getD_some]

/-- A counter is the call of a method with the name of the event and the thread. -/
theorem target_event (name : String) (thread : Nat) :
    ((event name thread).toExpr accessor).target =
      .call (.attribute (.name accessor) "get_event")
        [.string (quoted name), .number (toString thread)] := by
  have hname : Target.Spells .atom (quoted name) (.string (quoted name)) :=
    Target.spells_string (Target.isStringLiteral_of_denoted? (Target.denoted?_quoted name))
  have hthread : Target.Spells .atom (toString thread) (.number (toString thread)) := by
    refine Target.spells_number ?_
    rw [Nat.toString_eq_repr, Nat.repr, String.toList_ofList]
    exact Target.isNumeral_toDigits thread
  have hitems := Target.spellsItems_pair hname.any hthread.any
  have hspells : Target.Spells .atom
      (accessor ++ ".get_event(" ++ quoted name ++ ", " ++ toString thread ++ ")") _ :=
    (hitems.methodCall h (by decide : Target.isName "get_event")).congr (by simp)
  rw [toExpr, Expr.target, Target.primary?_of_spells hspells, Option.getD_some]

/-- What stands for an override calls no function by its name. -/
theorem callees_toExpr (o : Override) : (o.toExpr accessor).target.callees = [] := by
  cases o with
  | label text => rfl
  | constant value =>
    cases value with
    | number n => exact Expr.callees_number _
    | empty | text | boolean | error => rfl
  | getter g => rw [target_getter h]; rfl
  | event name thread => rw [target_event h]; rfl

end Override

/-! ### Meanings -/

/-- The functions that expressions call. -/
def helperNames : List String :=
  ["any", "count_non_empty", "sum_skip_empty", "vba_guard_limit_lower", "vba_guard_limit_upper",
   "xls_concat"]

/-- The tree calls nothing but helpers. -/
def Target.Tree.CallsHelpers (t : Tree) : Prop :=
  ∀ f ∈ t.callees, f ∈ helperNames

namespace Target.Tree

theorem callsHelpers_of_eq_nil {t : Tree} (h : t.callees = []) : t.CallsHelpers := by
  rw [CallsHelpers, h]
  exact List.forall_mem_nil _

theorem callsHelpers_list {ts : List Tree} :
    (list ts).CallsHelpers ↔ ∀ t ∈ ts, t.CallsHelpers := by
  change (∀ f ∈ calleesAll ts, f ∈ helperNames) ↔ _
  rw [calleesAll_eq_flatMap, List.forall_mem_flatMap]
  rfl

theorem callsHelpers_call {func : String} (hfunc : func ∈ helperNames) {args : List Tree}
    (h : ∀ t ∈ args, t.CallsHelpers) : (call (.name func) args).CallsHelpers :=
  List.forall_mem_cons.mpr ⟨hfunc, callsHelpers_list.mpr h⟩

/-- A helper that takes one list. -/
theorem callsHelpers_listCall {func : String} (hfunc : func ∈ helperNames) {items : List Tree}
    (h : ∀ t ∈ items, t.CallsHelpers) : (call (.name func) [.list items]).CallsHelpers :=
  callsHelpers_call hfunc (List.forall_mem_singleton.mpr (callsHelpers_list.mpr h))

theorem callsHelpers_getD {ts : List Tree} (h : ∀ t ∈ ts, t.CallsHelpers) (i : Nat) :
    (ts.getD i (.bool false)).CallsHelpers := by
  rw [List.getD_eq_getElem?_getD]
  cases hget : ts[i]? with
  | none => exact callsHelpers_of_eq_nil rfl
  | some t => exact h t (List.mem_of_getElem? hget)

end Target.Tree

open Target.Tree in
theorem Formula.Function.callsHelpers_target (func : Function) {args : List Target.Tree}
    (h : ∀ t ∈ args, t.CallsHelpers) : (func.target args).CallsHelpers := by
  cases func with
  | «if» =>
    exact List.forall_mem_append.mpr ⟨List.forall_mem_append.mpr
      ⟨callsHelpers_getD h 0, callsHelpers_getD h 1⟩, callsHelpers_getD h 2⟩
  | or | count | sum => exact callsHelpers_listCall (by decide) h
  | average =>
    exact List.forall_mem_append.mpr
      ⟨callsHelpers_listCall (by decide) h, callsHelpers_listCall (by decide) h⟩
  | guardLimitLower | guardLimitUpper => exact callsHelpers_call (by decide) h

namespace Formula.Expr

theorem callsHelpers_targetAll {es : List Expr} (h : ∀ e ∈ es, e.target.CallsHelpers) :
    ∀ t ∈ targetAll es, t.CallsHelpers := by
  rw [targetAll_eq_map]
  exact List.forall_mem_map.mpr h

/-- That only helpers are called passes from the parts of an expression to the whole. -/
theorem compositional_callsHelpers : Compositional fun e => e.target.CallsHelpers where
  number text := Target.Tree.callsHelpers_of_eq_nil (callees_number text)
  text _ := Target.Tree.callsHelpers_of_eq_nil rfl
  bool _ := Target.Tree.callsHelpers_of_eq_nil rfl
  items h := by
    have hitems := Target.Tree.callsHelpers_list.mp h
    rw [targetAll_eq_map] at hitems
    exact List.forall_mem_map.mp hitems
  group h := h
  unary h := h
  percent h := List.forall_mem_append.mpr ⟨h, List.forall_mem_nil _⟩
  binary {op left right} hl hr := by
    change (if op = .concat then Target.Tree.call (.name "xls_concat") [left.target, right.target]
      else .binary op left.target right.target).CallsHelpers
    split
    · exact Target.Tree.callsHelpers_call (by decide)
        (List.forall_mem_cons.mpr ⟨hl, List.forall_mem_singleton.mpr hr⟩)
    · exact List.forall_mem_append.mpr ⟨hl, hr⟩
  conditional hc ht hf :=
    List.forall_mem_append.mpr ⟨List.forall_mem_append.mpr ⟨hc, ht⟩, hf⟩
  call h := Function.callsHelpers_target _ (callsHelpers_targetAll h)

end Formula.Expr

/-- **The meaning of a cell calls only helpers**, whatever its formula and its value are. -/
theorem Source.callsHelpers_meaning {src : Source} (haccessor : Target.isName src.layout.accessor)
    {cell : Address} {e : Expr} (h : src.meaning cell = .ok e) : e.target.CallsHelpers := by
  refine of_meaning (P := fun e => e.target.CallsHelpers) ?_ ?_ ?_ Expr.compositional_callsHelpers h
  · exact fun _ => Target.Tree.callsHelpers_of_eq_nil rfl
  · exact fun o => Target.Tree.callsHelpers_of_eq_nil (o.callees_toExpr haccessor)
  · intro items hitems
    exact Target.Tree.callsHelpers_list.mpr (Expr.callsHelpers_targetAll hitems)

end ReportCompiler
