import ReportCompiler.Proofs.Session.Walk

/-!
# The order of the instructions

A session may be asked for cells, references and formulas in any order, and each request may fail.
After every such history the instructions can be run from the first to the last: no name is bound
twice, and no variable is used before it is bound.

## Main definitions

* `Session.Request`, `Source.perform`, `Source.after` - requests, and the session after a history of
  them.
* `Ordered` - names are bound once, and variables before they are used.

## Main results

* `exists_sound_after` - the session after a history is sound.
* `ordered_after` - **its instructions are ordered.**
-/

namespace ReportCompiler

open Formula

/-! ### Histories -/

/-- What a session can be asked for from outside. -/
inductive Session.Request
  /-- A cell. -/
  | cell (a : Address)
  /-- The cell that a reference names, seen from the sheet of the report. -/
  | reference (text : String)
  /-- A token list, read as a formula outside any cell. -/
  | tokens (ts : List Token)
  /-- The text of a formula outside any cell. -/
  | formula (text : String)
  deriving DecidableEq, Repr

namespace Source

/-- A token list read as a formula, with the session answering for its references. -/
def read (src : Source) (ts : List Token) : SessionM Expr :=
  (parseFormula ts).run src.operand fun why => throw (.formula none why)

/-- The session after a request, whether it succeeds or fails. -/
def perform (src : Source) (s : Session) : Session.Request → Session
  | .cell a => (src.ensure a s).2
  | .reference text => (src.ensureReference text s).2
  | .tokens ts => (src.read ts s).2
  | .formula text => (src.formula text s).2

/-- The session after a history of requests. -/
def after (src : Source) (history : List Session.Request) : Session :=
  history.foldl src.perform {}

theorem formula_eq_read {src : Source} {text : String} {ts : List Token}
    (h : tokenize text = .ok ts) : src.formula text = src.read ts := by
  rw [formula, compileFormula, h]
  rfl

variable {src : Source}

/-- A token list outside any cell. -/
theorem does_read {T : Address → Prop} (hT : ∀ a b, T a → src.DependsOn a b → T b)
    (hlead : ∀ sheet ref c, src.LeadsTo sheet ref c → T c) {before : List Address} {s : Session}
    (h : s.Sound src before) (hchain : s.chain = []) (ts : List Token) :
    SessionM.Does src T (fun _ _ => True) (src.read ts) before s := by
  have hens : Ensures src T (src.ensureWithin src.depthBound) :=
    ensures_ensureWithin hT src.depthBound
  refine (does_tokens hens h ts (.formula none) rfl ?_).mono fun _ _ _ => trivial
  intro ref _ c hc
  exact awaits_of_chain hchain (hlead _ ref c hc)

/-- **A request keeps a session sound**, and leaves nothing in progress.  The cells that are done in
addition lie on sheets of the workbook. -/
theorem exists_sound_perform {before : List Address} {s : Session} (h : s.Sound src before)
    (hchain : s.chain = []) (request : Session.Request) :
    ∃ after, Session.Grown src (fun c => src.workbook.HasTitle c.sheet) before s after
      (src.perform s request) := by
  have hread := fun ts => does_read (T := fun c => src.workbook.HasTitle c.sheet)
    (fun _ _ _ hab => hab.hasTitle) (fun _ _ _ hc => hc.hasTitle) h hchain ts
  cases request with
  | cell a =>
    obtain ⟨after, hgrown, -⟩ := does_ensure (T := fun c => src.workbook.HasTitle c.sheet)
      (fun _ _ _ hab => hab.hasTitle) h hchain fun c hc => hasTitle_of_canonical hc
    exact ⟨after, hgrown⟩
  | reference text =>
    obtain ⟨after, hgrown, -⟩ :=
      does_ensureReference (T := fun c => src.workbook.HasTitle c.sheet)
        (fun _ _ _ hab => hab.hasTitle) h hchain fun a c hc => hasTitle_of_canonical hc
    exact ⟨after, hgrown⟩
  | tokens ts =>
    obtain ⟨after, hgrown, -⟩ := hread ts
    exact ⟨after, hgrown⟩
  | formula text =>
    cases htokens : tokenize text with
    | error why =>
      -- a text without tokens changes nothing
      have hsame : src.perform s (.formula text) = s := by
        rw [perform, formula, compileFormula, htokens]
        rfl
      rw [hsame]
      exact ⟨before, .refl h⟩
    | ok ts =>
      obtain ⟨after, hgrown, -⟩ := hread ts
      rw [perform, formula_eq_read htokens]
      exact ⟨after, hgrown⟩

/-- The session after a history is sound, with nothing in progress.  The cells that are done lie on
sheets of the workbook. -/
theorem exists_sound_after (src : Source) (history : List Session.Request) :
    ∃ cells, (src.after history).Sound src cells ∧ (src.after history).chain = [] ∧
      (src.after history).scope = [] ∧ ∀ c ∈ cells, src.workbook.HasTitle c.sheet := by
  -- the fold keeps the invariant from any sound session on
  have key : ∀ (history : List Session.Request) (cells : List Address) (s : Session),
      s.Sound src cells → s.chain = [] → s.scope = [] →
      (∀ c ∈ cells, src.workbook.HasTitle c.sheet) →
        ∃ after, (history.foldl src.perform s).Sound src after ∧
          (history.foldl src.perform s).chain = [] ∧ (history.foldl src.perform s).scope = [] ∧
            ∀ c ∈ after, src.workbook.HasTitle c.sheet := by
    intro history
    induction history with
    | nil => exact fun cells s h hchain hscope hcells => ⟨cells, h, hchain, hscope, hcells⟩
    | cons request rest ih =>
      intro cells s h hchain hscope hcells
      obtain ⟨after, hgrown⟩ := exists_sound_perform h hchain request
      exact ih after _ hgrown.sound (hgrown.chain.trans hchain) (hgrown.scope.trans hscope)
        (hgrown.forall_mem hcells)
  exact key history [] {} .fresh rfl rfl (by simp)

end Source

/-! ### Order -/

/-- No name is bound twice, and every variable of an instruction is the name of an earlier one. -/
def Ordered (instructions : List Instruction) : Prop :=
  (instructions.map Instruction.name).Nodup ∧
    ∀ (i : Nat) (instr : Instruction), instructions[i]? = some instr → ∀ n ∈ instr.expr.vars,
      ∃ j < i, ∃ earlier, instructions[j]? = some earlier ∧ earlier.name = n

theorem Source.Compiles.ordered {src : Source} {cells : List Address}
    {instructions : List Instruction} (h : src.Compiles cells instructions) :
    Ordered instructions := by
  refine ⟨h.nodup_names, ?_⟩
  induction h with
  | nil => simp
  | @snoc cells instructions c e before fresh means depends ih =>
    intro i instr hi n hn
    rcases Nat.lt_or_ge i instructions.length with hlt | hge
    · -- an instruction that was there before
      rw [List.getElem?_append_left hlt] at hi
      obtain ⟨j, hj, earlier, hearlier, hname⟩ := ih i instr hi n hn
      refine ⟨j, hj, earlier, ?_, hname⟩
      rw [List.getElem?_append_left (by omega)]
      exact hearlier
    · -- the new one: its variables are those of cells that are done
      rw [List.getElem?_append_right hge] at hi
      obtain rfl := List.mem_singleton.mp (List.mem_of_getElem? hi)
      obtain ⟨d, hd, rfl⟩ := Source.vars_of_meaning means n hn
      have hmem : d.variableName ∈ instructions.map Instruction.name := by
        rw [before.names]
        exact List.mem_map_of_mem (depends d hd)
      obtain ⟨earlier, hearlier, hname⟩ := List.mem_map.mp hmem
      obtain ⟨j, hj⟩ := List.mem_iff_getElem?.mp hearlier
      obtain ⟨hjlt, -⟩ := List.getElem?_eq_some_iff.mp hj
      refine ⟨j, by omega, earlier, ?_, hname⟩
      rw [List.getElem?_append_left hjlt]
      exact hj

/-- **After every history of requests, successful or not, the instructions are ordered**: their
names are different from each other, and every variable in one of them is the name of an earlier
one. -/
theorem ordered_after (src : Source) (history : List Session.Request) :
    Ordered (src.after history).instructions.toList := by
  obtain ⟨cells, hsound, -⟩ := src.exists_sound_after history
  exact hsound.compiled.ordered

end ReportCompiler
