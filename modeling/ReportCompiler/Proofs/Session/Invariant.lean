import Mathlib.Data.List.Chain
import Mathlib.Data.List.Nodup
import ReportCompiler.Proofs.Session.Meaning

/-!
# What holds of a session at every moment

While a session works, its five kinds of memory are determined by two lists: the cells that are
done, in the order of their instructions, and the cells that are being compiled.  Work inside other
work leaves the second list as it was and makes the first one longer, whether it succeeds or fails.

## Main definitions

* `Source.Compiles src cells instructions` - the instructions are the meanings of the cells, and a
  cell comes after all cells that it depends on.
* `Session.Sound src cells s` - the memory of `s` when `cells` are done.
* `Session.Grown src T before s after s'` - work has led from `s` to `s'`, and the cells that are
  done in addition satisfy `T`.
* `SessionM.Does` - the work done by a computation, with a condition on its result.

## Main results

* `Session.Sound.enter`, `Session.Sound.finish`, `Session.Sound.abandon` - beginning with a cell
  and the two ways of ending keep a session sound.
-/

namespace ReportCompiler

open Formula

instance : Std.LawfulEqCmp Address.order where
  compare_self {a} := by simp [Address.order, compareLex, compareOn]
  eq_of_compare {a b} h := by
    cases a
    cases b
    simpa [Address.order, compareLex, compareOn, Ordering.then_eq_eq] using h

/-! ### Compiled cells -/

/-- The instructions bind the variables of the cells to their meanings.  Names are bound once, and
the cells that a cell depends on come before it. -/
inductive Source.Compiles (src : Source) : List Address → List Instruction → Prop
  /-- Nothing is compiled yet. -/
  | nil : Compiles src [] []
  /-- One more cell. -/
  | snoc {cells : List Address} {instructions : List Instruction} {c : Address} {e : Expr}
    (before : Compiles src cells instructions)
    (fresh : c.variableName ∉ instructions.map Instruction.name)
    (means : src.meaning c = .ok e)
    (depends : ∀ d, src.DependsOn c d → d ∈ cells) :
    Compiles src (cells ++ [c]) (instructions ++ [⟨c.variableName, e⟩])

namespace Source.Compiles

variable {src : Source} {cells : List Address} {instructions : List Instruction}

theorem names (h : src.Compiles cells instructions) :
    instructions.map Instruction.name = cells.map Address.variableName := by
  induction h with
  | nil => rfl
  | snoc _ _ _ _ ih => rw [List.map_append, List.map_append, ih, List.map_singleton,
      List.map_singleton]

theorem nodup_names (h : src.Compiles cells instructions) :
    (instructions.map Instruction.name).Nodup := by
  induction h with
  | nil => exact List.nodup_nil
  | snoc before fresh _ _ ih =>
    rw [List.map_append, List.map_singleton]
    refine List.nodup_append.mpr ⟨ih, List.nodup_singleton _, ?_⟩
    intro n hn m hm heq
    rw [heq, List.mem_singleton.mp hm] at hn
    exact fresh hn

theorem nodup (h : src.Compiles cells instructions) : cells.Nodup := by
  have hnames := h.nodup_names
  rw [h.names] at hnames
  exact List.Nodup.of_map _ hnames

/-- The instructions are those of the cells, one for each. -/
theorem map_instruction (h : src.Compiles cells instructions) :
    cells.map src.instruction = instructions.map .ok := by
  induction h with
  | nil => rfl
  | snoc _ _ means _ ih =>
    rw [List.map_append, List.map_append, ih, List.map_singleton, List.map_singleton,
      Source.instruction, means]
    rfl

/-- An instruction binds the variable of a cell to the meaning of the cell. -/
theorem exists_meaning (h : src.Compiles cells instructions) {i : Instruction}
    (hi : i ∈ instructions) :
    ∃ c ∈ cells, i.name = c.variableName ∧ src.meaning c = .ok i.expr := by
  induction h with
  | nil => simp at hi
  | @snoc _ _ c _ _ _ means _ ih =>
    rcases List.mem_append.mp hi with hmem | hmem
    · obtain ⟨d, hd, hmeans⟩ := ih hmem
      exact ⟨d, List.mem_append_left _ hd, hmeans⟩
    · obtain rfl := List.mem_singleton.mp hmem
      exact ⟨c, List.mem_append_right _ List.mem_cons_self, rfl, means⟩

/-- A compiled cell has a meaning. -/
theorem meaning_of_mem (h : src.Compiles cells instructions) {c : Address} (hc : c ∈ cells) :
    ∃ e, src.meaning c = .ok e := by
  induction h with
  | nil => simp at hc
  | snoc _ _ means _ ih =>
    rcases List.mem_append.mp hc with hmem | hmem
    · exact ih hmem
    · obtain rfl := List.mem_singleton.mp hmem
      exact ⟨_, means⟩

/-- With a cell, all cells that it depends on are compiled. -/
theorem mem_of_dependsOn (h : src.Compiles cells instructions) {c d : Address} (hc : c ∈ cells)
    (hd : src.DependsOn c d) : d ∈ cells := by
  induction h with
  | nil => simp at hc
  | snoc _ _ _ depends ih =>
    rcases List.mem_append.mp hc with hmem | hmem
    · exact List.mem_append_left _ (ih hmem)
    · obtain rfl := List.mem_singleton.mp hmem
      exact List.mem_append_left _ (depends d hd)

/-- With a cell, all cells that it leads to are compiled. -/
theorem mem_of_reflTransGen (h : src.Compiles cells instructions) {c d : Address} (hc : c ∈ cells)
    (hcd : Relation.ReflTransGen src.DependsOn c d) : d ∈ cells := by
  induction hcd with
  | refl => exact hc
  | tail _ hstep ih => exact h.mem_of_dependsOn ih hstep

end Source.Compiles

/-! ### Sound sessions -/

namespace Session

/-- The memory of a session when `cells` are done. -/
structure Sound (src : Source) (cells : List Address) (s : Session) : Prop where
  /-- The instructions are those of the cells that are done. -/
  compiled : src.Compiles cells s.instructions.toList
  /-- The cells on the chain are in progress, and those with an instruction are done. -/
  visits (c : Address) : s.visits[c]? =
    if c ∈ s.chain then some .inProgress
    else if c ∈ cells then some (.done c.variableName) else none
  /-- Both kinds of cells own their names, and there are no other owners. -/
  owners (n : String) (c : Address) :
    s.owners[n]? = some c ↔ (c ∈ cells ∨ c ∈ s.chain) ∧ c.variableName = n
  /-- No cell is of both kinds. -/
  apart : ∀ c ∈ s.chain, c ∉ cells
  /-- A cell is in progress once. -/
  nodup : s.chain.Nodup
  /-- Every cell in progress was asked for by the formula of the one around it. -/
  linked : s.chain.IsChain fun inner outer => src.DependsOn outer inner

namespace Sound

variable {src : Source} {cells : List Address} {s : Session}

/-- A session that has done nothing is sound. -/
theorem fresh : Sound src [] {} where
  compiled := .nil
  visits c := by simp
  owners n c := by simp
  apart := by simp
  nodup := List.nodup_nil
  linked := List.isChain_nil

/-- The sheets of the formulas that are being compiled may change freely. -/
theorem withScope (h : Sound src cells s) (scope : List String) :
    Sound src cells { s with scope } :=
  ⟨h.compiled, h.visits, h.owners, h.apart, h.nodup, h.linked⟩

theorem not_mem_of_visits (h : Sound src cells s) {c : Address} (hnone : s.visits[c]? = none) :
    c ∉ s.chain ∧ c ∉ cells := by
  rw [h.visits] at hnone
  split at hnone
  · simp at hnone
  · split at hnone
    · simp at hnone
    · exact ⟨‹_›, ‹_›⟩

theorem mem_of_done (h : Sound src cells s) {c : Address} {n : String}
    (hdone : s.visits[c]? = some (.done n)) : n = c.variableName ∧ c ∈ cells := by
  rw [h.visits] at hdone
  split at hdone
  · simp at hdone
  · split at hdone
    · exact ⟨by simpa using hdone.symm, ‹_›⟩
    · simp at hdone

/-- A cell that is neither done nor in progress and has no rival has a name that nobody owns. -/
theorem name_free (h : Sound src cells s) {c : Address} (hnone : s.visits[c]? = none)
    (hrival : s.rival? c = none) : s.owners[c.variableName]? = none := by
  cases howner : s.owners[c.variableName]? with
  | none => rfl
  | some owner =>
    unfold rival? at hrival
    rw [howner] at hrival
    by_cases heq : owner = c
    · -- the owner would be the cell itself, which is known
      obtain ⟨hc, hcells⟩ := h.not_mem_of_visits hnone
      rw [heq] at howner
      rcases ((h.owners _ _).mp howner).1 with hmem | hmem
      · exact absurd hmem hcells
      · exact absurd hmem hc
    · simp [heq] at hrival

/-- Beginning with a cell that is not known and whose name is free. -/
theorem enter (h : Sound src cells s) {c : Address} (kind : CellKind)
    (hnone : s.visits[c]? = none) (hrival : s.rival? c = none)
    (hlink : ∀ outer ∈ s.chain.head?, src.DependsOn outer c) :
    Sound src cells (s.enter c kind) where
  compiled := h.compiled
  visits d := by
    simp only [Session.enter, Std.TreeMap.getElem?_insert, Std.LawfulEqCmp.compare_eq_iff_eq,
      h.visits d, List.mem_cons]
    -- the cell itself is now in progress, and nothing changes for another one
    by_cases hd : c = d
    · simp [hd]
    · simp [hd, Ne.symm hd]
  owners n d := by
    have hfree := h.name_free hnone hrival
    simp only [Session.enter, Std.TreeMap.getElem?_insert, Std.LawfulEqCmp.compare_eq_iff_eq,
      List.mem_cons]
    by_cases hn : c.variableName = n
    · -- the name of the cell had no owner, so that no known cell has the same name
      have hunowned : ∀ d, ¬((d ∈ cells ∨ d ∈ s.chain) ∧ d.variableName = n) := by
        intro d hd
        rw [← h.owners, ← hn, hfree] at hd
        simp at hd
      simp only [hn, if_true, Option.some.injEq]
      constructor
      · rintro rfl
        exact ⟨Or.inr (Or.inl rfl), hn⟩
      · rintro ⟨hmem | rfl | hmem, hname⟩
        · exact absurd ⟨Or.inl hmem, hname⟩ (hunowned d)
        · rfl
        · exact absurd ⟨Or.inr hmem, hname⟩ (hunowned d)
    · -- every other name keeps its owner
      simp only [hn, if_false, h.owners]
      constructor
      · rintro ⟨hmem | hmem, hname⟩
        · exact ⟨Or.inl hmem, hname⟩
        · exact ⟨Or.inr (Or.inr hmem), hname⟩
      · rintro ⟨hmem | rfl | hmem, hname⟩
        · exact ⟨Or.inl hmem, hname⟩
        · exact absurd hname hn
        · exact ⟨Or.inr hmem, hname⟩
  apart d hd := by
    rcases List.mem_cons.mp hd with rfl | hmem
    · exact (h.not_mem_of_visits hnone).2
    · exact h.apart d hmem
  nodup := List.nodup_cons.mpr ⟨(h.not_mem_of_visits hnone).1, h.nodup⟩
  linked := List.isChain_cons.mpr ⟨hlink, h.linked⟩

/-- No instruction has the name of a cell that is in progress. -/
theorem fresh_name (h : Sound src cells s) {c : Address} (hc : c ∈ s.chain) :
    c.variableName ∉ s.instructions.toList.map Instruction.name := by
  rw [h.compiled.names]
  intro hmem
  obtain ⟨d, hd, hname⟩ := List.mem_map.mp hmem
  -- the two cells own the same name, so that they are one
  have hcown := (h.owners c.variableName c).mpr ⟨Or.inr hc, rfl⟩
  have hdown := (h.owners c.variableName d).mpr ⟨Or.inl hd, hname⟩
  have heq : c = d := Option.some.inj (hcown.symm.trans hdown)
  exact h.apart c hc (heq ▸ hd)

/-- The innermost cell in progress is not in progress around itself. -/
theorem not_mem_outer (h : Sound src cells s) {c : Address} {outer : List Address}
    (hchain : s.chain = c :: outer) : c ∉ outer ∧ outer.Nodup :=
  List.nodup_cons.mp (hchain ▸ h.nodup)

/-- The innermost cell in progress gets its instruction. -/
theorem finish (h : Sound src cells s) {c : Address} {outer : List Address} {e : Expr}
    (hchain : s.chain = c :: outer) (hmeans : src.meaning c = .ok e)
    (hdepends : ∀ d, src.DependsOn c d → d ∈ cells) :
    Sound src (cells ++ [c]) (s.finish c e) where
  compiled := by
    have hc : c ∈ s.chain := hchain ▸ List.mem_cons_self
    simp only [Session.finish, Array.toList_push]
    exact .snoc h.compiled (h.fresh_name hc) hmeans hdepends
  visits d := by
    have hcn := (h.not_mem_outer hchain).1
    simp only [Session.finish, Std.TreeMap.getElem?_insert, Std.LawfulEqCmp.compare_eq_iff_eq,
      h.visits d, hchain, List.tail_cons, List.mem_cons, List.mem_append, List.not_mem_nil,
      or_false]
    -- the cell itself is now done, and nothing changes for another one
    by_cases hd : c = d
    · simp [← hd, hcn]
    · simp [hd, Ne.symm hd]
  owners n d := by
    simp only [Session.finish, h.owners, hchain, List.tail_cons, List.mem_cons, List.mem_append,
      List.not_mem_nil, or_false, or_assoc]
  apart d hd := by
    have hcn := (h.not_mem_outer hchain).1
    simp only [Session.finish, hchain, List.tail_cons] at hd
    rw [List.mem_append, List.mem_singleton]
    rintro (hmem | rfl)
    · exact h.apart d (hchain ▸ List.mem_cons_of_mem _ hd) hmem
    · exact hcn hd
  nodup := by
    simp only [Session.finish, hchain, List.tail_cons]
    exact (h.not_mem_outer hchain).2
  linked := by
    simp only [Session.finish]
    exact h.linked.tail

/-- The innermost cell in progress is given up. -/
theorem abandon (h : Sound src cells s) {c : Address} {outer : List Address}
    (hchain : s.chain = c :: outer) : Sound src cells (s.abandon c) where
  compiled := h.compiled
  visits d := by
    have hcn := (h.not_mem_outer hchain).1
    have hcc : c ∉ cells := h.apart c (hchain ▸ List.mem_cons_self)
    simp only [Session.abandon, Std.TreeMap.getElem?_erase, Std.LawfulEqCmp.compare_eq_iff_eq,
      h.visits d, hchain, List.tail_cons, List.mem_cons]
    -- the cell itself is forgotten, and nothing changes for another one
    by_cases hd : c = d
    · simp [← hd, hcn, hcc]
    · simp [hd, Ne.symm hd]
  owners n d := by
    have hcn := (h.not_mem_outer hchain).1
    have hcc : c ∉ cells := h.apart c (hchain ▸ List.mem_cons_self)
    have hcown := (h.owners c.variableName c).mpr ⟨Or.inr (hchain ▸ List.mem_cons_self), rfl⟩
    have hd := h.owners n d
    simp only [Session.abandon, Std.TreeMap.getElem?_erase, Std.LawfulEqCmp.compare_eq_iff_eq,
      hchain, List.tail_cons, List.mem_cons] at hd ⊢
    by_cases hn : c.variableName = n
    · -- only the cell itself owned the name
      simp only [hn, if_true]
      rw [← hn, hcown, Option.some.injEq] at hd
      constructor
      · simp
      · rintro ⟨hmem | hmem, hname⟩
        · rw [hd.mpr ⟨Or.inl hmem, hname.trans hn.symm⟩] at hcc
          exact absurd hmem hcc
        · rw [hd.mpr ⟨Or.inr (Or.inr hmem), hname.trans hn.symm⟩] at hcn
          exact absurd hmem hcn
    · -- every other name keeps its owner
      simp only [hn, if_false, hd]
      constructor
      · rintro ⟨hmem | rfl | hmem, hname⟩
        · exact ⟨Or.inl hmem, hname⟩
        · exact absurd hname hn
        · exact ⟨Or.inr hmem, hname⟩
      · rintro ⟨hmem | hmem, hname⟩
        · exact ⟨Or.inl hmem, hname⟩
        · exact ⟨Or.inr (Or.inr hmem), hname⟩
  apart d hd := by
    simp only [Session.abandon, hchain, List.tail_cons] at hd
    exact h.apart d (hchain ▸ List.mem_cons_of_mem _ hd)
  nodup := by
    simp only [Session.abandon, hchain, List.tail_cons]
    exact (h.not_mem_outer hchain).2
  linked := by
    simp only [Session.abandon]
    exact h.linked.tail

end Sound

/-! ### Growing sessions -/

/-- Work has led from `s` to `s'`: what is in progress is as before, and the cells that are done in
addition satisfy `T`. -/
structure Grown (src : Source) (T : Address → Prop) (before : List Address) (s : Session)
    (after : List Address) (s' : Session) : Prop where
  /-- The session is sound after the work. -/
  sound : s'.Sound src after
  /-- The same cells are in progress. -/
  chain : s'.chain = s.chain
  /-- The same formulas are being compiled. -/
  scope : s'.scope = s.scope
  /-- The cells that were done are done, and the others satisfy `T`. -/
  grown : ∃ new, after = before ++ new ∧ ∀ c ∈ new, T c

namespace Grown

variable {src : Source} {T : Address → Prop} {before after later : List Address}
  {s s' s'' : Session}

theorem refl (h : s.Sound src before) : Grown src T before s before s :=
  ⟨h, rfl, rfl, [], by simp⟩

theorem trans (h : Grown src T before s after s') (h' : Grown src T after s' later s'') :
    Grown src T before s later s'' := by
  obtain ⟨new, hnew, hT⟩ := h.grown
  obtain ⟨new', hnew', hT'⟩ := h'.grown
  refine ⟨h'.sound, h'.chain.trans h.chain, h'.scope.trans h.scope, new ++ new', ?_, ?_⟩
  · rw [hnew', hnew, List.append_assoc]
  · intro c hc
    rcases List.mem_append.mp hc with hmem | hmem
    · exact hT c hmem
    · exact hT' c hmem

/-- What was done stays done. -/
theorem mem (h : Grown src T before s after s') {c : Address} (hc : c ∈ before) : c ∈ after := by
  obtain ⟨new, rfl, -⟩ := h.grown
  exact List.mem_append_left _ hc

/-- When the cells that were done satisfy `T`, all cells that are done do. -/
theorem forall_mem (h : Grown src T before s after s') (hbefore : ∀ c ∈ before, T c) :
    ∀ c ∈ after, T c := by
  obtain ⟨new, rfl, hnew⟩ := h.grown
  exact List.forall_mem_append.mpr ⟨hbefore, hnew⟩

/-- Work between beginning with a cell and giving it up. -/
theorem abandon {c : Address} {kind : CellKind}
    (h : Grown src T before (s.enter c kind) after s') :
    Grown src T before s after (s'.abandon c) :=
  ⟨h.sound.abandon h.chain, congrArg List.tail h.chain, h.scope, h.grown⟩

/-- Work between beginning with a cell and its instruction. -/
theorem finish {c : Address} {kind : CellKind} {e : Expr}
    (h : Grown src T before (s.enter c kind) after s') (hmeans : src.meaning c = .ok e)
    (hdepends : ∀ d, src.DependsOn c d → d ∈ after) (hc : T c) :
    Grown src T before s (after ++ [c]) (s'.finish c e) := by
  obtain ⟨new, rfl, hnew⟩ := h.grown
  refine ⟨h.sound.finish h.chain hmeans hdepends, congrArg List.tail h.chain, h.scope, new ++ [c],
    List.append_assoc _ _ _, ?_⟩
  intro d hd
  rcases List.mem_append.mp hd with hmem | hmem
  · exact hnew d hmem
  · rw [List.mem_singleton.mp hmem]
    exact hc

end Grown

end Session

/-! ### Work -/

namespace SessionM

/-- From the session `s`, in which the cells `before` are done, the work leads to a session grown
by cells with `T`.  A result `a` satisfies `Q after a` with the cells that are then done. -/
def Does (src : Source) (T : Address → Prop) {α : Type} (Q : List Address → α → Prop)
    (m : SessionM α) (before : List Address) (s : Session) : Prop :=
  ∃ after, Session.Grown src T before s after (m s).2 ∧ ∀ a, (m s).1 = .ok a → Q after a

variable {src : Source} {T : Address → Prop} {α β : Type} {Q : List Address → α → Prop}
  {Q' : List Address → β → Prop} {before : List Address} {s : Session}

theorem does_of_eq {m : SessionM α} {result : Except Error α} {s' : Session}
    {after : List Address} (hm : m s = (result, s')) (h : Session.Grown src T before s after s')
    (hQ : ∀ a, result = .ok a → Q after a) : Does src T Q m before s := by
  refine ⟨after, ?_, ?_⟩
  · rw [hm]
    exact h
  · rw [hm]
    exact hQ

theorem does_pure {a : α} (h : s.Sound src before) (hQ : Q before a) :
    Does src T Q (pure a) before s := by
  refine ⟨before, .refl h, ?_⟩
  intro b hb
  rw [← Except.ok.inj hb]
  exact hQ

theorem does_throw {e : Error} (h : s.Sound src before) :
    Does src T Q (throw e : SessionM α) before s :=
  ⟨before, .refl h, fun _ hb => nomatch hb⟩

theorem bind_apply (m : SessionM α) (f : α → SessionM β) (s : Session) :
    (m >>= f) s = match m s with
      | (.ok a, s') => f a s'
      | (.error e, s') => (.error e, s') := by
  simp only [bind, ExceptT.bind, ExceptT.mk, StateT.bind, ExceptT.bindCont]
  rcases m s with ⟨_ | _, _⟩ <;> rfl

theorem Does.bind {m : SessionM α} {f : α → SessionM β} (h : Does src T Q m before s)
    (hf : ∀ a after s', Session.Grown src T before s after s' → Q after a →
      Does src T Q' (f a) after s') :
    Does src T Q' (m >>= f) before s := by
  obtain ⟨after, hgrown, hQ⟩ := h
  rcases hm : m s with ⟨_ | a, s'⟩
  · rw [hm] at hgrown
    refine ⟨after, ?_, ?_⟩
    · rw [bind_apply, hm]
      exact hgrown
    · intro b hb
      rw [bind_apply, hm] at hb
      cases hb
  · rw [hm] at hgrown hQ
    obtain ⟨later, hgrown', hQ'⟩ := hf a after s' hgrown (hQ a rfl)
    refine ⟨later, ?_, ?_⟩
    · rw [bind_apply, hm]
      exact hgrown.trans hgrown'
    · intro b hb
      rw [bind_apply, hm] at hb
      exact hQ' b hb

/-- Work that begins by reading the session is work with that session. -/
theorem does_get_bind {f : Session → SessionM α} (h : Does src T Q (f s) before s) :
    Does src T Q (get >>= f) before s :=
  h

theorem Does.mono {m : SessionM α} {Q₂ : List Address → α → Prop} (h : Does src T Q m before s)
    (hQ : ∀ after a, Q after a → Q₂ after a) : Does src T Q₂ m before s := by
  obtain ⟨after, hgrown, hres⟩ := h
  exact ⟨after, hgrown, fun a ha => hQ after a (hres a ha)⟩

end SessionM

end ReportCompiler
