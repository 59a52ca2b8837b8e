import ReportCompiler.Proofs.Session.Trouble

/-!
# Sessions between two requests

A request may fail at any depth, and every part of what a session remembers is put back at another
point on the way out.  Between two requests nothing of this shows: nothing is in progress, and the
cells that are done, the owners of names and the instructions say the same thing.

## Main definitions

* `Session.AtRest` - a session between two requests.

## Main results

* `Session.Sound.atRest` - a sound session with nothing in progress is at rest.
* `Session.Grown.instructions_prefix` - work only adds instructions.
* `atRest_perform` - **every request, successful or not, leaves the session at rest.**
-/

namespace ReportCompiler

open Formula

namespace Session

/-- A session between two requests: nothing is in progress, and the cells that are done, the owners
and the instructions correspond to each other. -/
structure AtRest (s : Session) : Prop where
  /-- No formula is being compiled. -/
  scope : s.scope = []
  /-- No cell is being compiled. -/
  chain : s.chain = []
  /-- No cell is remembered as being compiled. -/
  settled (c : Address) : s.visits[c]? ≠ some .inProgress
  /-- The cells that are done are the owners of their names. -/
  done_iff (c : Address) (n : String) :
    s.visits[c]? = some (.done n) ↔ s.owners[n]? = some c ∧ n = c.variableName
  /-- Only a cell with the name owns it. -/
  named (c : Address) (n : String) : s.owners[n]? = some c → n = c.variableName
  /-- The names that have an owner are those that one instruction binds. -/
  owned_iff (n : String) :
    (∃ c, s.owners[n]? = some c) ↔ (s.instructions.toList.map Instruction.name).count n = 1
  /-- No name is bound by two instructions. -/
  bound_once : (s.instructions.toList.map Instruction.name).Nodup

variable {src : Source} {T : Address → Prop} {cells before after : List Address} {s s' : Session}

/-- A sound session with nothing in progress is at rest. -/
theorem Sound.atRest (h : s.Sound src cells) (hchain : s.chain = []) (hscope : s.scope = []) :
    s.AtRest where
  scope := hscope
  chain := hchain
  settled c := by
    rw [h.visits, hchain, if_neg List.not_mem_nil]
    split <;> simp
  done_iff c n := by
    rw [h.owners, h.visits, hchain, if_neg List.not_mem_nil]
    constructor
    · intro hdone
      split at hdone
      · next hc =>
        have hn : c.variableName = n := by simpa using hdone
        exact ⟨⟨Or.inl hc, hn⟩, hn.symm⟩
      · cases hdone
    · rintro ⟨⟨hc | hc, rfl⟩, -⟩
      · rw [if_pos hc]
      · simp at hc
  named c n howner := ((h.owners n c).mp howner).2.symm
  owned_iff n := by
    have hone : (s.instructions.toList.map Instruction.name).count n = 1 ↔
        n ∈ s.instructions.toList.map Instruction.name := by
      simp [h.compiled.nodup_names.count]
    rw [hone, h.compiled.names]
    constructor
    · rintro ⟨c, howner⟩
      obtain ⟨hc | hc, rfl⟩ := (h.owners _ _).mp howner
      · exact List.mem_map_of_mem hc
      · rw [hchain] at hc
        simp at hc
    · intro hmem
      obtain ⟨c, hc, rfl⟩ := List.mem_map.mp hmem
      exact ⟨c, (h.owners _ _).mpr ⟨Or.inl hc, rfl⟩⟩
  bound_once := h.compiled.nodup_names

/-- A cell that is not known owns no name. -/
theorem AtRest.owners_ne (h : s.AtRest) {c : Address} (hc : s.visits[c]? = none) (n : String) :
    s.owners[n]? ≠ some c := by
  intro howner
  have hdone := (h.done_iff c n).mpr ⟨howner, h.named c n howner⟩
  rw [hc] at hdone
  cases hdone

/-- Work only adds instructions behind those that there are. -/
theorem Grown.instructions_prefix (hbefore : s.Sound src before)
    (h : Grown src T before s after s') : s.instructions.toList <+: s'.instructions.toList := by
  obtain ⟨new, hnew, -⟩ := h.grown
  -- an instruction is a function of its cell, and the cells are only added to
  have hcells : s.instructions.toList.map .ok <+:
      s'.instructions.toList.map (.ok : Instruction → Except Error Instruction) := by
    rw [← hbefore.compiled.map_instruction, ← h.sound.compiled.map_instruction, hnew,
      List.map_append]
    exact List.prefix_append _ _
  obtain ⟨kept, hkept, hsame⟩ := List.prefix_map_iff.mp hcells
  rwa [List.map_injective_iff.mpr (fun _ _ => Except.ok.inj) hsame]

end Session

namespace Source

variable {src : Source} {before : List Address} {s : Session}

/-- A cell whose own request fails is not done. -/
theorem visits_of_ensureWithin {depth : Nat} {c : Address} {why : Error}
    (h : (src.ensureWithin (depth + 1) c s).1 = .error why) (n : String) :
    (src.ensureWithin (depth + 1) c s).2.visits[c]? ≠ some (.done n) := by
  rcases hvisit : s.visits[c]? with _ | visit
  · rcases hrival : s.rival? c with _ | owner
    · rcases hexpr : src.exprOf (src.operandWith (src.ensureWithin depth)) c
        (s.enter c (src.workbook.kind c)) with ⟨reason | e, s₁⟩
      · -- it was begun and given up, which takes its mark away
        rw [ensureWithin_abandon hvisit hrival hexpr]
        simp [Session.abandon]
      · rw [ensureWithin_finish hvisit hrival hexpr] at h
        cases h
    · rw [ensureWithin_rival hvisit hrival]
      simp [hvisit]
  · cases visit with
    | inProgress =>
      rw [ensureWithin_inProgress hvisit]
      simp [hvisit]
    | done name =>
      rw [ensureWithin_done hvisit] at h
      cases h

/-- A request for a cell that is done is answered from memory. -/
theorem ensure_done (h : s.Sound src before) (hchain : s.chain = []) (hscope : s.scope = [])
    {a c : Address} {n : String} (hcanon : src.canonical a = .ok c)
    (hdone : s.visits[c]? = some (.done n)) : src.ensure a s = (.ok n, s) := by
  rw [ensure_eq_ensureWithin h hchain hscope hcanon]
  exact ensureWithin_done hdone

end Source

/-- **Every request leaves the session at rest**, whether it succeeds or fails, after any history of
requests.  Its instructions are those from before and perhaps some more.  A request for a cell that
is done, in whatever case its title is spelled, gives its name and changes nothing.  No request ends
with sheets left on the stack.  A cell whose request fails is not known afterwards, and a cell that
is not known owns no name. -/
theorem atRest_perform (src : Source) (history : List Session.Request)
    (request : Session.Request) :
    let s := src.after history
    let s' := src.perform s request
    s'.AtRest ∧ s.instructions.toList <+: s'.instructions.toList ∧
      (∀ (c : Address) (n : String), s.visits[c]? = some (.done n) →
        (∀ a, src.canonical a = .ok c → src.ensure a s = (.ok n, s)) ∧
        (src.workbook.TitlesDistinct → ∀ spelling, Text.sameFold spelling c.sheet →
          src.ensure { c with sheet := spelling } s = (.ok n, s))) ∧
      (∀ cell scope, src.error? s request ≠ some (.breach (.scopeLeft cell scope))) ∧
      (∀ a c why, request = .cell a → src.canonical a = .ok c → src.error? s request = some why →
        s'.visits[c]? = none) ∧
      ∀ c : Address, s'.visits[c]? = none → ∀ n : String, s'.owners[n]? ≠ some c := by
  intro s s'
  obtain ⟨before, hsound, hchain, hscope, htitles⟩ := src.exists_sound_after history
  obtain ⟨after, hgrown⟩ := Source.exists_sound_perform hsound hchain request
  have hrest : s'.AtRest :=
    hgrown.sound.atRest (hgrown.chain.trans hchain) (hgrown.scope.trans hscope)
  refine ⟨hrest, hgrown.instructions_prefix hsound, ?_, ?_, ?_, fun c hc => hrest.owners_ne hc⟩
  · intro c n hdone
    have hmemory : ∀ a, src.canonical a = .ok c → src.ensure a s = (.ok n, s) :=
      fun a hcanon => Source.ensure_done hsound hchain hscope hcanon hdone
    refine ⟨hmemory, fun hdistinct spelling hfold => hmemory _ ?_⟩
    exact Source.canonical_fold hdistinct (htitles c (hsound.mem_of_done hdone).2) hfold
  · intro cell scope herr
    exact (Source.trouble_of_error? hsound hchain hscope herr).ne_scopeLeft cell scope rfl
  · rintro a c why rfl hcanon herr
    have hwalk : src.ensure a s = src.ensureWithin src.depthBound c s :=
      Source.ensure_eq_ensureWithin hsound hchain hscope hcanon
    have hfailed : (src.ensureWithin src.depthBound c s).1 = .error why :=
      hwalk ▸ Source.errorOf?_eq_some.mp herr
    have hs' : s' = (src.ensureWithin src.depthBound c s).2 := congrArg Prod.snd hwalk
    -- neither in progress nor done, the cell is not known
    rcases hvisit : s'.visits[c]? with _ | _ | n
    · rfl
    · exact absurd hvisit (hrest.settled c)
    · rw [hs'] at hvisit
      exact absurd hvisit (Source.visits_of_ensureWithin hfailed n)

/-- A cell of a report that refers to a plain one and to one with an unknown function. -/
def halfBroken : Source where
  workbook := { sheets := [
    (((Sheet.new "report").setFormula ⟨0, 0⟩ "=C1+B1").setFormula ⟨0, 1⟩ "=FOO(1)").setValue
      ⟨0, 2⟩ (.boolean true)] }
  layout := {}

/-- The request for the first cell fails at the second one, after the third is done.  The failed
cells are forgotten with their names, and the third is remembered under any spelling. -/
theorem atRest_perform_halfBroken :
    let a1 : Address := ⟨"report", 0, 0⟩
    let s := halfBroken.after [.cell a1]
    (halfBroken.error? {} (.cell a1)).isSome ∧ s.AtRest ∧ s.visits[a1]? = none ∧
      s.owners["report_A1"]? ≠ some a1 ∧ halfBroken.workbook.TitlesDistinct ∧
        halfBroken.ensure ⟨"Report", 0, 2⟩ s = (.ok "report_C1", s) := by
  intro a1 s
  have hfails : (halfBroken.error? {} (.cell a1)).isSome := by decide +kernel
  have hdistinct : halfBroken.workbook.TitlesDistinct := by decide +kernel
  have hdone : s.visits[(⟨"report", 0, 2⟩ : Address)]? = some (.done "report_C1") := by
    decide +kernel
  obtain ⟨why, hwhy⟩ := Option.isSome_iff_exists.mp hfails
  obtain ⟨hrest, -, -, -, hfailed, hfree⟩ := atRest_perform halfBroken [] (.cell a1)
  have ha1 : s.visits[a1]? = none := hfailed a1 a1 why rfl (by decide +kernel) hwhy
  obtain ⟨-, -, hmemory, -⟩ := atRest_perform halfBroken [.cell a1] (.cell a1)
  exact ⟨hfails, hrest, ha1, hfree a1 ha1 _, hdistinct,
    (hmemory _ _ hdone).2 hdistinct "Report" (by decide +kernel)⟩

end ReportCompiler
