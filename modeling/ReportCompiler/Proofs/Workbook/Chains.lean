import ReportCompiler.Proofs.Workbook.Names

/-!
# Chains of defined names

The target of a defined name is free text, which may be a defined name itself.  A reference is
followed from name to name for eight steps at most, so that it comes to an end even where names lead
in a circle.  Up to eight steps make no difference: the reference means what the text at the end of
the chain means.

## Main definitions

* `Workbook.Leads` - so many defined names lead from one text to another.

## Main results

* `Leads.resolveWithin` - **following a chain uses up as many steps as it has names.**
* `leads_or_leads` - a chain ends within a given number of steps, or goes on beyond it.
* `Leads.cycle` - a circle is a chain of any length.
* `nameKey_of_sameFold` - a name is found in any case of its ASCII letters.
* `resolve_chain` - **a name means what its chain ends with, if that is at most eight steps away**,
  and is refused otherwise.
-/

namespace ReportCompiler

open Text

/-- A name is found in any case of its ASCII letters, and with blanks around it. -/
theorem nameKey_of_sameFold {s t : String} (h : sameFold (trim s) (trim t)) :
    nameKey s = nameKey t := by
  have hfold : (trimChars s.toList).map Char.toLower = (trimChars t.toList).map Char.toLower := by
    simpa [sameFold] using h
  have hkey (cs : List Char) : lowercaseAfter [] (cs.map Char.toLower) = lowercaseAfter [] cs :=
    lowercaseAfter_map_toLower [] cs
  rw [nameKey_eq_iff, ← hkey, hfold, hkey]

namespace Workbook

variable {wb : Workbook} {current : String}

/-! ### One step -/

/-- A defined name is not blank and does not begin with a bracket. -/
theorem Built.of_get? (h : wb.Built) {t : String} {d : DefinedName}
    (hname : wb.names.get? t = some d) :
    trimChars t.toList ≠ [] ∧ (trimChars t.toList).head? ≠ some '[' := by
  constructor
  · intro hblank
    obtain ⟨history, hnames⟩ := h.names
    rw [hnames, Names.get?_after] at hname
    have hfound := List.find?_some hname
    obtain ⟨hcheck, hkey⟩ := of_decide_eq_true hfound
    rw [nameKey_eq_iff, hblank, lowercaseAfter_nil] at hkey
    rw [checkName, toList_trim, lowercaseAfter_eq_nil hkey] at hcheck
    cases hcheck
  · intro hbracket
    rw [h.get?_eq_none (by decide) (by decide) (by decide) (List.mem_of_head? hbracket)] at hname
    cases hname

theorem Built.get?_eq_none_of_refused (h : wb.Built) {t : String}
    (hrefused : trimChars t.toList = [] ∨ (trimChars t.toList).head? = some '[') :
    wb.names.get? t = none := by
  by_contra hname
  obtain ⟨d, hd⟩ := Option.ne_none_iff_exists'.mp hname
  obtain ⟨hne, hbracket⟩ := h.of_get? hd
  exact hrefused.elim hne hbracket

/-- A defined name is followed to its target. -/
theorem resolveThrough_of_name (h : wb.Built) {t : String} {d : DefinedName}
    (hname : wb.names.get? t = some d) (follow : String → Except ReferenceError Resolved) :
    wb.resolveThrough current follow t = follow d.target := by
  obtain ⟨hne, hbracket⟩ := h.of_get? hname
  rw [resolveThrough, toList_trim, get?_trim, hname]
  split
  · next hcs => exact absurd hcs hne
  · next rest hcs =>
    rw [hcs] at hbracket
    exact absurd rfl hbracket
  · rfl

/-- Where no name is followed it does not matter how names are. -/
theorem resolveThrough_of_get?_none {t : String} (hname : wb.names.get? t = none)
    (follow follow' : String → Except ReferenceError Resolved) :
    wb.resolveThrough current follow t = wb.resolveThrough current follow' t := by
  rw [resolveThrough, resolveThrough, get?_trim, hname]

/-- A text that is no defined name needs no steps. -/
theorem resolveWithin_of_get?_none {t : String} (hname : wb.names.get? t = none) (steps : Nat) :
    wb.resolveWithin current steps t = wb.resolve current t := by
  rw [resolve_eq_resolveThrough]
  cases steps with
  | zero => exact resolveThrough_of_get?_none hname _ _
  | succ steps => exact resolveThrough_of_get?_none hname _ _

/-- A blank text and one on a sheet of another workbook name nothing. -/
theorem resolve_refused {t : String}
    (h : trimChars t.toList = [] ∨ (trimChars t.toList).head? = some '[') :
    ∃ why, wb.resolve current t = .error why := by
  rw [resolve_eq_resolveThrough, resolveThrough, toList_trim]
  rcases h with hblank | hbracket
  · rw [hblank]
    exact ⟨_, rfl⟩
  · obtain ⟨rest, hcs⟩ := List.head?_eq_some_iff.mp hbracket
    rw [hcs]
    exact ⟨_, rfl⟩

/-! ### Chains -/

/-- So many defined names lead from one text to another, each to its target. -/
inductive Leads (wb : Workbook) : Nat → String → String → Prop
  /-- No name is followed. -/
  | here (t : String) : Leads wb 0 t t
  /-- A name is followed to its target, and then the target. -/
  | follow {k : Nat} {t final : String} {d : DefinedName} (hname : wb.names.get? t = some d)
    (hrest : Leads wb k d.target final) : Leads wb (k + 1) t final

namespace Leads

theorem trans {j k : Nat} {t u v : String} (h : wb.Leads j t u) (h' : wb.Leads k u v) :
    wb.Leads (k + j) t v := by
  induction h with
  | here => exact h'
  | follow hname _ ih => exact .follow hname (ih h')

/-- A chain can be cut at any place. -/
theorem exists_split {j k : Nat} {t v : String} (h : wb.Leads (k + j) t v) :
    ∃ u, wb.Leads j t u ∧ wb.Leads k u v := by
  induction j generalizing t with
  | zero => exact ⟨t, .here t, h⟩
  | succ j ih =>
    cases h with
    | follow hname hrest =>
      obtain ⟨u, hfront, hback⟩ := ih hrest
      exact ⟨u, .follow hname hfront, hback⟩

/-- A circle is a chain of any number of rounds. -/
theorem cycle {k : Nat} {t : String} (h : wb.Leads k t t) (rounds : Nat) :
    wb.Leads (k * rounds) t t := by
  induction rounds with
  | zero => exact .here t
  | succ rounds ih => exact h.trans ih

/-- **Following a chain uses up as many steps as it has names.** -/
theorem resolveWithin (hbuilt : wb.Built) {k : Nat} {t final : String} (h : wb.Leads k t final)
    (steps : Nat) :
    wb.resolveWithin current (steps + k) t = wb.resolveWithin current steps final := by
  induction h with
  | here => rfl
  | follow hname _ ih =>
    rw [← ih]
    exact resolveThrough_of_name hbuilt hname _

/-- A chain of at most eight names means what its end means. -/
theorem resolve_eq (hbuilt : wb.Built) {k : Nat} {t final : String} (h : wb.Leads k t final)
    (hk : k ≤ maxNameSteps) (hend : wb.names.get? final = none) :
    wb.resolve current t = wb.resolve current final := by
  rw [resolve, ← Nat.sub_add_cancel hk, h.resolveWithin hbuilt, resolveWithin_of_get?_none hend]

/-- A chain that goes on after eight names is refused. -/
theorem resolve_tooDeep (hbuilt : wb.Built) {k : Nat} {t final : String} (h : wb.Leads k t final)
    (hk : maxNameSteps < k) (current : String) :
    ∃ u, wb.Leads maxNameSteps t u ∧ wb.resolve current t = .error ⟨u, .chainTooDeep⟩ := by
  obtain ⟨j, rfl⟩ : ∃ j, k = j + 1 + maxNameSteps := ⟨k - maxNameSteps - 1, by omega⟩
  obtain ⟨u, hfront, hback⟩ := h.exists_split
  refine ⟨u, hfront, ?_⟩
  cases hback with
  | follow hname _ =>
    rw [resolve, ← Nat.zero_add maxNameSteps, hfront.resolveWithin hbuilt]
    exact resolveThrough_of_name hbuilt hname _

end Leads

/-- A chain ends within so many steps, or goes on beyond them. -/
theorem leads_or_leads (wb : Workbook) (t : String) (steps : Nat) :
    (∃ k ≤ steps, ∃ final, wb.Leads k t final ∧ wb.names.get? final = none) ∨
      ∃ u, wb.Leads (steps + 1) t u := by
  induction steps generalizing t with
  | zero =>
    cases hname : wb.names.get? t with
    | none => exact Or.inl ⟨0, le_rfl, t, .here t, hname⟩
    | some d => exact Or.inr ⟨d.target, .follow hname (.here _)⟩
  | succ steps ih =>
    cases hname : wb.names.get? t with
    | none => exact Or.inl ⟨0, Nat.zero_le _, t, .here t, hname⟩
    | some d =>
      rcases ih d.target with ⟨k, hk, final, hrest, hend⟩ | ⟨u, hrest⟩
      · exact Or.inl ⟨k + 1, Nat.succ_le_succ hk, final, .follow hname hrest, hend⟩
      · exact Or.inr ⟨u, .follow hname hrest⟩

end Workbook

/-- **A name means what its chain ends with, if that is at most eight steps away, and is refused
otherwise.**  A chain ends within eight steps or goes on beyond them.  A longer one is refused, and
so is one that leads in a circle; so is a name that leads to a blank text or to another workbook.
The case of the ASCII letters of the name and blanks around it do not matter. -/
theorem resolve_chain {wb : Workbook} (hbuilt : wb.Built) {name : String}
    (hname : (wb.names.get? name).isSome) (current : String) :
    ((∃ k ≤ 8, ∃ final, wb.Leads k name final ∧ wb.names.get? final = none) ∨
      ∃ u, wb.Leads 9 name u) ∧
    (∀ k final, wb.Leads k name final → wb.names.get? final = none → k ≤ 8 →
      wb.resolve current name = wb.resolve current final) ∧
    (∀ k t, wb.Leads k name t → 8 < k →
      ∃ u, wb.Leads 8 name u ∧ wb.resolve current name = .error ⟨u, .chainTooDeep⟩) ∧
    (∀ j k t, wb.Leads j name t → wb.Leads (k + 1) t t →
      ∃ u, wb.Leads 8 name u ∧ wb.resolve current name = .error ⟨u, .chainTooDeep⟩) ∧
    (∀ k t, wb.Leads k name t →
      trimChars t.toList = [] ∨ (trimChars t.toList).head? = some '[' →
        ∃ why, wb.resolve current name = .error why) ∧
    ∀ name', sameFold (trim name') (trim name) →
      wb.resolve current name' = wb.resolve current name := by
  refine ⟨wb.leads_or_leads name 8, fun k final h hend hk => h.resolve_eq hbuilt hk hend,
    fun k t h hk => h.resolve_tooDeep hbuilt hk current, fun j k t h hcircle => ?_,
    fun k t h hrefused => ?_, fun name' hfold => ?_⟩
  · -- nine rounds are more than eight steps
    refine (h.trans (hcircle.cycle 9)).resolve_tooDeep hbuilt ?_ current
    change 8 < _
    omega
  · rcases Nat.lt_or_ge 8 k with hk | hk
    · obtain ⟨u, -, hdeep⟩ := h.resolve_tooDeep hbuilt hk current
      exact ⟨_, hdeep⟩
    · rw [h.resolve_eq hbuilt hk (hbuilt.get?_eq_none_of_refused hrefused)]
      exact Workbook.resolve_refused hrefused
  · obtain ⟨d, hd⟩ := Option.isSome_iff_exists.mp hname
    have hd' : wb.names.get? name' = some d := by
      rw [← hd, Names.get?, nameKey_of_sameFold hfold, Names.get?]
    rw [Workbook.resolve_eq_resolveThrough, Workbook.resolveThrough_of_name hbuilt hd',
      Workbook.resolve_eq_resolveThrough, Workbook.resolveThrough_of_name hbuilt hd]

/-- A name, a name for this name, and a name that stands for itself. -/
def aliasNames : Names :=
  Names.after ([("Freq", "=data!$C$4"), ("Alias", " freq"), ("Loop", "LOOP")].map fun d =>
    .of d.1 d.2)

/-- A chain of two names, and a circle of one. -/
theorem resolve_chain_aliasNames :
    (⟨[], aliasNames⟩ : Workbook).Built ∧ (aliasNames.get? "Alias").isSome ∧
      (⟨[], aliasNames⟩ : Workbook).resolve "report" "\tALIAS " =
        (⟨[], aliasNames⟩ : Workbook).resolve "report" "data!$C$4" ∧
      (aliasNames.get? "Loop").isSome ∧
        ∃ u, (⟨[], aliasNames⟩ : Workbook).resolve "report" "Loop" = .error ⟨u, .chainTooDeep⟩ := by
  have hbuilt : (⟨[], aliasNames⟩ : Workbook).Built := Workbook.built_after _
  have hget : aliasNames.get? "Alias" = some ⟨"Alias", " freq"⟩ ∧
      aliasNames.get? " freq" = some ⟨"Freq", "data!$C$4"⟩ ∧
        aliasNames.get? "data!$C$4" = none ∧
          aliasNames.get? "Loop" = some ⟨"Loop", "LOOP"⟩ ∧
            aliasNames.get? "LOOP" = some ⟨"Loop", "LOOP"⟩ := by
    simp only [aliasNames, Names.get?_after]
    decide
  obtain ⟨halias, hfreq, hend, hloop, hround⟩ := hget
  have hchain : (⟨[], aliasNames⟩ : Workbook).Leads 2 "Alias" "data!$C$4" :=
    .follow halias (.follow hfreq (.here _))
  have hcircle : (⟨[], aliasNames⟩ : Workbook).Leads 1 "LOOP" "LOOP" := .follow hround (.here _)
  have hsome : (aliasNames.get? "Alias").isSome := by rw [halias]; rfl
  have hsome' : (aliasNames.get? "Loop").isSome := by rw [hloop]; rfl
  obtain ⟨-, hfollow, -, -, -, hcase⟩ := resolve_chain hbuilt hsome "report"
  obtain ⟨-, -, -, hcycle, -⟩ := resolve_chain hbuilt hsome' "report"
  obtain ⟨u, -, hdeep⟩ := hcycle 1 0 "LOOP" (.follow hloop (.here _)) hcircle
  refine ⟨hbuilt, hsome, ?_, hsome', u, hdeep⟩
  exact (hcase _ (by decide)).trans (hfollow 2 _ hchain hend (by decide))

end ReportCompiler
