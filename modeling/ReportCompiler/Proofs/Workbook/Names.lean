import ReportCompiler.Proofs.Text.Lowercase
import ReportCompiler.Proofs.Workbook.Titles

/-!
# Defined names and coordinates

A name that could be taken for a cell is refused, so that a defined name should never stand in the
way of a coordinate.  Names are checked as they are given, though, and found by their lower case.
The Kelvin sign is a letter that no coordinate has, and its lower case is a letter that coordinates
do have: a name like `K1` with that sign in front is accepted, and is found under the coordinate.

## Main definitions

* `Names.after` - the names after a history of requests, some of them refused.
* `DefinedName.Impersonates` - the name is accepted and passes for a text by a Kelvin sign.

## Main results

* `Names.get?_after` - what is found is the last accepted name with the key.
* `Workbook.Built.names` - a workbook has its names from such a history.
* `Workbook.Built.get?_eq_none` - texts that no name can spell are not found.
* `key_eq_iff_impersonates` - the accepted names with the key of a coordinate are those that
  impersonate it.
* `Workbook.resolve_coordinate` - a coordinate that is no defined name is the cell on the current
  sheet.
* `coordinate_shadowed_iff` - **a coordinate is shadowed exactly by names that impersonate it**, and
  names the cell on the current sheet if there are none.
-/

namespace ReportCompiler

open Text

/-! ### Histories -/

namespace Names

/-- The names after a request to define one, which may be refused. -/
def define (ns : Names) (d : DefinedName) : Names :=
  match ns.set d with
  | .error _ => ns
  | .ok ns' => ns'

/-- The names after a history of requests. -/
def after (history : List DefinedName) : Names :=
  history.foldl define {}

theorem after_concat (history : List DefinedName) (d : DefinedName) :
    after (history ++ [d]) = (after history).define d := by
  rw [after, List.foldl_append, List.foldl_cons, List.foldl_nil, ← after]

/-- A request changes what is found under its own key only, if it is not refused. -/
theorem get?_define (ns : Names) (d : DefinedName) (s : String) :
    (ns.define d).get? s =
      if checkName d.name = .ok () ∧ nameKey d.name = nameKey s then some d else ns.get? s := by
  unfold define set
  cases hcheck : checkName d.name with
  | error fault => simp
  | ok _ =>
    simp only [get?, Std.TreeMap.getElem?_insert, Std.LawfulEqCmp.compare_eq_iff_eq, true_and]

/-- What is found under a text is the last accepted name with its key. -/
theorem get?_after (history : List DefinedName) (s : String) :
    (after history).get? s = history.reverse.find? fun d =>
      checkName d.name = .ok () ∧ nameKey d.name = nameKey s := by
  induction history using List.reverseRecOn with
  | nil => exact Std.TreeMap.getElem?_emptyc
  | append_singleton history d ih =>
    rw [after_concat, get?_define, ih, List.reverse_append, List.reverse_singleton,
      List.singleton_append, List.find?_cons]
    split
    · next h => rw [decide_eq_true h]
    · next h => rw [decide_eq_false h]

end Names

/-- A workbook that can be built has its names from a history of requests. -/
theorem Workbook.Built.names {wb : Workbook} (h : wb.Built) :
    ∃ history, wb.names = Names.after history := by
  induction h with
  | new => exact ⟨[], rfl⟩
  | addSheet _ hadd ih =>
    unfold Workbook.addSheet at hadd
    split at hadd
    · cases hadd
    · obtain rfl := Except.ok.inj hadd
      exact ih
  | modifySheet _ _ hmodify ih =>
    obtain ⟨i, -, rfl⟩ := Option.map_eq_some_iff.mp hmodify
    exact ih
  | @defineName wb wb' name target _ hdefine ih =>
    obtain ⟨history, hnames⟩ := ih
    refine ⟨history ++ [.of name target], ?_⟩
    unfold Workbook.defineName at hdefine
    split at hdefine
    · cases hdefine
    · next names hset =>
      obtain rfl := Except.ok.inj hdefine
      rw [Names.after_concat, ← hnames, Names.define, hset]

/-- Every history of requests gives the names of a workbook that can be built. -/
theorem Workbook.built_after (history : List (String × String)) :
    (⟨[], Names.after (history.map fun d => .of d.1 d.2)⟩ : Workbook).Built := by
  induction history using List.reverseRecOn with
  | nil => exact .new
  | append_singleton history d ih =>
    rw [List.map_append, List.map_singleton, Names.after_concat, Names.define]
    split
    · exact ih
    · next names hset =>
      have hdefine : Workbook.defineName ⟨[], Names.after (history.map fun d => .of d.1 d.2)⟩
          d.1 d.2 = .ok ⟨[], names⟩ := by
        rw [Workbook.defineName, hset]
      exact .defineName ih hdefine

/-! ### Keys -/

theorem nameKey_eq_iff {s t : String} : nameKey s = nameKey t ↔
    lowercaseAfter [] (trimChars s.toList) = lowercaseAfter [] (trimChars t.toList) := by
  simp only [nameKey, lowercase, toList_trim, String.ofList_inj]

theorem nameKey_trim (s : String) : nameKey (trim s) = nameKey s := by
  rw [nameKey_eq_iff, toList_trim, trimChars_trimChars]

theorem checkName_eq_ok {s : String} (h : checkName s = .ok ()) :
    (∀ c ∈ trimChars s.toList, isNameChar c) ∧ coordinate? s = none := by
  unfold checkName at h
  simp only [toList_trim] at h
  split at h
  · cases h
  · split at h
    · cases h
    · split at h
      · cases h
      · split at h
        · cases h
        · next hchars hcell =>
          rw [coordinate?_trim] at hcell
          refine ⟨?_, by simpa using hcell⟩
          simpa using hchars

/-- A text with an ASCII character that is neither a letter nor in any name is no defined name. -/
theorem Workbook.Built.get?_eq_none {wb : Workbook} (h : wb.Built) {t : String} {c : Char}
    (hascii : c.toNat < 0x80) (hletter : c.isAlpha = false) (hc : isNameChar c = false)
    (hmem : c ∈ trimChars t.toList) : wb.names.get? t = none := by
  obtain ⟨history, hnames⟩ := h.names
  rw [hnames, Names.get?_after, List.find?_eq_none]
  intro d _ hfound
  obtain ⟨hcheck, hkey⟩ := of_decide_eq_true hfound
  -- the character is in the key, and so in the name
  have hname : c ∈ trimChars d.name.toList := by
    rwa [← mem_lowercaseAfter_iff hascii hletter, nameKey_eq_iff.mp hkey,
      mem_lowercaseAfter_iff hascii hletter]
  rw [(checkName_eq_ok hcheck).1 c hname] at hc
  cases hc

/-- The name is accepted, and is the text up to case once its Kelvin signs are taken for letters. -/
def DefinedName.Impersonates (d : DefinedName) (t : String) : Prop :=
  checkName d.name = .ok () ∧ kelvinSign ∈ trimChars d.name.toList ∧
    (trimChars d.name.toList).map plainLower = (trimChars t.toList).map Char.toLower

instance (d : DefinedName) (t : String) : Decidable (d.Impersonates t) :=
  inferInstanceAs (Decidable (_ ∧ _ ∧ _))

/-- The key of a coordinate is its text in small letters. -/
theorem lowercaseAfter_of_coordinate? {t : String} {p : Coordinate} (h : coordinate? t = some p) :
    lowercaseAfter [] (trimChars t.toList) = (trimChars t.toList).map Char.toLower := by
  have hascii : ∀ c ∈ trimChars t.toList, c.toNat < 0x80 :=
    fun c hc => toNat_lt_of_isCoordinateChar ((chars_of_coordinate? h).2 c hc)
  rw [lowercaseAfter_eq_map fun c hc => Or.inl (hascii c hc)]
  exact map_plainLower fun hkelvin => absurd (hascii _ hkelvin) (by decide)

/-- The accepted names with the key of a coordinate are those that impersonate it. -/
theorem key_eq_iff_impersonates {d : DefinedName} {t : String} {p : Coordinate}
    (h : coordinate? t = some p) :
    checkName d.name = .ok () ∧ nameKey d.name = nameKey t ↔ d.Impersonates t := by
  rw [DefinedName.Impersonates, nameKey_eq_iff, lowercaseAfter_of_coordinate? h]
  have hascii : ∀ c ∈ (trimChars t.toList).map Char.toLower, c.toNat < 0x80 := by
    intro c hc
    obtain ⟨c, hmem, rfl⟩ := List.mem_map.mp hc
    rw [toNat_toLower_lt_iff]
    exact toNat_lt_of_isCoordinateChar ((chars_of_coordinate? h).2 c hmem)
  refine and_congr_right fun hcheck => ⟨fun hkey => ?_, fun ⟨_, hplain⟩ => ?_⟩
  · rw [← hkey] at hascii
    have hmap := lowercaseAfter_eq_map (ascii_of_lowercaseAfter hascii) []
    rw [hmap] at hkey
    refine ⟨?_, hkey⟩
    -- without a Kelvin sign the name would be read as the same coordinate, and refused
    by_contra hkelvin
    rw [map_plainLower hkelvin] at hkey
    have hcell := (checkName_eq_ok hcheck).2
    rw [coordinate?_congr hkey, h] at hcell
    cases hcell
  · rw [← hplain]
    refine lowercaseAfter_eq_map (fun c hc => ?_) []
    refine ascii_or_kelvinSign_of_plainLower (hascii _ ?_)
    rw [← hplain]
    exact List.mem_map_of_mem hc

/-- What is found under a coordinate is the last name that impersonates it. -/
theorem Names.get?_after_of_coordinate? (history : List DefinedName) {t : String} {p : Coordinate}
    (h : coordinate? t = some p) :
    (Names.after history).get? t = history.reverse.find? fun d => d.Impersonates t := by
  simp only [Names.get?_after, key_eq_iff_impersonates h]

/-! ### Resolution -/

theorem splitOnce_eq_none {sep : Char} {cs : List Char} (h : sep ∉ cs) :
    splitOnce sep cs = none := by
  induction cs with
  | nil => rfl
  | cons c rest ih =>
    rw [List.mem_cons, not_or] at h
    rw [splitOnce, if_neg (Ne.symm h.1), ih h.2]
    rfl

/-- A text without quotes and exclamation marks has no sheet in front. -/
theorem splitSheet_eq_none {cs : List Char} (hquote : '\'' ∉ cs) (hmark : '!' ∉ cs) :
    splitSheet cs = .ok (none, cs) := by
  unfold splitSheet
  split
  · exact absurd List.mem_cons_self hquote
  · rw [splitOnce_eq_none hmark]

theorem not_mem_of_coordinate? {t : String} {p : Coordinate} (h : coordinate? t = some p) {d : Char}
    (hd : isCoordinateChar d = false) : d ∉ trimChars t.toList := by
  intro hmem
  rw [(chars_of_coordinate? h).2 d hmem] at hd
  cases hd

/-- Without a sheet in front, a coordinate is on the current sheet. -/
theorem Workbook.resolveDirect_coordinate {wb : Workbook} {current t : String} {sheet : Sheet}
    {p : Coordinate} (h : coordinate? t = some p) (hsheet : wb.sheet? current = some sheet) :
    wb.resolveDirect current (trimChars t.toList) =
      .ok (.cell (.ofPosition sheet.name p)) := by
  have hcolon := splitOnce_eq_none (not_mem_of_coordinate? h (d := ':') (by decide))
  have hsplit := splitSheet_eq_none (not_mem_of_coordinate? h (d := '\'') (by decide))
    (not_mem_of_coordinate? h (d := '!') (by decide))
  have hcell : coordinate? (String.ofList (trimChars t.toList)) = some p := by
    rw [← trim, coordinate?_trim, h]
  rw [resolveDirect, hsplit]
  simp only [bind, Except.bind, hsheet, hcolon, hcell]
  rfl

theorem Workbook.get?_trim (wb : Workbook) (t : String) :
    wb.names.get? (trim t) = wb.names.get? t := by
  rw [Names.get?, nameKey_trim, Names.get?]

/-- A name is followed with one step fewer. -/
theorem Workbook.resolve_eq_resolveThrough (wb : Workbook) (current t : String) :
    wb.resolve current t =
      wb.resolveThrough current (wb.resolveWithin current (maxNameSteps - 1)) t := by
  rw [resolve, maxNameSteps, resolveWithin]

/-- A text is looked up among the names first, and read as coordinates then. -/
theorem Workbook.resolve_eq (wb : Workbook) (current : String) {t : String}
    (hne : trimChars t.toList ≠ []) (hbracket : (trimChars t.toList).head? ≠ some '[') :
    wb.resolve current t =
      match wb.names.get? t with
      | some d => wb.resolveWithin current (maxNameSteps - 1) d.target
      | none => (wb.resolveDirect current (trimChars t.toList)).mapError (⟨t, ·⟩) := by
  rw [resolve_eq_resolveThrough, resolveThrough, toList_trim, get?_trim]
  split
  · next hcs => exact absurd hcs hne
  · next rest hcs =>
    rw [hcs] at hbracket
    exact absurd rfl hbracket
  · cases wb.names.get? t with
    | none => cases wb.resolveDirect current (trimChars t.toList) <;> rfl
    | some d => rfl

/-- A coordinate is the cell on the current sheet, unless it is found among the names. -/
theorem Workbook.resolve_coordinate {wb : Workbook} {current t : String} {sheet : Sheet}
    {p : Coordinate} (h : coordinate? t = some p) (hsheet : wb.sheet? current = some sheet) :
    wb.resolve current t =
      match wb.names.get? t with
      | some d => wb.resolveWithin current (maxNameSteps - 1) d.target
      | none => .ok (.cell (.ofPosition sheet.name p)) := by
  have hbracket : (trimChars t.toList).head? ≠ some '[' := fun hhead =>
    not_mem_of_coordinate? h (by decide) (List.mem_of_head? hhead)
  rw [resolve_eq wb current (chars_of_coordinate? h).1 hbracket, resolveDirect_coordinate h hsheet]
  rfl

/-- **A coordinate is shadowed exactly by the names that impersonate it.**  If there are none it is
the cell on the current sheet, and else it is what the last of them stands for. -/
theorem coordinate_shadowed_iff (history : List DefinedName) {t : String} {p : Coordinate}
    (h : coordinate? t = some p) :
    ((Names.after history).get? t = none ↔ ∀ d ∈ history, ¬ d.Impersonates t) ∧
      ∀ (wb : Workbook) (current : String) (sheet : Sheet), wb.names = Names.after history →
        wb.sheet? current = some sheet →
          wb.resolve current t =
            match history.reverse.find? fun d => d.Impersonates t with
            | some d => wb.resolveWithin current (maxNameSteps - 1) d.target
            | none => .ok (.cell (.ofPosition sheet.name p)) := by
  have hget := Names.get?_after_of_coordinate? history h
  refine ⟨?_, fun wb current sheet hnames hsheet => ?_⟩
  · rw [hget, List.find?_eq_none]
    simp only [List.mem_reverse, decide_eq_true_eq]
  · rw [Workbook.resolve_coordinate h hsheet, hnames, hget]

/-- Names that begin with a Kelvin sign do not stand in the way of coordinates that they are not
taken for, and a name that is a coordinate is refused. -/
theorem coordinate_shadowed_iff_otherRow :
    coordinate? " $k$1" = some ⟨0, 10⟩ ∧
      (Names.after [⟨"K1", "S!A1"⟩, ⟨"\u212a2", "S!A2"⟩, ⟨"rate", "S!A3"⟩]).get? " $k$1" = none := by
  have hread : coordinate? " $k$1" = some ⟨0, 10⟩ := by decide
  refine ⟨hread, (coordinate_shadowed_iff _ hread).1.mpr ?_⟩
  -- two of the names have no Kelvin sign, and the third has another row
  simp only [List.forall_mem_cons]
  exact ⟨fun h => absurd h.2.1 (by decide), fun h => absurd h.2.2 (by decide),
    fun h => absurd h.2.1 (by decide), by simp⟩

/-- A Kelvin sign and a digit are accepted as a name, which then stands in the way of a cell. -/
theorem kelvinSign_shadows_coordinate :
    coordinate? "K1" = some ⟨0, 10⟩ ∧
      (Names.after [⟨"\u212a1", "S!A1"⟩]).get? "K1" = some ⟨"\u212a1", "S!A1"⟩ := by
  have hread : coordinate? "K1" = some ⟨0, 10⟩ := by decide +kernel
  refine ⟨hread, ?_⟩
  rw [Names.get?_after_of_coordinate? _ hread]
  decide +kernel

end ReportCompiler
