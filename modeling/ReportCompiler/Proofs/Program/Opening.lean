import ReportCompiler.Proofs.Cell.Coordinates
import ReportCompiler.Proofs.Program.Lines
import ReportCompiler.Proofs.Program.Refilling

/-!
# The blanks of the opening

The opening of a program has blanks for the source, the number of report files, the region and the
accessor.  They are filled in one after the other, so that what is put in for the source or the
region can hold a blank whose turn is still to come.  Then that blank is filled in too.

Each blank of the template stands alone in its line, between characters that are in no blank, so
that nothing is found across the borders of what is put in.  The opening is therefore what comes out
when the blanks are filled in together, each with a text that is filled in itself; and two ways to
fill in the blanks lead to different openings.

## Main definitions

* `nestedBlanks` - the blanks with what is in their place once all have been filled in.

## Main results

* `ProgramOptions.opening_eq_nested` - **what is put in is filled in itself.**
* `fillTogether_opening_inj` - the opening shows what was put in.
* `ProgramOptions.nestedBlanks_eq_iff` - when nothing that is put in is filled in itself.
* `opening_filled_together_iff` - **when the blanks are filled in as if together.**
-/

namespace ReportCompiler

open Text

/-! ### One blank after the other -/

/-- The blanks, each with what is in its place once all have been filled in one after the other:
what is put in for a blank is filled in with the blanks behind it. -/
def nestedBlanks : List (List Char × List Char) → List (List Char × List Char)
  | [] => []
  | blank :: rest => (blank.1, fillBlanks rest blank.2) :: nestedBlanks rest

section

variable {blanks : List (List Char × List Char)}

theorem map_fst_nestedBlanks (blanks : List (List Char × List Char)) :
    (nestedBlanks blanks).map Prod.fst = blanks.map Prod.fst := by
  induction blanks with
  | nil => rfl
  | cons blank rest ih => rw [nestedBlanks, List.map_cons, List.map_cons, ih]

theorem fillBlanks_enclosed {front back : List Char}
    (h : ∀ blank ∈ blanks, Encloses blank.1 front back) (cs : List Char) :
    fillBlanks blanks (front ++ cs ++ back) = front ++ fillBlanks blanks cs ++ back := by
  induction blanks generalizing cs with
  | nil => rfl
  | cons blank rest ih =>
    obtain ⟨hblank, hrest⟩ := List.forall_mem_cons.mp h
    rw [fillBlanks_cons, replaceAll_enclosed hblank, ih hrest, fillBlanks_cons]

/-- A blank by itself is filled in when its turn comes, and then with the blanks behind it. -/
theorem fillBlanks_blank (hne : ∀ blank ∈ blanks, blank.1 ≠ [])
    (hapart : blanks.Pairwise fun blank other => ¬ blank.1 <:+: other.1) :
    ∀ blank ∈ nestedBlanks blanks, fillBlanks blanks blank.1 = blank.2 := by
  induction blanks with
  | nil => simp [nestedBlanks]
  | cons first rest ih =>
    obtain ⟨hfirst, hrest⟩ := List.forall_mem_cons.mp hne
    obtain ⟨hothers, hpairs⟩ := List.pairwise_cons.mp hapart
    refine List.forall_mem_cons.mpr ⟨?_, fun blank hblank => ?_⟩
    · have hself := replaceAll_append hfirst first.2 []
      rw [List.append_nil, replaceAll_nil, List.append_nil] at hself
      rw [fillBlanks_cons, hself]
    · have hkey : blank.1 ∈ rest.map Prod.fst := by
        rw [← map_fst_nestedBlanks]
        exact List.mem_map_of_mem hblank
      obtain ⟨other, hother, heq⟩ := List.mem_map.mp hkey
      rw [fillBlanks_cons, replaceAll_eq_self (heq ▸ hothers other hother),
        ih hrest hpairs blank hblank]

end

/-! ### The blanks of the opening -/

theorem openingBlanks_apart : openingBlanks.Pairwise fun pattern other => ¬ pattern <:+: other := by
  decide

section

variable {blanks : List (List Char × List Char)}

theorem mem_openingBlanks (hkeys : blanks.map Prod.fst = openingBlanks)
    {blank : List Char × List Char} (hblank : blank ∈ blanks) : blank.1 ∈ openingBlanks := by
  rw [← hkeys]
  exact List.mem_map_of_mem hblank

theorem blank_ne_nil (hkeys : blanks.map Prod.fst = openingBlanks) :
    ∀ blank ∈ blanks, blank.1 ≠ [] := fun blank hblank => by
  have hne : ∀ pattern ∈ openingBlanks, pattern ≠ [] := by decide
  exact hne blank.1 (mem_openingBlanks hkeys hblank)

theorem pairwise_blanks (hkeys : blanks.map Prod.fst = openingBlanks) :
    blanks.Pairwise fun blank other => ¬ blank.1 <:+: other.1 := by
  have hpairs := openingBlanks_apart
  rwa [← hkeys, List.pairwise_map] at hpairs

theorem encloses_blanks (hkeys : blanks.map Prod.fst = openingBlanks) {pattern line : List Char}
    (h : StandsAlone pattern line) :
    ∀ blank ∈ blanks, Encloses blank.1 (beforeBlank line) (behindBlank pattern line) :=
  fun blank hblank => h.2 blank.1 (mem_openingBlanks hkeys hblank)

theorem fillBlanks_standsAlone (hkeys : blanks.map Prod.fst = openingBlanks)
    {pattern line : List Char} (h : StandsAlone pattern line) :
    fillBlanks blanks line =
      beforeBlank line ++ fillBlanks blanks pattern ++ behindBlank pattern line :=
  (congrArg (fillBlanks blanks) h.1).trans (fillBlanks_enclosed (encloses_blanks hkeys h) pattern)

theorem fillTogether_standsAlone (hkeys : blanks.map Prod.fst = openingBlanks)
    {pattern line : List Char} (h : StandsAlone pattern line) :
    fillTogether blanks line =
      beforeBlank line ++ fillTogether blanks pattern ++ behindBlank pattern line :=
  (congrArg (fillTogether blanks) h.1).trans
    (fillTogether_enclosed (encloses_blanks hkeys h) pattern)

theorem not_infix_blanks (hkeys : blanks.map Prod.fst = openingBlanks) {line : List Char}
    (h : ¬ ['{', '{'] <:+: line) : ∀ blank ∈ blanks, ¬ blank.1 <:+: line := by
  intro blank hblank hfound
  have hbraces : ∀ pattern ∈ openingBlanks, ['{', '{'] <+: pattern := by decide
  exact h ((hbraces blank.1 (mem_openingBlanks hkeys hblank)).isInfix.trans hfound)

/-- A blank of the opening by itself becomes what is put in its place. -/
theorem fillTogether_openingBlank (hkeys : blanks.map Prod.fst = openingBlanks) :
    ∀ blank ∈ blanks, fillTogether blanks blank.1 = blank.2 := fun _ hblank =>
  fillTogether_blank (blank_ne_nil hkeys)
    ((pairwise_blanks hkeys).imp fun hapart hbegin => hapart hbegin.isInfix) hblank

/-- The blanks are known from what becomes of each by itself. -/
theorem blanks_eq_map (hkeys : blanks.map Prod.fst = openingBlanks) :
    blanks = openingBlanks.map fun pattern => (pattern, fillTogether blanks pattern) := by
  rw [← hkeys, List.map_map]
  refine (List.map_id blanks).symm.trans (List.map_congr_left fun blank hblank => ?_)
  rw [Function.comp_apply, fillTogether_openingBlank hkeys blank hblank]
  rfl

end

namespace ProgramOptions

theorem map_fst_blanks (o : ProgramOptions) : o.blanks.map Prod.fst = openingBlanks := rfl

theorem map_fst_nested (o : ProgramOptions) :
    (nestedBlanks o.blanks).map Prod.fst = openingBlanks :=
  map_fst_nestedBlanks o.blanks

/-- In the lines of the opening, filling in the blanks one after the other comes to the same as
filling them in together, each with a text that is filled in itself. -/
theorem fillBlanks_line (o : ProgramOptions) {line : List Char}
    (hline : line ∈ openingLines.map String.toList) :
    fillBlanks o.blanks line = fillTogether (nestedBlanks o.blanks) line := by
  rcases plain_or_standsAlone hline with hplain | ⟨pattern, hpattern, halone⟩
  · rw [fillBlanks_eq_self (not_infix_blanks o.map_fst_blanks hplain),
      fillTogether_eq_self (not_infix_blanks o.map_fst_nested hplain)]
  · rw [← o.map_fst_nested] at hpattern
    obtain ⟨blank, hblank, rfl⟩ := List.mem_map.mp hpattern
    rw [fillBlanks_standsAlone o.map_fst_blanks halone,
      fillTogether_standsAlone o.map_fst_nested halone,
      fillBlanks_blank (blank_ne_nil o.map_fst_blanks) (pairwise_blanks o.map_fst_blanks)
        blank hblank,
      fillTogether_openingBlank o.map_fst_nested blank hblank]

end ProgramOptions

theorem fillTogether_opening {blanks : List (List Char × List Char)}
    (hkeys : blanks.map Prod.fst = openingBlanks) :
    fillTogether blanks (unlines openingLines) = unlines (openingLines.map fun line =>
      String.ofList (fillTogether blanks line.toList)) := by
  have hbreaks : ∀ pattern ∈ openingBlanks, '\n' ∉ pattern := by decide
  have hspec : ∀ blank ∈ blanks, '\n' ∉ blank.1 ∧ blank.1 ≠ [] := fun blank hblank =>
    ⟨hbreaks blank.1 (mem_openingBlanks hkeys hblank), blank_ne_nil hkeys blank hblank⟩
  exact fillTogether_unlines hspec openingLines

/-- **What is put in for the source and the region is filled in itself.** -/
theorem ProgramOptions.opening_eq_nested (o : ProgramOptions) :
    opening o = fillTogether (nestedBlanks o.blanks) (unlines openingLines) := by
  rw [o.opening_eq, fillTogether_opening o.map_fst_nested]
  refine congrArg unlines (List.map_congr_left fun line hline => ?_)
  rw [fill, o.fillBlanks_line (List.mem_map_of_mem hline)]

/-- Two ways to fill in the blanks of the opening differ in the outcome, since each blank stands in
a line that has no other. -/
theorem fillTogether_opening_inj {blanks blanks' : List (List Char × List Char)}
    (hkeys : blanks.map Prod.fst = openingBlanks) (hkeys' : blanks'.map Prod.fst = openingBlanks)
    (hfree : ∀ blank ∈ blanks, ControlFree blank.2)
    (hfree' : ∀ blank ∈ blanks', ControlFree blank.2)
    (h : fillTogether blanks (unlines openingLines) = fillTogether blanks' (unlines openingLines)) :
    blanks = blanks' := by
  have hlines {blanks : List (List Char × List Char)}
      (hfree : ∀ blank ∈ blanks, ControlFree blank.2) :
      ∀ line ∈ openingLines.map fun line => String.ofList (fillTogether blanks line.toList),
        ControlFree line.toList := by
    refine List.forall_mem_map.mpr fun line hline => ?_
    rw [String.toList_ofList]
    exact controlFree_fillTogether hfree (controlFree_openingLines line hline)
  have hsplit := congrArg (List.splitOnP isLineBreak) h
  rw [fillTogether_opening hkeys, fillTogether_opening hkeys', splitOnP_unlines (hlines hfree),
    splitOnP_unlines (hlines hfree')] at hsplit
  have heach := List.append_cancel_right hsplit
  simp only [List.map_map, Function.comp_def, String.toList_ofList] at heach
  rw [blanks_eq_map hkeys, blanks_eq_map hkeys']
  refine List.map_congr_left fun pattern hpattern => congrArg (Prod.mk pattern) ?_
  obtain ⟨line, hline, halone⟩ := exists_standsAlone hpattern
  have hsame := List.map_inj_left.mp heach line hline
  rw [fillTogether_standsAlone hkeys halone, fillTogether_standsAlone hkeys' halone] at hsame
  exact List.append_cancel_left (List.append_cancel_right hsame)

/-! ### When nothing that is put in is filled in itself -/

theorem controlFree_nestedBlanks {blanks : List (List Char × List Char)}
    (h : ∀ blank ∈ blanks, ControlFree blank.2) :
    ∀ blank ∈ nestedBlanks blanks, ControlFree blank.2 := by
  induction blanks with
  | nil => exact h
  | cons blank rest ih =>
    obtain ⟨hblank, hrest⟩ := List.forall_mem_cons.mp h
    exact List.forall_mem_cons.mpr ⟨controlFree_fillBlanks hrest hblank, ih hrest⟩

/-- A number has no braces, and so no blanks. -/
theorem replaceAll_toDigits {pattern : List Char} (hpattern : pattern ∈ openingBlanks)
    (v : List Char) (n : Nat) :
    replaceAll pattern v (Nat.toDigits 10 n) = Nat.toDigits 10 n := by
  have hbrace : ∀ pattern ∈ openingBlanks, '{' ∈ pattern := by decide
  refine replaceAll_eq_self fun hfound => ?_
  exact absurd (Decimal.isDigit_toDigits n _ (hfound.subset (hbrace pattern hpattern))) (by decide)

/-- Filling in a blank of the opening takes no digits away, and adds those of what is put in. -/
theorem exists_count_digit {pattern : List Char} (hpattern : pattern ∈ openingBlanks) {d : Char}
    (hdigit : d.isDigit) (cs : List Char) :
    ∃ k, (k = 0 ↔ ¬ pattern <:+: cs) ∧
      ∀ v, (replaceAll pattern v cs).count d = cs.count d + k * v.count d := by
  have hspec : ∀ pattern ∈ openingBlanks, pattern ≠ [] ∧ pattern.all fun c => !c.isDigit := by
    decide
  obtain ⟨hne, hall⟩ := hspec pattern hpattern
  have hnone : pattern.count d = 0 := by
    refine List.count_eq_zero_of_not_mem fun hmem => ?_
    have hnot := List.all_eq_true.mp hall d hmem
    rw [hdigit] at hnot
    cases hnot
  obtain ⟨k, hzero, hcount⟩ := exists_count_replaceAll hne cs
  refine ⟨k, hzero, fun v => ?_⟩
  have hk := hcount v d
  rwa [hnone, Nat.mul_zero, Nat.add_zero] at hk

/-- The number of files is put in for good: no other blank takes its digits away. -/
theorem not_files_of_fixed {n v w cs : List Char} {d : Char} (hd : d ∈ n) (hdigit : d.isDigit)
    (hfix : replaceAll (placeholder "ACCESSOR") w (replaceAll (placeholder "REGION") v
      (replaceAll (placeholder "EXPECTED_REPORT_FILES") n cs)) = cs) :
    ¬ placeholder "EXPECTED_REPORT_FILES" <:+: cs := by
  have hkeys : placeholder "EXPECTED_REPORT_FILES" ∈ openingBlanks ∧
      placeholder "REGION" ∈ openingBlanks ∧ placeholder "ACCESSOR" ∈ openingBlanks := by
    simp [openingBlanks]
  obtain ⟨k, hzero, hfiles⟩ := exists_count_digit hkeys.1 hdigit cs
  obtain ⟨_, -, hregion⟩ := exists_count_digit hkeys.2.1 hdigit
    (replaceAll (placeholder "EXPECTED_REPORT_FILES") n cs)
  obtain ⟨_, -, haccessor⟩ := exists_count_digit hkeys.2.2 hdigit
    (replaceAll (placeholder "REGION") v (replaceAll (placeholder "EXPECTED_REPORT_FILES") n cs))
  have hcount := haccessor w
  rw [hfix, hregion, hfiles] at hcount
  have hproduct : k * n.count d = 0 := by omega
  exact hzero.mp ((Nat.mul_eq_zero.mp hproduct).resolve_right
    (Nat.ne_of_gt (List.count_pos_iff.mpr hd)))

/-- The blank for the accessor is the last one, so that what is put in there stays. -/
theorem replaceAll_accessor_eq_self_iff {w cs : List Char} (hopen : '{' ∉ w) :
    replaceAll (placeholder "ACCESSOR") w cs = cs ↔ ¬ placeholder "ACCESSOR" <:+: cs := by
  have hne : w ≠ placeholder "ACCESSOR" := fun heq => hopen (heq ▸ by decide)
  rw [replaceAll_eq_self_iff (by decide)]
  exact ⟨fun h hfound => hne (h hfound), fun h hfound => absurd hfound h⟩

/-- If the region does not have the blank for the accessor, a text stays as it is exactly if it has
none of the three blanks, or only that for the region and this is put in its own place. -/
theorem source_stays_iff {n v w cs : List Char} {d : Char} (hd : d ∈ n) (hdigit : d.isDigit)
    (hw : w ≠ []) (hopen : '{' ∉ w) (hclose : '}' ∉ w) (hv : ¬ placeholder "ACCESSOR" <:+: v) :
    replaceAll (placeholder "ACCESSOR") w (replaceAll (placeholder "REGION") v
        (replaceAll (placeholder "EXPECTED_REPORT_FILES") n cs)) = cs ↔
      ¬ placeholder "EXPECTED_REPORT_FILES" <:+: cs ∧ ¬ placeholder "ACCESSOR" <:+: cs ∧
        (placeholder "REGION" <:+: cs → v = placeholder "REGION") := by
  have hregion : placeholder "REGION" ≠ [] := by decide
  constructor
  · intro hfix
    have hfiles := not_files_of_fixed hd hdigit hfix
    rw [replaceAll_eq_self hfiles] at hfix
    have hv : placeholder "REGION" <:+: cs → v = placeholder "REGION" := fun hfound =>
      eq_placeholder_of_fixed hw hopen hclose hv hfound hfix
    rw [(replaceAll_eq_self_iff hregion).mpr hv] at hfix
    exact ⟨hfiles, (replaceAll_accessor_eq_self_iff hopen).mp hfix, hv⟩
  · rintro ⟨hfiles, haccessor, hv⟩
    rw [replaceAll_eq_self hfiles, (replaceAll_eq_self_iff hregion).mpr hv,
      (replaceAll_accessor_eq_self_iff hopen).mpr haccessor]

namespace ProgramOptions

/-- **The blanks are filled in as if together exactly if** the region does not have the blank for
the accessor, and the source has no blank but its own; the blank for the region may be in the source
if the region is named like it. -/
theorem nestedBlanks_eq_iff (o : ProgramOptions) (h : isIdentifier o.accessor) :
    nestedBlanks o.blanks = o.blanks ↔
      ¬ placeholder "ACCESSOR" <:+: o.region.toList.map harmless ∧
      ¬ placeholder "EXPECTED_REPORT_FILES" <:+: o.source.toList.map harmless ∧
      ¬ placeholder "ACCESSOR" <:+: o.source.toList.map harmless ∧
      (placeholder "REGION" <:+: o.source.toList.map harmless →
        o.region.toList.map harmless = placeholder "REGION") := by
  obtain ⟨hne, hchars⟩ := isWordChar_of_isIdentifier h
  have hopen : '{' ∉ o.accessor.toList := fun hmem => absurd (hchars _ hmem) (by decide)
  have hclose : '}' ∉ o.accessor.toList := fun hmem => absurd (hchars _ hmem) (by decide)
  obtain ⟨d, hd⟩ := List.exists_mem_of_ne_nil (Nat.toDigits 10 o.expectedReportFiles) (by simp)
  have hnested : nestedBlanks o.blanks = o.blanks ↔
      replaceAll (placeholder "ACCESSOR") o.accessor.toList (replaceAll (placeholder "REGION")
        (o.region.toList.map harmless) (replaceAll (placeholder "EXPECTED_REPORT_FILES")
          (Nat.toDigits 10 o.expectedReportFiles) (o.source.toList.map harmless))) =
        o.source.toList.map harmless ∧
      replaceAll (placeholder "ACCESSOR") o.accessor.toList (o.region.toList.map harmless) =
        o.region.toList.map harmless := by
    have hkeys : placeholder "REGION" ∈ openingBlanks ∧ placeholder "ACCESSOR" ∈ openingBlanks := by
      simp [openingBlanks]
    simp [nestedBlanks, blanks, fillBlanks, replaceAll_toDigits hkeys.1,
      replaceAll_toDigits hkeys.2]
  rw [hnested, and_comm, replaceAll_accessor_eq_self_iff hopen]
  exact and_congr_right fun hregion =>
    source_stays_iff hd (Decimal.isDigit_toDigits _ d hd) hne hopen hclose hregion

/-- The opening shows whether what was put in was filled in itself. -/
theorem opening_eq_iff (o : ProgramOptions) (h : isIdentifier o.accessor) :
    opening o = fillTogether o.blanks (unlines openingLines) ↔
      nestedBlanks o.blanks = o.blanks := by
  have hfree := controlFree_blanks (controlFree_of_isIdentifier h)
  rw [o.opening_eq_nested]
  exact ⟨fillTogether_opening_inj o.map_fst_nested o.map_fst_blanks
    (controlFree_nestedBlanks hfree) hfree, fun heq => by rw [heq]⟩

end ProgramOptions

/-- **What becomes of the blanks of the opening.**  A program begins with the opening.  Each blank
in it is replaced by the text for it, in which the blanks behind it in `ProgramOptions.blanks` have
been filled in too.  So the opening is its template with all blanks filled in together exactly if
the region does not have the blank for the accessor, and the source has none of the blanks for the
number of files, the accessor and the region; only a region that is itself the blank for the region
changes nothing in the source. -/
theorem opening_filled_together_iff (o : ProgramOptions) (h : isIdentifier o.accessor)
    (instructions : List Instruction) (outputs : List Output) :
    let template := unlines openingLines
    let rest := unlines (instructions.map Instruction.render ++ ["", "results = \x7b\x7d"] ++
      outputs.map Output.render ++ ["", "print(json.dumps(results, indent=2))"])
    let source := o.source.toList.map harmless
    let region := o.region.toList.map harmless
    (assemble instructions outputs o).toList =
        fillTogether (nestedBlanks o.blanks) template ++ rest ∧
      ((assemble instructions outputs o).toList = fillTogether o.blanks template ++ rest ↔
        ¬ placeholder "ACCESSOR" <:+: region ∧
        ¬ placeholder "EXPECTED_REPORT_FILES" <:+: source ∧
        ¬ placeholder "ACCESSOR" <:+: source ∧
        (placeholder "REGION" <:+: source → region = placeholder "REGION")) := by
  intro template rest source region
  have hassemble : (assemble instructions outputs o).toList = opening o ++ rest :=
    String.toList_ofList
  refine ⟨?_, ?_⟩
  · rw [hassemble, o.opening_eq_nested]
  · rw [hassemble, List.append_cancel_right_eq, o.opening_eq_iff h, o.nestedBlanks_eq_iff h]

/-- A source with the blanks for itself and for the region, which is named like its blank. -/
def namedLikeBlanks : ProgramOptions :=
  { source := "\x7b\x7bSOURCE\x7d\x7d of \x7b\x7bREGION\x7d\x7d",
    region := "\x7b\x7bREGION\x7d\x7d" }

theorem opening_filled_together_iff_namedLikeBlanks :
    isIdentifier namedLikeBlanks.accessor ∧
      (assemble [] [] namedLikeBlanks).toList =
        fillTogether namedLikeBlanks.blanks (unlines openingLines) ++
          unlines ["", "results = \x7b\x7d", "", "print(json.dumps(results, indent=2))"] := by
  have h : isIdentifier namedLikeBlanks.accessor := by decide
  exact ⟨h, (opening_filled_together_iff namedLikeBlanks h [] []).2.mpr (by decide)⟩

/-- A source that has the blank for the region. -/
def namedForRegion : ProgramOptions := { source := "\x7b\x7bREGION\x7d\x7d" }

/-- The region is put into the source. -/
theorem region_put_into_source :
    isIdentifier namedForRegion.accessor ∧
      (assemble [] [] namedForRegion).toList ≠
        fillTogether namedForRegion.blanks (unlines openingLines) ++
          unlines ["", "results = \x7b\x7d", "", "print(json.dumps(results, indent=2))"] := by
  have h : isIdentifier namedForRegion.accessor := by decide
  refine ⟨h, fun hsame => ?_⟩
  rw [assemble, String.toList_ofList] at hsame
  have hnested := (namedForRegion.opening_eq_iff h).mp (List.append_cancel_right hsame)
  have hregion := ((namedForRegion.nestedBlanks_eq_iff h).mp hnested).2.2.2
  exact absurd (hregion (by decide)) (by decide)

end ReportCompiler
