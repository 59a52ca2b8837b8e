import ReportCompiler.Proofs.Program.Reads
import ReportCompiler.Proofs.Program.Template
import ReportCompiler.Proofs.Target.OneLine

/-!
# The lines of a program

A program has the lines of the opening, one line for each instruction, one for each output and a few
fixed ones.  Whatever texts the workbook and its name hold, they break no line and add none.

## Main definitions

* `ProgramOptions.fill` - a line of the opening with its blanks filled in.
* `programLines` - the lines of a program.

## Main results

* `splitOnP_unlines` - lines without control characters are what their text splits into.
* `opening_eq` - the opening is filled in line by line.
* `splitOnP_program` - **a program splits into its lines**, none of which has a control character.
-/

namespace ReportCompiler

open Formula Text SessionM

/-! ### Texts in lines -/

theorem unlines_cons (line : String) (lines : List String) :
    unlines (line :: lines) = line.toList ++ '\n' :: unlines lines := by
  rw [unlines, List.flatMap_cons, List.append_assoc]
  rfl

theorem unlines_append (lines more : List String) :
    unlines (lines ++ more) = unlines lines ++ unlines more :=
  List.flatMap_append

/-- Lines without control characters are what their text splits into.  Behind the last line break
comes nothing more. -/
theorem splitOnP_unlines {lines : List String} (h : ∀ line ∈ lines, ControlFree line.toList) :
    (unlines lines).splitOnP isLineBreak = lines.map String.toList ++ [[]] := by
  induction lines with
  | nil => rfl
  | cons line rest ih =>
    obtain ⟨hline, hrest⟩ := List.forall_mem_cons.mp h
    have hunbroken : ∀ c ∈ line.toList, isLineBreak c = false := fun c hc =>
      isLineBreak_of_isControl (hline c hc)
    rw [unlines_cons, List.splitOnP_append_cons_of_forall_mem hunbroken '\n' rfl, ih hrest,
      List.map_cons, List.cons_append]

/-! ### Filling in blanks -/

section

variable {pattern replacement : List Char} {blanks : List (List Char × List Char)}

/-- Blanks without line end are filled in line by line. -/
theorem fillTogether_unlines (h : ∀ blank ∈ blanks, '\n' ∉ blank.1 ∧ blank.1 ≠ [])
    (lines : List String) :
    fillTogether blanks (unlines lines) = unlines (lines.map fun line =>
      String.ofList (fillTogether blanks line.toList)) := by
  induction lines with
  | nil => rw [List.map_nil, unlines, List.flatMap_nil, fillTogether]
  | cons line rest ih =>
    rw [unlines_cons, fillTogether_separated (fun blank hblank => (h blank hblank).1)
      (fun blank hblank => (h blank hblank).2), ih, List.map_cons, unlines_cons,
      String.toList_ofList]

theorem replaceAll_unlines (hpattern : '\n' ∉ pattern) (hne : pattern ≠ []) (lines : List String) :
    replaceAll pattern replacement (unlines lines) = unlines (lines.map fun line =>
      String.ofList (replaceAll pattern replacement line.toList)) := by
  simp only [replaceAll_eq_fillTogether]
  exact fillTogether_unlines (by simpa using ⟨hpattern, hne⟩) lines

theorem controlFree_fillTogether (hblanks : ∀ blank ∈ blanks, ControlFree blank.2)
    {cs : List Char} (h : ControlFree cs) : ControlFree (fillTogether blanks cs) :=
  forall_mem_fillTogether hblanks h

theorem controlFree_replaceAll (hreplacement : ControlFree replacement) {cs : List Char}
    (h : ControlFree cs) : ControlFree (replaceAll pattern replacement cs) := by
  rw [replaceAll_eq_fillTogether]
  exact controlFree_fillTogether (by simpa) h

end

/-! ### The opening -/

/-- The text with the blanks filled in, one after the other. -/
def fillBlanks (blanks : List (List Char × List Char)) (cs : List Char) : List Char :=
  blanks.foldl (fun text (pattern, replacement) => replaceAll pattern replacement text) cs

theorem fillBlanks_cons (blank : List Char × List Char) (rest : List (List Char × List Char))
    (cs : List Char) :
    fillBlanks (blank :: rest) cs = fillBlanks rest (replaceAll blank.1 blank.2 cs) :=
  rfl

theorem fillBlanks_unlines {blanks : List (List Char × List Char)}
    (h : ∀ blank ∈ blanks, '\n' ∉ blank.1 ∧ blank.1 ≠ []) (lines : List String) :
    fillBlanks blanks (unlines lines) =
      unlines (lines.map fun line => String.ofList (fillBlanks blanks line.toList)) := by
  induction blanks generalizing lines with
  | nil => simp [fillBlanks]
  | cons blank rest ih =>
    obtain ⟨⟨hpattern, hne⟩, hrest⟩ := List.forall_mem_cons.mp h
    rw [fillBlanks_cons, replaceAll_unlines hpattern hne, ih hrest, List.map_map]
    simp only [Function.comp_def, String.toList_ofList, fillBlanks_cons]

theorem controlFree_fillBlanks {blanks : List (List Char × List Char)}
    (h : ∀ blank ∈ blanks, ControlFree blank.2) {cs : List Char} (hcs : ControlFree cs) :
    ControlFree (fillBlanks blanks cs) := by
  induction blanks generalizing cs with
  | nil => exact hcs
  | cons blank rest ih =>
    obtain ⟨hblank, hrest⟩ := List.forall_mem_cons.mp h
    exact ih hrest (controlFree_replaceAll hblank hcs)

theorem fillBlanks_eq_self {blanks : List (List Char × List Char)} {cs : List Char}
    (h : ∀ blank ∈ blanks, ¬ blank.1 <:+: cs) : fillBlanks blanks cs = cs := by
  induction blanks with
  | nil => rfl
  | cons blank rest ih =>
    obtain ⟨hblank, hrest⟩ := List.forall_mem_cons.mp h
    rw [fillBlanks_cons, replaceAll_eq_self hblank, ih hrest]

namespace ProgramOptions

/-- The blanks of the opening, and what fills them. -/
def blanks (o : ProgramOptions) : List (List Char × List Char) :=
  [(placeholder "SOURCE", o.source.toList.map harmless),
   (placeholder "EXPECTED_REPORT_FILES", Nat.toDigits 10 o.expectedReportFiles),
   (placeholder "REGION", o.region.toList.map harmless),
   (placeholder "ACCESSOR", o.accessor.toList)]

/-- A line of the opening with its blanks filled in. -/
def fill (o : ProgramOptions) (line : String) : String :=
  String.ofList (fillBlanks o.blanks line.toList)

/-- **The opening is filled in line by line**, so that it has as many lines as its template. -/
theorem opening_eq (o : ProgramOptions) : opening o = unlines (openingLines.map o.fill) := by
  have hblanks : ∀ blank ∈ o.blanks, '\n' ∉ blank.1 ∧ blank.1 ≠ [] := by
    simp only [blanks, List.forall_mem_cons]
    exact ⟨by decide, by decide, by decide, by decide, by simp⟩
  exact fillBlanks_unlines hblanks openingLines

/-- A line without double braces has no blanks, and stays as it is. -/
theorem fill_eq_self (o : ProgramOptions) {line : String} (h : ¬ ['{', '{'] <:+: line.toList) :
    o.fill line = line := by
  have hblank (name : String) : ¬ placeholder name <:+: line.toList := by
    intro hfound
    have hbraces : ['{', '{'] <+: placeholder name := by
      rw [placeholder, List.append_assoc]
      exact List.prefix_append _ _
    exact h (hbraces.isInfix.trans hfound)
  have hblanks : ∀ blank ∈ o.blanks, ¬ blank.1 <:+: line.toList := by
    simp only [blanks, List.forall_mem_cons]
    exact ⟨hblank _, hblank _, hblank _, hblank _, by simp⟩
  rw [fill, fillBlanks_eq_self hblanks, String.ofList_toList]

theorem controlFree_map_harmless (cs : List Char) : ControlFree (cs.map harmless) := by
  intro d hd
  obtain ⟨c, -, rfl⟩ := List.mem_map.mp hd
  unfold harmless
  split
  case isTrue => rfl
  case isFalse hplain =>
    simp only [Bool.or_eq_true, not_or, Bool.not_eq_true] at hplain
    exact hplain.2

theorem controlFree_blanks {o : ProgramOptions} (h : ControlFree o.accessor.toList) :
    ∀ blank ∈ o.blanks, ControlFree blank.2 := by
  simp only [blanks, List.forall_mem_cons]
  exact ⟨controlFree_map_harmless _, Decimal.controlFree_toDigits _,
    controlFree_map_harmless _, h, by simp⟩

end ProgramOptions

/-! ### Whole programs -/

/-- The lines of a program. -/
def programLines (instructions : List Instruction) (outputs : List Output) (o : ProgramOptions) :
    List String :=
  openingLines.map o.fill ++
    (instructions.map Instruction.render ++ ["", "results = \x7b\x7d"] ++
      outputs.map Output.render ++ ["", "print(json.dumps(results, indent=2))"])

theorem toList_assemble (instructions : List Instruction) (outputs : List Output)
    (o : ProgramOptions) :
    (assemble instructions outputs o).toList = unlines (programLines instructions outputs o) := by
  rw [assemble, String.toList_ofList, o.opening_eq, programLines,
    unlines_append (openingLines.map o.fill)]

theorem Instruction.controlFree_render {i : Instruction} (hname : ControlFree i.name.toList)
    (hexpr : i.expr.oneLine) : ControlFree i.render.toList :=
  controlFree_between hname (by decide) (Formula.controlFree_render i.expr hexpr)

theorem OutputValue.controlFree_render {v : OutputValue} (h : v.OfCells) :
    ControlFree v.render.toList := by
  cases v with
  | single var =>
    obtain ⟨c, rfl⟩ := h
    exact c.controlFree_variableName
  | column vars =>
    refine controlFree_between (by decide) (controlFree_joined fun var hvar => ?_) (by decide)
    obtain ⟨c, rfl⟩ := h var hvar
    exact c.controlFree_variableName

theorem Output.controlFree_render {o : Output} (h : o.value.OfCells) :
    ControlFree o.render.toList := by
  have hpath : ControlFree (Function.joined (o.path.map quoted)).toList := by
    refine controlFree_joined fun part hpart => ?_
    obtain ⟨label, -, rfl⟩ := List.mem_map.mp hpart
    exact Target.controlFree_quoted label
  have hlabel := Target.controlFree_quoted o.label
  have hvalue := OutputValue.controlFree_render h
  refine controlFree_between (controlFree_between ?_ hlabel (by decide)) hvalue (by decide)
  exact controlFree_between (by decide) hpath (by decide)

/-- An identifier is not empty, and its first character could also stand further back. -/
theorem isWordChar_of_isIdentifier {s : String} (h : isIdentifier s) :
    s.toList ≠ [] ∧ ∀ c ∈ s.toList, isWordChar c := by
  unfold isIdentifier at h
  split at h
  case h_1 => cases h
  case h_2 c rest heq =>
    obtain ⟨hfirst, hrest⟩ := (Bool.and_eq_true _ _).mp h
    have hc : isWordChar c := by
      rcases (by simpa using hfirst : c.isAlpha ∨ c = '_') with hletter | rfl
      · simp [isWordChar, Char.isAlphanum, hletter]
      · rfl
    rw [heq]
    exact ⟨List.cons_ne_nil c rest, List.forall_mem_cons.mpr ⟨hc, List.all_eq_true.mp hrest⟩⟩

theorem controlFree_of_isIdentifier {s : String} (h : isIdentifier s) : ControlFree s.toList :=
  fun c hc => not_isControl_of_isWordChar ((isWordChar_of_isIdentifier h).2 c hc)

theorem Layout.isIdentifier_of_check {l : Layout} (h : l.check = .ok ()) :
    isIdentifier l.accessor := by
  cases hname : isIdentifier l.accessor with
  | true => rfl
  | false =>
    rw [Layout.check, hname] at h
    cases h

/-- The instructions of a sound session stand on one line each. -/
theorem Session.Sound.controlFree_render {src : Source} {cells : List Address} {s : Session}
    (h : s.Sound src cells) (haccessor : ControlFree src.layout.accessor.toList) :
    ∀ i ∈ s.instructions.toList, ControlFree i.render.toList := by
  intro i hi
  obtain ⟨c, -, hname, hmeans⟩ := h.compiled.exists_meaning hi
  refine Instruction.controlFree_render ?_ (Source.oneLine_meaning haccessor hmeans)
  rw [hname]
  exact c.controlFree_variableName

end ReportCompiler
