import ReportCompiler.Proofs.Program.Filling
import ReportCompiler.Proofs.Target.Scope
import ReportCompiler.Proofs.Text.Controls

/-!
# The template of the opening

The lines of the opening are fixed, but for their blanks.  What has to be known of them is said here
of any template, in a form that can be evaluated, and found true of this one.  Nothing else depends
on the wording of the opening.

## Main definitions

* `openingBlanks` - the blanks of the opening.
* `StandsAlone pattern line` - the line has the blank `pattern`, and what is put in for it does not
  touch the rest of the line.
* `globalNames` - the names that the functions and methods of the opening take from outside.
* `SoundTemplate lines` - what is asked of a template.

## Main results

* `soundTemplate_openingLines` - **the opening has a sound template.**
* `plain_or_standsAlone`, `exists_standsAlone` - which lines have a blank, and that each blank has a
  line.
-/

namespace ReportCompiler

open Text (ControlFree)

/-! ### Blanks and names -/

/-- The blanks of the opening, in the order in which they are filled in. -/
def openingBlanks : List (List Char) :=
  [placeholder "SOURCE", placeholder "EXPECTED_REPORT_FILES", placeholder "REGION",
   placeholder "ACCESSOR"]

/-- The line up to its first brace. -/
def beforeBlank (line : List Char) : List Char :=
  line.takeWhile (· ≠ '{')

/-- The line behind a pattern that begins with its first brace. -/
def behindBlank (pattern line : List Char) : List Char :=
  line.drop ((beforeBlank line).length + pattern.length)

/-- The pattern begins with the first brace of the line, and no blank is found elsewhere in the
line, whatever stands in the place of the pattern. -/
def StandsAlone (pattern line : List Char) : Prop :=
  line = beforeBlank line ++ pattern ++ behindBlank pattern line ∧
    ∀ other ∈ openingBlanks, Encloses other (beforeBlank line) (behindBlank pattern line)

instance (pattern line : List Char) : Decidable (StandsAlone pattern line) :=
  inferInstanceAs (Decidable (_ ∧ _))

/-- The names that the bodies of the opening take from outside, one by one. -/
def globalNames : List String :=
  ["Path", "sorted", "len", "EXPECTED_REPORT_FILES", "sys", "int", "ET", "defaultdict", "list",
   "enumerate", "IndexError", "sum", "isinstance", "bool", "float", "str", "_xls_text",
   "NotImplementedError"]

/-! ### Sound templates -/

/-- The lines that may have a blank. -/
def bracedLines (lines : List (List Char)) : List (List Char) :=
  lines.filter fun line => ['{', '{'] <:+: line

/-- What is asked of the lines of a template. -/
structure SoundTemplate (lines : List (List Char)) : Prop where
  /-- No line has a control character. -/
  controlFree : ∀ line ∈ lines, ControlFree line
  /-- A line with double braces has a blank that stands alone. -/
  alone : ∀ line ∈ bracedLines lines, ∃ pattern ∈ openingBlanks, StandsAlone pattern line
  /-- Each blank has such a line. -/
  found : ∀ pattern ∈ openingBlanks, ∃ line ∈ bracedLines lines, StandsAlone pattern line
  /-- The bodies take these names from outside, and no others. -/
  globals : ((Target.definitions lines).flatMap Target.Definition.globals).eraseDups =
    globalNames.map String.toList
  /-- The bodies have no blanks. -/
  bodies : ∀ d ∈ Target.definitions lines, ∀ line ∈ d.body, ¬ ['{', '{'] <:+: line

instance (lines : List (List Char)) : Decidable (SoundTemplate lines) :=
  decidable_of_iff ((∀ line ∈ lines, ControlFree line) ∧
      (∀ line ∈ bracedLines lines, ∃ pattern ∈ openingBlanks, StandsAlone pattern line) ∧
      (∀ pattern ∈ openingBlanks, ∃ line ∈ bracedLines lines, StandsAlone pattern line) ∧
      ((Target.definitions lines).flatMap Target.Definition.globals).eraseDups =
        globalNames.map String.toList ∧
      ∀ d ∈ Target.definitions lines, ∀ line ∈ d.body, ¬ ['{', '{'] <:+: line)
    ⟨fun h => ⟨h.1, h.2.1, h.2.2.1, h.2.2.2.1, h.2.2.2.2⟩,
      fun h => ⟨h.controlFree, h.alone, h.found, h.globals, h.bodies⟩⟩

/-! ### The lines of the opening -/

theorem map_toList_cons {cs : List Char} {lines : List String} {css : List (List Char)}
    (h : lines.map String.toList = css) :
    (String.ofList cs :: lines).map String.toList = cs :: css := by
  rw [List.map_cons, String.toList_ofList, h]

/-- **The opening has a sound template.** -/
theorem soundTemplate_openingLines : SoundTemplate (openingLines.map String.toList) := by
  apply Eq.subst (motive := SoundTemplate)
  case h₁ =>
    -- a line is a list of characters as it stands here, and need not be decoded
    symm
    unfold openingLines
    repeat apply map_toList_cons
    exact List.map_nil
  case h₂ => decide +kernel

theorem controlFree_openingLines : ∀ line ∈ openingLines, ControlFree line.toList :=
  fun _ hline => soundTemplate_openingLines.controlFree _ (List.mem_map_of_mem hline)

theorem plain_or_standsAlone {line : List Char} (hline : line ∈ openingLines.map String.toList) :
    ¬ ['{', '{'] <:+: line ∨ ∃ pattern ∈ openingBlanks, StandsAlone pattern line := by
  by_cases hbraces : ['{', '{'] <:+: line
  · refine .inr (soundTemplate_openingLines.alone line (List.mem_filter.mpr ⟨hline, ?_⟩))
    exact decide_eq_true hbraces
  · exact .inl hbraces

theorem exists_standsAlone {pattern : List Char} (hpattern : pattern ∈ openingBlanks) :
    ∃ line ∈ openingLines, StandsAlone pattern line.toList := by
  obtain ⟨_, hmem, halone⟩ := soundTemplate_openingLines.found pattern hpattern
  obtain ⟨line, hline, rfl⟩ := List.mem_map.mp (List.mem_filter.mp hmem).1
  exact ⟨line, hline, halone⟩

end ReportCompiler
