import ReportCompiler.Document.Table
import ReportCompiler.Proofs.Target.OneLine

/-!
# Reading a table back

The fields of a table are written as they are, with tabs between them and a line break behind each
row.  So a table can be read back only if no field has a tab or a line break.  Numbers have none, and
neither have arrays and objects, whose texts are quoted with escapes for both.  But the label of a
run, a key and a value that is a text are written as they are: with a tab or a line break in one of
them a row falls apart.

## Main definitions

* `Unbroken` - a text without tabs and line breaks.
* `tableText` - what is written for runs, each a label and a document.
* `tableRows` - the rows that it should have.
* `readTable` - what a text splits into, at line breaks and then at tabs.

## Main results

* `unbroken_valueRepr` - **a value as it is printed is unbroken.**
* `unbroken_cellText_iff` - a cell is unbroken exactly if it does not show a broken text.
* `readTable_rows_iff` - rows are read back exactly if their fields are unbroken.
* `readTable_tableText_iff` - **a table is read back exactly if no label, no key and no text among its
  values has a tab or a line break.**
-/

namespace ReportCompiler

open Text

/-! ### Unbroken texts -/

/-- The text has neither tabs nor line breaks. -/
def Unbroken (cs : List Char) : Prop :=
  '\t' ∉ cs ∧ '\n' ∉ cs

instance (cs : List Char) : Decidable (Unbroken cs) :=
  inferInstanceAs (Decidable (_ ∧ _))

theorem unbroken_iff {cs : List Char} : Unbroken cs ↔ ∀ c ∈ cs, c ≠ '\t' ∧ c ≠ '\n' := by
  constructor
  · rintro ⟨htab, hbreak⟩ c hc
    exact ⟨ne_of_mem_of_not_mem hc htab, ne_of_mem_of_not_mem hc hbreak⟩
  · intro h
    exact ⟨fun htab => (h _ htab).1 rfl, fun hbreak => (h _ hbreak).2 rfl⟩

@[simp] theorem unbroken_append {as bs : List Char} :
    Unbroken (as ++ bs) ↔ Unbroken as ∧ Unbroken bs := by
  simp only [unbroken_iff, List.forall_mem_append]

theorem Unbroken.of_controlFree {cs : List Char} (h : ControlFree cs) : Unbroken cs := by
  rw [unbroken_iff]
  intro c hc
  have hcontrol := h c hc
  refine ⟨?_, ?_⟩ <;>
    · rintro rfl
      cases hcontrol

theorem mem_intercalate_iff {α : Type} {sep : List α} {parts : List (List α)} {a : α} :
    a ∈ sep.intercalate parts ↔ (2 ≤ parts.length ∧ a ∈ sep) ∨ ∃ part ∈ parts, a ∈ part := by
  induction parts with
  | nil => simp
  | cons part rest ih =>
    cases rest with
    | nil => simp
    | cons next more =>
      have hlength : 2 ≤ (part :: next :: more).length := by
        simp only [List.length_cons]
        omega
      rw [List.intercalate_cons_cons, List.mem_append, List.mem_append, ih]
      simp only [List.exists_mem_cons_iff, hlength, true_and]
      tauto

theorem Unbroken.intercalate {sep : String} {parts : List String} (hsep : Unbroken sep.toList)
    (h : ∀ part ∈ parts, Unbroken part.toList) : Unbroken (sep.intercalate parts).toList := by
  rw [String.toList_intercalate, unbroken_iff]
  intro c hc
  rcases mem_intercalate_iff.mp hc with ⟨-, hsep'⟩ | ⟨part, hpart, hmem⟩
  · exact unbroken_iff.mp hsep c hsep'
  · obtain ⟨text, htext, rfl⟩ := List.mem_map.mp hpart
    exact unbroken_iff.mp (h text htext) c hmem

/-! ### Cells -/

namespace Decimal

theorem controlFree_pointedDigits (s : Scaled) : ControlFree (pointedDigits s).toList := by
  have hdigits := controlFree_toDigits s.digits
  unfold pointedDigits
  split
  · decide
  · next d hd =>
    rw [hd] at hdigits
    rwa [String.toList_ofList]
  · next d rest _ hd =>
    rw [hd, controlFree_cons] at hdigits
    rw [String.toList_ofList, controlFree_cons, controlFree_cons]
    exact ⟨hdigits.1, rfl, hdigits.2⟩

theorem controlFree_exponentText (e : Int) : ControlFree (exponentText e).toList := by
  rw [exponentText, String.toList_append, String.toList_append, String.toList_ofList,
    controlFree_append, controlFree_append]
  refine ⟨⟨?_, controlFree_zeros _⟩, controlFree_toDigits _⟩
  split <;> decide

/-- A number of a document is written without controls. -/
theorem controlFree_documentText (x : Binary64) : ControlFree (documentText x).toList := by
  cases x with
  | nan => decide
  | infinite negative =>
    rw [documentText, String.toList_append, controlFree_append]
    exact ⟨controlFree_signText negative, by decide⟩
  | finite negative m e =>
    rw [documentText, String.toList_append, controlFree_append]
    refine ⟨controlFree_signText negative, ?_⟩
    split
    · simp only [String.toList_append, controlFree_append]
      exact ⟨⟨controlFree_pointedDigits _, by decide⟩, controlFree_exponentText _⟩
    · split
      · rw [String.toList_append, controlFree_append, digitText, String.toList_ofList]
        exact ⟨controlFree_toDigits _, by decide⟩
      · exact controlFree_positional _

end Decimal

theorem controlFree_integerText (n : Int) : ControlFree (integerText n).toList := by
  rw [integerText, String.toList_append, controlFree_append, Decimal.digitText,
    String.toList_ofList]
  exact ⟨Decimal.controlFree_signText _, Decimal.controlFree_toDigits _⟩

/-- The two quotes are unbroken, and the escapes leave neither a tab nor a line break. -/
theorem unbroken_textRepr (s : String) : Unbroken (textRepr s).toList := by
  have hquote : quoteFor s.toList = '"' ∨ quoteFor s.toList = '\'' := by
    unfold quoteFor
    split
    · exact .inl rfl
    · exact .inr rfl
  rw [textRepr, String.toList_ofList]
  generalize quoteFor s.toList = quote at hquote
  have hside : Unbroken [quote] := by
    rcases hquote with rfl | rfl <;> decide
  have hchar (c : Char) : Unbroken (literalChar quote c) := by
    unfold literalChar
    split
    · next hescaped =>
      simp only [Bool.or_eq_true, decide_eq_true_eq] at hescaped
      rcases hescaped with rfl | rfl
      · decide
      · exact unbroken_append.mpr ⟨(by decide : Unbroken ['\\']), hside⟩
    · split
      · decide
      · split
        · decide
        · next htab => exact ⟨by simpa using Ne.symm htab, by simpa using Ne.symm ‹_›⟩
  have hchars : Unbroken (s.toList.flatMap (literalChar quote)) := by
    rw [unbroken_iff]
    intro c hc
    obtain ⟨d, -, hd⟩ := List.mem_flatMap.mp hc
    exact unbroken_iff.mp (hchar d) c hd
  exact unbroken_append.mpr ⟨unbroken_append.mpr ⟨hside, hchars⟩, hside⟩

open Json (Value)

mutual

/-- **A value as it is printed is unbroken.** -/
theorem unbroken_valueRepr (v : Value) : Unbroken (valueRepr v).toList := by
  cases v with
  | null =>
    rw [valueRepr]
    decide
  | bool b =>
    rw [valueRepr]
    cases b <;> decide
  | integer n =>
    rw [valueRepr]
    exact .of_controlFree (controlFree_integerText n)
  | float x =>
    rw [valueRepr]
    exact .of_controlFree (Decimal.controlFree_documentText x)
  | text s =>
    rw [valueRepr]
    exact unbroken_textRepr s
  | array items =>
    rw [valueRepr, String.toList_append, String.toList_append, unbroken_append, unbroken_append]
    exact ⟨⟨by decide, .intercalate (by decide) (unbroken_itemReprs items)⟩, by decide⟩
  | object fields =>
    rw [valueRepr, String.toList_append, String.toList_append, unbroken_append, unbroken_append]
    exact ⟨⟨by decide, .intercalate (by decide) (unbroken_fieldReprs fields)⟩, by decide⟩

theorem unbroken_itemReprs (items : List Value) :
    ∀ part ∈ itemReprs items, Unbroken part.toList := by
  cases items with
  | nil =>
    rw [itemReprs]
    nofun
  | cons v rest =>
    rw [itemReprs, List.forall_mem_cons]
    exact ⟨unbroken_valueRepr v, unbroken_itemReprs rest⟩

theorem unbroken_fieldReprs (fields : List (String × Value)) :
    ∀ part ∈ fieldReprs fields, Unbroken part.toList := by
  cases fields with
  | nil =>
    rw [fieldReprs]
    nofun
  | cons field rest =>
    rw [fieldReprs, List.forall_mem_cons, String.toList_append, String.toList_append,
      unbroken_append, unbroken_append]
    exact ⟨⟨⟨unbroken_textRepr field.1, by decide⟩, unbroken_valueRepr field.2⟩,
      unbroken_fieldReprs rest⟩

end

/-- Only a text of its own can break a cell. -/
theorem unbroken_cellText_iff {v : Value} :
    Unbroken (cellText v).toList ↔ ∀ s, v = .text s → Unbroken s.toList := by
  cases v with
  | text s =>
    constructor
    · rintro h _ ⟨⟩
      exact h
    · intro h
      exact h s rfl
  | _ => exact iff_of_true (unbroken_valueRepr _) nofun

/-! ### Rows -/

/-- What a text splits into, at line breaks and then at tabs.  Behind the last line break there is one
more line. -/
def readTable (cs : List Char) : List (List (List Char)) :=
  (cs.splitOn '\n').map fun line => line.splitOn '\t'

theorem notMem_of_mem_splitOn {sep : Char} {cs piece : List Char} (h : piece ∈ cs.splitOn sep) :
    sep ∉ piece := by
  induction cs generalizing piece with
  | nil =>
    rw [List.splitOn_nil, List.mem_singleton] at h
    rw [h]
    exact List.not_mem_nil
  | cons c rest ih =>
    rw [List.splitOn_cons_eq_if_modifyHead] at h
    split at h
    · rcases List.mem_cons.mp h with rfl | h
      · exact List.not_mem_nil
      · exact ih h
    · next hc =>
      obtain ⟨first, more, hrest⟩ := List.exists_cons_of_ne_nil (List.splitOn_ne_nil sep rest)
      rw [hrest] at ih
      rw [hrest, List.modifyHead_cons] at h
      rcases List.mem_cons.mp h with rfl | h
      · rw [List.mem_cons, not_or]
        refine ⟨?_, ih List.mem_cons_self⟩
        rintro rfl
        exact hc (beq_self_eq_true _)
      · exact ih (List.mem_cons_of_mem _ h)

/-- What is read from a text is unbroken. -/
theorem unbroken_of_mem_readTable {cs field : List Char} {row : List (List Char)}
    (hrow : row ∈ readTable cs) (hfield : field ∈ row) : Unbroken field := by
  obtain ⟨line, hline, rfl⟩ := List.mem_map.mp hrow
  refine ⟨notMem_of_mem_splitOn hfield, fun hbreak => notMem_of_mem_splitOn hline ?_⟩
  have hline : '\n' ∈ ['\t'].intercalate (line.splitOn '\t') :=
    mem_intercalate_iff.mpr (.inr ⟨field, hfield, hbreak⟩)
  rwa [List.intercalate_splitOn] at hline

/-- The line of a row with two fields or more is its fields with tabs between them. -/
theorem toList_rowText {row : List String} (h : 2 ≤ row.length) :
    (rowText row).toList = ['\t'].intercalate (row.map String.toList) ++ ['\n'] := by
  have hne : row ≠ [""] := by
    rintro rfl
    exact absurd h (by decide)
  rw [rowText, if_neg hne, String.toList_append, String.toList_intercalate]
  rfl

/-- **Rows are read back exactly if all their fields are unbroken.** -/
theorem readTable_rows_iff {rows : List (List String)} (h : ∀ row ∈ rows, 2 ≤ row.length) :
    readTable (rows.flatMap fun row => (rowText row).toList) =
        rows.map (fun row => row.map String.toList) ++ [[[]]] ↔
      ∀ row ∈ rows, ∀ field ∈ row, Unbroken field.toList := by
  constructor
  · intro hread row hrow field hfield
    have hmem : row.map String.toList ∈
        readTable (rows.flatMap fun row => (rowText row).toList) := by
      rw [hread]
      exact List.mem_append_left _ (List.mem_map_of_mem hrow)
    exact unbroken_of_mem_readTable hmem (List.mem_map_of_mem hfield)
  · intro hunbroken
    induction rows with
    | nil => rfl
    | cons row rest ih =>
      obtain ⟨hlength, hrest⟩ := List.forall_mem_cons.mp h
      obtain ⟨hrow, hunbroken⟩ := List.forall_mem_cons.mp hunbroken
      have hline : '\n' ∉ ['\t'].intercalate (row.map String.toList) := by
        rw [mem_intercalate_iff]
        rintro (⟨-, htab⟩ | ⟨field, hfield, hbreak⟩)
        · exact absurd htab (by decide)
        · obtain ⟨text, htext, rfl⟩ := List.mem_map.mp hfield
          exact (hrow text htext).2 hbreak
      have hfields : (['\t'].intercalate (row.map String.toList)).splitOn '\t' =
          row.map String.toList := by
        refine List.splitOn_intercalate _ ?_ ?_
        · intro field hfield
          obtain ⟨text, htext, rfl⟩ := List.mem_map.mp hfield
          exact (hrow text htext).1
        · intro hnil
          rw [List.map_eq_nil_iff.mp hnil] at hlength
          exact absurd hlength (by decide)
      rw [List.flatMap_cons, toList_rowText hlength, List.append_assoc, List.singleton_append,
        readTable, List.splitOn_append_cons_self_of_not_mem hline, List.map_cons, hfields, ← readTable,
        ih hrest hunbroken, List.map_cons, List.cons_append]

/-! ### Tables -/

/-- What is written for runs, each a label and a document, with the header if nothing was written
before. -/
def tableText (isFirst : Bool) : List (String × Value) → String
  | [] => ""
  | (label, document) :: rest => documentRows isFirst label document ++ tableText false rest

/-- The fields of a run: its label, and the values of its document. -/
def runRow (run : String × Value) : List String :=
  run.1 :: (flatten run.2).map fun pair => cellText (unwrapSingle pair.2)

/-- The rows of a table: the header, and one row for each run. -/
def tableRows (keys : List String) (runs : List (String × Value)) : List (List String) :=
  ("Benchmark" :: keys) :: runs.map runRow

theorem toList_documentRows (isFirst : Bool) (label : String) (document : Value) :
    (documentRows isFirst label document).toList =
      (if isFirst then (rowText ("Benchmark" :: (flatten document).map Prod.fst)).toList else []) ++
        (rowText (runRow (label, document))).toList := by
  rw [documentRows, String.toList_append]
  cases isFirst <;> rfl

theorem toList_tableText_false (runs : List (String × Value)) :
    (tableText false runs).toList = (runs.map runRow).flatMap fun row => (rowText row).toList := by
  induction runs with
  | nil => rfl
  | cons run rest ih =>
    rw [tableText, String.toList_append, toList_documentRows, ih, List.map_cons, List.flatMap_cons]
    rfl

theorem toList_tableText_true {runs : List (String × Value)} {keys : List String}
    (hruns : runs ≠ []) (h : ∀ run ∈ runs, (flatten run.2).map Prod.fst = keys) :
    (tableText true runs).toList = (tableRows keys runs).flatMap fun row => (rowText row).toList := by
  obtain ⟨run, rest, rfl⟩ := List.exists_cons_of_ne_nil hruns
  rw [tableText, String.toList_append, toList_documentRows, toList_tableText_false,
    h run List.mem_cons_self, tableRows, List.map_cons, List.flatMap_cons, List.flatMap_cons,
    List.append_assoc]
  rfl

theorem length_of_mem_tableRows {runs : List (String × Value)} {keys : List String}
    (h : ∀ run ∈ runs, (flatten run.2).map Prod.fst = keys) {row : List String}
    (hrow : row ∈ tableRows keys runs) : row.length = keys.length + 1 := by
  rcases List.mem_cons.mp hrow with rfl | hrow
  · rw [List.length_cons]
  · obtain ⟨run, hrun, rfl⟩ := List.mem_map.mp hrow
    rw [runRow, List.length_cons, List.length_map, ← h run hrun, List.length_map]

/-- **A table is read back exactly if no label, no key and no text among its values has a tab or a
line break.**  Then it is a rectangle: the header has the keys, and for each run there is one row of
as many fields, its label and the texts of its values.  Values that are no texts never break it. -/
theorem readTable_tableText_iff {runs : List (String × Value)} {keys : List String}
    (hruns : runs ≠ []) (hkeys : keys ≠ [])
    (h : ∀ run ∈ runs, (flatten run.2).map Prod.fst = keys) :
    (∀ row ∈ tableRows keys runs, row.length = keys.length + 1) ∧
      (readTable (tableText true runs).toList =
          (tableRows keys runs).map (fun row => row.map String.toList) ++ [[[]]] ↔
        (∀ key ∈ keys, Unbroken key.toList) ∧
          ∀ run ∈ runs, Unbroken run.1.toList ∧
            ∀ pair ∈ flatten run.2, ∀ s, unwrapSingle pair.2 = .text s → Unbroken s.toList) := by
  have hlength {row : List String} (hrow : row ∈ tableRows keys runs) :
      row.length = keys.length + 1 := length_of_mem_tableRows h hrow
  have hpositive := List.length_pos_iff.mpr hkeys
  refine ⟨fun row => hlength, ?_⟩
  rw [toList_tableText_true hruns h, readTable_rows_iff fun row hrow => by rw [hlength hrow]; omega,
    tableRows, List.forall_mem_cons, List.forall_mem_cons, List.forall_mem_map]
  refine and_congr (and_iff_right (by decide)) (forall₂_congr fun run hrun => ?_)
  rw [runRow, List.forall_mem_cons, List.forall_mem_map]
  simp only [unbroken_cellText_iff]

/-- Two runs whose keys differ in blanks: an array of one text stands for the text, and in an array
that is shown as a whole the tab is escaped. -/
theorem readTable_tableText_iff_twoRuns :
    let runs := [("stream", Value.object [("host", .array [.text "node01"]),
        ("stats ", .object [(" ipc", .array [.text "a\tb", .null])])]),
      ("bt", Value.object [("host", .text ""), ("stats", .object [("ipc", .integer (-3))])])]
    readTable (tableText true runs).toList =
      [["Benchmark", "host", "stats::ipc"], ["stream", "node01", "['a\\tb', None]"],
        ["bt", "", "-3"]].map (fun row => row.map String.toList) ++ [[[]]] := by
  intro runs
  have hblank : sectionKey "stats " " ipc" = "stats::ipc" := by decide
  have hplain : sectionKey "stats" "ipc" = "stats::ipc" := by decide
  have hkeys : ∀ run ∈ runs, (flatten run.2).map Prod.fst = ["host", "stats::ipc"] := by
    refine List.forall_mem_cons.mpr ⟨?_, List.forall_mem_singleton.mpr ?_⟩
    · exact congrArg (fun key => ["host", key]) hblank
    · exact congrArg (fun key => ["host", key]) hplain
  have hread := (readTable_tableText_iff (by nofun) (by nofun) hkeys).2.mpr ?_
  · rw [hread]
    decide
  · simp only [← unbroken_cellText_iff]
    decide

/-- With a line break in a text, a run has two rows, and neither has as many fields as the header. -/
theorem lineBreak_splits_row :
    let runs := [("stream", Value.object [("host", .text "node\n01")])]
    (∀ run ∈ runs, (flatten run.2).map Prod.fst = ["host"]) ∧
      readTable (tableText true runs).toList =
        [["Benchmark", "host"], ["stream", "node"], ["01"], [""]].map
          (fun row => row.map String.toList) ∧
      readTable (tableText true runs).toList ≠
        (tableRows ["host"] runs).map (fun row => row.map String.toList) ++ [[[]]] := by
  decide

end ReportCompiler
