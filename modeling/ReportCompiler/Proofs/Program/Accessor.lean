import ReportCompiler.Proofs.Program.Expansion
import ReportCompiler.Proofs.Program.Lines
import ReportCompiler.Proofs.Target.Calls
import ReportCompiler.Proofs.Target.Scope

/-!
# The name of the accessor

A layout chooses the name that its programs bind the accessor to.  The program has other names of its
own: its instructions bind variables, and the functions and methods of its opening, the calls in its
instructions and the lines that record the results look names up.  If the accessor took one of these,
the program would find the accessor where it needs something else.

The check of a layout refuses the names on a list.  The list leaves out five names that the bodies of
the opening look up, and it cannot hold the variables, which depend on the workbook.  Apart from
these no name is in the way.

## Main definitions

* `openingDefinitions`, `bodyNames` - the functions and methods of the opening, and the names that
  their bodies take from outside, which are listed in `globalNames`.
* `recordingLines` - the lines behind the instructions.
* `neededNames` - all names that a program looks up by itself.
* `overlookedNames` - the names that the check of a layout lets pass although they are needed.

## Main results

* `mem_bodyNames` - the bodies of the opening take the listed names from outside, and no others.
* `Output.mem_lineNames_render` - an output looks up two fixed names and its variables.
* `accessor_unbroken_iff` - **the accessor is in the way of a program exactly if it has an
  overlooked name or that of an instruction.**
-/

namespace ReportCompiler

open Formula SessionM
open Target (Yields words isQuote)
open Text (isWordChar)

/-! ### Names that programs look up -/

/-- The functions and methods of the opening. -/
def openingDefinitions : List Target.Definition :=
  Target.definitions (openingLines.map String.toList)

/-- The names that the bodies of the opening take from outside. -/
def bodyNames : List String :=
  (openingDefinitions.flatMap Target.Definition.globals).map String.ofList

/-- The lines of a program behind its instructions. -/
def recordingLines (outputs : List Output) : List String :=
  ["", "results = \x7b\x7d"] ++ outputs.map Output.render ++
    ["", "print(json.dumps(results, indent=2))"]

/-- The names that a line outside of all bodies takes from outside. -/
def lineNames (line : String) : List String :=
  (Target.lineGlobals line.toList).map String.ofList

/-- The names that a program looks up by itself: in the bodies of the opening, in the calls of its
instructions, and in the lines behind them. -/
def neededNames (instructions : List Instruction) (outputs : List Output) : List String :=
  bodyNames ++ instructions.flatMap (fun i => i.expr.target.callees) ++
    (recordingLines outputs).flatMap lineNames

/-- The names that no layout is refused for although the bodies of the opening need them. -/
def overlookedNames : List String :=
  ["IndexError", "NotImplementedError", "bool", "float", "list"]

theorem programLines_eq (instructions : List Instruction) (outputs : List Output)
    (o : ProgramOptions) : programLines instructions outputs o =
      openingLines.map o.fill ++ instructions.map Instruction.render ++ recordingLines outputs := by
  simp only [programLines, recordingLines, List.append_assoc]

/-! ### The opening -/

theorem mem_bodyNames {name : String} : name ∈ bodyNames ↔ name ∈ globalNames := by
  have hchars : name ∈ bodyNames ↔
      name.toList ∈ openingDefinitions.flatMap Target.Definition.globals := by
    rw [bodyNames, List.mem_map]
    constructor
    · rintro ⟨w, hw, rfl⟩
      rwa [String.toList_ofList]
    · intro hname
      exact ⟨name.toList, hname, String.ofList_toList⟩
  have hinjective : Function.Injective String.toList := fun _ _ => String.toList_injective
  rw [hchars, ← List.mem_eraseDups, openingDefinitions, soundTemplate_openingLines.globals,
    List.mem_map_of_injective hinjective]

theorem overlookedNames_subset : ∀ name ∈ overlookedNames, name ∈ bodyNames := by
  simp only [mem_bodyNames]
  decide

theorem isReserved_or_overlooked_of_mem_bodyNames {name : String} (h : name ∈ bodyNames) :
    isReserved name ∨ name ∈ overlookedNames := by
  have hall : ∀ name ∈ globalNames, isReserved name ∨ name ∈ overlookedNames := by decide
  exact hall name (mem_bodyNames.mp h)

/-! ### Outputs -/

namespace Address

theorem yields_variableName (cell : Address) {c : Char}
    (hc : (isWordChar c || isQuote c || c = '#') = false) :
    Yields (cell.variableName.toList ++ [c])
      (.word cell.variableName.toList :: Target.markPieces c) :=
  Target.yields_word cell.head?_variableName cell.isWordChar_variableName hc

end Address

/-- Texts with commas between them and a bracket behind them have the words of the texts. -/
theorem exists_yields_joined {parts : List String} {ws : String → List (List Char)}
    (h : ∀ part ∈ parts, ∀ c ∈ [',', ']'], ∃ ps, Yields (part.toList ++ [c]) ps ∧
      words ps = ws part) :
    ∃ ps, Yields ((Function.joined parts).toList ++ [']']) ps ∧ words ps = parts.flatMap ws := by
  induction parts with
  | nil => exact ⟨[.mark ']'], fun _ => rfl, rfl⟩
  | cons part rest ih =>
    obtain ⟨hpart, hrest⟩ := List.forall_mem_cons.mp h
    cases rest with
    | nil =>
      obtain ⟨ps, hps, hwords⟩ := hpart ']' (by decide)
      exact ⟨ps, by simpa [Function.joined] using hps, by simpa using hwords⟩
    | cons next rest =>
      obtain ⟨ps, hps, hwords⟩ := hpart ',' (by decide)
      obtain ⟨qs, hqs, hwords'⟩ := ih hrest
      have hspace : Yields [' '] [] := fun _ => rfl
      refine ⟨ps ++ [] ++ qs, ?_, ?_⟩
      · have htext : (Function.joined (part :: next :: rest)).toList ++ [']'] =
            part.toList ++ [','] ++ [' '] ++ ((Function.joined (next :: rest)).toList ++ [']']) := by
          simp [Function.joined, String.intercalate_cons_cons]
        rw [htext]
        exact (hps.append hspace).append hqs
      · rw [List.append_nil, Target.words_append, hwords, hwords', ← List.flatMap_cons]

theorem exists_yields_path (path : List String) :
    ∃ ps, Yields ((Function.joined (path.map quoted)).toList ++ [']']) ps ∧ words ps = [] := by
  have hparts : ∀ part ∈ path.map quoted, ∀ c ∈ [',', ']'], ∃ ps,
      Yields (part.toList ++ [c]) ps ∧ words ps = [] := by
    refine List.forall_mem_map.mpr fun text _ c hc => ⟨[.mark c], ?_, rfl⟩
    have hmark : Yields [c] [.mark c] := by
      simp only [List.mem_cons, List.not_mem_nil, or_false] at hc
      rcases hc with rfl | rfl <;> exact fun _ => rfl
    exact (Target.yields_quoted text).append hmark
  obtain ⟨ps, hps, hwords⟩ := exists_yields_joined hparts
  exact ⟨ps, hps, hwords.trans (List.flatMap_eq_nil_iff.mpr fun _ _ => rfl)⟩

theorem exists_yields_variables {vars : List String}
    (h : ∀ var ∈ vars, ∃ cell : Address, var = cell.variableName) :
    ∃ ps, Yields ((Function.joined vars).toList ++ [']']) ps ∧ words ps = vars.map String.toList := by
  have hparts : ∀ var ∈ vars, ∀ c ∈ [',', ']'], ∃ ps, Yields (var.toList ++ [c]) ps ∧
      words ps = [var.toList] := by
    intro var hvar c hc
    obtain ⟨cell, rfl⟩ := h var hvar
    simp only [List.mem_cons, List.not_mem_nil, or_false] at hc
    rcases hc with rfl | rfl <;> exact ⟨_, cell.yields_variableName (by decide), rfl⟩
  obtain ⟨ps, hps, hwords⟩ := exists_yields_joined hparts
  exact ⟨ps, hps, hwords.trans List.map_eq_flatMap.symm⟩

/-- The value of an output with the rest of its line: what is looked up there are its variables and
the results.  The variable that goes through a column is bound there. -/
theorem OutputValue.exists_yields_render {v : OutputValue}
    (h : ∀ var ∈ v.variables, ∃ cell : Address, var = cell.variableName) :
    ∃ ps, Yields (v.render ++ ", results)").toList ps ∧
      ∀ front, ∀ w ∈ words ps, Target.isKeyword w = false →
        w ∉ Target.loopTargets false (front ++ ps) →
          w = "results".toList ∨ ∃ var ∈ v.variables, w = var.toList := by
  cases v with
  | single var =>
    obtain ⟨cell, rfl⟩ := h var List.mem_cons_self
    have hvar := cell.yields_variableName (c := ',') (by decide)
    have hresults : Yields " results)".toList [.word "results".toList, .mark ')'] := fun _ => rfl
    have htext : ((single cell.variableName).render ++ ", results)").toList =
        cell.variableName.toList ++ [','] ++ " results)".toList := by
      have hcomma : ", results)".toList = [','] ++ " results)".toList := rfl
      change (cell.variableName ++ ", results)").toList = _
      rw [String.toList_append, hcomma, List.append_assoc]
    rw [htext]
    refine ⟨_, hvar.append hresults, fun _ w hw _ _ => ?_⟩
    rcases List.mem_cons.mp hw with rfl | hw
    · exact Or.inr ⟨_, List.mem_cons_self, rfl⟩
    · exact Or.inl (List.mem_singleton.mp hw)
  | column vars =>
    obtain ⟨ps, hps, hwords⟩ := exists_yields_variables h
    have hopen : Yields "[e for e in [".toList
        [.mark '[', .word ['e'], .word ['f', 'o', 'r'], .word ['e'], .word ['i', 'n'], .mark '['] :=
      fun _ => rfl
    have hclose : Yields " if e != ''], results)".toList
        [.word ['i', 'f'], .word ['e'], .mark '!', .mark '=', .mark ']', .mark ',',
          .word "results".toList, .mark ')'] := fun _ => rfl
    have htext : ((column vars).render ++ ", results)").toList =
        "[e for e in [".toList ++ ((Function.joined vars).toList ++ [']']) ++
          " if e != ''], results)".toList := by
      have hbracket : "] if e != '']".toList ++ ", results)".toList =
          [']'] ++ " if e != ''], results)".toList := rfl
      change (("[e for e in [" ++ Function.joined vars ++ "] if e != '']") ++ ", results)").toList = _
      simp only [String.toList_append, List.append_assoc, hbracket]
    rw [htext]
    refine ⟨_, (hopen.append hps).append hclose, fun front w hw hkeyword hfree => ?_⟩
    have hloop : w ≠ ['e'] := by
      rintro rfl
      refine hfree ?_
      simp only [List.cons_append, List.nil_append]
      rw [List.append_cons, List.append_cons]
      exact Target.mem_loopTargets (by decide) (by decide) false _ _
    have hkeywords : ∀ k ∈ [['f', 'o', 'r'], ['i', 'n'], ['i', 'f']], w ≠ k := by
      have hall : ∀ k ∈ [['f', 'o', 'r'], ['i', 'n'], ['i', 'f']], Target.isKeyword k := by decide
      rintro k hk rfl
      exact absurd (hall w hk) (Bool.eq_false_iff.mp hkeyword)
    rw [Target.words_append, Target.words_append, hwords] at hw
    rcases List.mem_append.mp hw with hw | hw
    · rcases List.mem_append.mp hw with hw | hw
      · change w ∈ [['e'], ['f', 'o', 'r'], ['e'], ['i', 'n']] at hw
        simp_all
      · obtain ⟨var, hvar, rfl⟩ := List.mem_map.mp hw
        exact Or.inr ⟨var, hvar, rfl⟩
    · change w ∈ [['i', 'f'], ['e'], "results".toList] at hw
      simp_all

/-- **An output looks up two fixed names and its variables**, whatever its labels are. -/
theorem Output.mem_lineNames_render {o : Output}
    (h : ∀ var ∈ o.value.variables, ∃ cell : Address, var = cell.variableName) {name : String}
    (hname : name ∈ lineNames o.render) :
    name = "add_path" ∨ name = "results" ∨ name ∈ o.value.variables := by
  obtain ⟨w, hw, rfl⟩ := List.mem_map.mp hname
  obtain ⟨ps, hps, hpath⟩ := exists_yields_path o.path
  obtain ⟨qs, hqs, hvalue⟩ := OutputValue.exists_yields_render h
  have hopen : Yields "add_path([".toList [.word "add_path".toList, .mark '(', .mark '['] :=
    fun _ => rfl
  have hcomma : Yields ", ".toList [.mark ','] := fun _ => rfl
  have hlabel := Target.yields_quoted o.label
  have htext : o.render.toList = "add_path([".toList ++
      ((Function.joined (o.path.map quoted)).toList ++ [']']) ++ ", ".toList ++
      (quoted o.label).toList ++ ", ".toList ++ (o.value.render ++ ", results)").toList := by
    have hbracket : "], ".toList = [']'] ++ ", ".toList := rfl
    change ("add_path([" ++ Function.joined (o.path.map quoted) ++ "], " ++ quoted o.label ++ ", " ++
      o.value.render ++ ", results)").toList = _
    simp only [String.toList_append, List.append_assoc, hbracket]
  have hline := ((((hopen.append hps).append hcomma).append hlabel).append hcomma).append hqs
  rw [← htext] at hline
  obtain ⟨hword, hkeyword, hfree⟩ := Target.mem_lineGlobals hline hw
  have hsplit : w = "add_path".toList ∨ w ∈ words qs := by
    simp only [Target.words_append, hpath] at hword
    exact (List.mem_append.mp hword).imp_left List.mem_singleton.mp
  rcases hsplit with rfl | hmem
  · exact Or.inl String.ofList_toList
  · rcases hvalue _ w hmem hkeyword hfree with rfl | ⟨var, hvar, rfl⟩
    · exact Or.inr (Or.inl String.ofList_toList)
    · rw [String.ofList_toList]
      exact Or.inr (Or.inr hvar)

theorem flatMap_lineNames_recordingLines (outputs : List Output) :
    (recordingLines outputs).flatMap lineNames =
      outputs.flatMap (fun o => lineNames o.render) ++ ["print", "json", "results"] := by
  have hopen : ["", "results = \x7b\x7d"].flatMap lineNames = [] := rfl
  have hclose : ["", "print(json.dumps(results, indent=2))"].flatMap lineNames =
      ["print", "json", "results"] := rfl
  rw [recordingLines, List.flatMap_append, List.flatMap_append, hopen, hclose, List.nil_append,
    List.flatMap_map]

/-! ### Layouts -/

theorem Layout.isReserved_of_check {l : Layout} (h : l.check = .ok ()) :
    isReserved l.accessor = false := by
  cases hname : isReserved l.accessor with
  | false => rfl
  | true =>
    rw [Layout.check, Layout.isIdentifier_of_check h, hname] at h
    cases h

theorem isName_of_isIdentifier {s : String} (h : isIdentifier s)
    (hkeyword : keywords.contains s = false) : Target.isName s := by
  have hchar : ∀ c, isWordChar c → Target.isNameChar c := by
    intro c hc
    simp only [isWordChar, Char.isAlphanum, Bool.or_eq_true] at hc
    simp only [Target.isNameChar, Target.isNameStart, Bool.or_eq_true]
    tauto
  unfold isIdentifier at h
  split at h
  case h_1 => cases h
  case h_2 c rest hs =>
    rw [Bool.and_eq_true, List.all_eq_true] at h
    have hfirst : Target.isNameStart c := by simp [Target.isNameStart, h.1]
    have hrest : rest.all Target.isNameChar :=
      List.all_eq_true.mpr fun d hd => hchar d (h.2 d hd)
    simp only [Target.isName, hs, hfirst, hrest, hkeyword]
    rfl

/-- An accessor that passes the check is a name for the program's language too. -/
theorem Layout.isName_of_check {l : Layout} (h : l.check = .ok ()) : Target.isName l.accessor := by
  have hreserved := Layout.isReserved_of_check h
  exact isName_of_isIdentifier (Layout.isIdentifier_of_check h)
    (Bool.or_eq_false_iff.mp hreserved).1

/-! ### Programs -/

/-- The fixed names that programs look up outside of the bodies are on the list of the check. -/
theorem isReserved_of_mem_fixed :
    ∀ name ∈ helperNames ++ ["print", "json", "results", "add_path"], isReserved name := by
  decide

/-- What a program looks up by itself is on the list of the check or overlooked by it, or it is a
variable. -/
theorem mem_neededNames {src : Source} (haccessor : Target.isName src.layout.accessor)
    {cells : List Address} {instructions : List Instruction}
    (hcompiled : src.Compiles cells instructions) {outputs : List Output}
    (hbound : ∀ o ∈ outputs, o.value.Bound cells) {name : String}
    (h : name ∈ neededNames instructions outputs) :
    isReserved name ∨ name ∈ overlookedNames ∨ name ∈ instructions.map Instruction.name := by
  rw [neededNames, flatMap_lineNames_recordingLines] at h
  simp only [List.mem_append] at h
  rcases h with (hbody | hcall) | hline | hline
  · exact (isReserved_or_overlooked_of_mem_bodyNames hbody).imp_right Or.inl
  · obtain ⟨i, hi, hcallee⟩ := List.mem_flatMap.mp hcall
    obtain ⟨cell, -, -, hmeans⟩ := hcompiled.exists_meaning hi
    have hhelper := Source.callsHelpers_meaning haccessor hmeans name hcallee
    exact Or.inl (isReserved_of_mem_fixed name (List.mem_append_left _ hhelper))
  · obtain ⟨o, ho, hname⟩ := List.mem_flatMap.mp hline
    have hvars : ∀ var ∈ o.value.variables, ∃ cell : Address, var = cell.variableName := by
      intro var hvar
      obtain ⟨cell, -, hcell⟩ := List.mem_map.mp (hbound o ho var hvar)
      exact ⟨cell, hcell.symm⟩
    rcases Output.mem_lineNames_render hvars hname with rfl | rfl | hvar
    · exact Or.inl (isReserved_of_mem_fixed _ (by decide))
    · exact Or.inl (isReserved_of_mem_fixed _ (by decide))
    · rw [hcompiled.names]
      exact Or.inr (Or.inr (hbound o ho name hvar))
  · refine Or.inl (isReserved_of_mem_fixed name (List.mem_append_right _ ?_))
    exact List.mem_append_left ["add_path"] hline

/-- **The accessor is in the way of a program exactly if it has an overlooked name or that of an
instruction.**  For every workbook that compiles under a layout that can be used: the bodies of the
opening stand in the program as they are; the accessor is neither bound again by an instruction nor
found where the program looks up a name by itself, exactly if it has none of the overlooked names and
no instruction has its name; and names of instructions end with a digit. -/
theorem accessor_unbroken_iff (src : Source) (name : String) (c : Compiled)
    (hcheck : src.layout.check = .ok ()) (h : src.compile name = .ok c) :
    ∃ outputs s, src.outputs.run {} = (.ok outputs, s) ∧
      let instructions := s.instructions.toList
      let options := src.layout.programOptions name
      let accessor := src.layout.accessor
      c.program.toList = unlines (openingLines.map options.fill ++
          instructions.map Instruction.render ++ recordingLines outputs) ∧
        (∀ d ∈ openingDefinitions, ∀ line ∈ d.body,
          options.fill (String.ofList line) = String.ofList line) ∧
        (accessor ∉ instructions.map Instruction.name ∧
            accessor ∉ neededNames instructions outputs ↔
          accessor ∉ overlookedNames ∧ accessor ∉ instructions.map Instruction.name) ∧
        ∀ i ∈ instructions, i.name.toList.getLast?.any Char.isDigit := by
  have haccessor := Layout.isName_of_check hcheck
  have hreserved := Layout.isReserved_of_check hcheck
  have hfresh : Session.Sound src [] {} := .fresh
  obtain ⟨cells, hgrown, hdone⟩ := Source.does_outputs hfresh rfl
  rcases hrun : src.outputs.run {} with ⟨why | outputs, s⟩
  · rw [Source.compile, hrun] at h
    cases h
  · rw [Source.compile, hrun] at h
    obtain rfl := Except.ok.inj h
    rw [show src.outputs {} = (.ok outputs, s) from hrun] at hgrown hdone
    obtain ⟨-, hbound, -⟩ := hdone outputs rfl
    have hcompiled := hgrown.sound.compiled
    refine ⟨outputs, s, rfl, ?_, fun d hd line hline => ?_, ⟨?_, ?_⟩, fun i hi => ?_⟩
    · rw [toList_assemble, programLines_eq]
    · refine ProgramOptions.fill_eq_self _ ?_
      rw [String.toList_ofList]
      exact soundTemplate_openingLines.bodies d hd line hline
    · rintro ⟨hnames, hneeded⟩
      refine ⟨fun hover => hneeded ?_, hnames⟩
      exact List.mem_append_left _ (List.mem_append_left _ (overlookedNames_subset _ hover))
    · rintro ⟨hover, hnames⟩
      refine ⟨hnames, fun hneeded => ?_⟩
      rcases mem_neededNames haccessor hcompiled hbound hneeded with hlisted | hmem | hmem
      · exact absurd hlisted (Bool.eq_false_iff.mp hreserved)
      · exact hover hmem
      · exact hnames hmem
    · obtain ⟨cell, -, hname, -⟩ := hcompiled.exists_meaning hi
      rw [hname]
      exact cell.getLast?_variableName

/-- A value and a table, with the accessor under the name that layouts choose by themselves. -/
theorem accessor_unbroken_iff_mixedTable :
    mixedTable.layout.check = .ok () ∧ ∃ c, mixedTable.compile "book.xlsx" = .ok c ∧
      ∃ outputs s, mixedTable.outputs.run {} = (.ok outputs, s) ∧
        "fapp_xml" ∉ s.instructions.toList.map Instruction.name ∧
        "fapp_xml" ∉ neededNames s.instructions.toList outputs := by
  obtain ⟨hcheck, hok⟩ : mixedTable.layout.check = .ok () ∧
      (mixedTable.compile "book.xlsx").isOk := by decide +kernel
  rcases hcompile : mixedTable.compile "book.xlsx" with why | c
  · rw [hcompile] at hok
    cases hok
  · obtain ⟨outputs, s, hrun, -, -, hiff, hdigit⟩ :=
      accessor_unbroken_iff mixedTable "book.xlsx" c hcheck hcompile
    refine ⟨hcheck, c, rfl, outputs, s, hrun, hiff.mpr ⟨by decide, fun hmem => ?_⟩⟩
    obtain ⟨i, hi, hname⟩ := List.mem_map.mp hmem
    have hlast := hdigit i hi
    rw [hname] at hlast
    exact absurd hlast (by decide)

/-- A report of one value, with the accessor under the given name. -/
def oneValue (accessor : String) : Source where
  workbook := { sheets := [((Sheet.new "report").setValue ⟨0, 0⟩ (.text "x")).setValue ⟨0, 1⟩
    (.text "y")] }
  layout := { accessor, entries := [.single [] "A1" "B1"] }

/-- **The check of a layout lets names pass that break programs**: each of the overlooked names, which
every program needs, and the name of an instruction. -/
theorem check_accepts_broken_accessor :
    (∀ name ∈ overlookedNames, (oneValue name).layout.check = .ok () ∧
      ((oneValue name).compile "book.xlsx").isOk ∧
      ∀ instructions outputs, name ∈ neededNames instructions outputs) ∧
    (oneValue "report_B1").layout.check = .ok () ∧
      ((oneValue "report_B1").compile "book.xlsx").isOk ∧
      "report_B1" ∈ ((oneValue "report_B1").outputs.run {}).2.instructions.toList.map
        Instruction.name := by
  obtain ⟨hpass, hbound⟩ : (∀ name ∈ overlookedNames ++ ["report_B1"],
      (oneValue name).layout.check = .ok () ∧ ((oneValue name).compile "book.xlsx").isOk) ∧
      "report_B1" ∈ ((oneValue "report_B1").outputs.run {}).2.instructions.toList.map
        Instruction.name := by decide +kernel
  refine ⟨fun name hname => ?_, ?_⟩
  · obtain ⟨hcheck, hok⟩ := hpass name (List.mem_append_left _ hname)
    refine ⟨hcheck, hok, fun _ _ => ?_⟩
    exact List.mem_append_left _ (List.mem_append_left _ (overlookedNames_subset name hname))
  · obtain ⟨hcheck, hok⟩ := hpass "report_B1" (List.mem_append_right _ List.mem_cons_self)
    exact ⟨hcheck, hok, hbound⟩

end ReportCompiler
