import ReportCompiler.Proofs.Formula.Scanning
import ReportCompiler.Proofs.Workbook.Names

/-!
# The spellings of a cell

A cell can be written in many ways: with dollar signs or without, in any case of the letters, behind
the title of its sheet in quotes or, when the title allows it, without quotes, and with no title at
all on the sheet itself.  Titles are arbitrary texts.  They go through the scanner of formulas, which
looks for the end of the quotes, and again through the reader of references, which undoes them, and
neither is misled by marks in the title.

## Main definitions

* `CoordinateText.Denotes` - the coordinate is written for a position.
* `Sheet.Qualifier` - the ways to write a title in front of a coordinate.
* `Workbook.Spelling` - the ways to write a cell.

## Main results

* `unquoteTitle_doubled` - a title in quotes is read back.
* `CoordinateText.Denotes.coordinate?_text` - so is a coordinate.
* `resolve_spelling` - **every spelling of a cell names this cell, with the title that the workbook
  has**, and the quoted ones are one operand of a formula.
-/

namespace ReportCompiler

open Text Formula

/-! ### Coordinates -/

namespace Formula.CoordinateText

/-- The coordinate is written for a position: the letters of its column in any case, and its row. -/
def Denotes (c : CoordinateText) (p : Coordinate) : Prop :=
  c.column.map Char.toUpper = columnLetters p.col ∧ c.row = Nat.toDigits 10 (p.row + 1)

variable {c : CoordinateText} {p : Coordinate}

namespace Denotes

theorem isAlpha_column (h : c.Denotes p) : ∀ d ∈ c.column, d.isAlpha :=
  isAlpha_of_map_toUpper h.1

theorem isDigit_row (h : c.Denotes p) : ∀ d ∈ c.row, d.isDigit := by
  rw [h.2]
  exact Decimal.isDigit_toDigits _

theorem row_ne_nil (h : c.Denotes p) : c.row ≠ [] := by
  rw [h.2]
  exact Nat.toDigits_ne_nil

theorem wellFormed (h : c.Denotes p) : c.wellFormed := by
  have hcolumn : c.column ≠ [] := by
    intro hnil
    have hletters := h.1
    rw [hnil] at hletters
    exact columnLetters_ne_nil p.col hletters.symm
  simp only [CoordinateText.wellFormed, areDigits, Bool.and_eq_true, List.all_eq_true]
  exact ⟨⟨h.isAlpha_column, by simpa using hcolumn⟩, h.isDigit_row, by simpa using h.row_ne_nil⟩

theorem isCoordinateChar_text (h : c.Denotes p) : ∀ d ∈ c.text, isCoordinateChar d := by
  have hdollar (fixed : Bool) : ∀ d ∈ dollar fixed, isCoordinateChar d := by
    cases fixed <;> simp [dollar, isCoordinateChar]
  intro d hd
  simp only [text, List.mem_append] at hd
  rcases hd with ((hd | hd) | hd) | hd
  · exact hdollar _ d hd
  · simp [isCoordinateChar, h.isAlpha_column d hd]
  · exact hdollar _ d hd
  · simp [isCoordinateChar, h.isDigit_row d hd]

theorem text_ne_nil (h : c.Denotes p) : c.text ≠ [] := by
  simp [text, h.row_ne_nil]

/-- Without its dollar signs the coordinate is letters and digits. -/
theorem filter_text (h : c.Denotes p) : c.text.filter (· != '$') = c.column ++ c.row := by
  have hdollar (fixed : Bool) : (dollar fixed).filter (· != '$') = [] := by
    cases fixed <;> rfl
  have hplain := filter_dollar_append h.isAlpha_column h.isDigit_row
  rw [List.filter_append] at hplain
  rw [text, List.filter_append, List.filter_append, List.filter_append, hdollar, hdollar,
    List.nil_append, List.append_nil, hplain]

/-- A coordinate that is written for a position on a sheet is read as this position. -/
theorem coordinate?_text (h : c.Denotes p) (hp : p.InSheet) :
    coordinate? (String.ofList c.text) = some p := by
  have hcolumn : column? c.column = some p.col := column?_of_map_toUpper h.1 hp.2
  have hrow : Decimal.ofDigits c.row = p.row + 1 := by
    rw [h.2, Decimal.ofDigits_toDigits]
  have hlimit : ¬ maxRows < p.row + 1 := Nat.not_lt.mpr hp.1
  rw [coordinate?_ofList h.isCoordinateChar_text h.filter_text h.isAlpha_column h.isDigit_row
    h.row_ne_nil, hcolumn, hrow]
  simp [hlimit]

end Denotes

end Formula.CoordinateText

/-! ### Titles -/

theorem splitOnce_append {sep : Char} {cs rest : List Char} (h : sep ∉ cs) :
    splitOnce sep (cs ++ sep :: rest) = some (cs, rest) := by
  induction cs with
  | nil => rw [List.nil_append, splitOnce, if_pos rfl]
  | cons c cs ih =>
    rw [List.mem_cons, not_or] at h
    rw [List.cons_append, splitOnce, if_neg (Ne.symm h.1), ih h.2]
    rfl

/-- A title with its quotes doubled is read back up to the quote behind it. -/
theorem unquoteTitle_doubled {rest : List Char} (hrest : rest.head? ≠ some '\'')
    (title : List Char) : unquoteTitle (doubled '\'' title ++ '\'' :: rest) = some (title, rest) := by
  induction title with
  | nil =>
    rw [doubled_nil, List.nil_append, unquoteTitle.eq_def]
    cases rest with
    | nil => rfl
    | cons d tail =>
      have hd : d ≠ '\'' := fun hd => hrest (congrArg some hd)
      simp [hd]
  | cons c title ih =>
    by_cases hc : c = '\''
    · rw [hc, doubled_cons_self, List.cons_append, List.cons_append, unquoteTitle.eq_def]
      simp [ih]
    · rw [doubled_cons_of_ne hc, List.cons_append, unquoteTitle.eq_def]
      simp [hc, ih]

theorem splitSheet_enclosed (title coord : List Char) :
    splitSheet (enclosed '\'' title ++ '!' :: coord) = .ok (some title, coord) := by
  have hread : unquoteTitle (doubled '\'' title ++ '\'' :: '!' :: coord) =
      some (title, '!' :: coord) := unquoteTitle_doubled (by simp) title
  rw [Scanner.enclosed_append]
  simp only [splitSheet, hread]

theorem splitSheet_bare {title : List Char} (hmark : '!' ∉ title)
    (hquote : title.head? ≠ some '\'') (coord : List Char) :
    splitSheet (title ++ '!' :: coord) = .ok (some title, coord) := by
  unfold splitSheet
  split
  · next rest hcs =>
    cases title with
    | nil => cases hcs
    | cons c title => exact absurd (congrArg some (List.cons.inj hcs).1) hquote
  · rw [splitOnce_append hmark]

/-- Titles that are equal up to case have the same characters other than letters. -/
theorem mem_iff_of_sameFold {title name : String} (h : sameFold title name) {d : Char}
    (hd : d.isAlpha = false) : d ∈ title.toList ↔ d ∈ name.toList := by
  have hfold (cs : List Char) : d ∈ cs.map Char.toLower ↔ d ∈ cs := by
    simp [toLower_eq_iff hd]
  rw [← hfold, ← hfold name.toList, beq_iff_eq.mp h]

/-- The title can stand in front of a coordinate without quotes. -/
def NeedsNoQuotes (title : String) : Prop :=
  '!' ∉ title.toList ∧ ∀ c ∈ title.toList.head?, c ≠ '\'' ∧ c ≠ '[' ∧ isBlank c = false

instance (title : String) : Decidable (NeedsNoQuotes title) :=
  inferInstanceAs (Decidable (_ ∧ _))

theorem isBlank_toLower (c : Char) : isBlank c.toLower = isBlank c := by
  by_cases hupper : c.isUpper
  · have hletter := isAlpha_of_isUpper hupper
    have hsmall : c.toLower.isAlpha := by rwa [Char.isAlpha_toLower_eq_isAlpha]
    rw [not_isBlank_of_isCoordinateChar (by simp [isCoordinateChar, hsmall]),
      not_isBlank_of_isCoordinateChar (by simp [isCoordinateChar, hletter])]
  · rw [Char.toLower_eq_of_not_isUpper hupper]

/-- Whether a title needs quotes does not depend on its case. -/
theorem NeedsNoQuotes.of_sameFold {title name : String} (h : NeedsNoQuotes name)
    (hfold : sameFold title name) : NeedsNoQuotes title := by
  refine ⟨fun hmark => h.1 ((mem_iff_of_sameFold hfold (by decide)).mp hmark), fun c hc => ?_⟩
  have hheads : title.toList.head?.map Char.toLower = name.toList.head?.map Char.toLower := by
    rw [← List.head?_map, ← List.head?_map, beq_iff_eq.mp hfold]
  rw [hc, Option.map_some, eq_comm, Option.map_eq_some_iff] at hheads
  obtain ⟨d, hd, hlower⟩ := hheads
  obtain ⟨hquote, hbracket, hblank⟩ := h.2 d hd
  have hne {e : Char} (he : e.isAlpha = false) (hde : d ≠ e) : c ≠ e := by
    rw [Ne, ← toLower_eq_iff he, ← hlower, toLower_eq_iff he]
    exact hde
  refine ⟨hne rfl hquote, hne rfl hbracket, ?_⟩
  rw [← isBlank_toLower, ← hlower, isBlank_toLower, hblank]

/-- The ways to write the title of a sheet in front of a coordinate, in any case: in quotes, or
without them if it needs none. -/
inductive Sheet.Qualifier (s : Sheet) : List Char → Prop
  | quoted {title : String} (htitle : sameFold title s.name) :
    Qualifier s (qualifier (some title))
  | bare {title : String} (htitle : sameFold title s.name) (hplain : NeedsNoQuotes s.name) :
    Qualifier s (title.toList ++ ['!'])

namespace Sheet.Qualifier

variable {s : Sheet} {front : List Char}

/-- The title is found in front of whatever stands behind it. -/
theorem splitSheet (h : s.Qualifier front) (coord : List Char) : ∃ title, sameFold title s.name ∧
    splitSheet (front ++ coord) = .ok (some title.toList, coord) := by
  cases h with
  | @quoted title htitle =>
    refine ⟨title, htitle, ?_⟩
    rw [qualifier, List.append_assoc]
    exact splitSheet_enclosed _ _
  | @bare title htitle hplain =>
    obtain ⟨hmark, hhead⟩ := hplain.of_sameFold htitle
    refine ⟨title, htitle, ?_⟩
    rw [List.append_assoc]
    exact splitSheet_bare hmark (fun hquote => (hhead _ hquote).1 rfl) _

theorem exists_head (h : s.Qualifier front) :
    ∃ c rest, front = c :: rest ∧ c ≠ '[' ∧ isBlank c = false := by
  cases h with
  | quoted => exact ⟨_, _, rfl, by decide, by decide⟩
  | @bare title htitle hplain =>
    obtain ⟨-, hhead⟩ := hplain.of_sameFold htitle
    cases hchars : title.toList with
    | nil => exact ⟨_, _, rfl, by decide, by decide⟩
    | cons c rest => exact ⟨c, _, rfl, (hhead c (by rw [hchars]; rfl)).2⟩

theorem mark_mem (h : s.Qualifier front) : '!' ∈ front := by
  cases h <;> simp [qualifier]

end Sheet.Qualifier

/-! ### Spellings -/

namespace Workbook

/-- The ways to write the cell at a position of a sheet, seen from the sheet `current`. -/
inductive Spelling (wb : Workbook) (current : String) (s : Sheet) (p : Coordinate) : String → Prop
  /-- Behind the title in quotes, in any case. -/
  | quoted {title : String} {c : CoordinateText} (htitle : sameFold title s.name)
    (hc : c.Denotes p) : Spelling wb current s p (String.ofList (qualifier (some title) ++ c.text))
  /-- Behind the title without quotes, in any case. -/
  | bare {title : String} {c : CoordinateText} (htitle : sameFold title s.name)
    (hplain : NeedsNoQuotes s.name) (hc : c.Denotes p) :
    Spelling wb current s p (String.ofList (title.toList ++ '!' :: c.text))
  /-- Without a title on the sheet itself, if the text is no defined name. -/
  | unqualified {c : CoordinateText} (hcurrent : sameFold current s.name) (hc : c.Denotes p)
    (hnames : wb.names.get? (String.ofList c.text) = none) :
    Spelling wb current s p (String.ofList c.text)

variable {wb : Workbook} {current : String} {s : Sheet} {p : Coordinate}

/-- A coordinate behind a title is the cell on the sheet with this title, however the title is
written. -/
theorem resolve_qualified (hbuilt : wb.Built) (hs : s ∈ wb.sheets) (hp : p.InSheet)
    {front : List Char} (hfront : s.Qualifier front) {c : CoordinateText} (hc : c.Denotes p) :
    wb.resolve current (String.ofList (front ++ c.text)) = .ok (.cell (.ofPosition s.name p)) := by
  obtain ⟨d, rest, hd, hbracket, hblank⟩ := hfront.exists_head
  have hlast : ∀ d ∈ (front ++ c.text).getLast?, isBlank d = false := by
    intro d hd
    rw [List.getLast?_append_of_ne_nil _ hc.text_ne_nil] at hd
    exact not_isBlank_of_isCoordinateChar (hc.isCoordinateChar_text d (List.mem_of_getLast? hd))
  have hhead : (front ++ c.text).head? = some d := by rw [hd]; rfl
  have htrim : trimChars (String.ofList (front ++ c.text)).toList = front ++ c.text := by
    rw [String.toList_ofList]
    refine trimChars_eq_self ?_ hlast
    rw [hhead]
    rintro _ ⟨⟩
    exact hblank
  have hmark : '!' ∈ trimChars (String.ofList (front ++ c.text)).toList := by
    rw [htrim]
    exact List.mem_append_left _ hfront.mark_mem
  obtain ⟨title, htitle, hsplit⟩ := hfront.splitSheet c.text
  obtain ⟨sheet, hsheet, hname⟩ :=
    HasTitle.exists_sheet?_fold hbuilt.titlesDistinct ⟨s, hs, rfl⟩ htitle
  have hcolon : splitOnce ':' c.text = none :=
    splitOnce_eq_none fun hmem => nomatch hc.isCoordinateChar_text ':' hmem
  have hdirect : wb.resolveDirect current (front ++ c.text) =
      .ok (.cell (.ofPosition s.name p)) := by
    rw [resolveDirect, hsplit]
    simp only [bind, Except.bind, String.ofList_toList, hsheet, hcolon, hc.coordinate?_text hp, hname]
    rfl
  rw [resolve_eq, hbuilt.get?_eq_none (by decide) (by decide) (by decide) hmark, htrim, hdirect]
  · rfl
  · exact List.ne_nil_of_mem hmark
  · rw [htrim, hhead]
    exact fun heq => hbracket (Option.some.inj heq)

/-- Every spelling names the cell. -/
theorem Spelling.resolve_eq (hbuilt : wb.Built) (hs : s ∈ wb.sheets) (hp : p.InSheet)
    {text : String} (h : wb.Spelling current s p text) :
    wb.resolve current text = .ok (.cell (.ofPosition s.name p)) := by
  cases h with
  | quoted htitle hc => exact resolve_qualified hbuilt hs hp (.quoted htitle) hc
  | @bare title c htitle hplain hc =>
    rw [List.append_cons]
    exact resolve_qualified hbuilt hs hp (.bare htitle hplain) hc
  | unqualified hcurrent hc hnames =>
    obtain ⟨sheet, hsheet, hname⟩ :=
      HasTitle.exists_sheet?_fold hbuilt.titlesDistinct ⟨s, hs, rfl⟩ hcurrent
    rw [resolve_coordinate (hc.coordinate?_text hp) hsheet, hnames, hname]

end Workbook

/-- A quoted spelling is one operand of a formula. -/
theorem tokenize_quoted {c : CoordinateText} {p : Coordinate} (hc : c.Denotes p) (title : String) :
    tokenize ("=" ++ String.ofList (qualifier (some title) ++ c.text)) =
      .ok [⟨.operand, .range, String.ofList (qualifier (some title) ++ c.text)⟩] := by
  have hformed : (ReferenceText.cell (some title) c).wellFormed := hc.wellFormed
  have htokens := Term.tokenize_written (t := .reference (.cell (some title) c)) hformed
  rw [Term.written, Term.tokens, Token.operand, operandSubkind_reference hformed] at htokens
  exact htokens

/-- **Every spelling of a cell names this cell, with the title that the workbook has.**  A quoted one
is one operand of a formula. -/
theorem resolve_spelling {wb : Workbook} (hbuilt : wb.Built) {s : Sheet} (hs : s ∈ wb.sheets)
    {p : Coordinate} (hp : p.InSheet) :
    (∀ current text, wb.Spelling current s p text →
      wb.resolve current text = .ok (.cell (.ofPosition s.name p))) ∧
    ∀ (title : String) (c : CoordinateText), c.Denotes p →
      tokenize ("=" ++ String.ofList (qualifier (some title) ++ c.text)) =
        .ok [⟨.operand, .range, String.ofList (qualifier (some title) ++ c.text)⟩] :=
  ⟨fun _ _ h => h.resolve_eq hbuilt hs hp, fun title _ hc => tokenize_quoted hc title⟩

/-- A title with quotes, brackets, a colon and an exclamation mark, written in another case. -/
theorem resolve_spelling_crowdedTitle :
    (⟨[{ name := "it's [a]: b!" }], {}⟩ : Workbook).Built ∧
      (⟨99, 27⟩ : Coordinate).InSheet ∧
        (⟨[{ name := "it's [a]: b!" }], {}⟩ : Workbook).resolve "other" "'IT''S [a]: B!'!$aB100" =
          .ok (.cell ⟨"it's [a]: b!", 99, 27⟩) ∧
        tokenize "='IT''S [a]: B!'!$aB100" =
          .ok [⟨.operand, .range, "'IT''S [a]: B!'!$aB100"⟩] := by
  have hbuilt : (⟨[{ name := "it's [a]: b!" }], {}⟩ : Workbook).Built := .addSheet .new rfl
  have hp : (⟨99, 27⟩ : Coordinate).InSheet := by decide
  have hc : CoordinateText.Denotes ⟨true, ['a', 'B'], false, ['1', '0', '0']⟩ ⟨99, 27⟩ := by
    refine ⟨?_, by decide⟩
    simp [columnLetters, columnLetter]
  have htitle : sameFold "IT'S [a]: B!" "it's [a]: b!" := by decide
  have htext : String.ofList (qualifier (some "IT'S [a]: B!") ++
      CoordinateText.text ⟨true, ['a', 'B'], false, ['1', '0', '0']⟩) =
        "'IT''S [a]: B!'!$aB100" := by
    decide
  obtain ⟨hresolve, htokens⟩ := resolve_spelling hbuilt List.mem_cons_self hp
  have hcell := hresolve "other" _ (.quoted htitle hc)
  have hoperand := htokens "IT'S [a]: B!" _ hc
  rw [htext] at hcell hoperand
  exact ⟨hbuilt, hp, hcell, hoperand⟩

end ReportCompiler
