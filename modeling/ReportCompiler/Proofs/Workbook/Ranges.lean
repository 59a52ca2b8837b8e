import ReportCompiler.Proofs.Cell.NormalForm
import ReportCompiler.Proofs.Workbook.Spelling

/-!
# Ranges

A range is written with two corners and a colon between them.  The corners may be any two opposite
ones, in any order; the sheet may stand in front of both, of the first or of none; and there may be
blanks around each corner.  All these texts name the same cells in the same order, or none does
because there are too many.

## Main definitions

* `Coordinate.box` - the rows and columns of the rectangle between two corners.
* `Coordinate.opposites` - the ways to give it by two opposite corners.
* `Workbook.RangeSpelling` - the ways to write a range.

## Main results

* `mem_rectangle`, `pairwise_rectangle` - a rectangle is listed row by row, with each cell once.
* `rectangle_of_mem_opposites` - it does not matter which opposite corners are given.
* `Workbook.inSheet_of_resolve` - **the cells that a reference names lie within the limits of a
  sheet.**
* `Workbook.RangeSpelling.resolve_eq` - every spelling of a range names its rectangle, if that has
  not too many cells.
* `resolve_range` - **what references name, and what ranges name exactly.**
-/

namespace ReportCompiler

open Text Formula

/-! ### Blanks -/

namespace Text

theorem trimRight_append {front back : List Char} (h : ∃ c ∈ back, isBlank c = false) :
    trimRight (front ++ back) = front ++ trimRight back := by
  obtain ⟨c, hc, hblank⟩ := h
  have hne : (back.reverse.dropWhile isBlank).isEmpty = false := by
    rw [Bool.eq_false_iff, Ne, List.isEmpty_iff, List.dropWhile_eq_nil_iff]
    intro hall
    rw [hall c (List.mem_reverse.mpr hc)] at hblank
    cases hblank
  rw [trimRight, List.reverse_append, List.dropWhile_append, hne, if_neg Bool.false_ne_true,
    List.reverse_append, List.reverse_reverse, trimRight]

theorem mem_dropWhile_isBlank {cs : List Char} {c : Char} (hc : isBlank c = false) (h : c ∈ cs) :
    c ∈ cs.dropWhile isBlank := by
  rw [← List.takeWhile_append_dropWhile (p := isBlank) (l := cs), List.mem_append] at h
  refine h.resolve_left fun hfront => ?_
  rw [List.mem_takeWhile_imp hfront] at hc
  cases hc

theorem exists_not_isBlank {cs : List Char} (h : trimChars cs ≠ []) : ∃ c ∈ cs, isBlank c = false := by
  by_contra hblank
  simp only [not_exists, not_and, Bool.not_eq_false] at hblank
  rw [trimChars, List.dropWhile_eq_nil_iff.mpr hblank] at h
  exact h rfl

/-- A mark that is no blank keeps what stands before and behind it apart. -/
theorem trimChars_append_cons {mark : Char} (hmark : isBlank mark = false) (front back : List Char) :
    trimChars (front ++ mark :: back) = front.dropWhile isBlank ++ mark :: trimRight back := by
  have hdrop : (front ++ mark :: back).dropWhile isBlank =
      front.dropWhile isBlank ++ mark :: back := by
    rw [List.dropWhile_append]
    split
    · next hnil =>
      rw [List.isEmpty_iff.mp hnil, List.dropWhile_cons, hmark]
      rfl
    · rfl
  have hright : trimRight (mark :: back) = mark :: trimRight back := by
    rw [trimRight, List.reverse_cons, List.dropWhile_append]
    split
    · next hnil =>
      rw [trimRight, List.isEmpty_iff.mp hnil, List.dropWhile_cons, hmark]
      rfl
    · rw [List.reverse_append, trimRight]
      rfl
  rw [trimChars, hdrop, trimRight_append ⟨mark, List.mem_cons_self, hmark⟩, hright]

/-- Trimming loses blanks only. -/
theorem mem_trimChars {cs : List Char} {c : Char} (hc : isBlank c = false) (h : c ∈ cs) :
    c ∈ trimChars cs := by
  rw [trimChars, trimRight, List.mem_reverse]
  exact mem_dropWhile_isBlank hc (List.mem_reverse.mpr (mem_dropWhile_isBlank hc h))

theorem trimChars_dropWhile (cs : List Char) : trimChars (cs.dropWhile isBlank) = trimChars cs := by
  rw [trimChars, dropWhile_isBlank_eq_self (not_isBlank_head_dropWhile cs), trimChars]

theorem trimChars_trimRight {cs : List Char} (h : ∃ c ∈ cs, isBlank c = false) :
    trimChars (trimRight cs) = trimChars cs := by
  obtain ⟨c, hc, hblank⟩ := h
  have hsplit := List.takeWhile_append_dropWhile (p := isBlank) (l := cs)
  have hright : trimRight cs = cs.takeWhile isBlank ++ trimChars cs := by
    rw [trimChars, ← trimRight_append ⟨c, mem_dropWhile_isBlank hblank hc, hblank⟩, hsplit]
  rw [hright, trimChars, List.dropWhile_append_of_pos fun d hd => List.mem_takeWhile_imp hd,
    ← trimChars, trimChars_trimChars]

end Text

/-- A character that no coordinate has stands in no text that is read as one. -/
theorem notMem_of_coordinate? {cs : List Char} {p : Coordinate}
    (h : coordinate? (String.ofList cs) = some p) {d : Char} (hd : isCoordinateChar d = false)
    (hblank : isBlank d = false) : d ∉ cs := by
  intro hmem
  refine not_mem_of_coordinate? h hd ?_
  rw [String.toList_ofList]
  exact mem_trimChars hblank hmem

theorem exists_not_isBlank_of_coordinate? {cs : List Char} {p : Coordinate}
    (h : coordinate? (String.ofList cs) = some p) : ∃ c ∈ cs, isBlank c = false := by
  have hne := (chars_of_coordinate? h).1
  rw [String.toList_ofList] at hne
  exact exists_not_isBlank hne

/-- Only what is left by trimming counts. -/
theorem coordinate?_of_trimChars {cs ds : List Char} (h : trimChars cs = trimChars ds) :
    coordinate? (String.ofList cs) = coordinate? (String.ofList ds) := by
  rw [coordinate?, coordinate?, String.toList_ofList, String.toList_ofList, h]

/-! ### Rectangles -/

/-- The rows and columns of the rectangle between two corners. -/
def Coordinate.box (p q : Coordinate) : Finset (Nat × Nat) :=
  Finset.uIcc p.row q.row ×ˢ Finset.uIcc p.col q.col

theorem mem_span {a b n : Nat} : n ∈ span a b ↔ n ∈ Finset.uIcc a b := by
  rw [span, List.mem_map, Finset.mem_uIcc]
  change _ ↔ min a b ≤ n ∧ n ≤ max a b
  constructor
  · rintro ⟨i, hi, rfl⟩
    rw [List.mem_range] at hi
    omega
  · rintro ⟨hlow, hhigh⟩
    exact ⟨n - min a b, List.mem_range.mpr (by omega), by omega⟩

theorem pairwise_span (a b : Nat) : (span a b).Pairwise (· < ·) := by
  rw [span, List.pairwise_map]
  exact List.pairwise_lt_range.imp fun h => by omega

theorem span_comm (a b : Nat) : span a b = span b a := by
  rw [span, span, Nat.max_comm, Nat.min_comm]

theorem extent_eq_card (a b : Nat) : extent a b = (Finset.uIcc a b).card := by
  rw [Nat.card_uIcc, extent]
  omega

theorem card_box (p q : Coordinate) :
    (p.box q).card = extent p.row q.row * extent p.col q.col := by
  rw [Coordinate.box, Finset.card_product, extent_eq_card, extent_eq_card]

/-- A rectangle has the cells between its corners. -/
theorem mem_rectangle {sheet : String} {p q : Coordinate} {a : Address} :
    a ∈ rectangle sheet p q ↔ a.sheet = sheet ∧ (a.row, a.col) ∈ p.box q := by
  rw [Coordinate.box, Finset.mem_product, ← mem_span, ← mem_span, rectangle, List.mem_flatMap]
  constructor
  · rintro ⟨row, hrow, ha⟩
    obtain ⟨col, hcol, rfl⟩ := List.mem_map.mp ha
    exact ⟨rfl, hrow, hcol⟩
  · rintro ⟨rfl, hrow, hcol⟩
    exact ⟨a.row, hrow, List.mem_map.mpr ⟨a.col, hcol, rfl⟩⟩

/-- One cell comes before another, row by row and from left to right in a row. -/
def Address.Before (a b : Address) : Prop :=
  a.row < b.row ∨ a.row = b.row ∧ a.col < b.col

theorem Address.Before.ne {a b : Address} (h : a.Before b) : a ≠ b := by
  rintro rfl
  rcases h with hrow | ⟨-, hcol⟩
  · exact lt_irrefl _ hrow
  · exact lt_irrefl _ hcol

/-- A rectangle is listed row by row. -/
theorem pairwise_rectangle (sheet : String) (p q : Coordinate) :
    (rectangle sheet p q).Pairwise Address.Before := by
  rw [rectangle, List.pairwise_flatMap]
  constructor
  · intro row _
    rw [List.pairwise_map]
    exact (pairwise_span _ _).imp fun hcol => Or.inr ⟨rfl, hcol⟩
  · refine (pairwise_span _ _).imp fun hrow a ha b hb => ?_
    obtain ⟨_, -, rfl⟩ := List.mem_map.mp ha
    obtain ⟨_, -, rfl⟩ := List.mem_map.mp hb
    exact Or.inl hrow

/-- The four ways to give a rectangle by two opposite corners. -/
def Coordinate.opposites (p q : Coordinate) : List (Coordinate × Coordinate) :=
  [(p, q), (q, p), (⟨p.row, q.col⟩, ⟨q.row, p.col⟩), (⟨q.row, p.col⟩, ⟨p.row, q.col⟩)]

/-- It does not matter which opposite corners are given. -/
theorem rectangle_of_mem_opposites {p q : Coordinate} {corners : Coordinate × Coordinate}
    (h : corners ∈ p.opposites q) :
    corners.1.box corners.2 = p.box q ∧
      ∀ sheet, rectangle sheet corners.1 corners.2 = rectangle sheet p q := by
  simp only [Coordinate.opposites, List.mem_cons, List.not_mem_nil, or_false] at h
  simp only [Coordinate.box, rectangle]
  rcases h with rfl | rfl | rfl | rfl
  · exact ⟨rfl, fun _ => rfl⟩
  · simp only [Finset.uIcc_comm q.row, Finset.uIcc_comm q.col, span_comm q.row, span_comm q.col,
      true_and, implies_true]
  · simp only [Finset.uIcc_comm q.col, span_comm q.col, true_and, implies_true]
  · simp only [Finset.uIcc_comm q.row, span_comm q.row, true_and, implies_true]

theorem inSheet_of_mem_opposites {p q : Coordinate} (hp : p.InSheet) (hq : q.InSheet)
    {corners : Coordinate × Coordinate} (h : corners ∈ p.opposites q) :
    corners.1.InSheet ∧ corners.2.InSheet := by
  simp only [Coordinate.opposites, List.mem_cons, List.not_mem_nil, or_false] at h
  rcases h with rfl | rfl | rfl | rfl
  · exact ⟨hp, hq⟩
  · exact ⟨hq, hp⟩
  · exact ⟨⟨hp.1, hq.2⟩, ⟨hq.1, hp.2⟩⟩
  · exact ⟨⟨hq.1, hp.2⟩, ⟨hp.1, hq.2⟩⟩

/-! ### The limits of a sheet -/

namespace Workbook

variable {wb : Workbook} {current : String}

theorem inSheet_of_mem_rectangle {sheet : String} {p q : Coordinate} (hp : p.InSheet)
    (hq : q.InSheet) {a : Address} (h : a ∈ rectangle sheet p q) : a.position.InSheet := by
  obtain ⟨-, hbox⟩ := mem_rectangle.mp h
  obtain ⟨hrow, hcol⟩ := Finset.mem_product.mp hbox
  have hrow := (Finset.mem_uIcc.mp hrow).2
  have hcol := (Finset.mem_uIcc.mp hcol).2
  exact ⟨hrow.trans_lt (max_lt hp.1 hq.1), hcol.trans_lt (max_lt hp.2 hq.2)⟩

/-- **The cells that a reference names lie within the limits of a sheet.** -/
theorem inSheet_of_resolve {raw : String} {named : Resolved}
    (h : wb.resolve current raw = .ok named) : ∀ a ∈ named.cells, a.position.InSheet := by
  obtain ⟨cs, hdirect⟩ := exists_of_resolve h
  obtain ⟨sheet, -, ⟨t, p, hp, rfl⟩ | ⟨t, u, p, q, hp, hq, rfl⟩⟩ := exists_of_resolveDirect hdirect
  · intro a ha
    rw [List.mem_singleton.mp ha]
    exact (coordinate?_eq_some_iff.mp hp).1
  · intro a ha
    exact inSheet_of_mem_rectangle (coordinate?_eq_some_iff.mp hp).1
      (coordinate?_eq_some_iff.mp hq).1 ha

/-! ### Spellings -/

/-- The ways to write a range with two corners on a sheet, seen from the sheet `current`. -/
inductive RangeSpelling (current : String) (s : Sheet) (p q : Coordinate) : String → Prop
  /-- Without a title on the sheet itself. -/
  | unqualified {first last : List Char} (hcurrent : sameFold current s.name)
    (hfirst : p.WrittenAs first) (hlast : q.WrittenAs last) :
    RangeSpelling current s p q (String.ofList (first ++ ':' :: last))
  /-- Behind the title. -/
  | qualified {front first last : List Char} (hfront : s.Qualifier front)
    (hfirst : p.WrittenAs first) (hlast : q.WrittenAs last) :
    RangeSpelling current s p q (String.ofList (front ++ (first ++ ':' :: last)))
  /-- With the title in front of both corners. -/
  | repeated {front first back last : List Char} (hfront : s.Qualifier front)
    (hback : s.Qualifier back) (hfirst : p.WrittenAs first) (hlast : q.WrittenAs last) :
    RangeSpelling current s p q (String.ofList (front ++ (first ++ ':' :: (back ++ last))))

/-- The second corner, without a title in front. -/
theorem secondHalf_plain {last : List Char} {q : Coordinate}
    (hlast : coordinate? (String.ofList last) = some q) (sheet : String) :
    secondHalf sheet last = .ok last := by
  have hsplit := splitSheet_eq_none (notMem_of_coordinate? hlast (d := '\'') rfl rfl)
    (notMem_of_coordinate? hlast (d := '!') rfl rfl)
  rw [secondHalf, hsplit]

/-- The second corner, behind the title of the sheet of the first one. -/
theorem secondHalf_qualified {s : Sheet} {back : List Char} (hback : s.Qualifier back)
    (last : List Char) : secondHalf s.name (back ++ last) = .ok last := by
  obtain ⟨title, htitle, hsplit⟩ := hback.splitSheet last
  simp only [secondHalf, hsplit, String.ofList_toList, htitle, if_true]

theorem resolveRange_eq {sheet : String} {first rest last : List Char} {p q : Coordinate}
    (hfirst : coordinate? (String.ofList first) = some p) (hsecond : secondHalf sheet rest = .ok last)
    (hlast : coordinate? (String.ofList last) = some q) :
    resolveRange sheet first rest =
      if (p.box q).card ≤ maxRangeCells then .ok (.range (rectangle sheet p q))
      else .error (.tooLarge (extent p.row q.row) (extent p.col q.col)) := by
  rw [resolveRange, hsecond, card_box]
  simp only [bind, Except.bind, hfirst, hlast]
  rfl

/-- A text that is split into the title of a sheet and two corners names the rectangle between
them. -/
theorem resolve_of_split (hbuilt : wb.Built) {s : Sheet} (hs : s ∈ wb.sheets) {text : String}
    {cs first rest last : List Char} {title : Option (List Char)} {p q : Coordinate}
    (htrim : trimChars text.toList = cs) (hbracket : cs.head? ≠ some '[') (hcolon : ':' ∈ cs)
    (hsplit : splitSheet cs = .ok (title, first ++ ':' :: rest))
    (htitle : sameFold (title.elim current String.ofList) s.name)
    (hfirst : coordinate? (String.ofList first) = some p)
    (hsecond : secondHalf s.name rest = .ok last)
    (hlast : coordinate? (String.ofList last) = some q) :
    wb.resolve current text =
      if (p.box q).card ≤ maxRangeCells then .ok (.range (rectangle s.name p q))
      else .error ⟨text, .tooLarge (extent p.row q.row) (extent p.col q.col)⟩ := by
  subst htrim
  obtain ⟨sheet, hsheet, hname⟩ :=
    HasTitle.exists_sheet?_fold hbuilt.titlesDistinct ⟨s, hs, rfl⟩ htitle
  have hcorners : splitOnce ':' (first ++ ':' :: rest) = some (first, rest) :=
    splitOnce_append (notMem_of_coordinate? hfirst rfl rfl)
  have hdirect : wb.resolveDirect current (trimChars text.toList) = resolveRange s.name first rest := by
    rw [resolveDirect, hsplit]
    cases title <;>
      · simp only [Option.elim] at hsheet
        simp only [bind, Except.bind, hsheet, hcorners, hname]
  rw [resolve_eq wb current (List.ne_nil_of_mem hcolon) hbracket,
    hbuilt.get?_eq_none (by decide) (by decide) (by decide) hcolon, hdirect,
    resolveRange_eq hfirst hsecond hlast]
  by_cases hcard : (p.box q).card ≤ maxRangeCells
  · rw [if_pos hcard, if_pos hcard]
    rfl
  · rw [if_neg hcard, if_neg hcard]
    rfl

/-- Behind a title it does not matter which blanks stand at the end. -/
theorem resolve_behind (hbuilt : wb.Built) {s : Sheet} (hs : s ∈ wb.sheets)
    {front first rest last : List Char} {p q : Coordinate} (hfront : s.Qualifier front)
    (hfirst : coordinate? (String.ofList first) = some p)
    (hsecond : secondHalf s.name (trimRight rest) = .ok last)
    (hlast : coordinate? (String.ofList last) = some q) :
    wb.resolve current (String.ofList (front ++ (first ++ ':' :: rest))) =
      if (p.box q).card ≤ maxRangeCells then .ok (.range (rectangle s.name p q))
      else .error ⟨String.ofList (front ++ (first ++ ':' :: rest)),
        .tooLarge (extent p.row q.row) (extent p.col q.col)⟩ := by
  obtain ⟨c, tail, hc, hbracket, hblank⟩ := hfront.exists_head
  obtain ⟨title, htitle, hsplit⟩ := hfront.splitSheet (first ++ ':' :: trimRight rest)
  have hdrop : (front ++ first).dropWhile isBlank = front ++ first := by
    apply dropWhile_isBlank_eq_self
    rw [hc]
    rintro _ ⟨⟩
    exact hblank
  have htrim : trimChars (String.ofList (front ++ (first ++ ':' :: rest))).toList =
      front ++ (first ++ ':' :: trimRight rest) := by
    rw [String.toList_ofList, ← List.append_assoc, trimChars_append_cons rfl, hdrop,
      List.append_assoc]
  refine resolve_of_split hbuilt hs htrim ?_ (by simp) hsplit ?_ hfirst hsecond hlast
  · rw [hc]
    exact fun hhead => hbracket (Option.some.inj hhead)
  · rwa [Option.elim, String.ofList_toList]

/-- **Every spelling of a range names the rectangle between its corners**, unless that has too many
cells. -/
theorem RangeSpelling.resolve_eq (hbuilt : wb.Built) {s : Sheet} (hs : s ∈ wb.sheets)
    {p q : Coordinate} (hp : p.InSheet) (hq : q.InSheet) {text : String}
    (h : RangeSpelling current s p q text) :
    wb.resolve current text =
      if (p.box q).card ≤ maxRangeCells then .ok (.range (rectangle s.name p q))
      else .error ⟨text, .tooLarge (extent p.row q.row) (extent p.col q.col)⟩ := by
  -- a corner is read the same without the blanks at the end of the text
  have hread {r : Coordinate} (hr : r.InSheet) {cs : List Char} (hcs : r.WrittenAs cs) :
      coordinate? (String.ofList cs) = some r ∧
        coordinate? (String.ofList (trimRight cs)) = some r := by
    have hplain : coordinate? (String.ofList cs) = some r :=
      coordinate?_eq_some_iff.mpr ⟨hr, by rwa [String.toList_ofList]⟩
    have hnonblank := exists_not_isBlank_of_coordinate? hplain
    exact ⟨hplain, (coordinate?_of_trimChars (trimChars_trimRight hnonblank)).trans hplain⟩
  cases h with
  | @unqualified first last hcurrent hfirst hlast =>
    have hfront : coordinate? (String.ofList (first.dropWhile isBlank)) = some p :=
      (coordinate?_of_trimChars (trimChars_dropWhile first)).trans (hread hp hfirst).1
    have hback := (hread hq hlast).2
    have hnone {d : Char} (hd : isCoordinateChar d = false) (hblank : isBlank d = false)
        (hcolon : d ≠ ':') : d ∉ first.dropWhile isBlank ++ ':' :: trimRight last := by
      rw [List.mem_append, List.mem_cons, not_or, not_or]
      exact ⟨notMem_of_coordinate? hfront hd hblank, hcolon, notMem_of_coordinate? hback hd hblank⟩
    refine resolve_of_split hbuilt hs ?_ (fun hhead => ?_) (by simp)
      (splitSheet_eq_none (hnone rfl rfl (by decide)) (hnone rfl rfl (by decide))) hcurrent hfront
      (secondHalf_plain hback _) hback
    · rw [String.toList_ofList, trimChars_append_cons rfl]
    · exact hnone rfl rfl (by decide) (List.mem_of_head? hhead)
  | qualified hfront hfirst hlast =>
    exact resolve_behind hbuilt hs hfront (hread hp hfirst).1 (secondHalf_plain (hread hq hlast).2 _)
      (hread hq hlast).2
  | @repeated front first back last hfront hback hfirst hlast =>
    refine resolve_behind hbuilt hs hfront (hread hp hfirst).1 ?_ (hread hq hlast).2
    rw [trimRight_append (exists_not_isBlank_of_coordinate? (hread hq hlast).1)]
    exact secondHalf_qualified hback _

end Workbook

/-- **What references name, and what ranges name exactly.**  The cells that a reference names lie on
sheets of the workbook and within their limits.  A range of at most 65536 cells, and no other, is
the list of the cells of its rectangle, each once and row by row, whichever opposite corners are
given and whether or not the title stands in front of the second one, too. -/
theorem resolve_range {wb : Workbook} (hbuilt : wb.Built) :
    (∀ current raw named, wb.resolve current raw = .ok named →
      ∀ a ∈ named.cells, wb.HasTitle a.sheet ∧ a.position.InSheet) ∧
    ∀ s ∈ wb.sheets, ∀ p q : Coordinate, p.InSheet → q.InSheet →
      ∀ current text, Workbook.RangeSpelling current s p q text →
        ((∃ cells, wb.resolve current text = .ok (.range cells)) ↔ (p.box q).card ≤ 65536) ∧
        ∀ cells, wb.resolve current text = .ok (.range cells) →
          (∀ a, a ∈ cells ↔ a.sheet = s.name ∧ (a.row, a.col) ∈ p.box q) ∧
          cells.Nodup ∧ cells.Pairwise Address.Before ∧
          ∀ corners ∈ p.opposites q, ∀ current' text',
            Workbook.RangeSpelling current' s corners.1 corners.2 text' →
              wb.resolve current' text' = .ok (.range cells) := by
  refine ⟨fun current raw named h a ha => ?_, fun s hs p q hp hq current text h => ?_⟩
  · exact ⟨Workbook.hasTitle_of_resolve h a ha, Workbook.inSheet_of_resolve h a ha⟩
  have heq := h.resolve_eq hbuilt hs hp hq
  by_cases hcard : (p.box q).card ≤ maxRangeCells
  · rw [if_pos hcard] at heq
    refine ⟨iff_of_true ⟨_, heq⟩ hcard, fun cells hcells => ?_⟩
    obtain rfl : rectangle s.name p q = cells := by
      rw [heq] at hcells
      exact Resolved.range.inj (Except.ok.inj hcells)
    have hsorted := pairwise_rectangle s.name p q
    refine ⟨fun a => mem_rectangle, ?_, hsorted, fun corners hcorners current' text' h' => ?_⟩
    · exact hsorted.imp Address.Before.ne
    · obtain ⟨hp', hq'⟩ := inSheet_of_mem_opposites hp hq hcorners
      obtain ⟨hbox, hrectangle⟩ := rectangle_of_mem_opposites hcorners
      rw [h'.resolve_eq hbuilt hs hp' hq', hbox, if_pos hcard, hrectangle]
  · rw [if_neg hcard] at heq
    refine ⟨iff_of_false ?_ hcard, ?_⟩
    · rintro ⟨cells, hcells⟩
      rw [heq] at hcells
      cases hcells
    · intro cells hcells
      rw [heq] at hcells
      cases hcells

/-- The title in front of both corners, with and without quotes, and the other two corners without
a title. -/
theorem resolve_range_bothTitles :
    (⟨[{ name := "my sheet" }], {}⟩ : Workbook).Built ∧
      (⟨1, 1⟩ : Coordinate).InSheet ∧ (⟨0, 0⟩ : Coordinate).InSheet ∧
        ∃ cells,
          (⟨[{ name := "my sheet" }], {}⟩ : Workbook).resolve "report"
              "'MY sheet'!B2 :my sheet!$a01" = .ok (.range cells) ∧
            ⟨"my sheet", 0, 1⟩ ∈ cells ∧
              (⟨[{ name := "my sheet" }], {}⟩ : Workbook).resolve "My Sheet" "B1:A2" =
                .ok (.range cells) := by
  have hbuilt : (⟨[{ name := "my sheet" }], {}⟩ : Workbook).Built := .addSheet .new rfl
  have hp : (⟨1, 1⟩ : Coordinate).InSheet := by decide
  have hq : (⟨0, 0⟩ : Coordinate).InSheet := by decide
  have hcol : columnLetters 0 = ['A'] ∧ columnLetters 1 = ['B'] := by
    simp [columnLetters, columnLetter]
  have hfront : Sheet.Qualifier { name := "my sheet" } (qualifier (some "MY sheet")) :=
    .quoted (by decide)
  have hback : Sheet.Qualifier { name := "my sheet" } ("my sheet".toList ++ ['!']) := by
    refine .bare (by decide) ⟨by decide, fun c hc => ?_⟩
    obtain rfl : 'm' = c := Option.some.inj hc
    decide
  have hB2 : (⟨1, 1⟩ : Coordinate).WrittenAs ['B', '2', ' '] := ⟨['B'], 0, by decide, hcol.2.symm⟩
  have hA1 : (⟨0, 0⟩ : Coordinate).WrittenAs ['$', 'a', '0', '1'] :=
    ⟨['a'], 1, by decide, hcol.1.symm⟩
  have hB1 : (⟨0, 1⟩ : Coordinate).WrittenAs ['B', '1'] := ⟨['B'], 0, by decide, hcol.2.symm⟩
  have hA2 : (⟨1, 0⟩ : Coordinate).WrittenAs ['A', '2'] := ⟨['A'], 0, by decide, hcol.1.symm⟩
  have htext : String.ofList (qualifier (some "MY sheet") ++ (['B', '2', ' '] ++ ':' ::
      ("my sheet".toList ++ ['!'] ++ ['$', 'a', '0', '1']))) = "'MY sheet'!B2 :my sheet!$a01" := by
    decide
  obtain ⟨-, hrange⟩ := resolve_range hbuilt
  obtain ⟨hiff, hcells⟩ := hrange _ List.mem_cons_self _ _ hp hq "report" _
    (.repeated hfront hback hB2 hA1)
  obtain ⟨cells, hresolve⟩ := hiff.mpr (by decide)
  obtain ⟨hmem, -, -, hsame⟩ := hcells cells hresolve
  rw [htext] at hresolve
  refine ⟨hbuilt, hp, hq, cells, hresolve, (hmem _).mpr ⟨rfl, by decide⟩, ?_⟩
  exact hsame (⟨0, 1⟩, ⟨1, 0⟩) (by decide) "My Sheet" "B1:A2" (.unqualified (by decide) hB1 hA2)

end ReportCompiler
