import Mathlib.Data.List.Infix
import ReportCompiler.Program.Template

/-!
# Filling in blanks

`replaceAll` fills in one blank.  Several blanks can be filled in together: the text is gone through
once, and what is put in is never looked into.

## Main definitions

* `fillTogether blanks cs` - the text with all blanks filled in together.
* `Encloses pattern front back` - what stands between the two texts can be looked at by itself.

## Main results

* `replaceAll_eq_fillTogether` - `replaceAll` fills in a single blank in this sense.
* `fillTogether_separated` - a character that is in no blank keeps the two sides of a text apart.
* `fillTogether_eq_self` - a text without blanks stays as it is.
* `fillTogether_enclosed` - what stands between separators is filled in by itself.
* `fillTogether_blank` - a blank by itself becomes what is put in its place.
-/

namespace ReportCompiler

/-- The text with all blanks filled in together, from left to right.  A blank is given with what is
put in its place; where several begin, the first one counts. -/
def fillTogether (blanks : List (List Char × List Char)) (cs : List Char) : List Char :=
  match cs with
  | [] => []
  | c :: rest =>
    match blanks.find? fun blank => blank.1.isPrefixOf (c :: rest) with
    | some blank => blank.2 ++ fillTogether blanks (rest.drop (blank.1.length - 1))
    | none => c :: fillTogether blanks rest
termination_by cs.length
decreasing_by all_goals (simp only [List.length_drop, List.length_cons]; omega)

theorem replaceAll_eq_fillTogether (pattern replacement cs : List Char) :
    replaceAll pattern replacement cs = fillTogether [(pattern, replacement)] cs := by
  fun_induction replaceAll pattern replacement cs with
  | case1 => rw [fillTogether]
  | case2 c rest hfound ih =>
    have hfirst : ([(pattern, replacement)].find? fun blank => blank.1.isPrefixOf (c :: rest)) =
        some (pattern, replacement) := by
      rw [List.find?_cons]
      simp only [hfound]
    rw [fillTogether, hfirst, ih]
  | case3 c rest hnot ih =>
    have hnone : ([(pattern, replacement)].find? fun blank => blank.1.isPrefixOf (c :: rest)) =
        none := by
      rw [List.find?_cons, List.find?_nil]
      simp only [hnot]
    rw [fillTogether, hnone, ih]

section

variable {blanks : List (List Char × List Char)} {pattern replacement : List Char} {c : Char}

theorem isPrefix_of_find? {cs : List Char} {blank : List Char × List Char}
    (h : (blanks.find? fun blank => blank.1.isPrefixOf cs) = some blank) :
    blank ∈ blanks ∧ blank.1 <+: cs := by
  have hfound := List.find?_some h
  exact ⟨List.mem_of_find?_eq_some h, List.isPrefixOf_iff_prefix.mp hfound⟩

/-! ### Separators -/

/-- A pattern is not found across a character that is not in it. -/
theorem isPrefixOf_separated (hc : c ∉ pattern) (front rest : List Char) :
    pattern.isPrefixOf (front ++ c :: rest) = pattern.isPrefixOf front := by
  induction front generalizing pattern with
  | nil =>
    cases pattern with
    | nil => rfl
    | cons p ps =>
      have hp : (p == c) = false := beq_eq_false_iff_ne.mpr (List.ne_of_not_mem_cons hc).symm
      simp [List.isPrefixOf, hp]
  | cons d front ih =>
    cases pattern with
    | nil => rfl
    | cons p ps =>
      rw [List.cons_append, List.isPrefixOf, List.isPrefixOf,
        ih (List.not_mem_of_not_mem_cons hc)]

theorem find?_separated (hc : ∀ blank ∈ blanks, c ∉ blank.1) (front rest : List Char) :
    (blanks.find? fun blank => blank.1.isPrefixOf (front ++ c :: rest)) =
      blanks.find? fun blank => blank.1.isPrefixOf front := by
  induction blanks with
  | nil => rfl
  | cons blank more ih =>
    obtain ⟨hblank, hmore⟩ := List.forall_mem_cons.mp hc
    rw [List.find?_cons, List.find?_cons, isPrefixOf_separated hblank, ih hmore]

/-- **A character that is in no blank keeps the two sides of a text apart.** -/
theorem fillTogether_separated (hc : ∀ blank ∈ blanks, c ∉ blank.1)
    (hne : ∀ blank ∈ blanks, blank.1 ≠ []) (front rest : List Char) :
    fillTogether blanks (front ++ c :: rest) =
      fillTogether blanks front ++ c :: fillTogether blanks rest := by
  have hfind := find?_separated hc
  fun_induction fillTogether blanks front with
  | case1 =>
    have hnone : (blanks.find? fun blank => blank.1.isPrefixOf []) = none := by
      rw [List.find?_eq_none]
      intro blank hblank hnil
      exact hne blank hblank (List.prefix_nil.mp (List.isPrefixOf_iff_prefix.mp hnil))
    have hfirst := (hfind [] rest).trans hnone
    rw [List.nil_append] at hfirst ⊢
    rw [fillTogether, hfirst]
    rfl
  | case2 d front blank hfound ih =>
    -- the blank ends within the front, and so does what is dropped
    have hlength : blank.1.length - 1 ≤ front.length := by
      have hle := (isPrefix_of_find? hfound).2.length_le
      rw [List.length_cons] at hle
      omega
    have hfirst := (hfind (d :: front) rest).trans hfound
    rw [List.cons_append] at hfirst ⊢
    rw [fillTogether, hfirst]
    simp only
    rw [List.drop_append_of_le_length hlength, ih, List.append_assoc]
  | case3 d front hnone ih =>
    have hfirst := (hfind (d :: front) rest).trans hnone
    rw [List.cons_append] at hfirst ⊢
    rw [fillTogether, hfirst]
    simp only
    rw [ih, List.cons_append]

/-! ### Texts without blanks -/

theorem fillTogether_eq_self {cs : List Char} (h : ∀ blank ∈ blanks, ¬ blank.1 <:+: cs) :
    fillTogether blanks cs = cs := by
  fun_induction fillTogether blanks cs with
  | case1 => rfl
  | case2 c rest blank hfound ih =>
    obtain ⟨hblank, hbegin⟩ := isPrefix_of_find? hfound
    exact absurd hbegin.isInfix (h blank hblank)
  | case3 c rest hnone ih =>
    rw [ih fun blank hblank hrest => h blank hblank (List.infix_cons hrest)]

/-- Where the pattern is not found, nothing changes. -/
theorem replaceAll_eq_self {cs : List Char} (h : ¬ pattern <:+: cs) :
    replaceAll pattern replacement cs = cs := by
  rw [replaceAll_eq_fillTogether]
  exact fillTogether_eq_self (by simpa)

/-! ### Texts around a blank -/

/-- The texts `front` and `back` have the pattern neither in them, nor across the border to what
stands between them. -/
structure Encloses (pattern front back : List Char) : Prop where
  /-- There is something to be found. -/
  ne_nil : pattern ≠ []
  /-- The pattern is not in front. -/
  not_front : ¬ pattern <:+: front
  /-- The pattern is not behind. -/
  not_back : ¬ pattern <:+: back
  /-- The last character in front is a separator. -/
  last : front.getLast? ∉ pattern.map some
  /-- The first character behind is a separator. -/
  head : back.head? ∉ pattern.map some

instance (pattern front back : List Char) : Decidable (Encloses pattern front back) :=
  decidable_of_iff (pattern ≠ [] ∧ ¬ pattern <:+: front ∧ ¬ pattern <:+: back ∧
      front.getLast? ∉ pattern.map some ∧ back.head? ∉ pattern.map some)
    ⟨fun h => ⟨h.1, h.2.1, h.2.2.1, h.2.2.2.1, h.2.2.2.2⟩,
      fun h => ⟨h.ne_nil, h.not_front, h.not_back, h.last, h.head⟩⟩

/-- What stands between separators is filled in by itself. -/
theorem fillTogether_enclosed {front back : List Char}
    (h : ∀ blank ∈ blanks, Encloses blank.1 front back) (cs : List Char) :
    fillTogether blanks (front ++ cs ++ back) = front ++ fillTogether blanks cs ++ back := by
  have hne : ∀ blank ∈ blanks, blank.1 ≠ [] := fun blank hblank => (h blank hblank).ne_nil
  have hfront : fillTogether blanks front = front :=
    fillTogether_eq_self fun blank hblank => (h blank hblank).not_front
  have hback : fillTogether blanks back = back :=
    fillTogether_eq_self fun blank hblank => (h blank hblank).not_back
  have hbehind : fillTogether blanks (cs ++ back) = fillTogether blanks cs ++ back := by
    cases back with
    | nil => rw [List.append_nil, List.append_nil]
    | cons c back =>
      have hc : ∀ blank ∈ blanks, c ∉ blank.1 := fun blank hblank hmem =>
        (h blank hblank).head (List.mem_map_of_mem hmem)
      have hfirst := fillTogether_separated hc hne [] back
      rw [List.nil_append, hback, fillTogether, List.nil_append] at hfirst
      rw [fillTogether_separated hc hne, ← hfirst]
  rw [List.append_assoc, List.append_assoc, ← hbehind]
  rcases List.eq_nil_or_concat front with rfl | ⟨first, c, rfl⟩
  · rfl
  · rw [List.concat_eq_append] at h hfront ⊢
    have hc : ∀ blank ∈ blanks, c ∉ blank.1 := fun blank hblank hmem => by
      refine (h blank hblank).last ?_
      rw [List.getLast?_concat]
      exact List.mem_map_of_mem hmem
    rw [fillTogether_separated hc hne, fillTogether] at hfront
    rw [List.append_assoc, List.singleton_append, fillTogether_separated hc hne, List.append_cons,
      hfront, ← List.append_cons]

theorem replaceAll_enclosed {front back : List Char} (h : Encloses pattern front back)
    (cs : List Char) :
    replaceAll pattern replacement (front ++ cs ++ back) =
      front ++ replaceAll pattern replacement cs ++ back := by
  simp only [replaceAll_eq_fillTogether]
  exact fillTogether_enclosed (by simpa) cs

/-- A blank by itself becomes what is put in its place. -/
theorem fillTogether_blank (hne : ∀ blank ∈ blanks, blank.1 ≠ [])
    (hapart : blanks.Pairwise fun blank other => ¬ blank.1 <+: other.1)
    {blank : List Char × List Char} (hblank : blank ∈ blanks) :
    fillTogether blanks blank.1 = blank.2 := by
  have hfind : (blanks.find? fun other => other.1.isPrefixOf blank.1) = some blank := by
    induction blanks with
    | nil => cases hblank
    | cons first more ih =>
      obtain ⟨hfirst, hmore⟩ := List.pairwise_cons.mp hapart
      rcases List.mem_cons.mp hblank with rfl | hmem
      · exact List.find?_cons_of_pos (List.isPrefixOf_iff_prefix.mpr List.prefix_rfl)
      · rw [List.find?_cons_of_neg]
        · exact ih (fun other hother => hne other (List.mem_cons_of_mem first hother)) hmore hmem
        · exact fun hle => hfirst blank hmem (List.isPrefixOf_iff_prefix.mp hle)
  cases hpattern : blank.1 with
  | nil => exact absurd hpattern (hne blank hblank)
  | cons c rest =>
    rw [hpattern] at hfind
    have hrest : rest.drop (blank.1.length - 1) = [] := by rw [hpattern]; simp
    rw [fillTogether, hfind]
    simp only
    rw [hrest, fillTogether, List.append_nil]

/-! ### Characters of the filled text -/

/-- A character of the filled text is one of the text, or of what was put in. -/
theorem forall_mem_fillTogether {p : Char → Prop} (hblanks : ∀ blank ∈ blanks, ∀ c ∈ blank.2, p c)
    {cs : List Char} (h : ∀ c ∈ cs, p c) : ∀ c ∈ fillTogether blanks cs, p c := by
  fun_induction fillTogether blanks cs with
  | case1 => exact h
  | case2 c rest blank hfound ih =>
    have hrest := (List.forall_mem_cons.mp h).2
    refine List.forall_mem_append.mpr ⟨hblanks blank (isPrefix_of_find? hfound).1, ?_⟩
    exact ih fun d hd => hrest d (List.mem_of_mem_drop hd)
  | case3 c rest _ ih =>
    obtain ⟨hc, hrest⟩ := List.forall_mem_cons.mp h
    exact List.forall_mem_cons.mpr ⟨hc, ih hrest⟩

end

end ReportCompiler
