import ReportCompiler.Proofs.Cell.Coordinates
import ReportCompiler.Text.Lowercase

/-!
# Lower case and ASCII

Lower case takes characters from all over the standard, and some texts that are not ASCII have an
ASCII lower case.  There is one character beyond ASCII to blame, the Kelvin sign: it looks like a
capital K, it counts as a letter, and its small letter is the ASCII one.

## Main definitions

* `kelvinSign` - that character.
* `plainLower` - lower case of ASCII characters and of the Kelvin sign.

## Main results

* `lowerChar_cases` - **what a single character can become.**
* `lowercaseAfter_eq_map`, `ascii_of_lowercaseAfter` - the texts with an ASCII lower case are those
  of ASCII characters and Kelvin signs.
* `mem_lowercaseAfter_iff` - ASCII characters other than letters are neither lost nor added.
* `lowercaseAfter_map_toLower` - the case of ASCII letters does not matter, not even to a sigma
  beside them.
-/

namespace ReportCompiler.Text

/-- The sign of the unit kelvin, whose small letter is the ASCII letter k. -/
def kelvinSign : Char :=
  Char.ofNat 0x212a

/-- Lower case of ASCII characters and of the Kelvin sign. -/
def plainLower (c : Char) : Char :=
  if c = kelvinSign then 'k' else c.toLower

theorem toNat_toLower_lt_iff {c : Char} : c.toLower.toNat < 0x80 ↔ c.toNat < 0x80 := by
  by_cases hupper : c.isUpper
  · have hletter := isAlpha_of_isUpper hupper
    have hsmall : c.toLower.isAlpha := by rwa [Char.isAlpha_toLower_eq_isAlpha]
    have hle := toNat_le_of_isAlpha hletter
    have hle' := toNat_le_of_isAlpha hsmall
    omega
  · rw [Char.toLower_eq_of_not_isUpper hupper]

theorem ascii_or_kelvinSign_of_plainLower {c : Char} (h : (plainLower c).toNat < 0x80) :
    c.toNat < 0x80 ∨ c = kelvinSign := by
  unfold plainLower at h
  split at h
  · next hkelvin => exact Or.inr hkelvin
  · exact Or.inl (toNat_toLower_lt_iff.mp h)

theorem map_plainLower {cs : List Char} (h : kelvinSign ∉ cs) :
    cs.map plainLower = cs.map Char.toLower := by
  refine List.map_congr_left fun c hc => if_neg ?_
  rintro rfl
  exact h hc

/-! ### Single characters -/

/-- The small letters of a run lie beyond ASCII and among the characters, but for one run, which is
the Kelvin sign. -/
def CaseRun.staysBeyondAscii (r : CaseRun) : Bool :=
  (r.first == 0x212a && r.last == 0x212a) ||
    (0x80 ≤ r.first + r.offset &&
      (r.last + r.offset < 0xd800 || (0xe000 ≤ r.first + r.offset && r.last + r.offset < 0x110000)))

theorem staysBeyondAscii_caseRuns : ∀ r ∈ caseRuns, r.staysBeyondAscii := by
  decide +kernel

theorem kelvinSign_or_le_of_mem_caseRuns {c : Char} {r : CaseRun} (hr : r ∈ caseRuns)
    (hc : r.contains c.toNat) :
    c = kelvinSign ∨ 0x80 ≤ (Char.ofNat (c.toNat + r.offset).toNat).toNat := by
  have hrun := staysBeyondAscii_caseRuns r hr
  simp only [CaseRun.contains, Bool.and_eq_true, decide_eq_true_eq] at hc
  simp only [CaseRun.staysBeyondAscii, Bool.or_eq_true, Bool.and_eq_true, beq_iff_eq,
    decide_eq_true_eq] at hrun
  rcases hrun with ⟨hfirst, hlast⟩ | ⟨hlow, hvalid⟩
  · left
    rw [← Char.toNat_inj]
    have hkelvin : kelvinSign.toNat = 0x212a := rfl
    omega
  · right
    rw [Char.toNat_ofNat, if_pos (by simp only [Nat.isValidChar]; omega)]
    omega

theorem lowerChar_of_ascii {c : Char} (h : c.toNat < 0x80) : lowerChar c = [c.toLower] :=
  if_pos h

theorem lowerChar_kelvinSign : lowerChar kelvinSign = ['k'] := by
  decide

/-- What a single character can become: one that is ASCII becomes ASCII, the Kelvin sign becomes the
letter k, and all others become something that is not ASCII, with a letter i in front perhaps. -/
theorem lowerChar_cases (c : Char) :
    (c.toNat < 0x80 ∧ lowerChar c = [c.toLower]) ∨ (c = kelvinSign ∧ lowerChar c = ['k']) ∨
      0x80 ≤ c.toNat ∧ (∃ d ∈ lowerChar c, 0x80 ≤ d.toNat) ∧
        ∀ d ∈ lowerChar c, 0x80 ≤ d.toNat ∨ d = 'i' := by
  rcases Nat.lt_or_ge c.toNat 0x80 with hascii | hbeyond
  · left
    exact ⟨hascii, lowerChar_of_ascii hascii⟩
  right
  by_cases hkelvin : c = kelvinSign
  · left
    rw [hkelvin]
    exact ⟨rfl, lowerChar_kelvinSign⟩
  right
  refine ⟨hbeyond, ?_⟩
  rw [lowerChar, if_neg (Nat.not_lt.mpr hbeyond)]
  split
  · -- the capital I with a dot becomes two characters
    refine ⟨⟨Char.ofNat 0x307, by simp, by decide⟩, ?_⟩
    simp only [List.mem_cons, List.not_mem_nil, or_false]
    rintro d (rfl | rfl)
    · exact Or.inr rfl
    · exact Or.inl (by decide)
  · split
    · next r hfound =>
      have hcontains := List.find?_some hfound
      have hle := (kelvinSign_or_le_of_mem_caseRuns (List.mem_of_find?_eq_some hfound)
        hcontains).resolve_left hkelvin
      simp [hle]
    · simp [hbeyond]

/-! ### Texts -/

/-- Lower case of a character between others. -/
def lowerBetween (before : List Char) (c : Char) (after : List Char) : List Char :=
  if c = 'Σ' then [lowerSigma before after] else lowerChar c

theorem lowercaseAfter_cons (before : List Char) (c : Char) (rest : List Char) :
    lowercaseAfter before (c :: rest) =
      lowerBetween before c rest ++ lowercaseAfter (c :: before) rest := rfl

/-- A character between others can become what it can become by itself. -/
theorem lowerBetween_cases (before : List Char) (c : Char) (after : List Char) :
    (c.toNat < 0x80 ∧ lowerBetween before c after = [c.toLower]) ∨
      (c = kelvinSign ∧ lowerBetween before c after = ['k']) ∨
        0x80 ≤ c.toNat ∧ (∃ d ∈ lowerBetween before c after, 0x80 ≤ d.toNat) ∧
          ∀ d ∈ lowerBetween before c after, 0x80 ≤ d.toNat ∨ d = 'i' := by
  unfold lowerBetween
  split
  · next hsigma =>
    have hle : 0x80 ≤ (lowerSigma before after).toNat := by
      unfold lowerSigma
      split <;> decide
    right
    right
    rw [hsigma]
    simp [hle]
  · exact lowerChar_cases c

/-- Texts of ASCII characters and Kelvin signs are made small character by character. -/
theorem lowercaseAfter_eq_map {cs : List Char} (h : ∀ c ∈ cs, c.toNat < 0x80 ∨ c = kelvinSign)
    (before : List Char) : lowercaseAfter before cs = cs.map plainLower := by
  induction cs generalizing before with
  | nil => rfl
  | cons c rest ih =>
    obtain ⟨hc, hrest⟩ := List.forall_mem_cons.mp h
    rw [lowercaseAfter_cons, ih hrest, List.map_cons, lowerBetween, plainLower]
    rcases hc with hascii | rfl
    · have hsigma : c ≠ 'Σ' := by
        rintro rfl
        exact absurd hascii (by decide)
      have hkelvin : c ≠ kelvinSign := by
        rintro rfl
        exact absurd hascii (by decide)
      rw [if_neg hsigma, if_neg hkelvin, lowerChar_of_ascii hascii]
      rfl
    · rw [if_neg (by decide), if_pos rfl, lowerChar_kelvinSign]
      rfl

/-- Only texts of ASCII characters and Kelvin signs have an ASCII lower case. -/
theorem ascii_of_lowercaseAfter {before cs : List Char}
    (h : ∀ d ∈ lowercaseAfter before cs, d.toNat < 0x80) :
    ∀ c ∈ cs, c.toNat < 0x80 ∨ c = kelvinSign := by
  induction cs generalizing before with
  | nil => simp
  | cons c rest ih =>
    rw [lowercaseAfter_cons] at h
    obtain ⟨hc, hrest⟩ := List.forall_mem_append.mp h
    refine List.forall_mem_cons.mpr ⟨?_, ih hrest⟩
    rcases lowerBetween_cases before c rest with ⟨hascii, -⟩ | ⟨rfl, -⟩ | ⟨-, ⟨d, hd, hbeyond⟩, -⟩
    · exact Or.inl hascii
    · exact Or.inr rfl
    · exact absurd (hc d hd) (Nat.not_lt.mpr hbeyond)

/-- ASCII characters other than letters are neither lost nor added. -/
theorem mem_lowercaseAfter_iff {d : Char} (hascii : d.toNat < 0x80) (hd : d.isAlpha = false)
    {before cs : List Char} : d ∈ lowercaseAfter before cs ↔ d ∈ cs := by
  induction cs generalizing before with
  | nil => simp
  | cons c rest ih =>
    have hc : d ∈ lowerBetween before c rest ↔ d = c := by
      rcases lowerBetween_cases before c rest with ⟨-, hlower⟩ | ⟨rfl, hlower⟩ |
        ⟨hbeyond, -, hall⟩
      · rw [hlower, List.mem_singleton, eq_comm, toLower_eq_iff hd, eq_comm]
      · rw [hlower, List.mem_singleton]
        constructor <;>
          · rintro rfl
            simp_all [kelvinSign]
      · constructor
        · intro hmem
          rcases hall d hmem with hle | rfl
          · omega
          · cases hd
        · rintro rfl
          omega
    rw [lowercaseAfter_cons, List.mem_append, ih, hc, List.mem_cons]

theorem lowercaseAfter_eq_nil {before cs : List Char} (h : lowercaseAfter before cs = []) :
    cs = [] := by
  cases cs with
  | nil => rfl
  | cons c rest =>
    rw [lowercaseAfter_cons, List.append_eq_nil_iff] at h
    rcases lowerBetween_cases before c rest with ⟨-, hlower⟩ | ⟨-, hlower⟩ | ⟨-, ⟨d, hd, -⟩, -⟩
    · cases hlower.symm.trans h.1
    · cases hlower.symm.trans h.1
    · rw [h.1] at hd
      cases hd

/-! ### The case of ASCII letters -/

theorem toNat_of_isAlpha {c : Char} (h : c.isAlpha) :
    (65 ≤ c.toNat ∧ c.toNat ≤ 90) ∨ (97 ≤ c.toNat ∧ c.toNat ≤ 122) := by
  rcases (Bool.or_eq_true _ _).mp h with hupper | hlower
  · exact Or.inl (of_decide_eq_true hupper)
  · obtain ⟨hlow, hhigh⟩ := (Bool.and_eq_true _ _).mp hlower
    exact Or.inr ⟨of_decide_eq_true hlow, of_decide_eq_true hhigh⟩

theorem cased_of_isAlpha {c : Char} (h : c.isAlpha) : inRanges casedRanges c := by
  rw [casedRanges, inRanges_cons, inRanges_cons, ← Bool.or_assoc]
  refine (Bool.or_eq_true _ _).mpr (Or.inl ?_)
  simpa using toNat_of_isAlpha h

theorem not_caseIgnorable_of_isAlpha {c : Char} (h : c.isAlpha) :
    inRanges caseIgnorableRanges c = false := by
  have hapart : ∀ r ∈ caseIgnorableRanges, r.2 < 65 ∨ (90 < r.1 ∧ r.2 < 97) ∨ 122 < r.1 := by
    decide +kernel
  have hletter := toNat_of_isAlpha h
  rw [inRanges, List.any_eq_false]
  intro r hr hc
  simp only [Bool.and_eq_true, decide_eq_true_eq] at hc
  have := hapart r hr
  omega

/-- A property that all ASCII letters have, or none, does not depend on their case. -/
theorem inRanges_toLower {table : List CodeRange} {b : Bool}
    (h : ∀ c : Char, c.isAlpha → inRanges table c = b) (c : Char) :
    inRanges table c.toLower = inRanges table c := by
  by_cases hupper : c.isUpper
  · have hletter := isAlpha_of_isUpper hupper
    have hsmall : c.toLower.isAlpha := by rwa [Char.isAlpha_toLower_eq_isAlpha]
    rw [h c hletter, h _ hsmall]
  · rw [Char.toLower_eq_of_not_isUpper hupper]

theorem reachesCased_map_toLower (cs : List Char) :
    reachesCased (cs.map Char.toLower) = reachesCased cs := by
  have hignorable : inRanges caseIgnorableRanges ∘ Char.toLower = inRanges caseIgnorableRanges :=
    funext (inRanges_toLower fun _ => not_caseIgnorable_of_isAlpha)
  rw [reachesCased, List.dropWhile_map, hignorable, reachesCased]
  cases cs.dropWhile (inRanges caseIgnorableRanges) with
  | nil => rfl
  | cons c rest => exact inRanges_toLower (fun _ => cased_of_isAlpha) c

theorem lowerChar_toLower (c : Char) : lowerChar c.toLower = lowerChar c := by
  by_cases hupper : c.isUpper
  · have hascii : c.toNat < 0x80 := by
      have hle := toNat_le_of_isAlpha (isAlpha_of_isUpper hupper)
      omega
    rw [lowerChar_of_ascii hascii, lowerChar_of_ascii (toNat_toLower_lt_iff.mpr hascii),
      Char.toLower_toLower_eq_toLower]
  · rw [Char.toLower_eq_of_not_isUpper hupper]

/-- The case of ASCII letters does not matter. -/
theorem lowercaseAfter_map_toLower (before cs : List Char) :
    lowercaseAfter (before.map Char.toLower) (cs.map Char.toLower) = lowercaseAfter before cs := by
  induction cs generalizing before with
  | nil => rfl
  | cons c rest ih =>
    have hbetween : lowerBetween (before.map Char.toLower) c.toLower (rest.map Char.toLower) =
        lowerBetween before c rest := by
      simp only [lowerBetween, lowerSigma, toLower_eq_iff (d := 'Σ') rfl, reachesCased_map_toLower,
        lowerChar_toLower]
    rw [List.map_cons, lowercaseAfter_cons, lowercaseAfter_cons, hbetween, ← List.map_cons, ih]

end ReportCompiler.Text
