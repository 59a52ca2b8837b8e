/-!
# ASCII letters and digits

Coordinates, function names and sheet titles are compared with the case of the twenty-six ASCII
letters ignored and of no other character.

* `foldCase` - a text with its ASCII capitals made small.
* `sameFold` - equality of two texts up to the case of ASCII letters.
-/

namespace ReportCompiler.Text

/-- An ASCII letter, digit or the underscore: what a variable name may hold. -/
def isWordChar (c : Char) : Bool :=
  c.isAlphanum || c = '_'

/-- The text with its ASCII capitals made small. -/
def foldCase (s : String) : String :=
  String.ofList (s.toList.map Char.toLower)

/-- The two texts are equal up to the case of ASCII letters. -/
def sameFold (s t : String) : Bool :=
  s.toList.map Char.toLower == t.toList.map Char.toLower

@[simp] theorem sameFold_self (s : String) : sameFold s s = true := by
  simp [sameFold]

theorem sameFold_comm (s t : String) : sameFold s t = sameFold t s := by
  simp only [sameFold]
  exact Bool.beq_comm

/-! ### Where letters and digits stand -/

theorem isAlpha_of_isUpper {c : Char} (h : c.isUpper) : c.isAlpha :=
  (Bool.or_eq_true _ _).mpr (.inl h)

theorem le_toNat_of_isAlpha {c : Char} (h : c.isAlpha) : 65 ≤ c.toNat := by
  rcases (Bool.or_eq_true _ _).mp h with hupper | hlower
  · exact (of_decide_eq_true hupper).1
  · have hle : 97 ≤ c.toNat := of_decide_eq_true ((Bool.and_eq_true _ _).mp hlower).1
    omega

theorem toNat_le_of_isDigit {c : Char} (h : c.isDigit) : c.toNat ≤ 57 :=
  of_decide_eq_true ((Bool.and_eq_true _ _).mp h).2

end ReportCompiler.Text
