/-!
# Intervals of code points

Properties of characters are given by the standard as sorted lists of inclusive intervals of code
points.  This module holds the one look-up that all of them share.
-/

namespace ReportCompiler.Text

/-- An inclusive interval of code points. -/
abbrev CodeRange := Nat × Nat

/-- The code point of `c` lies in one of the intervals. -/
def inRanges (table : List CodeRange) (c : Char) : Bool :=
  table.any fun r => r.1 ≤ c.toNat && c.toNat ≤ r.2

@[simp] theorem inRanges_nil (c : Char) : inRanges [] c = false := rfl

@[simp] theorem inRanges_cons (r : CodeRange) (table : List CodeRange) (c : Char) :
    inRanges (r :: table) c = ((r.1 ≤ c.toNat && c.toNat ≤ r.2) || inRanges table c) := rfl

end ReportCompiler.Text
