/-!
# Sets of code points

A character class of the Unicode standard is kept as an array of closed ranges in ascending order.
-/

namespace Triage.Text

/-- A set of code points, as ascending disjoint closed ranges. -/
abbrev CodeRanges := Array (Nat × Nat)

/-- Whether the code point lies in one of the ranges. -/
def CodeRanges.covers (rs : CodeRanges) (n : Nat) : Bool :=
  rs.any fun r => r.1 ≤ n && n ≤ r.2

/-- The same with the ranges as a list, which the kernel goes through faster. -/
theorem CodeRanges.covers_eq_any (rs : CodeRanges) (n : Nat) :
    rs.covers n = rs.toList.any fun r => r.1 ≤ n && n ≤ r.2 :=
  Array.any_toList.symm

end Triage.Text
