/-!
# Sets of characters by ranges

A set of code points is a list of closed ranges, as the Unicode data files write it.
-/

namespace Scaffold.Text

/-- Closed ranges of code points. -/
abbrev Ranges := List (Nat × Nat)

/-- Whether a range of `r` holds the code point of `c`. -/
def Ranges.has (r : Ranges) (c : Char) : Bool :=
  r.any fun (lo, hi) => lo ≤ c.toNat && c.toNat ≤ hi

end Scaffold.Text
