/-!
# Sets of code points

Tables of characters are lists of ranges, in ascending order.
-/

namespace DesignMetrics.Text

/-- A set of code points: closed ranges in ascending order. -/
abbrev Ranges := List (Nat × Nat)

namespace Ranges

/-- Membership. The search ends at the first range that lies beyond the code point. -/
def contains : Ranges → Nat → Bool
  | [], _ => false
  | (first, last) :: rest, n => if n < first then false else n ≤ last || contains rest n

end Ranges
end DesignMetrics.Text
