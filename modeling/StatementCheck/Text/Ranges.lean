/-!
# Ranges of code points

A character property is given by the code points that have it, as closed ranges in ascending order.

## Main definitions

* `Text.Ranges` : such a list of ranges.
* `Text.Ranges.covers` : is a code point in one of them?
-/
namespace StatementCheck.Text

/-- Closed ranges of code points, ascending and apart from each other. -/
abbrev Ranges := List (Nat × Nat)

namespace Ranges

/-- Is the code point in one of the ranges? The search stops at the first range that starts beyond
it, which is right because the ranges ascend. -/
def covers : Ranges → Nat → Bool
  | [], _ => false
  | (first, last) :: rest, n => if n < first then false else decide (n ≤ last) || covers rest n

end Ranges

end StatementCheck.Text
