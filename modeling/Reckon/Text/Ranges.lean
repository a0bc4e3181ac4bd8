/-!
# Sets of characters given by ranges

A character class is a list of closed ranges of code points in ascending order. Membership walks
the list and stops at the first range that begins beyond the code point, so that the common
characters, which have small code points, are found or refused after a few steps.
-/

namespace Reckon.Text

/-- Closed ranges of code points, the first pair holding the least. -/
abbrev Ranges := List (Nat × Nat)

namespace Ranges

/-- Whether a code point lies in one of the ascending ranges. -/
def holds : Ranges → Nat → Bool
  | [], _ => false
  | (first, last) :: rest, code =>
    if code < first then false else if code ≤ last then true else holds rest code

end Ranges

end Reckon.Text
