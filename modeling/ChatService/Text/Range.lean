/-!
# Ranges of code points

Character classes given as lists of closed ranges.
-/

namespace ChatService.Text

/-- The code points from `first` to `last`, both included. -/
structure Range where
  first : Nat
  last : Nat

namespace Range

def holds (r : Range) (n : Nat) : Bool := r.first ≤ n && n ≤ r.last

/-- Whether a code point lies in one of the ranges. -/
def anyHolds (ranges : List Range) (n : Nat) : Bool := ranges.any (·.holds n)

end Range

end ChatService.Text
