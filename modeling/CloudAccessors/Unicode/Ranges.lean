/-!
# Sets of code points as sorted ranges

A character property is a list of inclusive ranges of code points in increasing order. Because of
the order a lookup may stop at the first range that begins after the code point.
-/

namespace CloudAccessors.Unicode

/-- Inclusive ranges of code points, in increasing order. -/
abbrev Ranges := List (Nat × Nat)

namespace Ranges

/-- Is the code point `n` in one of the ranges? Ranges that begin after `n` are not looked at. -/
def contains : Ranges → Nat → Bool
  | [], _ => false
  | (lo, hi) :: rest, n => if n < lo then false else if n ≤ hi then true else contains rest n

end Ranges

end CloudAccessors.Unicode
