/-!
# Ranges of code points

A Unicode property is held as its ranges of code points in ascending order, so that a lookup stops
at the first range that starts beyond the character.
-/

namespace MockHttp.Unicode

/-- Inclusive ranges of code points, in ascending order and apart from each other. -/
abbrev Ranges := List (Nat × Nat)

def Ranges.contains : Ranges → Nat → Bool
  | [], _ => false
  | (lo, hi) :: rest, n => if n < lo then false else n ≤ hi || Ranges.contains rest n

end MockHttp.Unicode
