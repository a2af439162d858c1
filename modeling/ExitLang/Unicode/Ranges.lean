/-!
# Sets of code points

A property of code points is a list of closed ranges in ascending order. Membership stops at the
first range that starts above the code point, so a small code point is settled by the first few
ranges of even a long table.
-/

namespace ExitLang.Unicode

/-- A closed range of code points, from its first to its last. -/
abbrev Range := Nat × Nat

/-- Membership in a list of ascending ranges. -/
def mem : List Range → Nat → Bool
  | [], _ => false
  | (first, last) :: rest, n => if n < first then false else n ≤ last || mem rest n

end ExitLang.Unicode
