/-!
# Ranges of characters

Character classes are kept as ascending lists of code point ranges. `inRanges` looks a code point
up, stopping at the first range that lies beyond it.
-/

namespace SkillPlan.Text

/-- A list of code point ranges, each given by its first and last member, in ascending order. -/
abbrev Ranges := List (Nat × Nat)

/-- Whether one of the ranges holds the code point. -/
def inRanges : Ranges → Nat → Bool
  | [], _ => false
  | (first, last) :: rest, n =>
    if n < first then false else if n ≤ last then true else inRanges rest n

end SkillPlan.Text
