/-!
# Sets of characters given by ranges of code points

A property of characters is kept as a list of closed ranges; `inRanges` is membership in it.
-/

namespace TriggerRule.Text

/-- The first and the last code point of a range, both included. -/
abbrev CodeRange := Nat × Nat

/-- Whether some range of the list holds the character. -/
def inRanges (ranges : List CodeRange) (c : Char) : Bool :=
  ranges.any fun range => range.1 ≤ c.toNat && c.toNat ≤ range.2

theorem inRanges_iff {ranges : List CodeRange} {c : Char} :
    inRanges ranges c = true ↔ ∃ range ∈ ranges, range.1 ≤ c.toNat ∧ c.toNat ≤ range.2 := by
  simp [inRanges]

end TriggerRule.Text
