/-!
# Blank characters

A blank is a character with the Unicode property White_Space; blanks separate tokens and mean
nothing. There are twenty-five of them, the ASCII ones among them (`isBlank_of_isWhitespace`).
-/

namespace TriggerRule.Text

/-- A blank: white space of any script, the line and paragraph separators included. -/
def isBlank (c : Char) : Bool :=
  let n := c.toNat
  (0x9 ≤ n && n ≤ 0xD) || n == 0x20 || n == 0x85 || n == 0xA0 || n == 0x1680 ||
    (0x2000 ≤ n && n ≤ 0x200A) || n == 0x2028 || n == 0x2029 || n == 0x202F || n == 0x205F ||
    n == 0x3000

theorem isBlank_of_isWhitespace {c : Char} (h : c.isWhitespace = true) : isBlank c = true := by
  simp only [Char.isWhitespace, Bool.or_eq_true, decide_eq_true_eq] at h
  rcases h with ((h | h) | h) | h <;> subst h <;> decide

end TriggerRule.Text
