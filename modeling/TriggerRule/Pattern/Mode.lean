import TriggerRule.Text.Blank

/-!
# The mode of a pattern

Flags such as `(?x)` change how the rest of a group is read. Two of them matter for whether a
pattern is well formed: whether blanks and comments are layout, and whether the pattern is about
characters or about bytes. `Mode.skip` passes over layout.
-/

namespace TriggerRule.Pattern

/-- How a pattern is read at some place. -/
structure Mode where
  /-- Blanks, and comments from `#` to the end of the line, mean nothing. -/
  spaced : Bool
  /-- The pattern matches characters; otherwise it matches bytes, and must not match any that are
  not ASCII. -/
  unicode : Bool
  deriving DecidableEq

def Mode.initial : Mode := ⟨false, true⟩

/-- Passes over blanks and comments, from inside a comment or from outside. -/
def skipLayout (comment : Bool) : List Char → List Char
  | [] => []
  | c :: cs =>
    if comment then skipLayout (c ≠ '\n') cs
    else if Text.isBlank c then skipLayout false cs
    else if c = '#' then skipLayout true cs
    else c :: cs

def Mode.skip (mode : Mode) (cs : List Char) : List Char :=
  if mode.spaced then skipLayout false cs else cs

theorem length_skipLayout_le (comment : Bool) (cs : List Char) :
    (skipLayout comment cs).length ≤ cs.length := by
  induction cs generalizing comment with
  | nil => simp [skipLayout]
  | cons c cs ih =>
    rw [skipLayout]
    split
    · exact Nat.le_succ_of_le (ih _)
    split
    · exact Nat.le_succ_of_le (ih _)
    split
    · exact Nat.le_succ_of_le (ih _)
    · exact Nat.le_refl _

theorem Mode.length_skip_le (mode : Mode) (cs : List Char) :
    (mode.skip cs).length ≤ cs.length := by
  rw [skip]
  split
  · exact length_skipLayout_le _ _
  · exact Nat.le_refl _

/-- Reads up to a closing brace, layout left out, and gives what follows the brace. -/
def braced? (mode : Mode) (cs : List Char) : Option (List Char × List Char) :=
  match _h : mode.skip cs with
  | [] => none
  | c :: rest =>
    if c = '\x7d' then some ([], rest)
    else (braced? mode rest).map fun (inside, rest) => (c :: inside, rest)
termination_by cs.length
decreasing_by
  have := mode.length_skip_le cs
  rw [_h, List.length_cons] at this
  omega

end TriggerRule.Pattern
