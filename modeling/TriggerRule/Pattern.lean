import TriggerRule.Pattern.Bracket
import TriggerRule.Pattern.Group

/-!
# Well-formed patterns

The regular expressions of a rule are kept as text, and what compiles them is a parameter of the
library. `isWellFormed` is the compiler that the program passes. It accepts a text in which groups
are closed and their names differ, what is repeated is there, escapes and sets are known, and
nothing could match bytes that are no text. It gives no reason for a refusal, and bounds neither how
deep groups are nested nor how large a compiled pattern is.
-/

namespace TriggerRule.Pattern

structure State where
  mode : Mode
  /-- The modes around the open groups, the innermost first. -/
  outer : List Mode
  names : List (List Char)
  /-- What stands before this place can be repeated. -/
  repeatable : Bool

namespace State

def initial : State := ⟨.initial, [], [], false⟩

/-- The state behind something that can be repeated. -/
def afterItem (state : State) : State := { state with repeatable := true }

/-- The state behind an opening parenthesis; a name is taken once. -/
def enter? (state : State) : Opening → Option State
  | .flags mode => some { state with mode, repeatable := false }
  | .group mode none => some ⟨mode, state.mode :: state.outer, state.names, false⟩
  | .group mode (some name) =>
    if state.names.contains name then none
    else some ⟨mode, state.mode :: state.outer, name :: state.names, false⟩

/-- The state behind a closing parenthesis, which brings back the mode around the group. -/
def leave? (state : State) : Option State :=
  match state.outer with
  | [] => none
  | mode :: outer => some { state with mode, outer, repeatable := true }

/-- The state behind an escape. A byte that is not ASCII is refused. -/
def escaped? (state : State) (cs : List Char) : Option (State × List Char) :=
  match escape? state.mode cs with
  | some (.literal c byte, rest) =>
    if state.mode.unicode || !byte || c.toNat < 0x80 then some (state.afterItem, rest) else none
  | some (_, rest) => some (state.afterItem, rest)
  | none => none

/-- Reads one part of a pattern, whose first character is given apart. -/
def step? (state : State) (c : Char) (cs : List Char) : Option (State × List Char) :=
  match c with
  | '(' =>
    match opening? state.mode cs with
    | some (opening, rest) => (state.enter? opening).map (·, rest)
    | none => none
  | ')' => state.leave?.map (·, cs)
  | '|' => some ({ state with repeatable := false }, cs)
  | '[' => (bracket? state.mode cs).map (state.afterItem, ·)
  | '?' | '*' | '+' => if state.repeatable then some (state, skipLazy cs) else none
  | '\x7b' => if state.repeatable then (repetition? state.mode cs).map (state, ·) else none
  | '\\' => state.escaped? cs
  | '.' => if state.mode.unicode then some (state.afterItem, cs) else none
  | _ => some (state.afterItem, cs)

/-- Reads a pattern to its end, where no group may be open. Every part takes up a character, so the
length of what is left is fuel enough. -/
def run (state : State) : Nat → List Char → Bool
  | 0, _ => false
  | fuel + 1, cs =>
    match state.mode.skip cs with
    | [] => state.outer.isEmpty
    | c :: cs =>
      match state.step? c cs with
      | some (next, rest) => next.run fuel rest
      | none => false

end State

/-- Accepts a text that is a pattern; a refusal has no reason. -/
def isWellFormed (pattern : String) : Except String Unit :=
  if State.initial.run (pattern.length + 1) pattern.toList then .ok () else .error ""

end TriggerRule.Pattern
