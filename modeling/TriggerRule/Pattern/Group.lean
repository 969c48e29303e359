import TriggerRule.Pattern.Mode
import TriggerRule.Text.Letter

/-!
# Groups and repetitions in patterns

An opening parenthesis begins a group, which may have a name or flags, or it sets flags for the rest
of the group it stands in. Looking ahead and behind is refused. A counted repetition has a least
count, and a greatest one not below it.
-/

namespace TriggerRule.Pattern

inductive Opening where
  /-- The mode changes from here on. -/
  | flags (mode : Mode)
  /-- A group with a mode of its own, and a name or none. -/
  | group (mode : Mode) (name : Option (List Char))

/-! ## Flags -/

/-- Reads flags up to the colon or parenthesis that ends them: the flags, whether a colon does, and
what follows. -/
def flagList? : List Char → Option (List Char × Bool × List Char)
  | [] => none
  | c :: cs =>
    if c = ':' then some ([], true, cs)
    else if c = ')' then some ([], false, cs)
    else if ['i', 'm', 's', 'U', 'u', 'R', 'x', '-'].contains c then
      (flagList? cs).map fun (flags, colon, rest) => (c :: flags, colon, rest)
    else none

/-- What flags say of one flag: set before a hyphen, cleared after it. -/
def flagState (flags : List Char) (flag : Char) : Option Bool :=
  if (flags.takeWhile (· ≠ '-')).contains flag then some true
  else if flags.contains flag then some false
  else none

def Mode.under (mode : Mode) (flags : List Char) : Mode :=
  ⟨(flagState flags 'x').getD mode.spaced, (flagState flags 'u').getD mode.unicode⟩

/-- Reads flags; none occurs twice, a hyphen counted as one, and none ends in a hyphen. -/
def flags? (mode : Mode) (cs : List Char) : Option (Opening × List Char) :=
  match flagList? cs with
  | none => none
  | some (flags, colon, rest) =>
    if flags.Nodup ∧ flags.getLast? ≠ some '-' then
      if colon then some (.group (mode.under flags) none, rest)
      else if flags.isEmpty then none
      else some (.flags (mode.under flags), rest)
    else none

/-! ## Names -/

def isGroupName : List Char → Bool
  | [] => false
  | c :: cs =>
    (c == '_' || Text.isLetter c) && cs.all fun d =>
      d == '_' || d == '.' || d == '[' || d == ']' || Text.isLetter d || Text.isNumeral d

/-- Reads the name of a group up to the angle bracket that closes it. -/
def groupName? (mode : Mode) (cs : List Char) : Option (Opening × List Char) :=
  let name := cs.takeWhile (· ≠ '>')
  match cs.dropWhile (· ≠ '>') with
  | _ :: rest => if isGroupName name then some (.group mode (some name), rest) else none
  | [] => none

/-- Reads what an opening parenthesis begins, from behind it. -/
def opening? (mode : Mode) (cs : List Char) : Option (Opening × List Char) :=
  match mode.skip cs with
  | '?' :: 'P' :: '<' :: rest => groupName? mode rest
  | '?' :: '=' :: _ => none
  | '?' :: '!' :: _ => none
  | '?' :: '<' :: '=' :: _ => none
  | '?' :: '<' :: '!' :: _ => none
  | '?' :: '<' :: rest => groupName? mode rest
  | '?' :: rest => flags? mode rest
  | rest => some (.group mode none, rest)

/-! ## Repetitions -/

/-- The digits at the start of the characters, layout between them left out, and what follows. -/
def countDigits (mode : Mode) (cs : List Char) : List Char × List Char :=
  match cs with
  | [] => ([], [])
  | c :: rest =>
    if c.isDigit then
      let (digits, rest) := countDigits mode (mode.skip rest)
      (c :: digits, rest)
    else ([], c :: rest)
termination_by cs.length
decreasing_by
  have := mode.length_skip_le rest
  simp only [List.length_cons]
  omega

def maxCount : Nat := 0xFFFFFFFF

/-- Reads a count, which may be missing; blanks around it mean nothing. -/
def count? (mode : Mode) (cs : List Char) : Option (Option Nat × List Char) :=
  let (digits, rest) := countDigits mode (cs.dropWhile Text.isBlank)
  let rest := rest.dropWhile Text.isBlank
  if digits.isEmpty then some (none, rest)
  else
    let count := digits.foldl (fun n c => n * 10 + (c.toNat - '0'.toNat)) 0
    if count ≤ maxCount then some (some count, rest) else none

/-- Passes over the sign that makes a repetition lazy. -/
def skipLazy : List Char → List Char
  | '?' :: cs => cs
  | cs => cs

/-- Reads the end of a counted repetition. -/
def repetitionEnd? (mode : Mode) : List Char → Option (List Char)
  | '\x7d' :: cs => some (skipLazy (mode.skip cs))
  | _ => none

/-- Reads a counted repetition from behind its opening brace. -/
def repetition? (mode : Mode) (cs : List Char) : Option (List Char) :=
  match count? mode (mode.skip cs) with
  | some (some least, ',' :: rest) =>
    match mode.skip rest with
    | '\x7d' :: rest => repetitionEnd? mode ('\x7d' :: rest)
    | rest =>
      match count? mode rest with
      | some (some most, rest) => if least ≤ most then repetitionEnd? mode rest else none
      | _ => none
  | some (some _, rest) => repetitionEnd? mode rest
  | _ => none

end TriggerRule.Pattern
