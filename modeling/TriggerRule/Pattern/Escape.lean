import TriggerRule.Pattern.Property
import TriggerRule.Text.Hex

/-!
# Escapes in patterns

A backslash makes a punctuation character literal, and turns some letters into characters, sets of
characters or assertions. Every other letter and every digit is refused, and so are sets that would
match bytes that are not ASCII.
-/

namespace TriggerRule.Pattern

inductive Atom where
  /-- A character, which is a byte where the mode is about bytes and it is written as one. -/
  | literal (c : Char) (byte : Bool)
  | set
  /-- A condition on the place, which takes up no character. -/
  | assertion

/-- A character that may be escaped to stand for itself. -/
def isEscapable (c : Char) : Bool :=
  c.toNat < 0x80 && !c.isAlphanum && c ≠ '<' && c ≠ '>'

/-- The character that a letter after the backslash stands for. -/
def control? (c : Char) : Option Char :=
  if c = 'a' then some '\x07'
  else if c = 'f' then some '\x0c'
  else if c = 'n' then some '\n'
  else if c = 'r' then some '\r'
  else if c = 't' then some '\t'
  else if c = 'v' then some '\x0b'
  else none

def scalar? (n : Nat) : Option Char :=
  if n.isValidChar then some (Char.ofNat n) else none

/-- Reads a number of hexadecimal digits, layout between them left out. -/
def hexDigits? (mode : Mode) : Nat → Nat → List Char → Option (Nat × List Char)
  | 0, value, cs => some (value, cs)
  | _ + 1, _, [] => none
  | count + 1, value, c :: cs =>
    match Text.hexValue? c with
    | some digit => hexDigits? mode count (value * 16 + digit) (mode.skip cs)
    | none => none

/-- The number that hexadecimal digits spell, if there are any. -/
def hexNumber? : List Char → Option Nat
  | [] => none
  | digits => digits.foldlM (fun n c => (Text.hexValue? c).map (n * 16 + ·)) 0

/-- Reads a code point: a fixed number of digits, or any number in braces. -/
def codePoint? (mode : Mode) (count : Nat) : List Char → Option (Atom × List Char)
  | '\x7b' :: cs =>
    match braced? mode cs with
    | some (digits, rest) =>
      ((hexNumber? digits).bind scalar?).map fun c => (.literal c false, rest)
    | none => none
  | cs =>
    match hexDigits? mode count 0 cs with
    | some (value, rest) => (scalar? value).map fun c => (.literal c (count = 2), rest)
    | none => none

/-- Reads the name of a property: one letter, or any name in braces. -/
def property? (mode : Mode) : List Char → Option (Atom × List Char)
  | [] => none
  | c :: cs =>
    if c = '\x7b' then
      match braced? mode cs with
      | some (query, rest) => if Property.isKnown query then some (.set, rest) else none
      | none => none
    else if c = '\\' then none
    else if Property.isKnownName [c] then some (.set, cs)
    else none

/-- The kinds of word boundary that have a name. -/
def boundaryNames : List (List Char) :=
  ["start".toList, "end".toList, "start-half".toList, "end-half".toList]

/-- Reads what follows `\b`. A brace and a letter or hyphen begin the name of a boundary; any other
brace begins a repetition and is left alone. -/
def boundary? (mode : Mode) (cs : List Char) : Option (Atom × List Char) :=
  match cs with
  | '\x7b' :: inside =>
    match mode.skip inside with
    | [] => none
    | c :: _ =>
      if c.isAlpha || c = '-' then
        match braced? mode inside with
        | some (name, rest) =>
          if boundaryNames.contains name then some (.assertion, rest) else none
        | none => none
      else some (.assertion, cs)
  | _ => some (.assertion, cs)

/-- Reads an escape from behind its backslash. -/
def escape? (mode : Mode) : List Char → Option (Atom × List Char)
  | [] => none
  | c :: cs =>
    if c = 'x' then codePoint? mode 2 (mode.skip cs)
    else if c = 'u' then codePoint? mode 4 (mode.skip cs)
    else if c = 'U' then codePoint? mode 8 (mode.skip cs)
    else if c = 'p' || c = 'P' then
      if mode.unicode then property? mode (mode.skip cs) else none
    else if c = 'd' || c = 's' || c = 'w' then some (.set, cs)
    else if c = 'D' || c = 'S' || c = 'W' then
      if mode.unicode then some (.set, cs) else none
    else if c = 'b' then boundary? mode cs
    else if c = 'A' || c = 'z' || c = 'B' || c = '<' || c = '>' then some (.assertion, cs)
    else if isEscapable c then some (.literal c false, cs)
    else (control? c).map fun d => (.literal d false, cs)

end TriggerRule.Pattern
