import TriggerRule.Pattern.Escape

/-!
# Bracketed sets in patterns

A set in brackets is a sequence of characters, ranges, escapes and further brackets, which may be
negated and combined by `&&`, `--` and `~~`. A hyphen is itself at the start, before the closing
bracket and before another hyphen; a closing bracket is itself right at the start.
-/

namespace TriggerRule.Pattern

/-- The names of the sets that are written `[:name:]`. -/
def asciiNames : List (List Char) :=
  ["alnum", "alpha", "ascii", "blank", "cntrl", "digit", "graph", "lower", "print", "punct",
    "space", "upper", "word", "xdigit"].map String.toList

/-- Reads `:name:]` behind an opening bracket; also says whether the set is negated. -/
def asciiSet? : List Char → Option (Bool × List Char)
  | ':' :: cs =>
    let (negated, cs) : Bool × List Char := match cs with
      | '^' :: cs => (true, cs)
      | cs => (false, cs)
    match cs.dropWhile (· ≠ ':') with
    | ':' :: ']' :: rest =>
      if asciiNames.contains (cs.takeWhile (· ≠ ':')) then some (negated, rest) else none
    | _ => none
  | _ => none

/-- Passes over hyphens and the layout behind them, and says whether there were any. -/
def skipHyphens (mode : Mode) (cs : List Char) : Bool × List Char :=
  match cs with
  | '-' :: rest => (true, (skipHyphens mode (mode.skip rest)).2)
  | cs => (false, cs)
termination_by cs.length
decreasing_by
  have := mode.length_skip_le rest
  simp only [List.length_cons]
  omega

/-- Reads the start of a set behind its opening bracket: the sign of negation, hyphens, or a closing
bracket that is meant literally. Something has to follow. -/
def bracketStart? (mode : Mode) (cs : List Char) : Option (List Char) :=
  let start? (cs : List Char) : Option (List Char) :=
    match skipHyphens mode cs with
    | (_, []) => none
    | (false, ']' :: rest) =>
      match mode.skip rest with
      | [] => none
      | rest => some rest
    | (_, rest) => some rest
  match mode.skip cs with
  | '^' :: rest => if mode.unicode then start? (mode.skip rest) else none
  | cs => start? cs

def bracketItem? (mode : Mode) : List Char → Option (Atom × List Char)
  | [] => none
  | c :: cs =>
    let item : Option (Atom × List Char) :=
      if c = '\\' then escape? mode cs else some (.literal c false, cs)
    match item with
    | some (.literal d byte, rest) =>
      if mode.unicode || d.toNat < 0x80 then some (.literal d byte, rest) else none
    | some (.set, rest) => some (.set, rest)
    | some (.assertion, _) | none => none

/-- The character behind a hyphen that decides whether the hyphen makes a range. Where blanks are
layout, blanks are passed over, and with them the sign that starts a comment. -/
def behindHyphen? (mode : Mode) (cs : List Char) : Option Char :=
  if mode.spaced then
    match cs.dropWhile Text.isBlank with
    | '#' :: rest => (rest.dropWhile Text.isBlank).head?
    | rest => rest.head?
  else cs.head?

/-- Reads an item of a set or a range between two characters, the first not above the second. -/
def bracketRange? (mode : Mode) (cs : List Char) : Option (List Char) :=
  match bracketItem? mode cs with
  | none => none
  | some (first, rest) =>
    match mode.skip rest with
    | [] => none
    | '-' :: more =>
      let behind := behindHyphen? mode more
      if behind = some ']' || behind = some '-' then some ('-' :: more)
      else
        match bracketItem? mode (mode.skip more) with
        | none => none
        | some (last, rest) =>
          match first, last with
          | .literal a _, .literal b _ => if a.toNat ≤ b.toNat then some rest else none
          | _, _ => none
    | rest => some rest

/-- Reads a set up to the bracket that closes it, with a number of brackets open. Every round takes
up a character, so the length of what is left is fuel enough. -/
def bracketRest? (mode : Mode) : Nat → Nat → List Char → Option (List Char)
  | 0, _, _ => none
  | fuel + 1, opened, cs =>
    match mode.skip cs with
    | [] => none
    | '[' :: rest =>
      match asciiSet? rest with
      | some (negated, rest) =>
        if negated && !mode.unicode then none else bracketRest? mode fuel opened rest
      | none =>
        match bracketStart? mode rest with
        | some rest => bracketRest? mode fuel (opened + 1) rest
        | none => none
    | ']' :: rest => if opened ≤ 1 then some rest else bracketRest? mode fuel (opened - 1) rest
    | '&' :: '&' :: rest => bracketRest? mode fuel opened rest
    | '-' :: '-' :: rest => bracketRest? mode fuel opened rest
    | '~' :: '~' :: rest => bracketRest? mode fuel opened rest
    | cs =>
      match bracketRange? mode cs with
      | some rest => bracketRest? mode fuel opened rest
      | none => none

/-- Reads a set from behind its opening bracket to behind its closing one. -/
def bracket? (mode : Mode) (cs : List Char) : Option (List Char) :=
  match bracketStart? mode cs with
  | some rest => bracketRest? mode (rest.length + 1) 1 rest
  | none => none

end TriggerRule.Pattern
