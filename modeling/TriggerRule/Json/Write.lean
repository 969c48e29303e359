import TriggerRule.Json
import TriggerRule.Text.Hex

/-!
# Writing a JSON document

A document is written compactly, with no blank in it, or indented, with each item of an array and
each entry of an object on a line of its own. In a string only the quote, the backslash and the
control characters below U+0020 are escaped.
-/

namespace TriggerRule

/-- How a character of a string is written. -/
def Json.escape (c : Char) : List Char :=
  if c = '"' then ['\\', '"']
  else if c = '\\' then ['\\', '\\']
  else if c = '\x08' then ['\\', 'b']
  else if c = '\x0c' then ['\\', 'f']
  else if c = '\n' then ['\\', 'n']
  else if c = '\r' then ['\\', 'r']
  else if c = '\t' then ['\\', 't']
  else if c.toNat < 0x20 then
    ['\\', 'u', '0', '0', Text.hexDigit (c.toNat / 16), Text.hexDigit (c.toNat % 16)]
  else [c]

def Json.writeString (text : String) : String :=
  String.ofList ('"' :: text.toList.flatMap Json.escape ++ ['"'])

/-- A number as its coefficient and its exponent. -/
def Decimal.write (value : Decimal) : String :=
  (if value.negative then "-" else "") ++ toString value.coefficient ++ "e" ++
    toString value.exponent

namespace Json

/-- How a value that names no text is written: half of a surrogate pair. -/
def unreadableText : String := "\"\\ud800\""

mutual

/-- A document without blanks. -/
def compact : Json → String
  | null => "null"
  | bool value => if value then "true" else "false"
  | number value => value.write
  | string text => writeString text
  | array items => "[" ++ compactItems items ++ "]"
  | object entries => "\x7b" ++ compactEntries entries ++ "\x7d"
  | unreadable => unreadableText

/-- Items with a comma between each two. -/
def compactItems : List Json → String
  | [] => ""
  | [item] => item.compact
  | item :: items => item.compact ++ "," ++ compactItems items

/-- Entries with a comma between each two. -/
def compactEntries : List (String × Json) → String
  | [] => ""
  | [(key, value)] => writeString key ++ ":" ++ value.compact
  | (key, value) :: entries =>
    writeString key ++ ":" ++ value.compact ++ "," ++ compactEntries entries

end

/-- The start of a new line: two spaces for each level. -/
def newLine (level : Nat) : String := String.ofList ('\n' :: List.replicate (2 * level) ' ')

mutual

/-- A document with its items and entries on lines of their own, the outermost brackets at a
level. -/
def indentedAt (level : Nat) : Json → String
  | null => "null"
  | bool value => if value then "true" else "false"
  | number value => value.write
  | string text => writeString text
  | array items =>
    match items with
    | [] => "[]"
    | item :: items => "[" ++ indentedItems level (item :: items) ++ newLine level ++ "]"
  | object entries =>
    match entries with
    | [] => "\x7b\x7d"
    | entry :: entries =>
      "\x7b" ++ indentedEntries level (entry :: entries) ++ newLine level ++ "\x7d"
  | unreadable => unreadableText

/-- Items, each on a line one level deeper, with a comma between each two. -/
def indentedItems (level : Nat) : List Json → String
  | [] => ""
  | [item] => newLine (level + 1) ++ item.indentedAt (level + 1)
  | item :: items =>
    newLine (level + 1) ++ item.indentedAt (level + 1) ++ "," ++ indentedItems level items

/-- Entries, each on a line one level deeper, with a comma between each two. -/
def indentedEntries (level : Nat) : List (String × Json) → String
  | [] => ""
  | [(key, value)] =>
    newLine (level + 1) ++ writeString key ++ ": " ++ value.indentedAt (level + 1)
  | (key, value) :: entries =>
    newLine (level + 1) ++ writeString key ++ ": " ++ value.indentedAt (level + 1) ++ "," ++
      indentedEntries level entries

end

def indented (value : Json) : String := value.indentedAt 0

end Json

end TriggerRule
