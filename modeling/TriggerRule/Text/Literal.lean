import TriggerRule.Text.Hex
import TriggerRule.Text.Printable

/-!
# Literals that show every character

A listing writes a text between double quotes so that the reader sees what it holds: quotes and
backslashes take a backslash, the usual control characters their letter, and a character that leaves
no mark of its own its code point in braces. Which characters those are is a parameter; `literal`
takes `isUnprintable`.
-/

namespace TriggerRule.Text

/-- How one character of a text is written. -/
def escape (unprintable : Char → Bool) (c : Char) : List Char :=
  if c = '"' then ['\\', '"']
  else if c = '\\' then ['\\', '\\']
  else if c = '\t' then ['\\', 't']
  else if c = '\n' then ['\\', 'n']
  else if c = '\r' then ['\\', 'r']
  else if c = '\x00' then ['\\', '0']
  else if unprintable c then ['\\', 'u', '\x7b'] ++ hexDigits c.toNat ++ ['\x7d']
  else [c]

/-- A text between double quotes, its characters escaped where `unprintable` asks for it. -/
def literalWith (unprintable : Char → Bool) (text : String) : String :=
  String.ofList ('"' :: text.toList.flatMap (escape unprintable) ++ ['"'])

/-- A text as a listing shows it. -/
def literal (text : String) : String := literalWith isUnprintable text

end TriggerRule.Text
