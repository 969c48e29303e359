/-!
# Tokens

A rule or a list of references is read as a sequence of tokens. A token keeps its text: the
characters between the quotes of a literal with the escapes undone, and for every other kind the
characters it was written with.
-/

namespace TriggerRule

/-- The kinds of token. -/
inductive Token.Kind where
  | endOfText
  | openParen
  | closeParen
  | comma
  | matchesRegex
  | equals
  | not
  | and
  | or
  | singleQuoted
  | doubleQuoted
  /-- The word `sha1`, in any letter case. -/
  | sha1
  deriving DecidableEq, Inhabited

/-- A token: its kind and its text. -/
structure Token where
  kind : Token.Kind
  text : String
  deriving DecidableEq, Inhabited

namespace Token

/-- The name under which listings and logs show a kind. -/
def Kind.label : Kind → String
  | .endOfText => "Eof"
  | .openParen => "LParen"
  | .closeParen => "RParen"
  | .comma => "Comma"
  | .matchesRegex => "RegexEqual"
  | .equals => "StringEqual"
  | .not => "Not"
  | .and => "And"
  | .or => "Or"
  | .singleQuoted => "SingleQuoted"
  | .doubleQuoted => "DoubleQuoted"
  | .sha1 => "Sha1"

/-- The kinds that carry a text of the rule's author, in quotes. -/
def Kind.isLiteral : Kind → Bool
  | .singleQuoted | .doubleQuoted => true
  | _ => false

/-- How a kind with a fixed spelling is written, `sha1` in its lower-case form; nothing for the
others. -/
def Kind.spelling : Kind → List Char
  | .openParen => ['(']
  | .closeParen => [')']
  | .comma => [',']
  | .matchesRegex => ['~', '=']
  | .equals => ['=', '=']
  | .not => ['!']
  | .and => ['&', '&']
  | .or => ['|', '|']
  | .sha1 => ['s', 'h', 'a', '1']
  | .endOfText | .singleQuoted | .doubleQuoted => []

/-- The token that ends the tokens of a text. -/
def endToken : Token := ⟨.endOfText, ""⟩

def isLiteral (token : Token) : Bool := token.kind.isLiteral

end Token

end TriggerRule
