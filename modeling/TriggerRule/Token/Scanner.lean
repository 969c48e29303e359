import TriggerRule.Text.Slice
import TriggerRule.Token.Scan

/-!
# Splitting a text by offsets

A `Cursor` keeps the characters that are left of a text. A `Scanner` keeps the number of bytes before
its cursor instead, and looks at the text through slices from one offset to another. A slice that does
not begin and end between characters is a fault, and then a step leads nowhere. The tokens and errors
are gathered in the scanner, whose loop ends when it no longer has a mode.
-/

namespace TriggerRule

/-- Reads a literal from behind its opening mark on, having read some of its text in a number of
bytes. Gives the text, if a mark closes it, and the number of bytes read. -/
def QuoteMark.readBody (mark : QuoteMark) (cs text : List Char) (bytes : Nat) :
    Option (List Char) × Nat :=
  match cs with
  | [] => (none, bytes)
  | c :: cs =>
    if c = '\\' ∧ cs.head? = some mark.char then
      mark.readBody cs.tail (text ++ [mark.char]) (bytes + 1 + mark.char.utf8Size)
    else if c = mark.char then (some text, bytes + mark.char.utf8Size)
    else mark.readBody cs (text ++ [c]) (bytes + c.utf8Size)
termination_by cs.length
decreasing_by
  · rw [List.length_tail, List.length_cons]
    omega
  · exact Nat.lt_succ_self _

namespace Token

/-- The kind among some of those with one spelling that stands at the start of the characters. -/
def spelledKind? (kinds : List Kind) (cs : List Char) : Option Kind :=
  kinds.find? fun kind => kind.spelling.isPrefixOf cs

/-- The number of bytes in the spelling of a kind. -/
def Kind.size (kind : Kind) : Nat := Text.size kind.spelling

/-- The mode that reads the token at the start of a text. The word `sha1` is looked for in as many
bytes as it takes, which need not end between characters. -/
def Mode.ofText? (text : String) : Option Mode :=
  match text.toList with
  | [] => none
  | c :: cs =>
    match spelledKind? [.openParen, .closeParen, .comma] (c :: cs) with
    | some kind => some (.fixed kind)
    | none =>
      if c = QuoteMark.single.char then some (.quoted .single)
      else if c = QuoteMark.double.char then some (.quoted .double)
      else match spelledKind? [.equals, .matchesRegex, .and, .or, .not] (c :: cs) with
        | some kind => some (.fixed kind)
        | none =>
          match Text.slice? text 0 Kind.sha1.size with
          | some word =>
            if word.toList.map Char.toLower = Kind.sha1.spelling then some (.fixed .sha1) else none
          | none => none

/-- The scanner between two steps of its loop. -/
structure Scanner where
  /-- What comes next; nothing once the scanner has halted. -/
  mode : Option Mode
  /-- The number of bytes before the cursor. -/
  offset : Nat
  /-- The number of parentheses opened and not yet closed. -/
  unclosed : Nat
  tokens : List Token
  errors : List ScanError

namespace Scanner

def start : Scanner := ⟨some .between, 0, 0, [], []⟩

/-- The text from the cursor on. -/
def rest? (text : String) (scanner : Scanner) : Option String :=
  Text.slice? text scanner.offset text.utf8ByteSize

/-- The number of characters before the cursor. -/
def position? (text : String) (scanner : Scanner) : Option Nat :=
  (Text.slice? text 0 scanner.offset).map String.length

def emit (scanner : Scanner) (token : Token) : Scanner :=
  { scanner with tokens := scanner.tokens ++ [token] }

def halt (scanner : Scanner) : Scanner := { scanner with mode := none }

/-- Halts with the error that is met at the position of the cursor. -/
def fail? (text : String) (scanner : Scanner) (error : Nat → ScanError) : Option Scanner := do
  let position ← scanner.position? text
  return { scanner.halt with errors := scanner.errors ++ [error position] }

def skipBlanks? (text : String) (scanner : Scanner) : Option Scanner := do
  let rest ← scanner.rest? text
  let trimmed := rest.toList.dropWhile Text.isBlank
  return { scanner with offset := scanner.offset + (rest.utf8ByteSize - Text.size trimmed) }

/-- Settles what to read at a cursor with no blank before it. -/
def settle? (text : String) (scanner : Scanner) : Option Scanner := do
  let rest ← scanner.rest? text
  match rest.toList with
  | [] => return (scanner.emit endToken).halt
  | c :: _ =>
    match Mode.ofText? rest with
    | some mode => return { scanner with mode := some mode }
    | none => scanner.fail? text (.strayCharacter c)

/-- Reads a token with a fixed spelling. -/
def readFixed? (text : String) (scanner : Scanner) (kind : Kind) : Option Scanner :=
  if kind = .closeParen ∧ scanner.unclosed = 0 then scanner.fail? text .unopenedParen
  else do
    let stop := scanner.offset + kind.size
    let word ← Text.slice? text scanner.offset stop
    return { scanner.emit ⟨kind, word⟩ with
      mode := some .between
      offset := stop
      unclosed := Cursor.recount kind scanner.unclosed }

/-- Reads a literal. One that is never closed ends the tokens as the end of the text does. -/
def readQuoted? (text : String) (scanner : Scanner) (mark : QuoteMark) : Option Scanner := do
  let inside := { scanner with offset := scanner.offset + mark.char.utf8Size }
  let rest ← inside.rest? text
  let (body, bytes) := mark.readBody rest.toList [] 0
  let behind := { inside with offset := inside.offset + bytes }
  match body with
  | some cs =>
    return { behind.emit ⟨mark.literalKind, String.ofList cs⟩ with mode := some .between }
  | none => (behind.emit endToken).fail? text (.unclosedLiteral mark)

/-- One step of the loop. -/
def step? (text : String) (scanner : Scanner) : Mode → Option Scanner
  | .between => do
    let settled ← scanner.skipBlanks? text
    settled.settle? text
  | .fixed kind => scanner.readFixed? text kind
  | .quoted mark => scanner.readQuoted? text mark

/-- What the scanner yields behind its loop. -/
def finish? (text : String) (scanner : Scanner) : Option Scan :=
  if 0 < scanner.unclosed then do
    let position ← scanner.position? text
    return ⟨scanner.tokens, scanner.errors ++ [.unclosedParen position]⟩
  else return ⟨scanner.tokens, scanner.errors⟩

/-- The loop comes to the scanner in a number of steps. -/
inductive Reached (text : String) : Nat → Scanner → Prop
  | start : Reached text 0 start
  | step {steps : Nat} {scanner next : Scanner} {mode : Mode} (h : Reached text steps scanner)
    (hm : scanner.mode = some mode) (hs : scanner.step? text mode = some next) :
    Reached text (steps + 1) next

end Scanner

end Token

end TriggerRule
