import TriggerRule.Log
import TriggerRule.Text.Blank
import TriggerRule.Token.QuoteMark

/-!
# Splitting a text into tokens

The scanner is a machine with a cursor on the text. Between tokens it skips blanks and settles which
token starts there; in the two other modes it reads that token. It halts at the end of the text, at
a character that starts no token, at a closing parenthesis with nothing to close and at a literal
that is never closed. Parentheses still open when it halts are a second error.

Main statements: `Cursor.weight_of_step`, by which the machine halts, and `Cursor.run_eq`, one step
of a run without its records.
-/

namespace TriggerRule

namespace Token

/-- What keeps a text from being split into tokens. Positions count characters from zero. -/
inductive ScanError where
  /-- A literal with this mark runs to the end of the text. -/
  | unclosedLiteral (mark : QuoteMark) (position : Nat)
  | unclosedParen (position : Nat)
  | unopenedParen (position : Nat)
  | strayCharacter (found : Char) (position : Nat)
  deriving DecidableEq

def ScanError.position : ScanError → Nat
  | .unclosedLiteral _ position | .unclosedParen position | .unopenedParen position
  | .strayCharacter _ position => position

def ScanError.message : ScanError → String
  | .unclosedLiteral .single position =>
    "missing closing single quotation mark at position: " ++ toString position
  | .unclosedLiteral .double position =>
    "missing closing double quotation mark at position: " ++ toString position
  | .unclosedParen position => "missing closing parenthesis at position: " ++ toString position
  | .unopenedParen position => "unexpected closing parenthesis at position: " ++ toString position
  | .strayCharacter found position =>
    "unexpected token " ++ found.toString ++ " at position: " ++ toString position

/-! ## Which token starts at the cursor -/

inductive Mode where
  /-- Blanks, and then whatever token follows. -/
  | between
  /-- A token with a fixed spelling, which stands at the cursor. -/
  | fixed (kind : Kind)
  /-- A literal, whose opening mark stands at the cursor. -/
  | quoted (mark : QuoteMark)
  deriving DecidableEq

/-- The kinds whose spelling admits no other letter case. -/
def exactKinds : List Kind :=
  [.openParen, .closeParen, .comma, .equals, .matchesRegex, .and, .or, .not]

/-- The kind with a fixed spelling that stands at the start of the characters. -/
def fixedKind? (cs : List Char) : Option Kind :=
  match exactKinds.find? fun kind => kind.spelling.isPrefixOf cs with
  | some kind => some kind
  | none => if (cs.take 4).map Char.toLower = Kind.sha1.spelling then some .sha1 else none

/-- The mode that reads the token at the start of the characters. -/
def Mode.of? : List Char → Option Mode
  | [] => none
  | c :: cs =>
    if c = QuoteMark.single.char then some (.quoted .single)
    else if c = QuoteMark.double.char then some (.quoted .double)
    else (fixedKind? (c :: cs)).map .fixed

/-! ## The machine -/

structure Cursor where
  mode : Mode
  /-- The characters from the cursor on. -/
  rest : List Char
  /-- The number of characters before the cursor. -/
  position : Nat
  /-- The number of parentheses opened and not yet closed. -/
  unclosed : Nat

/-- What one step of the scanner leads to. -/
inductive Step where
  /-- The scanner goes on from the next cursor, having emitted a token or none. -/
  | advance (emitted : Option Token) (next : Cursor)
  /-- The scanner halts at the last cursor, of its own accord or with an error. -/
  | halt (emitted : Option Token) (error : Option ScanError) (last : Cursor)

namespace Cursor

def start (text : List Char) : Cursor := ⟨.between, text, 0, 0⟩

def skipBlanks (cursor : Cursor) : Cursor :=
  { cursor with
    rest := cursor.rest.dropWhile Text.isBlank
    position := cursor.position + (cursor.rest.takeWhile Text.isBlank).length }

/-- Settles what to read at a cursor with no blank before it. -/
def settle (cursor : Cursor) : Step :=
  match cursor.rest with
  | [] => .halt (some endToken) none cursor
  | c :: cs =>
    match Mode.of? (c :: cs) with
    | some mode => .advance none { cursor with mode }
    | none => .halt none (some (.strayCharacter c cursor.position)) cursor

/-- The number of open parentheses after a token of a kind. -/
def recount (kind : Kind) (unclosed : Nat) : Nat :=
  match kind with
  | .openParen => unclosed + 1
  | .closeParen => unclosed - 1
  | _ => unclosed

/-- Reads a token with a fixed spelling, which keeps the letter case it is written in. The mode is
entered with the token at the cursor, so the text never ends there. -/
def readFixed (cursor : Cursor) (kind : Kind) : Step :=
  match cursor.rest with
  | [] => .halt none none cursor
  | c :: cs =>
    if kind = .closeParen ∧ cursor.unclosed = 0 then
      .halt none (some (.unopenedParen cursor.position)) cursor
    else
      let more := kind.spelling.length - 1
      .advance (some ⟨kind, String.ofList (c :: cs.take more)⟩)
        ⟨.between, cs.drop more, cursor.position + 1 + more, recount kind cursor.unclosed⟩

/-- Reads a literal. One that is never closed ends the tokens as the end of the text does. The mode
is entered with the opening mark at the cursor, so the text never ends there. -/
def readQuoted (cursor : Cursor) (mark : QuoteMark) : Step :=
  match cursor.rest with
  | [] => .halt none none cursor
  | _ :: cs =>
    match mark.body? cs with
    | some (text, rest) =>
      .advance (some ⟨mark.literalKind, String.ofList text⟩)
        ⟨.between, rest, cursor.position + 1 + (cs.length - rest.length), cursor.unclosed⟩
    | none =>
      let stop := cursor.position + 1 + cs.length
      .halt (some endToken) (some (.unclosedLiteral mark stop))
        ⟨.between, [], stop, cursor.unclosed⟩

def step (cursor : Cursor) : Step :=
  match cursor.mode with
  | .between => cursor.skipBlanks.settle
  | .fixed kind => cursor.readFixed kind
  | .quoted mark => cursor.readQuoted mark

/-! ## The machine halts -/

/-- What is left to do: each token takes one step to settle and one to read. -/
def weight (cursor : Cursor) : Nat :=
  2 * cursor.rest.length + match cursor.mode with
    | .between => 1
    | _ => 0

theorem mode_ne_between {cs : List Char} {mode : Mode} (h : Mode.of? cs = some mode) :
    mode ≠ .between := by
  cases cs with
  | nil => simp [Mode.of?] at h
  | cons c cs =>
    rw [Mode.of?] at h
    split at h
    · simp_all [← Option.some.inj h]
    · split at h
      · simp_all [← Option.some.inj h]
      · obtain ⟨kind, -, rfl⟩ := Option.map_eq_some_iff.1 h
        simp

theorem weight_of_settle {cursor next : Cursor} {emitted : Option Token}
    (h : cursor.settle = .advance emitted next) : next.weight ≤ 2 * cursor.rest.length := by
  rw [settle] at h
  split at h
  · simp at h
  · split at h
    · next mode hm =>
      simp only [Step.advance.injEq] at h
      obtain ⟨-, rfl⟩ := h
      have := mode_ne_between hm
      cases mode <;> simp_all [weight]
    · simp at h

theorem weight_of_readFixed {cursor next : Cursor} {kind : Kind} {emitted : Option Token}
    (h : cursor.readFixed kind = .advance emitted next) :
    next.weight < 2 * cursor.rest.length := by
  rw [readFixed] at h
  split at h
  · simp at h
  · split at h
    · simp at h
    · simp only [Step.advance.injEq] at h
      obtain ⟨-, rfl⟩ := h
      simp_all only [weight, List.length_drop, List.length_cons]
      omega

theorem weight_of_readQuoted {cursor next : Cursor} {mark : QuoteMark} {emitted : Option Token}
    (h : cursor.readQuoted mark = .advance emitted next) :
    next.weight < 2 * cursor.rest.length := by
  rw [readQuoted] at h
  split at h
  · simp at h
  · split at h
    · next hb =>
      simp only [Step.advance.injEq] at h
      obtain ⟨-, rfl⟩ := h
      have := QuoteMark.length_of_body? hb
      simp_all only [weight, List.length_cons]
      omega
    · simp at h

/-- Every step that goes on leaves less to do. -/
theorem weight_of_step {cursor next : Cursor} {emitted : Option Token}
    (h : cursor.step = .advance emitted next) : next.weight < cursor.weight := by
  rw [step] at h
  split at h
  · next hm =>
    have := weight_of_settle h
    have := (List.dropWhile_suffix (l := cursor.rest) Text.isBlank).length_le
    simp only [skipBlanks] at *
    simp only [weight, hm] at *
    omega
  · next hm => exact Nat.lt_of_lt_of_le (weight_of_readFixed h) (by simp [weight])
  · next hm => exact Nat.lt_of_lt_of_le (weight_of_readQuoted h) (by simp [weight])

end Cursor

/-! ## Runs -/

/-- What a run of the scanner yields: the tokens it emitted and the errors it met. -/
structure Scan where
  tokens : List Token
  errors : List ScanError
  deriving DecidableEq

/-- Writes a record for a token, if there is one. -/
def record : Option Token → Logged Unit
  | some token => Logged.write (.emitted token)
  | none => pure ()

/-- The error of a scanner that halts with parentheses open. -/
def Cursor.unclosedError (last : Cursor) : Option ScanError :=
  if last.unclosed = 0 then none else some (.unclosedParen last.position)

/-- Runs the scanner from a cursor until it halts; each emitted token is recorded. -/
def Cursor.runLogged (cursor : Cursor) : Logged Scan :=
  match _h : cursor.step with
  | .advance emitted next => do
    record emitted
    let later ← next.runLogged
    return ⟨emitted.toList ++ later.tokens, later.errors⟩
  | .halt emitted error last => do
    record emitted
    return ⟨emitted.toList, error.toList ++ last.unclosedError.toList⟩
termination_by cursor.weight
decreasing_by exact weight_of_step _h

def Cursor.run (cursor : Cursor) : Scan := cursor.runLogged.value

theorem Cursor.run_eq (cursor : Cursor) :
    cursor.run = match cursor.step with
      | .advance emitted next => ⟨emitted.toList ++ next.run.tokens, next.run.errors⟩
      | .halt emitted error last =>
        ⟨emitted.toList, error.toList ++ last.unclosedError.toList⟩ := by
  rw [run, runLogged]
  split
  · next h => rw [h]; rfl
  · next h => rw [h]; rfl

def scanLogged (text : String) : Logged Scan := (Cursor.start text.toList).runLogged

/-- The tokens of a text and the errors met, both of which may be present. -/
def scan (text : String) : Scan := (scanLogged text).value

/-- The tokens of a scan, or its first error. -/
def Scan.toExcept (scan : Scan) : Except ScanError (List Token) :=
  match scan.errors with
  | [] => .ok scan.tokens
  | error :: _ => .error error

/-- The tokens of a text that has no error in it. -/
def ofText (text : String) : Except ScanError (List Token) := (scan text).toExcept

theorem ofText_eq_ok_iff_scan {text : String} {tokens : List Token} :
    ofText text = .ok tokens ↔ (scan text).errors = [] ∧ (scan text).tokens = tokens := by
  unfold ofText Scan.toExcept
  cases (scan text).errors <;> simp

theorem ofText_eq_error_iff_scan {text : String} {error : ScanError} :
    ofText text = .error error ↔ (scan text).errors.head? = some error := by
  unfold ofText Scan.toExcept
  cases (scan text).errors <;> simp

end Token

end TriggerRule
