import TriggerRule.Reference
import TriggerRule.Token

/-!
# Failures of a token sequence

A token sequence that is no rule or no list of references fails at one of its tokens. When that
happens inside groups, the failure is wrapped once for each group around it, from the outermost to
the innermost, each wrapper anchored at the token that opened the group.

A failure is first stated by sites (the index of a token, and the nesting level), and then anchored
in the tokens for the reader (`Failure.anchored`). `message` writes it over several lines;
`enclosures` and `origin` are its two parts, from which `wrap` makes it again
(`wrap_enclosures`).
-/

namespace TriggerRule

/-- The deepest nesting level of a rule. The whole rule is level one. -/
def depthLimit : Nat := 128

inductive Enclosure where
  | group
  /-- A group in parentheses under a `!`. -/
  | negation
  deriving DecidableEq

inductive Cause where
  /-- Nothing that may follow starts with the token. -/
  | unexpectedToken
  /-- A level ends with nothing in it. -/
  | emptyLevel
  /-- A level ends right after an operator. -/
  | missingOperand
  /-- A list ends where a reference is due. -/
  | missingReference
  /-- Two references stand side by side in a list. -/
  | missingComma
  | badReference (refusal : Reference.Refusal)
  /-- A hash is taken over something other than the payload. -/
  | badHashTarget
  /-- A group would nest deeper than `depthLimit`. -/
  | nestingTooDeep
  deriving DecidableEq

/-- The index of a token and the nesting level it is read at. -/
structure Site where
  index : Nat
  depth : Nat
  deriving DecidableEq

/-- A token as a message shows it: its text, its offset and the nesting level it is read at. -/
structure Anchor where
  token : String
  position : Nat
  depth : Nat
  deriving DecidableEq

/-- A failure, and the groups around it. -/
inductive Failure (α : Type) where
  | raised (cause : Cause) (anchor : α)
  /-- The failure lies inside a group opened at a token. -/
  | within (enclosure : Enclosure) (anchor : α) (inner : Failure α)
  deriving DecidableEq

namespace Failure

variable {α β : Type}

def map (f : α → β) : Failure α → Failure β
  | raised cause a => raised cause (f a)
  | within enclosure a inner => within enclosure (f a) (inner.map f)

/-- The groups around the refused token, from the outside inwards. -/
def enclosures : Failure α → List (Enclosure × α)
  | raised _ _ => []
  | within enclosure a inner => (enclosure, a) :: inner.enclosures

/-- The refused token and the reason. -/
def origin : Failure α → Cause × α
  | raised cause a => (cause, a)
  | within _ _ inner => inner.origin

def wrap (groups : List (Enclosure × α)) (cause : Cause) (a : α) : Failure α :=
  groups.foldr (fun (enclosure, b) inner => within enclosure b inner) (raised cause a)

theorem wrap_enclosures (failure : Failure α) :
    wrap failure.enclosures failure.origin.1 failure.origin.2 = failure := by
  induction failure with
  | raised cause a => rfl
  | within enclosure a inner ih => exact congrArg (within enclosure a) ih

@[simp] theorem enclosures_wrap (groups : List (Enclosure × α)) (cause : Cause) (a : α) :
    (wrap groups cause a).enclosures = groups := by
  induction groups with
  | nil => rfl
  | cons group groups ih => exact congrArg (group :: ·) ih

@[simp] theorem origin_wrap (groups : List (Enclosure × α)) (cause : Cause) (a : α) :
    (wrap groups cause a).origin = (cause, a) := by
  induction groups with
  | nil => rfl
  | cons group groups ih => exact ih

@[simp] theorem origin_map (f : α → β) (failure : Failure α) :
    (failure.map f).origin = (failure.origin.1, f failure.origin.2) := by
  induction failure with
  | raised cause a => rfl
  | within enclosure a inner ih => exact ih

end Failure

/-! ## The wording -/

/-- What the first line of a failure says of a cause. -/
def Cause.headline : Cause → String
  | .unexpectedToken => "unexpected token"
  | .emptyLevel => "invalid rule"
  | .missingOperand => "expected valid rule"
  | .missingReference => "expected argument"
  | .missingComma => "expected comma"
  | .badReference _ | .badHashTarget => "syntax error"
  | .nestingTooDeep => "rule nesting too deep"

/-- What a line of its own adds to a cause. -/
def Cause.detail : Cause → Option String
  | .badReference refusal => some refusal.message
  | .badHashTarget => some "sha1 target must be payload"
  | .nestingTooDeep => some ("rules may nest at most " ++ toString depthLimit ++ " levels")
  | _ => none

def Enclosure.headline : Enclosure → String
  | .group => "error parsing expression group"
  | .negation => "error parsing not rule"

def Anchor.header (anchor : Anchor) (headline : String) : String :=
  headline ++ " (token: " ++ anchor.token ++ ", pos: " ++ toString anchor.position ++ ")"

/-- The start of a new line, indented by a tab for each level. -/
def Anchor.newLine (anchor : Anchor) : String :=
  String.ofList ('\n' :: List.replicate anchor.depth '\t')

/-- The failure in words. Each group takes a line; what lies inside it begins on a new line that is
indented by the level of the group. -/
def Failure.message : Failure Anchor → String
  | raised cause anchor =>
    anchor.header cause.headline ++ match cause.detail with
      | some detail => anchor.newLine ++ detail
      | none => ""
  | within enclosure anchor inner =>
    anchor.header enclosure.headline ++ anchor.newLine ++ inner.message

/-! ## Anchoring in the tokens -/

def Token.textLength : List Token → Nat
  | [] => 0
  | token :: tokens => token.text.length + textLength tokens

/-- The number of characters in the texts of the tokens before an index. -/
def Site.position (tokens : List Token) (index : Nat) : Nat :=
  Token.textLength (tokens.take index)

/-- The text shown for the token at an index; the end of the text has a name of its own. -/
def Site.token (tokens : List Token) (index : Nat) : String :=
  match tokens[index]? with
  | some token => if token.kind = .endOfText then "<EOF>" else token.text
  | none => "<EOF>"

def Site.anchor (tokens : List Token) (site : Site) : Anchor :=
  ⟨Site.token tokens site.index, Site.position tokens site.index, site.depth⟩

/-- A failure anchored in the tokens it is about. -/
def Failure.anchored (tokens : List Token) (failure : Failure Site) : Failure Anchor :=
  failure.map (Site.anchor tokens)

end TriggerRule
