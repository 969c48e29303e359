import TriggerRule.Token

/-!
# Phrases

The tokens of a rule fall into phrases: an operator, a parenthesis that opens or closes a level, or
a whole match. What starts at a token is settled by the kinds of at most eight tokens from there on;
the texts play no part. Main statement: `length_drop_width`, a phrase takes up some of the tokens.
-/

namespace TriggerRule

/-- A phrase that is an operand or opens one. The texts of a match are those of its literals. -/
inductive Phrase.Operand where
  | group
  /-- `!(` -/
  | negation
  /-- `parameter == value` -/
  | value (parameter value : String)
  /-- `parameter ~= pattern` -/
  | regex (parameter pattern : String)
  /-- `parameter == sha1(target, secret)` -/
  | hash (parameter target secret : String)
  deriving DecidableEq

inductive Phrase where
  | and
  | or
  | close
  | operand (start : Phrase.Operand)
  deriving DecidableEq

namespace Phrase

/-- The number of tokens in an operand, or in the start of one. -/
def Operand.width : Operand → Nat
  | group => 1
  | negation => 2
  | value _ _ | regex _ _ => 3
  | hash _ _ _ => 8

def width : Phrase → Nat
  | and | or | close => 1
  | operand start => start.width

/-- The rest of a hash, from the parenthesis after `sha1` on. -/
def hashOf? (parameter : String) : List Token → Option Operand
  | opening :: target :: comma :: secret :: closing :: _ =>
    if opening.kind = .openParen ∧ target.isLiteral ∧ comma.kind = .comma ∧ secret.isLiteral ∧
        closing.kind = .closeParen then
      some (.hash parameter target.text secret.text)
    else none
  | _ => none

/-- The rest of a match, from the comparison on. -/
def matchOf? (parameter : String) : List Token → Option Operand
  | comparison :: against :: rest =>
    match comparison.kind with
    | .equals =>
      if against.isLiteral then some (.value parameter against.text)
      else if against.kind = .sha1 then hashOf? parameter rest
      else none
    | .matchesRegex => if against.isLiteral then some (.regex parameter against.text) else none
    | _ => none
  | _ => none

/-- The phrase at the start of the tokens. -/
def read? : List Token → Option Phrase
  | [] => none
  | token :: rest =>
    match token.kind with
    | .and => some and
    | .or => some or
    | .closeParen => some close
    | .openParen => some (operand .group)
    | .not =>
      match rest with
      | opening :: _ => if opening.kind = .openParen then some (operand .negation) else none
      | [] => none
    | .singleQuoted | .doubleQuoted => (matchOf? token.text rest).map operand
    | _ => none

theorem width_pos (phrase : Phrase) : 0 < phrase.width := by
  rcases phrase with _ | _ | _ | start
  · decide
  · decide
  · decide
  · cases start <;> simp [width, Operand.width]

theorem ne_nil_of_read? {tokens : List Token} {phrase : Phrase}
    (h : read? tokens = some phrase) : tokens ≠ [] := by
  rintro rfl
  simp [read?] at h

theorem length_drop_width {tokens : List Token} {phrase : Phrase}
    (h : read? tokens = some phrase) : (tokens.drop phrase.width).length < tokens.length := by
  have := phrase.width_pos
  have := List.length_pos_iff.2 (ne_nil_of_read? h)
  rw [List.length_drop]
  omega

/-- Splits tokens into phrases as far as that goes, and gives the tokens left over. -/
def split (tokens : List Token) : List Phrase × List Token :=
  match _h : read? tokens with
  | none => ([], tokens)
  | some phrase =>
    let (phrases, rest) := split (tokens.drop phrase.width)
    (phrase :: phrases, rest)
termination_by tokens.length
decreasing_by exact length_drop_width _h

end Phrase

end TriggerRule
