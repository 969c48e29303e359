import TriggerRule.Rule
import TriggerRule.Token.QuoteMark

/-!
# Rules as text

A rule is written so that its tree shows: every conjunction and disjunction stands in parentheses,
and so does the part of a negation, but not twice. Literals are written between double quotes.
-/

namespace TriggerRule

/-- A text as a literal between double quotes. -/
def doubleQuoted (text : String) : String := QuoteMark.double.enclose text

/-- A match as text. A hash is always taken over the payload. -/
def Match.render (condition : Match) : String :=
  doubleQuoted condition.parameter.render ++ match condition.test with
    | .value text => " == " ++ doubleQuoted text
    | .regex pattern => " ~= " ++ doubleQuoted pattern
    | .sha1 secret =>
      " == sha1(" ++ doubleQuoted Source.payload.name ++ ", " ++ doubleQuoted secret ++ ")"

namespace Rule

/-- Whether the text of a rule stands in parentheses of its own. -/
def isGroup : Rule → Bool
  | all _ | any _ => true
  | _ => false

mutual

def render : Rule → String
  | leaf condition => condition.render
  | all parts => "(" ++ renderList " && " parts ++ ")"
  | any parts => "(" ++ renderList " || " parts ++ ")"
  | not part => if part.isGroup then "!" ++ part.render else "!(" ++ part.render ++ ")"

/-- The texts of the parts with the operator between each two. -/
def renderList (operator : String) : List Rule → String
  | [] => ""
  | [part] => part.render
  | part :: parts => part.render ++ operator ++ renderList operator parts

end

end Rule

end TriggerRule
