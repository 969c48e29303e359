import TriggerRule.Reference.Document
import TriggerRule.Rule

/-!
# Rules in documents

A rule is an object with one key that says what it is: `match`, `and`, `or` or `not`. A match is an
object with its kind under `type`, its `parameter`, and its literal under a key that depends on the
kind. When read, a match may also be an array of the three, the keys may come in any order, and keys
that mean nothing for the kind are passed over; but everything in the document has to be readable,
what is passed over included.
-/

namespace TriggerRule

/-! ## Writing -/

/-- The name of a kind of match. -/
def Test.tag : Test → String
  | .value _ => "value"
  | .regex _ => "regex"
  | .sha1 _ => "payload-hash-sha1"

/-- The key of the literal in a match. -/
def Test.key : Test → String
  | .value _ => "value"
  | .regex _ => "regex"
  | .sha1 _ => "secret"

/-- The literal of a match. -/
def Test.literal : Test → String
  | .value text => text
  | .regex pattern => pattern
  | .sha1 secret => secret

def Match.toJson (condition : Match) : Json :=
  .object [("type", .string condition.test.tag), ("parameter", condition.parameter.toJson),
    (condition.test.key, .string condition.test.literal)]

namespace Rule

mutual

def toJson : Rule → Json
  | leaf condition => .object [("match", condition.toJson)]
  | all parts => .object [("and", .array (listToJson parts))]
  | any parts => .object [("or", .array (listToJson parts))]
  | not part => .object [("not", part.toJson)]

def listToJson : List Rule → List Json
  | [] => []
  | part :: parts => part.toJson :: listToJson parts

end

end Rule

/-! ## Reading -/

/-- The kind of match that a tag names, for a literal. -/
def Test.ofTag? (tag : String) : Option (String → Test) :=
  if tag = "value" then some .value
  else if tag = "regex" then some .regex
  else if tag = "payload-hash-sha1" then some .sha1
  else none

/-- Whether a value inside a match is `null` or an empty object. -/
def Match.isNothing : Json → Bool
  | .null => true
  | .object entries => entries.isEmpty
  | _ => false

/-- The match of a kind, a parameter and a literal. -/
def Match.ofParts? (test : String → Test) (parameter literal : Json) : Option Match :=
  match Reference.ofJson? isNothing parameter, literal.text? with
  | some parameter, some literal => some ⟨parameter, test literal⟩
  | _, _ => none

def Match.ofJson? : Json → Option Match
  | .array [.string tag, parameter, literal] =>
    match Test.ofTag? tag with
    | some test => ofParts? test parameter literal
    | none => none
  | .object entries =>
    match (Json.once? "type" entries).bind Json.text? with
    | some tag =>
      match Test.ofTag? tag, Json.once? "parameter" entries with
      | some test, some parameter =>
        match Json.once? (test "").key entries with
        | some literal => ofParts? test parameter literal
        | none => none
      | _, _ => none
    | none => none
  | _ => none

namespace Rule

mutual

def ofJson? : Json → Option Rule
  | .object [(key, value)] =>
    if key = "match" then (Match.ofJson? value).map leaf
    else if key = "not" then (ofJson? value).map not
    else if key = "and" then (partsOfJson? value).map all
    else if key = "or" then (partsOfJson? value).map any
    else none
  | _ => none

def partsOfJson? : Json → Option (List Rule)
  | .array items => listOfJson? items
  | _ => none

def listOfJson? : List Json → Option (List Rule)
  | [] => some []
  | item :: items =>
    match ofJson? item, listOfJson? items with
    | some part, some parts => some (part :: parts)
    | _, _ => none

end

/-- Loads a rule from the text of a document. -/
def load? (text : String) : Option Rule :=
  (Json.read? text).bind fun document => if document.isReadable then ofJson? document else none

end Rule

end TriggerRule
