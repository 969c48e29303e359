import TriggerRule.Json.Read
import TriggerRule.Json.Write
import TriggerRule.Reference

/-!
# References in documents

A reference is written as an object with the keys `source` and `name`. When read, it may also be an
array of the two, the keys may come in any order, and keys other than these are passed over with
whatever they hold. A source may be its name, or an object with the name as its only key and nothing
under it; which values count as nothing is a parameter, because a list of references takes `null`
alone and a rule also an empty object.
-/

namespace TriggerRule

def Source.ofJson? (isNothing : Json → Bool) : Json → Option Source
  | .string text => ofName? text
  | .object [(key, value)] => if isNothing value then ofName? key else none
  | _ => none

namespace Reference

def toJson (reference : Reference) : Json :=
  .object [("source", .string reference.source.name), ("name", .string reference.name)]

/-- The reference of two documents. -/
def ofParts? (isNothing : Json → Bool) (source name : Json) : Option Reference :=
  match Source.ofJson? isNothing source, name.text? with
  | some source, some name => some ⟨source, name⟩
  | _, _ => none

def ofJson? (isNothing : Json → Bool) : Json → Option Reference
  | .array [source, name] => ofParts? isNothing source name
  | .object entries =>
    match Json.once? "source" entries, Json.once? "name" entries with
    | some source, some name => ofParts? isNothing source name
    | _, _ => none
  | _ => none

def isNull : Json → Bool
  | .null => true
  | _ => false

def listToJson (references : List Reference) : Json := .array (references.map toJson)

def listOfJson? : Json → Option (List Reference)
  | .array items => items.mapM (ofJson? isNull)
  | _ => none

/-- Loads a list of references from the text of a document. -/
def loadList? (text : String) : Option (List Reference) := (Json.read? text).bind listOfJson?

end Reference

end TriggerRule
