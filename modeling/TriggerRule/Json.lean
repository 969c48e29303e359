import TriggerRule.Decimal

/-!
# JSON values

A document is a tree of values. An object keeps its entries in the order in which they are written,
repeated keys included. A number is kept as a decimal (`TriggerRule.Decimal`); one that is not
finite cannot be read.

Some JSON texts name no text: a string whose escapes leave half of a surrogate pair alone. Such a
string, and an object with such a key, is `unreadable`; a document that holds one may be passed over
but not read (`Json.isReadable`).
-/

namespace TriggerRule

inductive Json where
  | null
  | bool (value : Bool)
  | number (value : Decimal)
  | string (text : String)
  | array (items : List Json)
  | object (entries : List (String × Json))
  /-- A string that names no text, or an object with such a key. -/
  | unreadable

namespace Json

instance : Inhabited Json := ⟨.null⟩

/-- How deep brackets may nest in a document that is read. -/
def maxBrackets : Nat := 127

mutual

/-- Whether a value can be read with this many more brackets to open. -/
def isReadableWithin (brackets : Nat) : Json → Bool
  | null | bool _ | string _ => true
  | number value => value.isFinite
  | array items =>
    match brackets with
    | 0 => false
    | brackets + 1 => areReadableWithin brackets items
  | object entries =>
    match brackets with
    | 0 => false
    | brackets + 1 => entriesReadableWithin brackets entries
  | unreadable => false

def areReadableWithin (brackets : Nat) : List Json → Bool
  | [] => true
  | item :: items => isReadableWithin brackets item && areReadableWithin brackets items

def entriesReadableWithin (brackets : Nat) : List (String × Json) → Bool
  | [] => true
  | (_, value) :: entries =>
    isReadableWithin brackets value && entriesReadableWithin brackets entries

end

/-- Whether everything in a document can be read. -/
def isReadable (value : Json) : Bool := value.isReadableWithin maxBrackets

/-- The value under a key that occurs exactly once. -/
def once? (key : String) (entries : List (String × Json)) : Option Json :=
  match entries.filter fun entry => entry.1 == key with
  | [(_, value)] => some value
  | _ => none

def text? : Json → Option String
  | string text => some text
  | _ => none

end Json

end TriggerRule
