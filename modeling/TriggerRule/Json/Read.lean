import TriggerRule.Json.Lexeme

/-!
# Reading a JSON document

A document is read lexeme by lexeme. What has been read so far is a stack of containers that are
still open, and what may come next depends on where in the innermost one the reader stands. So the
depth of a document takes no stack of calls, and a document that ends early or goes on too long is
refused by the state it ends in.
-/

namespace TriggerRule.Json

/-- The entries of an object that is being read, the latest first; a key that names no text has
none. -/
abbrev Entries := List (Option String × Json)

/-- A container that is still open, with what it holds so far, the latest first. -/
inductive Container where
  | array (items : List Json)
  /-- An object, and the key whose value is being read. -/
  | object (entries : Entries) (key : Option String)

/-- Where the reader stands. The open containers are given from the inside outwards. -/
inductive Reader where
  /-- A value is due. -/
  | value (outer : List Container)
  /-- An array has just been opened: a value is due, or its end. -/
  | firstItem (outer : List Container)
  /-- An object has just been opened: a key is due, or its end. -/
  | firstKey (outer : List Container)
  /-- A key of an object is due. -/
  | key (outer : List Container) (entries : Entries)
  /-- The colon after a key is due. -/
  | colon (outer : List Container) (entries : Entries) (key : Option String)
  /-- A value has ended: a comma is due, or the end of the container or of the document. -/
  | done (outer : List Container) (value : Json)

/-- The object of its entries, if every key names a text. -/
def ofEntries (entries : Entries) : Json :=
  match entries.mapM fun (key, value) => key.map (·, value) with
  | some entries => object entries.reverse
  | none => unreadable

/-- The value of a lexeme that is a value by itself. -/
def Lexeme.scalar? : Lexeme → Option Json
  | null => some Json.null
  | bool value => some (Json.bool value)
  | number value => some (Json.number value)
  | string (some text) => some (Json.string text)
  | string none => some unreadable
  | _ => none

namespace Reader

def open? (outer : List Container) (lexeme : Lexeme) : Option Reader :=
  match lexeme with
  | .openArray => some (firstItem outer)
  | .openObject => some (firstKey outer)
  | lexeme => lexeme.scalar?.map (done outer)

def step? : Reader → Lexeme → Option Reader
  | value outer, lexeme => open? outer lexeme
  | firstItem outer, .closeArray => some (done outer (array []))
  | firstItem outer, lexeme => open? (.array [] :: outer) lexeme
  | firstKey outer, .closeObject => some (done outer (object []))
  | firstKey outer, .string name => some (colon outer [] name)
  | key outer entries, .string name => some (colon outer entries name)
  | colon outer entries name, .colon => some (value (.object entries name :: outer))
  | done (.array items :: outer) item, .comma => some (value (.array (item :: items) :: outer))
  | done (.array items :: outer) item, .closeArray =>
    some (done outer (array (item :: items).reverse))
  | done (.object entries name :: outer) item, .comma => some (key outer ((name, item) :: entries))
  | done (.object entries name :: outer) item, .closeObject =>
    some (done outer (ofEntries ((name, item) :: entries)))
  | _, _ => none

/-- Reads lexemes to the last; a document has ended when its value has. -/
def run : Reader → List Lexeme → Option Json
  | done [] item, [] => some item
  | _, [] => none
  | reader, lexeme :: lexemes =>
    match reader.step? lexeme with
    | some next => next.run lexemes
    | none => none

end Reader

def read? (text : String) : Option Json :=
  match Lexeme.lexemes? text.toList with
  | some lexemes => (Reader.value []).run lexemes
  | none => none

end TriggerRule.Json
