/-!
# Sources of parameter values

A trigger rule looks at a request through parameters, and each parameter is taken from one of four
sources, known by a lower-case name.
-/

namespace TriggerRule

inductive Source where
  | header
  | payload
  | query
  /-- The name of the parameter itself, taken as a literal text. -/
  | string
  deriving DecidableEq, Inhabited

namespace Source

/-- The four sources, in the order in which messages list them. -/
def all : List Source := [.header, .payload, .query, .string]

/-- The name by which rules and documents know a source. -/
def name : Source → String
  | .header => "header"
  | .payload => "payload"
  | .query => "query"
  | .string => "string"

/-- The source of a name; a name in another letter case names nothing. -/
def ofName? (text : String) : Option Source :=
  all.find? fun source => source.name == text

theorem ofName?_name (source : Source) : ofName? source.name = some source := by
  cases source <;> decide

theorem name_of_ofName? {text : String} {source : Source} (h : ofName? text = some source) :
    source.name = text := by
  have := List.find?_some h
  simpa using this

theorem name_injective {a b : Source} (h : a.name = b.name) : a = b := by
  have ha := ofName?_name a
  rw [h, ofName?_name b] at ha
  exact (Option.some.inj ha).symm

end Source

end TriggerRule
