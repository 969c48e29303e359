import TriggerRule.Token
import TriggerRule.Text.Literal

/-!
# The log of a compilation

Compiling leaves records: one for each token the scanner emits, and one for the outcome when the
whole text could be split into tokens. `Logged α` is a value together with the records written while
it was computed, in the order of writing.
-/

namespace TriggerRule

/-- What is compiled: a rule or a list of references. -/
inductive Log.Subject where
  | triggerRule
  | argumentList
  deriving DecidableEq

inductive Log.Record where
  | emitted (token : Token)
  /-- A number of tokens, the end of the text included, was read as a rule or a list, or could not
  be. -/
  | compiled (subject : Subject) (count : Nat) (succeeded : Bool)
  deriving DecidableEq

namespace Log

def Subject.name : Subject → String
  | .triggerRule => "trigger rule"
  | .argumentList => "argument list"

/-- A record as it appears in the log: its level and its text. -/
def Record.render : Record → String
  | .emitted token => "TRACE token " ++ token.kind.label ++ " " ++ Text.literal token.text
  | .compiled subject count succeeded =>
    "DEBUG compiled " ++ subject.name ++ " from " ++ toString count ++ " tokens: " ++
      if succeeded then "ok" else "failed"

end Log

/-- A value, and the records written on the way to it. -/
structure Logged (α : Type) where
  value : α
  records : List Log.Record

namespace Logged

def silent {α : Type} (value : α) : Logged α := ⟨value, []⟩

def write (record : Log.Record) : Logged Unit := ⟨(), [record]⟩

/-- Goes on with a value; the later records follow the earlier ones. -/
def andThen {α β : Type} (first : Logged α) (next : α → Logged β) : Logged β :=
  ⟨(next first.value).value, first.records ++ (next first.value).records⟩

instance : Monad Logged where
  pure := silent
  bind := andThen

section

variable {α β : Type}

@[simp] theorem value_pure (a : α) : (pure a : Logged α).value = a := rfl

@[simp] theorem records_pure (a : α) : (pure a : Logged α).records = [] := rfl

@[simp] theorem value_bind (x : Logged α) (f : α → Logged β) :
    (x >>= f).value = (f x.value).value := rfl

@[simp] theorem records_bind (x : Logged α) (f : α → Logged β) :
    (x >>= f).records = x.records ++ (f x.value).records := rfl

@[simp] theorem records_write (record : Log.Record) : (write record).records = [record] := rfl

end

end Logged

end TriggerRule
