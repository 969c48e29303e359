import TriggerRule.Reference.Listing
import TriggerRule.Rule.Document
import TriggerRule.Rule.Nest
import TriggerRule.Token.Scan

/-!
# Compiling rules and lists of references

Compiling takes a text to a rule or a list of references by way of its tokens, and leaves records
of both stages. A rule can be checked for patterns that do not compile, and written as a document.
What compiles a pattern, or gives the reason why it does not compile, is a parameter `compile`.
-/

namespace TriggerRule

/-- Why a text could not be compiled. -/
inductive CompileError where
  | text (error : Token.ScanError)
  /-- The tokens are no rule, or no list of references. -/
  | tokens (failure : Failure Anchor)
  /-- The regular expression that a parameter is held against is refused, for a reason. -/
  | pattern (parameter : String) (reason : String)
  | output (reason : String)
  deriving DecidableEq

def CompileError.message : CompileError → String
  | text error => "error while parsing input string:\n\t" ++ error.message
  | tokens failure => failure.message
  | pattern parameter reason => "invalid regex for parameter '" ++ parameter ++ "': " ++ reason
  | output reason => "serialization error: " ++ reason

/-! ## From text to rules and references -/

/-- Compiles a text by way of its tokens. The outcome is recorded if the text could be split. -/
def compileLogged {α : Type} (subject : Log.Subject)
    (read : List Token → Except (Failure Anchor) α) (text : String) :
    Logged (Except CompileError α) := do
  let scan ← Token.scanLogged text
  match scan.toExcept with
  | .error error => return .error (.text error)
  | .ok tokens =>
    let result := read tokens
    Logged.write (.compiled subject tokens.length result.isOk)
    return result.mapError .tokens

def Rule.readLogged (text : String) : Logged (Except CompileError Rule) :=
  compileLogged .triggerRule Rule.parse text

def Reference.readListLogged (text : String) : Logged (Except CompileError (List Reference)) :=
  compileLogged .argumentList Reference.listOf text

/-- The rule that a text stands for. -/
def Rule.read (text : String) : Except CompileError Rule := (Rule.readLogged text).value

def Reference.readList (text : String) : Except CompileError (List Reference) :=
  (Reference.readListLogged text).value

theorem value_compileLogged {α : Type} (subject : Log.Subject)
    (read : List Token → Except (Failure Anchor) α) (text : String) :
    (compileLogged subject read text).value = match Token.ofText text with
      | .error error => .error (.text error)
      | .ok tokens => (read tokens).mapError .tokens := by
  simp only [compileLogged, Token.ofText, Token.scan, Logged.value_bind]
  split <;> rfl

/-! ## Checking patterns -/

/-- Refuses a match that is held against a regular expression which does not compile, for the reason
that the compiler gives. -/
def Match.checkPattern (compile : String → Except String Unit) (condition : Match) :
    Except CompileError Unit :=
  match condition.test with
  | .regex pattern => (compile pattern).mapError (.pattern condition.parameter.render)
  | _ => .ok ()

/-- Refuses a rule in which some regular expression does not compile; the first one, from left to
right, is reported. -/
def Rule.checkPatterns (compile : String → Except String Unit) (rule : Rule) :
    Except CompileError Unit :=
  rule.visitLeaves (Match.checkPattern compile)

def Rule.readCheckedWith (compile : String → Except String Unit) (text : String) :
    Except CompileError Rule :=
  match Rule.read text with
  | .error error => .error error
  | .ok rule => (rule.checkPatterns compile).map fun _ => rule

/-! ## Writing -/

/-- A document as text, over several lines or compactly. -/
def Json.write (indent : Bool) (document : Json) : String :=
  if indent then document.indented else document.compact

def Rule.write (indent : Bool) (rule : Rule) : String := rule.toJson.write indent

def Reference.writeList (indent : Bool) (references : List Reference) : String :=
  (Reference.listToJson references).write indent

/-- Compiles a rule to the text of a document; its patterns are not checked. -/
def Rule.readToDocument (indent : Bool) (text : String) : Except CompileError String :=
  (Rule.read text).map (Rule.write indent)

end TriggerRule
