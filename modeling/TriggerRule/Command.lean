import TriggerRule.Compile
import TriggerRule.Pattern
import TriggerRule.Rule.Render
import TriggerRule.Token.Listing

/-!
# The command line

There are three commands: `rule` and `args` compile an expression, `tokens` lists its tokens. The
flags of a command and its expression may come in any order; a flag is given at most once, and
behind `--` there are no flags. `Command.read?` reads the arguments, `Command.run` carries the
command out. What compiles the patterns of a rule is a parameter `compile`; only the program, in the
last section, passes one of its own.
-/

namespace TriggerRule

/-- What the program does when it is run: its exit code and what it prints. -/
structure Outcome where
  exitCode : Nat
  stdout : String
  stderr : String
  deriving DecidableEq

inductive RuleFormat where
  | compact
  | indented
  | expression
  deriving DecidableEq

def RuleFormat.write (rule : Rule) : RuleFormat → String
  | .compact => rule.write false
  | .indented => rule.write true
  | .expression => rule.render

inductive Command where
  | rule (expression : String) (format : RuleFormat) (checkPatterns : Bool)
  | references (expression : String) (indent : Bool)
  | tokens (expression : String)
  | version
  deriving DecidableEq

namespace Command

/-! ## Reading the arguments -/

/-- The arguments of a command, told apart. -/
structure Arguments where
  flags : List String
  expressions : List String
  deriving DecidableEq

/-- Whether an argument is a flag where flags are allowed. A hyphen alone is an expression. -/
def isFlag (argument : String) : Bool :=
  match argument.toList with
  | '-' :: _ :: _ => true
  | _ => false

/-- Tells flags and expressions apart, in order. -/
def Arguments.of : List String → Arguments
  | [] => ⟨[], []⟩
  | argument :: arguments =>
    if argument = "--" then ⟨[], arguments⟩
    else
      let ⟨flags, expressions⟩ := Arguments.of arguments
      if isFlag argument then ⟨argument :: flags, expressions⟩
      else ⟨flags, argument :: expressions⟩

/-- The single expression and the flags, if every flag is known and none is repeated. -/
def Arguments.check? (known : List String) (arguments : Arguments) :
    Option (String × List String) :=
  match arguments.expressions with
  | [expression] =>
    if arguments.flags.Nodup ∧ arguments.flags.all known.contains then
      some (expression, arguments.flags)
    else none
  | _ => none

/-- The format that flags ask for; indenting and the expression exclude each other. -/
def format? (flags : List String) : Option RuleFormat :=
  if flags.contains "--pretty" then
    if flags.contains "--text" then none else some .indented
  else if flags.contains "--text" then some .expression
  else some .compact

/-- Whether an argument in front of any command asks for the version. What is joined to the short
form is not looked at. -/
def asksVersion (argument : String) : Bool :=
  argument == "--version" || match argument.toList with
    | '-' :: 'V' :: _ => true
    | _ => false

def read? : List String → Option Command
  | [] => none
  | word :: arguments =>
    let arguments := Arguments.of arguments
    if asksVersion word then some version
    else if word = "rule" then
      match arguments.check? ["--pretty", "--text", "--check-patterns"] with
      | some (expression, flags) =>
        (format? flags).map fun format =>
          rule expression format (flags.contains "--check-patterns")
      | none => none
    else if word = "args" then
      (arguments.check? ["--pretty"]).map fun (expression, flags) =>
        references expression (flags.contains "--pretty")
    else if word = "tokens" then
      (arguments.check? []).map fun (expression, _) => tokens expression
    else none

/-! ## Carrying out a command -/

/-- The name and version of the program. -/
def versionText : String := "hookrule 0.1.0"

/-- What a command prints, or why it fails. -/
def output (compile : String → Except String Unit) : Command → Except CompileError String
  | rule expression format checkPatterns => do
    let rule ← Rule.read expression
    if checkPatterns then rule.checkPatterns compile
    return format.write rule
  | references expression indent =>
    (Reference.readList expression).map (Reference.writeList indent)
  | tokens expression =>
    let scan := Token.scan expression
    match scan.errors with
    | [] => .ok (Token.listing scan.tokens)
    | error :: _ => .error (.text error)
  | version => .ok versionText

def run (compile : String → Except String Unit) (command : Command) : Outcome :=
  match command.output compile with
  | .ok text => ⟨0, text ++ "\n", ""⟩
  | .error error => ⟨1, "", "error: " ++ error.message ++ "\n"⟩

/-- What the program says to arguments that are no command. -/
def usage : String :=
  "error: usage: hookrule rule|args|tokens <EXPR> [--pretty] [--text] [--check-patterns]\n"

/-- Carries out the command that the arguments ask for. -/
def runArgumentsWith (compile : String → Except String Unit) (arguments : List String) : Outcome :=
  match read? arguments with
  | some command => command.run compile
  | none => ⟨2, "", usage⟩

end Command

/-! ## The program -/

def Rule.readChecked (text : String) : Except CompileError Rule :=
  Rule.readCheckedWith Pattern.isWellFormed text

/-- What the program does with its arguments. -/
def Command.runArguments (arguments : List String) : Outcome :=
  Command.runArgumentsWith Pattern.isWellFormed arguments

end TriggerRule
