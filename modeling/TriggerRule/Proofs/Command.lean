import TriggerRule.Proofs.Rule.Visiting
import TriggerRule.Proofs.Token.Listing

/-!
# The command line does what the library does

Flags are told from the expression wherever they stand, and the command depends on which flags are
there and not on their order (`read?_of_arranged`). So a command has one outcome for all
arrangements of its arguments, and the outcome is what reading the expression gives: what the
library writes is printed, and what it fails with is the error (`Verb.Agrees`). All of this holds
for any compiler of patterns; only a check of patterns asks it, and hands on the reason it gives
(`Tightened`). Main statement: `runArgumentsWith_of_arranged`.
-/

namespace TriggerRule

/-! ## Outcomes -/

/-- The text is printed, and the program succeeds. -/
def Outcome.printed (text : String) : Outcome := ⟨0, text ++ "\n", ""⟩

/-- The error is reported, and the program fails. -/
def Outcome.failed (error : CompileError) : Outcome := ⟨1, "", "error: " ++ error.message ++ "\n"⟩

namespace Command

variable {compile : String → Except String Unit}

theorem run_of_ok {command : Command} {text : String} (h : command.output compile = .ok text) :
    command.run compile = .printed text := by
  rw [run, h]
  rfl

theorem run_of_error {command : Command} {error : CompileError}
    (h : command.output compile = .error error) : command.run compile = .failed error := by
  rw [run, h]
  rfl

/-! ## Telling flags and expressions apart -/

theorem Arguments.of_eq_filter {arguments : List String} (h : "--" ∉ arguments) :
    Arguments.of arguments =
      ⟨arguments.filter isFlag, arguments.filter fun argument => !isFlag argument⟩ := by
  induction arguments with
  | nil => rfl
  | cons argument arguments ih =>
    obtain ⟨hne, hmem⟩ := List.ne_and_not_mem_of_not_mem_cons h
    rw [Arguments.of, if_neg hne.symm, ih hmem]
    cases hflag : isFlag argument <;> simp [hflag]

/-- Behind the separator there are no flags. -/
theorem Arguments.of_append_separator {flags : List String}
    (h : ∀ flag ∈ flags, flag ≠ "--" ∧ isFlag flag = true) (rest : List String) :
    Arguments.of (flags ++ "--" :: rest) = ⟨flags, rest⟩ := by
  induction flags with
  | nil => rfl
  | cons flag flags ih =>
    obtain ⟨⟨hne, hflag⟩, hflags⟩ := List.forall_mem_cons.1 h
    rw [List.cons_append, Arguments.of, if_neg hne, ih hflags]
    simp [hflag]

/-- The argument is taken for an expression where flags are allowed. -/
def IsExpression (argument : String) : Prop :=
  argument = "-" ∨ argument.toList.head? ≠ some '-'

theorem IsExpression.isFlag_eq_false {argument : String} (h : IsExpression argument) :
    isFlag argument = false ∧ argument ≠ "--" := by
  rcases h with rfl | h
  · decide
  · refine ⟨?_, ?_⟩
    · unfold isFlag
      split
      · next heq => simp [heq] at h
      · rfl
    · rintro rfl
      exact h rfl

/-- The arguments are the flags and the expression, in any order, or the flags in any order and the
expression behind the separator. -/
inductive Arranged (expression : String) (flags : List String) : List String → Prop
  | anyOrder {arguments : List String} (he : IsExpression expression)
    (h : arguments.Perm (expression :: flags)) : Arranged expression flags arguments
  | guarded {front : List String} (h : front.Perm flags) :
    Arranged expression flags (front ++ ["--", expression])

variable {expression : String} {flags arguments : List String}

theorem Arranged.exists_of (h : Arranged expression flags arguments)
    (hflags : ∀ flag ∈ flags, flag ≠ "--" ∧ isFlag flag = true) :
    ∃ found, found.Perm flags ∧ Arguments.of arguments = ⟨found, [expression]⟩ := by
  cases h with
  | anyOrder he h =>
    obtain ⟨hexpression, hne⟩ := he.isFlag_eq_false
    have hseparator : "--" ∉ arguments := by
      rw [h.mem_iff, List.mem_cons]
      rintro (heq | hmem)
      · exact hne heq.symm
      · exact (hflags _ hmem).1 rfl
    have hfilter : (expression :: flags).filter isFlag = flags := by
      rw [List.filter_cons_of_neg (by simp [hexpression]), List.filter_eq_self]
      exact fun flag hmem => (hflags flag hmem).2
    have hothers : (expression :: flags).filter (fun argument => !isFlag argument) =
        [expression] := by
      rw [List.filter_cons_of_pos (by simp [hexpression]), List.filter_eq_nil_iff.2]
      exact fun flag hmem => by simp [(hflags flag hmem).2]
    refine ⟨arguments.filter isFlag, ?_, ?_⟩
    · have hperm := h.filter isFlag
      rw [hfilter] at hperm
      exact hperm
    · have hperm := h.filter fun argument => !isFlag argument
      rw [hothers, List.perm_singleton] at hperm
      rw [Arguments.of_eq_filter hseparator, hperm]
  | @guarded front h =>
    refine ⟨front, h, Arguments.of_append_separator ?_ _⟩
    exact fun flag hmem => hflags flag (h.mem_iff.1 hmem)

/-! ## Which command the arguments ask for -/

/-- The commands that compile an expression. -/
inductive Verb where
  | rule
  | references
  | tokens
  deriving DecidableEq

namespace Verb

/-- The word that a command is called by. -/
def word : Verb → String
  | rule => "rule"
  | references => "args"
  | tokens => "tokens"

/-- The flags that a command knows. -/
def knownFlags : Verb → List String
  | rule => ["--pretty", "--text", "--check-patterns"]
  | references => ["--pretty"]
  | tokens => []

/-- The command for an expression and flags that are known and not repeated. -/
def command? (verb : Verb) (expression : String) (flags : List String) : Option Command :=
  match verb with
  | rule => (format? flags).map fun format =>
      .rule expression format (flags.contains "--check-patterns")
  | references => some (.references expression (flags.contains "--pretty"))
  | tokens => some (.tokens expression)

theorem isFlag_of_mem {verb : Verb} :
    ∀ flag ∈ verb.knownFlags, flag ≠ "--" ∧ isFlag flag = true := by
  cases verb <;> decide

/-- The order of the flags does not matter. -/
theorem command?_perm {verb : Verb} {found : List String} (h : found.Perm flags) :
    verb.command? expression found = verb.command? expression flags := by
  unfold command? format?
  simp only [h.contains_eq]

end Verb

theorem read?_word (verb : Verb) (arguments : List String) :
    read? (verb.word :: arguments) =
      ((Arguments.of arguments).check? verb.knownFlags).bind fun found =>
        verb.command? found.1 found.2 := by
  cases verb with
  | rule =>
    have hword : asksVersion "rule" = false := by decide
    simp only [read?, Verb.word, Verb.knownFlags, hword, Bool.false_eq_true, if_false, if_true]
    cases (Arguments.of arguments).check? _ <;> rfl
  | references =>
    have hword : asksVersion "args" = false := by decide
    have hne : "args" ≠ "rule" := by decide
    simp only [read?, Verb.word, Verb.knownFlags, hword, Bool.false_eq_true, if_false, if_neg hne,
      if_true]
    cases (Arguments.of arguments).check? _ <;> rfl
  | tokens =>
    have hword : asksVersion "tokens" = false := by decide
    have hne : "tokens" ≠ "rule" ∧ "tokens" ≠ "args" := by decide
    simp only [read?, Verb.word, Verb.knownFlags, hword, Bool.false_eq_true, if_false,
      if_neg hne.1, if_neg hne.2, if_true]
    cases (Arguments.of arguments).check? _ <;> rfl

/-- However the arguments are arranged, they ask for the command of the flags and the expression. -/
theorem read?_of_arranged {verb : Verb} (h : Arranged expression flags arguments)
    (hknown : ∀ flag ∈ flags, flag ∈ verb.knownFlags) :
    read? (verb.word :: arguments) =
      if flags.Nodup then verb.command? expression flags else none := by
  obtain ⟨found, hperm, hof⟩ :=
    h.exists_of fun flag hmem => Verb.isFlag_of_mem flag (hknown flag hmem)
  have hall : found.all verb.knownFlags.contains = true := by
    rw [List.all_eq_true]
    exact fun flag hmem => List.contains_iff_mem.2 (hknown flag (hperm.mem_iff.1 hmem))
  rw [read?_word, hof, Arguments.check?]
  simp only [hall, and_true, hperm.nodup_iff]
  by_cases hnodup : flags.Nodup
  · rw [if_pos hnodup, if_pos hnodup, Option.bind_some, Verb.command?_perm hperm]
  · rw [if_neg hnodup, if_neg hnodup, Option.bind_none]

/-- An indented document and an expression are asked for at once. -/
def Conflicting (flags : List String) : Prop := "--pretty" ∈ flags ∧ "--text" ∈ flags

theorem format?_eq_none_iff : format? flags = none ↔ Conflicting flags := by
  unfold format? Conflicting
  by_cases hpretty : "--pretty" ∈ flags <;> by_cases htext : "--text" ∈ flags <;>
    simp [hpretty, htext]

theorem write_of_format? {format : RuleFormat} (h : format? flags = some format) (rule : Rule) :
    ("--text" ∈ flags → format.write rule = rule.render) ∧
      ("--text" ∉ flags → format.write rule = rule.write (flags.contains "--pretty")) := by
  unfold format? at h
  by_cases htext : "--text" ∈ flags
  · refine ⟨fun _ => ?_, fun hn => absurd htext hn⟩
    by_cases hpretty : "--pretty" ∈ flags
    · simp [hpretty, htext] at h
    · obtain rfl : RuleFormat.expression = format := by simpa [hpretty, htext] using h
      rfl
  · refine ⟨fun hn => absurd hn htext, fun _ => ?_⟩
    by_cases hpretty : "--pretty" ∈ flags
    · obtain rfl : RuleFormat.indented = format := by simpa [hpretty, htext] using h
      simp [RuleFormat.write, hpretty]
    · obtain rfl : RuleFormat.compact = format := by simpa [hpretty, htext] using h
      simp [RuleFormat.write, hpretty]

theorem Verb.command?_eq_none {verb : Verb} (hknown : ∀ flag ∈ flags, flag ∈ verb.knownFlags)
    (h : Conflicting flags) : verb.command? expression flags = none := by
  have htext : "--text" ∈ verb.knownFlags := hknown _ h.2
  cases verb with
  | rule => rw [command?, format?_eq_none_iff.2 h, Option.map_none]
  | references => exact absurd htext (by decide)
  | tokens => exact absurd htext (by decide)

theorem Verb.exists_command? (verb : Verb) (expression : String) (h : ¬Conflicting flags) :
    ∃ command, verb.command? expression flags = some command := by
  cases verb with
  | rule =>
    obtain ⟨format, hformat⟩ := Option.ne_none_iff_exists'.1 (mt format?_eq_none_iff.1 h)
    exact ⟨_, by rw [command?, hformat, Option.map_some]⟩
  | references => exact ⟨_, rfl⟩
  | tokens => exact ⟨_, rfl⟩

/-- Checking the patterns changes nothing else of the command. -/
theorem Verb.command?_check {format : RuleFormat} (expression : String)
    (hformat : format? flags = some format) (h : "--check-patterns" ∉ flags) :
    Verb.rule.command? expression flags = some (.rule expression format false) ∧
      Verb.rule.command? expression ("--check-patterns" :: flags) =
        some (.rule expression format true) := by
  have hcons : format? ("--check-patterns" :: flags) = some format := by
    rw [← hformat]
    simp [format?]
  constructor
  · simp [command?, hformat, h]
  · simp [command?, hcons]

/-! ## What the commands come to -/

theorem run_rule_of_error {error : CompileError} (h : Rule.read expression = .error error)
    (format : RuleFormat) (check : Bool) :
    (rule expression format check).run compile = .failed error := by
  apply run_of_error
  rw [output, h]
  rfl

theorem run_rule_of_ok {r : Rule} (h : Rule.read expression = .ok r) {check : Bool}
    (hcheck : check = true → r.checkPatterns compile = .ok ()) (format : RuleFormat) :
    (rule expression format check).run compile = .printed (format.write r) := by
  apply run_of_ok
  rw [output, h]
  cases check with
  | false => rfl
  | true =>
    have hok := hcheck rfl
    simp [bind, Except.bind, pure, Except.pure, hok]

theorem run_rule_of_refused {r : Rule} {error : CompileError} (h : Rule.read expression = .ok r)
    (hcheck : r.checkPatterns compile = .error error) (format : RuleFormat) :
    (rule expression format true).run compile = .failed error := by
  apply run_of_error
  rw [output, h]
  simp [bind, Except.bind, hcheck]

theorem run_references_of_ok {list : List Reference} (h : Reference.readList expression = .ok list)
    (indent : Bool) :
    (references expression indent).run compile = .printed (Reference.writeList indent list) := by
  apply run_of_ok
  rw [output, h]
  rfl

theorem run_references_of_error {error : CompileError}
    (h : Reference.readList expression = .error error) (indent : Bool) :
    (references expression indent).run compile = .failed error := by
  apply run_of_error
  rw [output, h]
  rfl

theorem run_tokens_of_error {error : Token.ScanError} (h : Token.ofText expression = .error error) :
    (tokens expression).run compile = .failed (.text error) := by
  apply run_of_error
  obtain ⟨rest, herrors⟩ := List.head?_eq_some_iff.1 (Token.ofText_eq_error_iff_scan.1 h)
  rw [output]
  simp only [herrors]

/-- What a command does with an expression and with flags, told by what the library makes of the
expression. -/
structure Verb.Agrees (verb : Verb) (expression : String) (flags : List String)
    (outcome : Outcome) : Prop where
  /-- The first error of the scan is reported, whatever the command. -/
  unsplit : ∀ error, Token.ofText expression = .error error →
    (Token.scan expression).errors.head? = some error ∧ outcome = .failed (.text error)
  listed : verb = .tokens → ∀ tokens, Token.ofText expression = .ok tokens →
    outcome = .printed (Token.listing tokens)
  references : verb = .references → ∀ list, Reference.readList expression = .ok list →
    outcome = .printed (Reference.writeList (flags.contains "--pretty") list)
  noReferences : verb = .references → ∀ tokens failure, Token.ofText expression = .ok tokens →
    Reference.listOf tokens = .error failure → outcome = .failed (.tokens failure)
  document : verb = .rule → "--text" ∉ flags → "--check-patterns" ∉ flags → ∀ text,
    Rule.readToDocument (flags.contains "--pretty") expression = .ok text →
    outcome = .printed text
  text : verb = .rule → "--text" ∈ flags → "--check-patterns" ∉ flags → ∀ r : Rule,
    Rule.read expression = .ok r → outcome = .printed r.render
  noRule : verb = .rule → ∀ tokens failure, Token.ofText expression = .ok tokens →
    Rule.parse tokens = .error failure → outcome = .failed (.tokens failure)

/-- What checking the patterns makes of an outcome: it stays as it is unless a pattern of the rule
is refused, and that is then the error, with the parameter and the reason. -/
structure Tightened (compile : String → Except String Unit) (expression : String)
    (loose strict : Outcome) : Prop where
  passed : strict.exitCode = 0 → strict = loose
  failed : loose.exitCode ≠ 0 → strict = loose
  checked : loose.exitCode = 0 → ∃ r : Rule, Rule.read expression = .ok r ∧
    (r.checkPatterns compile = .ok () → strict = loose) ∧
    ∀ error, r.checkPatterns compile = .error error → strict = .failed error ∧
      ∃ m ∈ r.leaves, ∃ pattern reason, m.test = .regex pattern ∧
        compile pattern = .error reason ∧ error = .pattern m.parameter.render reason

section

variable {α : Type} {error : Token.ScanError} {tokens : List Token} (subject : Log.Subject)
  (read : List Token → Except (Failure Anchor) α)

theorem value_compileLogged_of_error (h : Token.ofText expression = .error error) :
    (compileLogged subject read expression).value = .error (.text error) := by
  rw [value_compileLogged, h]

theorem value_compileLogged_of_refused {failure : Failure Anchor}
    (h : Token.ofText expression = .ok tokens) (hread : read tokens = .error failure) :
    (compileLogged subject read expression).value = .error (.tokens failure) := by
  rw [value_compileLogged, h]
  simp only [hread, mapError_error]

end

theorem Verb.agrees {verb : Verb} {command : Command}
    (h : verb.command? expression flags = some command) :
    verb.Agrees expression flags (command.run compile) := by
  cases verb with
  | rule =>
    obtain ⟨format, hformat, rfl⟩ := Option.map_eq_some_iff.1 h
    refine
      { unsplit := fun error he => ⟨Token.ofText_eq_error_iff_scan.1 he, ?_⟩
        listed := nofun
        references := nofun
        noReferences := nofun
        document := fun _ htext hcheck text hread => ?_
        text := fun _ htext hcheck r hread => ?_
        noRule := fun _ tokens failure ht hread => ?_ }
    · exact run_rule_of_error (value_compileLogged_of_error _ _ he) _ _
    · obtain ⟨r, hr, rfl⟩ : ∃ r : Rule, Rule.read expression = .ok r ∧
          r.write (flags.contains "--pretty") = text := by
        cases hr : Rule.read expression with
        | error error => simp [Rule.readToDocument, hr, Except.map] at hread
        | ok r => exact ⟨r, rfl, by simpa [Rule.readToDocument, hr, Except.map] using hread⟩
      rw [run_rule_of_ok hr (by simp [hcheck]), (write_of_format? hformat r).2 htext]
    · rw [run_rule_of_ok hread (by simp [hcheck]), (write_of_format? hformat r).1 htext]
    · exact run_rule_of_error (value_compileLogged_of_refused _ _ ht hread) _ _
  | references =>
    obtain rfl := Option.some.inj h
    exact
      { unsplit := fun error he => ⟨Token.ofText_eq_error_iff_scan.1 he,
          run_references_of_error (value_compileLogged_of_error _ _ he) _⟩
        listed := nofun
        references := fun _ list hread => run_references_of_ok hread _
        noReferences := fun _ tokens failure ht hread =>
          run_references_of_error (value_compileLogged_of_refused _ _ ht hread) _
        document := nofun
        text := nofun
        noRule := nofun }
  | tokens =>
    obtain rfl := Option.some.inj h
    exact
      { unsplit := fun error he => ⟨Token.ofText_eq_error_iff_scan.1 he, run_tokens_of_error he⟩
        listed := fun _ tokens ht => run_tokens compile ht
        references := nofun
        noReferences := nofun
        document := nofun
        text := nofun
        noRule := nofun }

theorem tightened (expression : String) (format : RuleFormat) :
    Tightened compile expression ((rule expression format false).run compile)
      ((rule expression format true).run compile) := by
  cases h : Rule.read expression with
  | error error =>
    rw [run_rule_of_error h, run_rule_of_error h]
    exact ⟨fun _ => rfl, fun _ => rfl, fun hcode => absurd hcode Nat.one_ne_zero⟩
  | ok r =>
    rw [run_rule_of_ok h (by simp)]
    cases hcheck : r.checkPatterns compile with
    | ok =>
      rw [run_rule_of_ok h fun _ => hcheck]
      refine ⟨fun _ => rfl, fun _ => rfl, fun _ => ⟨r, h, fun _ => rfl, fun error he => ?_⟩⟩
      simp [hcheck] at he
    | error error =>
      rw [run_rule_of_refused h hcheck]
      refine ⟨fun hcode => absurd hcode Nat.one_ne_zero, fun hcode => absurd rfl hcode,
        fun _ => ⟨r, h, fun he => ?_, fun other he => ?_⟩⟩
      · simp [hcheck] at he
      · obtain rfl : error = other := Except.error.inj (hcheck.symm.trans he)
        obtain ⟨before, refused, after, pattern, reason, hsplit, htest, hreason, -, rfl⟩ :=
          Rule.checkPatterns_eq_error_iff.1 hcheck
        exact ⟨rfl, refused, by simp [hsplit], pattern, reason, htest, hreason, rfl⟩

/-! ## Arguments and outcomes -/

theorem runArgumentsWith_of_some {command : Command} (h : read? arguments = some command) :
    runArgumentsWith compile arguments = command.run compile := by
  rw [runArgumentsWith, h]

theorem exitCode_runArgumentsWith_of_none (h : read? arguments = none) :
    (runArgumentsWith compile arguments).exitCode = 2 := by
  rw [runArgumentsWith, h]

/-- **The arguments may stand in any order, and the program answers as the library does.** The flags
and an expression that is no flag in any order, and the flags in any order before the separator and
any expression behind it, have one outcome. If a flag is repeated, or an indented document and an
expression are asked for, the usage is wrong. Otherwise the first error of the scan is reported by
every command, and else the program prints what the library writes or reports why it refuses the
tokens; and when the patterns are checked, the outcome is the same unless some pattern of the rule
does not compile, and the reason for that is then reported. This holds whatever compiles patterns. -/
theorem runArgumentsWith_of_arranged (compile : String → Except String Unit) {verb : Verb}
    (hknown : ∀ flag ∈ flags, flag ∈ verb.knownFlags) (h : Arranged expression flags arguments) :
    (∀ others, Arranged expression flags others →
      runArgumentsWith compile (verb.word :: others) =
        runArgumentsWith compile (verb.word :: arguments)) ∧
    (¬flags.Nodup ∨ Conflicting flags →
      (runArgumentsWith compile (verb.word :: arguments)).exitCode = 2) ∧
    (flags.Nodup → ¬Conflicting flags →
      verb.Agrees expression flags (runArgumentsWith compile (verb.word :: arguments))) ∧
    ∀ others, verb = .rule → flags.Nodup → ¬Conflicting flags → "--check-patterns" ∉ flags →
      Arranged expression ("--check-patterns" :: flags) others →
      Tightened compile expression (runArgumentsWith compile (verb.word :: arguments))
        (runArgumentsWith compile (verb.word :: others)) := by
  have hread := read?_of_arranged h hknown
  refine ⟨fun others hothers => ?_, fun hwrong => ?_, fun hnodup hfit => ?_,
    fun others hverb hnodup hfit hcheck hothers => ?_⟩
  · rw [runArgumentsWith, runArgumentsWith, hread, read?_of_arranged hothers hknown]
  · apply exitCode_runArgumentsWith_of_none
    rw [hread]
    rcases hwrong with hnodup | hconflict
    · exact if_neg hnodup
    · rw [Verb.command?_eq_none hknown hconflict, ite_self]
  · obtain ⟨command, hcommand⟩ := verb.exists_command? expression hfit
    rw [if_pos hnodup, hcommand] at hread
    rw [runArgumentsWith_of_some hread]
    exact Verb.agrees hcommand
  · subst hverb
    obtain ⟨format, hformat⟩ := Option.ne_none_iff_exists'.1 (mt format?_eq_none_iff.1 hfit)
    obtain ⟨hloose, hstrict⟩ := Verb.command?_check expression hformat hcheck
    have hknownStrict : ∀ flag ∈ "--check-patterns" :: flags, flag ∈ Verb.rule.knownFlags :=
      List.forall_mem_cons.2 ⟨by decide, hknown⟩
    have hreadStrict := read?_of_arranged hothers hknownStrict
    rw [if_pos hnodup, hloose] at hread
    rw [if_pos (List.nodup_cons.2 ⟨hcheck, hnodup⟩), hstrict] at hreadStrict
    rw [runArgumentsWith_of_some hread, runArgumentsWith_of_some hreadStrict]
    exact tightened expression format

/-- A compiler that refuses the set which is opened and not closed. -/
def refuseOpenSet (pattern : String) : Except String Unit :=
  if pattern = "[" then
    .error "regex parse error:\n    [\n    ^\nerror: unclosed character class"
  else .ok ()

/-- One match against a pattern that does not compile, written as an expression: with the flag
behind it and before the separator, with the flag repeated, and with the patterns checked. -/
theorem runArgumentsWith_of_arranged_openSet :
    runArgumentsWith refuseOpenSet ["rule", "'query.a' ~= '['", "--text"] =
        .printed "\"query.a\" ~= \"[\"" ∧
      runArgumentsWith refuseOpenSet ["rule", "--text", "--", "'query.a' ~= '['"] =
        .printed "\"query.a\" ~= \"[\"" ∧
      (runArgumentsWith refuseOpenSet
        ["rule", "--text", "'query.a' ~= '['", "--text"]).exitCode = 2 ∧
      runArgumentsWith refuseOpenSet ["rule", "--check-patterns", "'query.a' ~= '['", "--text"] =
        .failed (.pattern "query.a"
          "regex parse error:\n    [\n    ^\nerror: unclosed character class") := by
  have hexpression : IsExpression "'query.a' ~= '['" := .inr (by decide)
  have hbehind : Arranged "'query.a' ~= '['" ["--text"] ["'query.a' ~= '['", "--text"] :=
    .anyOrder hexpression (.refl _)
  have hguarded : Arranged "'query.a' ~= '['" ["--text"] ["--text", "--", "'query.a' ~= '['"] :=
    .guarded (.refl _)
  have htwice : Arranged "'query.a' ~= '['" ["--text", "--text"]
      ["--text", "'query.a' ~= '['", "--text"] := .anyOrder hexpression (.swap ..)
  have hchecked : Arranged "'query.a' ~= '['" ["--check-patterns", "--text"]
      ["--check-patterns", "'query.a' ~= '['", "--text"] := .anyOrder hexpression (.swap ..)
  have hfit : ¬Conflicting ["--text"] := fun h => absurd h.1 (by decide)
  have hknown : ∀ flag ∈ ["--text"], flag ∈ Verb.rule.knownFlags := by decide
  have hknownTwice : ∀ flag ∈ ["--text", "--text"], flag ∈ Verb.rule.knownFlags := by decide
  obtain ⟨hsame, -, hagrees, htightened⟩ :=
    runArgumentsWith_of_arranged refuseOpenSet hknown hbehind
  obtain ⟨-, hwrong, -, -⟩ := runArgumentsWith_of_arranged refuseOpenSet hknownTwice htwice
  have hsplit : Token.ofText "'query.a' ~= '['" = .ok [⟨.singleQuoted, "query.a"⟩,
      ⟨.matchesRegex, "~="⟩, ⟨.singleQuoted, "["⟩, Token.endToken] := by cbv
  have hphrases : Phrase.split [⟨.singleQuoted, "query.a"⟩, ⟨.matchesRegex, "~="⟩,
      ⟨.singleQuoted, "["⟩, Token.endToken] =
        ([.operand (.regex "query.a" "[")], [Token.endToken]) := by cbv
  have hread : Rule.read "'query.a' ~= '['" = .ok (.leaf ⟨⟨.query, "a"⟩, .regex "["⟩) := by
    refine Rule.read_eq_ok_iff_exists.2 ⟨_, hsplit, ?_⟩
    rw [Rule.parse, Rule.parseSites, Rule.parseWithin, hphrases]
    rfl
  have hprinted : runArgumentsWith refuseOpenSet ["rule", "'query.a' ~= '['", "--text"] =
      .printed "\"query.a\" ~= \"[\"" := by
    have htext := (hagrees (by decide) hfit).text rfl (by decide) (by decide) _ hread
    refine htext.trans ?_
    decide
  refine ⟨hprinted, (hsame _ hguarded).trans hprinted, hwrong (.inl (by decide)), ?_⟩
  have hstrict := htightened _ rfl (by decide) hfit (by decide) hchecked
  obtain ⟨r, hr, -, hrefused⟩ := hstrict.checked (congrArg Outcome.exitCode hprinted)
  obtain rfl := Except.ok.inj (hread.symm.trans hr)
  exact (hrefused _ rfl).1

end Command

end TriggerRule
