import TriggerRule.Compile
import TriggerRule.Proofs.Token.Layout

/-!
# What compiling a text records

Records are written where the scanner emits a token and where the tokens have been read, while the
value is put together elsewhere. Still the records of a run are the tokens of its scan
(`Token.Cursor.records_runLogged`), whichever error ends it, and one more comes behind them if the
text could be split (`records_compileLogged`). Main statement: `Log.lines_of_reading`.
-/

namespace TriggerRule

open Log (Subject Record)

/-! ## The records of a scan -/

namespace Token

theorem records_record (emitted : Option Token) :
    (record emitted).records = emitted.toList.map .emitted := by
  cases emitted <;> rfl

/-- A run records the tokens that it emits, in order, whatever ends it. -/
theorem Cursor.records_runLogged (cursor : Cursor) :
    cursor.runLogged.records = cursor.run.tokens.map .emitted := by
  -- on the steps that the machine has left to do
  induction cursor using Cursor.runLogged.induct with
  | case1 cursor emitted next hstep ih =>
    have hrun : cursor.run = ⟨emitted.toList ++ next.run.tokens, next.run.errors⟩ := by
      rw [run_eq, hstep]
    rw [hrun, List.map_append, ← ih, ← records_record, runLogged]
    split
    · next hstep' =>
      obtain ⟨rfl, rfl⟩ := Step.advance.inj (hstep.symm.trans hstep')
      simp
    · next hstep' => simp [hstep] at hstep'
  | case2 cursor emitted error last hstep =>
    have hrun : cursor.run = ⟨emitted.toList, error.toList ++ last.unclosedError.toList⟩ := by
      rw [run_eq, hstep]
    rw [hrun, ← records_record, runLogged]
    split
    · next hstep' => simp [hstep] at hstep'
    · next hstep' =>
      obtain ⟨rfl, rfl, rfl⟩ := Step.halt.inj (hstep.symm.trans hstep')
      simp

theorem records_scanLogged (text : String) :
    (scanLogged text).records = (scan text).tokens.map .emitted :=
  (Cursor.start text.toList).records_runLogged

/-- The tokens of a text without errors are those of its scan, and the end of the text is the last
and only the last of them. -/
theorem scan_of_ofText {text : String} {tokens : List Token} (h : ofText text = .ok tokens) :
    (scan text).tokens = tokens ∧ ∃ body, tokens = body ++ [endToken] ∧
      ∀ token ∈ body, token.kind ≠ .endOfText := by
  obtain ⟨body, hbody, hl, -⟩ := exists_laid_of_ofText h
  exact ⟨(ofText_eq_ok_iff_scan.1 h).2, body, hbody, hl.kind_ne_endOfText⟩

end Token

/-! ## The records of a compilation -/

theorem isOk_mapError {α ε ε' : Type} (f : ε → ε') (x : Except ε α) :
    (x.mapError f).isOk = x.isOk := by
  cases x <;> rfl

/-- Compiling records the tokens of the scan and, if there is no error among them, the outcome. -/
theorem records_compileLogged {α : Type} (subject : Subject)
    (read : List Token → Except (Failure Anchor) α) (text : String) :
    (compileLogged subject read text).records =
      (Token.scan text).tokens.map .emitted ++
        (Token.ofText text).toOption.toList.map fun tokens =>
          .compiled subject tokens.length (compileLogged subject read text).value.isOk := by
  rw [value_compileLogged, ← Token.records_scanLogged]
  simp only [compileLogged, Token.ofText, Token.scan, Logged.records_bind]
  congr 1
  cases (Token.scanLogged text).value.toExcept with
  | error error => rfl
  | ok tokens => simp [Except.toOption, isOk_mapError]

/-- **The log of a reading**, line by line: one trace line for each token that the scan of the text
emits, in order, with its kind and its text as a literal; then, if and only if the text could be
split, one debug line with the number of its tokens, the end of the text included, and with whether
they are a rule; and nothing else. Reading a list of references leaves the same lines but for what
the last is about. -/
theorem Log.lines_of_reading (text : String) :
    (Rule.readLogged text).records.map Record.render =
        (Token.scan text).tokens.map
            (fun token => "TRACE token " ++ token.kind.label ++ " " ++ Text.literal token.text) ++
          (Token.ofText text).toOption.toList.map
            (fun tokens => "DEBUG compiled trigger rule from " ++ toString tokens.length ++
              " tokens: " ++ if (Rule.read text).isOk then "ok" else "failed") ∧
      (Reference.readListLogged text).records.map Record.render =
        (Token.scan text).tokens.map
            (fun token => "TRACE token " ++ token.kind.label ++ " " ++ Text.literal token.text) ++
          (Token.ofText text).toOption.toList.map
            (fun tokens => "DEBUG compiled argument list from " ++ toString tokens.length ++
              " tokens: " ++ if (Reference.readList text).isOk then "ok" else "failed") ∧
      ∀ tokens, Token.ofText text = .ok tokens → (Token.scan text).tokens = tokens ∧
        ∃ body, tokens = body ++ [Token.endToken] ∧ ∀ token ∈ body, token.kind ≠ .endOfText := by
  refine ⟨?_, ?_, fun tokens h => Token.scan_of_ofText h⟩
  · have hrecords := records_compileLogged .triggerRule Rule.parse text
    rw [Rule.readLogged, hrecords, List.map_append, List.map_map, List.map_map]
    rfl
  · have hrecords := records_compileLogged .argumentList Reference.listOf text
    rw [Reference.readListLogged, hrecords, List.map_append, List.map_map, List.map_map]
    rfl

/-- One reference is a list, and no rule. -/
theorem Log.lines_of_reading_oneReference :
    Token.ofText "'query.a'" = .ok [⟨.singleQuoted, "query.a"⟩, Token.endToken] ∧
      (Rule.readLogged "'query.a'").records.map Record.render =
        ["TRACE token SingleQuoted \"query.a\"", "TRACE token Eof \"\"",
          "DEBUG compiled trigger rule from 2 tokens: failed"] ∧
      (Reference.readListLogged "'query.a'").records.map Record.render =
        ["TRACE token SingleQuoted \"query.a\"", "TRACE token Eof \"\"",
          "DEBUG compiled argument list from 2 tokens: ok"] := by
  have hsplit : Token.ofText "'query.a'" = .ok [⟨.singleQuoted, "query.a"⟩, Token.endToken] := by
    cbv
  obtain ⟨hrule, hlist, hlast⟩ := lines_of_reading "'query.a'"
  obtain ⟨hscan, -⟩ := hlast _ hsplit
  have hphrases : Phrase.split [⟨.singleQuoted, "query.a"⟩, Token.endToken] =
      ([], [⟨.singleQuoted, "query.a"⟩, Token.endToken]) := by cbv
  have hread : (Rule.read "'query.a'").isOk = false := by
    rw [Rule.read, Rule.readLogged, value_compileLogged, hsplit]
    simp only [isOk_mapError, Rule.parse, Rule.parseSites, Rule.parseWithin, hphrases]
    rfl
  have hreadList : (Reference.readList "'query.a'").isOk = true := by
    rw [Reference.readList, Reference.readListLogged, value_compileLogged, hsplit]
    rfl
  refine ⟨hsplit, ?_, ?_⟩
  · rw [hrule, hscan, hsplit, hread]
    decide +kernel
  · rw [hlist, hscan, hsplit, hreadList]
    decide +kernel

end TriggerRule
