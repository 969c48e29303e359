import TriggerRule.Proofs.Token.Scanner

/-!
# The loop of the scanner

Each scanner the loop comes to follows a cursor of the machine (`Scanner.Follows`), and a step of the
loop follows a step of the cursor (`Scanner.Follows.step`). So the offset stays between characters,
the token a mode reads stands at the cursor, and the parentheses counted are those among the tokens.
The weight of the cursor bounds the steps that are left, two for each character and one more.
Main statement: `Scanner.loop_sound`.
-/

namespace TriggerRule

namespace Token

/-! ## What a step passes -/

namespace Cursor

variable {text : String} {cursor next last : Cursor} {passed : List Char}

/-- A step that goes on passes some characters, and at least one if it emits a token. -/
theorem exists_passed_of_advance {emitted : Option Token} (hr : cursor.Ready)
    (h : cursor.step = .advance emitted next) :
    ∃ passed, cursor.rest = passed ++ next.rest ∧
      next.position = cursor.position + passed.length ∧ next.Ready ∧
      (emitted = none ∧ next.unclosed = cursor.unclosed ∨
        ∃ token, emitted = some token ∧ passed ≠ [] ∧
          (token.kind = .closeParen → cursor.unclosed ≠ 0) ∧
          next.unclosed = recount token.kind cursor.unclosed) := by
  obtain ⟨mode, rest, position, unclosed⟩ := cursor
  cases mode with
  | between =>
    have hparts : rest = rest.takeWhile Text.isBlank ++ rest.dropWhile Text.isBlank :=
      List.takeWhile_append_dropWhile.symm
    simp only [step, settle, skipBlanks] at h
    split at h
    · simp at h
    · next c cs hrest =>
      split at h
      · next mode hm =>
        obtain ⟨rfl, rfl⟩ := Step.advance.inj h
        refine ⟨_, hparts, rfl, .inr ?_, .inl ⟨rfl, rfl⟩⟩
        rw [hrest]
        exact hm
      · simp at h
  | fixed kind =>
    obtain ⟨word, tail, rfl, hword⟩ := exists_spells_of_of? (hr.resolve_left (by simp))
    simp only [step, readFixed_append hword] at h
    split at h
    · simp at h
    · next hopen =>
      obtain ⟨rfl, rfl⟩ := Step.advance.inj h
      refine ⟨word, rfl, rfl, .inl rfl, .inr ⟨_, rfl, hword.ne_nil, ?_, rfl⟩⟩
      intro hk hu
      exact hopen ⟨hk, hu⟩
  | quoted mark =>
    obtain ⟨cs, rfl⟩ := eq_cons_of_of?_eq_quoted (hr.resolve_left (by simp))
    simp only [step, readQuoted] at h
    split at h
    · next body tail hb =>
      obtain ⟨rfl, rfl⟩ := Step.advance.inj h
      have hcs := QuoteMark.eq_protect_of_body? hb
      have hkind : mark.literalKind ≠ .closeParen := by cases mark <;> simp [QuoteMark.literalKind]
      refine ⟨mark.char :: (mark.protect body ++ [mark.char]), ?_, ?_, .inl rfl,
        .inr ⟨_, rfl, List.cons_ne_nil _ _, fun hk => absurd hk hkind,
          (recount_literalKind mark unclosed).symm⟩⟩
      · simp [hcs]
      · simp [hcs]
        omega
    · simp at h

/-- A step that halts emits no token but the one that ends the text. -/
theorem exists_passed_of_halt {emitted : Option Token} {error : Option ScanError}
    (hr : cursor.Ready) (h : cursor.step = .halt emitted error last) :
    ∃ passed, cursor.rest = passed ++ last.rest ∧
      last.position = cursor.position + passed.length ∧ last.unclosed = cursor.unclosed ∧
      (emitted = none ∨ emitted = some endToken) := by
  obtain ⟨mode, rest, position, unclosed⟩ := cursor
  cases mode with
  | between =>
    have hparts : rest = rest.takeWhile Text.isBlank ++ rest.dropWhile Text.isBlank :=
      List.takeWhile_append_dropWhile.symm
    simp only [step, settle, skipBlanks] at h
    split at h
    · obtain ⟨rfl, -, rfl⟩ := Step.halt.inj h
      exact ⟨_, hparts, rfl, rfl, .inr rfl⟩
    · split at h
      · simp at h
      · obtain ⟨rfl, -, rfl⟩ := Step.halt.inj h
        exact ⟨_, hparts, rfl, rfl, .inl rfl⟩
  | fixed kind =>
    obtain ⟨word, tail, rfl, hword⟩ := exists_spells_of_of? (hr.resolve_left (by simp))
    simp only [step, readFixed_append hword] at h
    split at h
    · obtain ⟨rfl, -, rfl⟩ := Step.halt.inj h
      exact ⟨[], rfl, rfl, rfl, .inl rfl⟩
    · simp at h
  | quoted mark =>
    obtain ⟨cs, rfl⟩ := eq_cons_of_of?_eq_quoted (hr.resolve_left (by simp))
    simp only [step, readQuoted] at h
    split at h
    · simp at h
    · obtain ⟨rfl, -, rfl⟩ := Step.halt.inj h
      refine ⟨mark.char :: cs, (List.append_nil _).symm, ?_, rfl, .inr rfl⟩
      simp [Nat.add_assoc, Nat.add_comm 1]

theorem StandsIn.slice?_offset (h : cursor.StandsIn text) (hr : cursor.rest = passed ++ next.rest) :
    Text.slice? text (cursor.offset text) (next.offset text) = some (String.ofList passed) := by
  obtain ⟨before, ht, -⟩ := h
  rw [hr, ← List.append_assoc] at ht
  have hcursor : cursor.offset text = Text.size before := by
    rw [offset, hr, ← Text.size_toList, ht, List.append_assoc, Text.size_append before,
      Nat.add_sub_cancel]
  have hnext : next.offset text = Text.size (before ++ passed) := by
    rw [offset, ← Text.size_toList, ht, Text.size_append _ next.rest, Nat.add_sub_cancel]
  rw [hcursor, hnext, Text.size_append]
  exact Text.slice?_of_toList ht

theorem StandsIn.exists_before (h : cursor.StandsIn text) :
    ∃ before, text.toList = before ++ cursor.rest ∧ cursor.position = before.length ∧
      cursor.offset text = Text.size before := by
  obtain ⟨mode, rest, position, unclosed⟩ := cursor
  obtain ⟨before, ht, hb⟩ := h
  exact ⟨before, ht, hb, offset_mk ht ..⟩

theorem StandsIn.isValid (h : cursor.StandsIn text) :
    String.Pos.Raw.IsValid text ⟨cursor.offset text⟩ := by
  obtain ⟨before, ht, -, ho⟩ := h.exists_before
  rw [ho, String.Pos.Raw.isValid_iff_exists_append]
  refine ⟨String.ofList before, String.ofList cursor.rest, ?_, rfl⟩
  rw [← String.ofList_append, ← ht, String.ofList_toList]

/-- Where a token stands there is a step left to take. -/
theorem Ready.weight_pos (h : cursor.Ready) : 0 < cursor.weight := by
  unfold weight
  rcases h with hm | hm
  · rw [hm]
    exact Nat.succ_pos _
  · cases hrest : cursor.rest with
    | nil => simp [hrest, Mode.of?] at hm
    | cons c cs =>
      rw [List.length_cons]
      omega

end Cursor

/-- What stands at the start of the characters, if a mode is entered there. -/
def Mode.Begins : Mode → List Char → Prop
  | .between, _ => True
  | .fixed kind, cs => ∃ word, word <+: cs ∧ kind.Spells word
  | .quoted mark, cs => cs.head? = some mark.char

theorem Cursor.Ready.begins {cursor : Cursor} (h : cursor.Ready) :
    cursor.mode.Begins cursor.rest := by
  cases hm : cursor.mode with
  | between => trivial
  | fixed kind =>
    have hr := h.resolve_left (by simp [hm])
    rw [hm] at hr
    obtain ⟨word, rest, hcs, hword⟩ := exists_spells_of_of? hr
    exact ⟨word, ⟨rest, hcs.symm⟩, hword⟩
  | quoted mark =>
    have hr := h.resolve_left (by simp [hm])
    rw [hm] at hr
    obtain ⟨rest, hcs⟩ := eq_cons_of_of?_eq_quoted hr
    rw [hcs]
    rfl

theorem Counted.concat {unclosed left : Nat} {tokens : List Token} {token : Token}
    (h : Counted unclosed tokens left) (hopen : token.kind = .closeParen → left ≠ 0) :
    Counted unclosed (tokens ++ [token]) (Cursor.recount token.kind left) := by
  induction h with
  | nil => exact .cons hopen .nil
  | cons hfirst h ih => exact .cons hfirst (ih hopen)

/-! ## The loop -/

namespace Scanner

/-- Between two scanners at most one token is emitted, and characters are passed for it unless it
ends the text. -/
def Emits (text : String) (scanner next : Scanner) : Prop :=
  next.tokens = scanner.tokens ∨ ∃ token, next.tokens = scanner.tokens ++ [token] ∧
    (token.kind = .endOfText ∨
      ∃ word, Text.slice? text scanner.offset next.offset = some word ∧ word ≠ "")

/-- The scanner stands where a cursor of the machine does, and the machine leaves from there what it
leaves for the whole text. -/
inductive Follows (text : String) (steps : Nat) : Scanner → Prop
  | running {cursor : Cursor} {tokens : List Token} (hin : cursor.StandsIn text)
    (hr : cursor.Ready) (hc : Counted 0 tokens cursor.unclosed)
    (hw : steps + cursor.weight ≤ 2 * text.length + 1)
    (hscan : scan text = ⟨tokens ++ cursor.run.tokens, cursor.run.errors⟩) :
    Follows text steps (cursor.toScanner text tokens)
  | halted {last : Cursor} {tokens : List Token} {errors : List ScanError}
    (hin : last.StandsIn text) (hc : Counted 0 tokens last.unclosed)
    (hw : steps ≤ 2 * text.length + 1)
    (hscan : scan text = ⟨tokens, errors ++ last.unclosedError.toList⟩) :
    Follows text steps ⟨none, last.offset text, last.unclosed, tokens, errors⟩

variable {text : String} {steps : Nat} {scanner : Scanner}

theorem follows_start : Follows text 0 start := by
  have hw : 0 + (Cursor.start text.toList).weight ≤ 2 * text.length + 1 := by
    simp [Cursor.weight, Cursor.start, String.length_toList]
  have hf : Follows text 0 ((Cursor.start text.toList).toScanner text []) :=
    .running ⟨[], rfl, rfl⟩ (.inl rfl) .nil hw rfl
  have ho : (Cursor.start text.toList).offset text = 0 := by
    simp [Cursor.offset, Cursor.start]
  rw [Cursor.toScanner, ho] at hf
  exact hf

/-- A scanner with a mode has a next step, which follows the step of the cursor. -/
theorem Follows.step (h : Follows text steps scanner) {mode : Mode}
    (hm : scanner.mode = some mode) :
    ∃ next, scanner.step? text mode = some next ∧ Follows text (steps + 1) next ∧
      Emits text scanner next := by
  cases h with
  | halted hin hc hw hscan => simp at hm
  | @running cursor tokens hin hr hc hw hscan =>
    obtain rfl : cursor.mode = mode := Option.some.inj hm
    refine ⟨_, Cursor.step?_toScanner hin hr, ?_⟩
    rw [Cursor.run_eq] at hscan
    cases hs : cursor.step with
    | advance emitted next =>
      rw [hs] at hscan
      obtain ⟨passed, hrest, hp, hnext, hcase⟩ := Cursor.exists_passed_of_advance hr hs
      have hin' := hin.of_passed hrest hp
      have hless := Cursor.weight_of_step hs
      have hw' : steps + 1 + next.weight ≤ 2 * text.length + 1 := by omega
      refine ⟨.running hin' hnext ?_ hw' (by simpa using hscan), ?_⟩
      · rcases hcase with ⟨rfl, hu⟩ | ⟨token, rfl, -, hopen, hu⟩
        · rw [hu]
          simpa using hc
        · rw [hu]
          exact hc.concat hopen
      · rcases hcase with ⟨rfl, -⟩ | ⟨token, rfl, hne, -, -⟩
        · exact .inl (by simp [Step.toScanner, Cursor.toScanner])
        · refine .inr ⟨token, rfl, .inr ⟨_, hin.slice?_offset hrest, ?_⟩⟩
          simpa using hne
    | halt emitted error last =>
      rw [hs] at hscan
      obtain ⟨passed, hrest, hp, hu, hcase⟩ := Cursor.exists_passed_of_halt hr hs
      have hpos := hr.weight_pos
      refine ⟨.halted (hin.of_passed hrest hp) ?_ (by omega) hscan, ?_⟩
      · rw [hu]
        rcases hcase with rfl | rfl
        · simpa using hc
        · exact hc.concat (by simp [endToken])
      · rcases hcase with rfl | rfl
        · exact .inl (by simp [Step.toScanner, Cursor.toScanner])
        · exact .inr ⟨endToken, rfl, .inl rfl⟩

theorem Reached.follows (h : Reached text steps scanner) : Follows text steps scanner := by
  induction h with
  | start => exact follows_start
  | step h hm hs ih =>
    obtain ⟨next, hnext, hf, -⟩ := ih.step hm
    obtain rfl := Option.some.inj (hs.symm.trans hnext)
    exact hf

theorem Follows.steps_le (h : Follows text steps scanner) : steps ≤ 2 * text.length + 1 := by
  cases h with
  | running hin hr hc hw hscan => exact Nat.le_of_add_right_le hw
  | halted hin hc hw hscan => exact hw

theorem Follows.finish?_eq (h : Follows text steps scanner) (hm : scanner.mode = none) :
    scanner.finish? text = some (scan text) := by
  cases h with
  | running hin hr hc hw hscan => simp [Cursor.toScanner] at hm
  | @halted last tokens errors hin hc hw hscan =>
    obtain ⟨before, ht, hp, ho⟩ := hin.exists_before
    rw [hscan, finish?, position?_eq ht ho, Cursor.unclosedError, hp]
    by_cases hu : last.unclosed = 0
    · simp [hu]
    · simp [hu, Nat.pos_of_ne_zero hu]

/-- From a scanner the loop comes to one without a mode. -/
theorem Reached.exists_last (h : Reached text steps scanner) :
    ∃ steps last, Reached text steps last ∧ last.mode = none := by
  induction hn : 2 * text.length + 1 - steps using Nat.strongRecOn generalizing steps scanner with
  | _ n ih =>
    cases hm : scanner.mode with
    | none => exact ⟨steps, scanner, h, hm⟩
    | some mode =>
      obtain ⟨next, hs, hf, -⟩ := h.follows.step hm
      have hle := hf.steps_le
      exact ih (2 * text.length + 1 - (steps + 1)) (by omega) (h.step hm hs) rfl

/-- What holds of a scanner that the loop comes to in a number of steps. -/
structure Sound (text : String) (steps : Nat) (scanner : Scanner) : Prop where
  /-- The cursor stands in the text and between characters. -/
  isValid : String.Pos.Raw.IsValid text ⟨scanner.offset⟩
  begins : ∀ mode, scanner.mode = some mode →
    ∃ rest, scanner.rest? text = some rest ∧ mode.Begins rest.toList
  /-- No slice of the next step is at fault. -/
  goesOn : ∀ mode, scanner.mode = some mode →
    ∃ next, scanner.step? text mode = some next ∧ Emits text scanner next
  /-- Nor is one behind the loop. -/
  ends : scanner.mode = none → scanner.finish? text = some (scan text)
  unclosed_eq : countKind .closeParen scanner.tokens + scanner.unclosed =
    countKind .openParen scanner.tokens
  steps_le : steps ≤ 2 * text.length + 1

theorem Follows.sound (h : Follows text steps scanner) : Sound text steps scanner where
  isValid := by
    cases h with
    | running hin => exact hin.isValid
    | halted hin => exact hin.isValid
  begins := by
    intro mode hm
    cases h with
    | halted => simp at hm
    | @running cursor tokens hin hr =>
      obtain rfl : cursor.mode = mode := Option.some.inj hm
      obtain ⟨before, ht, -, ho⟩ := hin.exists_before
      refine ⟨_, rest?_eq ht ho, ?_⟩
      rw [String.toList_ofList]
      exact hr.begins
  goesOn := by
    intro mode hm
    obtain ⟨next, hs, -, he⟩ := h.step hm
    exact ⟨next, hs, he⟩
  ends := h.finish?_eq
  unclosed_eq := by
    cases h with
    | running hin hr hc => simpa [Cursor.toScanner] using hc.countKind_add
    | halted hin hc => simpa using hc.countKind_add
  steps_le := h.steps_le

/-- Every scanner that the loop comes to is sound, and within two steps for each character and one
more it comes to the last. -/
theorem loop_sound (text : String) :
    (∀ steps scanner, Reached text steps scanner → Sound text steps scanner) ∧
      ∃ steps last, steps ≤ 2 * text.length + 1 ∧ Reached text steps last ∧ last.mode = none := by
  constructor
  · intro steps scanner h
    exact h.follows.sound
  · have hstart : Reached text 0 start := .start
    obtain ⟨steps, last, h, hm⟩ := hstart.exists_last
    exact ⟨steps, last, h.follows.steps_le, h, hm⟩

end Scanner

end Token

end TriggerRule
