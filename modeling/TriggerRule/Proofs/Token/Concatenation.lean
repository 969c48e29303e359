import TriggerRule.Proofs.Token.Layout

/-!
# A text behind another

The scanner reads a text alike wherever it begins. A cursor that stands further on takes the same
step from there (`Cursor.step_shift`), so a run from there emits the same tokens and meets the same
errors, as much further on (`Cursor.run_shift`). A text that can be split leaves the scanner between
two tokens with no parenthesis open, which is how it starts. Main statement: `scan_append`.
-/

namespace TriggerRule

namespace Token

/-! ## Further on -/

/-- The error, a number of characters further on. -/
def ScanError.shift (offset : Nat) : ScanError → ScanError
  | .unclosedLiteral mark position => .unclosedLiteral mark (position + offset)
  | .unclosedParen position => .unclosedParen (position + offset)
  | .unopenedParen position => .unopenedParen (position + offset)
  | .strayCharacter found position => .strayCharacter found (position + offset)

def Scan.shift (offset : Nat) (scan : Scan) : Scan :=
  { scan with errors := scan.errors.map (ScanError.shift offset) }

def Cursor.shift (offset : Nat) (cursor : Cursor) : Cursor :=
  { cursor with position := cursor.position + offset }

/-- What a step leads to, a number of characters further on. -/
def Step.shift (offset : Nat) : Step → Step
  | .advance emitted next => .advance emitted (next.shift offset)
  | .halt emitted error last =>
    .halt emitted (error.map (ScanError.shift offset)) (last.shift offset)

namespace Cursor

variable (offset : Nat) (cursor : Cursor)

theorem skipBlanks_shift :
    (cursor.shift offset).skipBlanks = cursor.skipBlanks.shift offset := by
  simp only [skipBlanks, shift, Nat.add_right_comm]

theorem settle_shift : (cursor.shift offset).settle = cursor.settle.shift offset := by
  obtain ⟨mode, rest, position, unclosed⟩ := cursor
  cases rest with
  | nil => rfl
  | cons c cs =>
    simp only [settle, shift]
    cases Mode.of? (c :: cs) <;> rfl

theorem readFixed_shift (kind : Kind) :
    (cursor.shift offset).readFixed kind = (cursor.readFixed kind).shift offset := by
  obtain ⟨mode, rest, position, unclosed⟩ := cursor
  cases rest with
  | nil => rfl
  | cons c cs =>
    by_cases h : kind = .closeParen ∧ unclosed = 0
    · simp [readFixed, shift, Step.shift, ScanError.shift, h]
    · simp [readFixed, shift, Step.shift, h, Nat.add_right_comm _ offset]

theorem readQuoted_shift (mark : QuoteMark) :
    (cursor.shift offset).readQuoted mark = (cursor.readQuoted mark).shift offset := by
  obtain ⟨mode, rest, position, unclosed⟩ := cursor
  cases rest with
  | nil => rfl
  | cons c cs =>
    simp only [readQuoted, shift, Nat.add_right_comm _ offset]
    cases mark.body? cs <;> rfl

/-- A cursor further on takes the same step, further on. -/
theorem step_shift : (cursor.shift offset).step = cursor.step.shift offset := by
  have hmode : (cursor.shift offset).mode = cursor.mode := rfl
  unfold step
  rw [hmode]
  cases cursor.mode with
  | between => exact (congrArg settle (skipBlanks_shift ..)).trans (settle_shift ..)
  | fixed kind => exact readFixed_shift ..
  | quoted mark => exact readQuoted_shift ..

theorem unclosedError_shift : (cursor.shift offset).unclosedError =
    cursor.unclosedError.map (ScanError.shift offset) := by
  unfold unclosedError
  by_cases h : cursor.unclosed = 0
  · simp [shift, h]
  · simp [shift, ScanError.shift, h]

/-- A run from further on emits the same tokens, and meets the same errors further on. -/
theorem run_shift : (cursor.shift offset).run = cursor.run.shift offset := by
  -- the run recurses on what each step leaves to do
  induction hn : cursor.weight using Nat.strongRecOn generalizing cursor with
  | _ n ih =>
    rw [run_eq, run_eq cursor, step_shift]
    cases hs : cursor.step with
    | advance emitted next =>
      have hlt : next.weight < n := hn ▸ weight_of_step hs
      simp only [Step.shift, ih next.weight hlt next rfl, Scan.shift]
    | halt emitted error last =>
      simp only [Step.shift, unclosedError_shift, Scan.shift, List.map_append, Option.toList_map]

end Cursor

/-! ## Scanning on -/

/-- **A text is scanned alike behind any text that can be split**: the tokens of the one before it
are as they were, but for the end of the text, and then come its own tokens and errors, as many
characters further on as there are before it. -/
theorem scan_append {front : String} {tokens : List Token} (h : ofText front = .ok tokens)
    (text : String) :
    ∃ body, tokens = body ++ [endToken] ∧
      scan (front ++ text) = ⟨body ++ (scan text).tokens,
        (scan text).errors.map (ScanError.shift front.length)⟩ := by
  obtain ⟨body, rfl, hl, hb⟩ := exists_laid_of_ofText h
  refine ⟨body, rfl, ?_⟩
  have hfar : Cursor.mk .between text.toList (0 + front.toList.length) 0 =
      (Cursor.start text.toList).shift front.length := by
    simp [Cursor.start, Cursor.shift, String.length_toList]
  have hs : ∀ text, scan text = (Cursor.start text.toList).run := fun _ => rfl
  rw [hs, hs, String.toList_append, Cursor.start,
    Cursor.run_append_laid hl text.toList 0 (counted_zero_iff.2 hb), hfar, Cursor.run_shift]
  rfl

/-- A literal in parentheses, and a `!` behind it. -/
def literalAndNot : List Token :=
  [⟨.openParen, "("⟩, ⟨.singleQuoted, "é"⟩, ⟨.closeParen, ")"⟩, ⟨.not, "!"⟩]

/-- A `!` is a token of its own where `==` comes right behind it, and the literal that is not closed
is missed six characters further on. -/
theorem scan_append_equalsAfterNot :
    ofText "('é')!" = .ok (literalAndNot ++ [endToken]) ∧
      scan "=='b" = ⟨[⟨.equals, "=="⟩, endToken], [.unclosedLiteral .single 4]⟩ ∧
      scan ("('é')!" ++ "=='b") =
        ⟨literalAndNot ++ [⟨.equals, "=="⟩, endToken], [.unclosedLiteral .single 10]⟩ := by
  have hfront : ofText "('é')!" = .ok (literalAndNot ++ [endToken]) := by cbv
  have htext : scan "=='b" = ⟨[⟨.equals, "=="⟩, endToken], [.unclosedLiteral .single 4]⟩ := by cbv
  refine ⟨hfront, htext, ?_⟩
  obtain ⟨body, hbody, hscan⟩ := scan_append hfront "=='b"
  obtain rfl := List.append_cancel_right hbody
  rw [hscan, htext]
  rfl

end Token

end TriggerRule
