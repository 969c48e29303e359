import TriggerRule.Proofs.Token.Spelling

/-!
# Texts as laid out tokens

`Laid tokens cs` says that the characters `cs` are spellings of the tokens in order, with blanks
before, between and behind them as one likes. The scanner is followed from a cursor between tokens:
it passes over blanks (`run_append_blanks`) and over a spelling (`run_append_spelled`) whatever
comes next, and where it can do neither it is at the end of the text or `Stuck`. So any text is a
layout and what the scanner is stuck at (`exists_laid_stuck`). Main statement: `ofText_eq_ok_iff`,
the texts that can be split are the laid out tokens with balanced parentheses.
-/

namespace TriggerRule

/-- Nothing but blanks, or nothing at all. -/
def Text.AllBlank (cs : List Char) : Prop := ∀ c ∈ cs, Text.isBlank c = true

theorem Text.allBlank_nil : AllBlank [] := List.forall_mem_nil _

theorem Text.AllBlank.append {ws vs : List Char} (h : AllBlank ws) (hv : AllBlank vs) :
    AllBlank (ws ++ vs) := List.forall_mem_append.2 ⟨h, hv⟩

namespace Token

/-- The characters spell the tokens one after the other, with blanks anywhere around them. -/
inductive Laid : List Token → List Char → Prop
  /-- The blanks after the last token. -/
  | blanks {ws : List Char} (hw : Text.AllBlank ws) : Laid [] ws
  /-- A token, the blanks before it and a layout of the tokens after it. -/
  | token {token : Token} {tokens : List Token} {ws cs rest : List Char} (hw : Text.AllBlank ws)
    (hs : Spelled token cs) (h : Laid tokens rest) : Laid (token :: tokens) (ws ++ cs ++ rest)

/-- How many of the tokens are of a kind. -/
def countKind (kind : Kind) (tokens : List Token) : Nat :=
  tokens.countP fun token => token.kind = kind

/-- Where a number of parentheses is open before the tokens, each that the tokens close is open by
then, and none is open after them. -/
structure Balanced (unclosed : Nat) (tokens : List Token) : Prop where
  closed_le : ∀ start, start <+: tokens →
    countKind .closeParen start ≤ unclosed + countKind .openParen start
  closed_eq : countKind .closeParen tokens = unclosed + countKind .openParen tokens

/-- Over the tokens the scanner counts from one number of open parentheses to another, and never
meets one to close where none is open. -/
inductive Counted : Nat → List Token → Nat → Prop
  | nil {unclosed : Nat} : Counted unclosed [] unclosed
  | cons {unclosed left : Nat} {token : Token} {tokens : List Token}
    (hopen : token.kind = .closeParen → unclosed ≠ 0)
    (h : Counted (Cursor.recount token.kind unclosed) tokens left) :
    Counted unclosed (token :: tokens) left

theorem Laid.kind_ne_endOfText {ts : List Token} {cs : List Char} (h : Laid ts cs) :
    ∀ t ∈ ts, t.kind ≠ .endOfText := by
  induction h with
  | blanks hw => simp
  | token hw hs h ih =>
    refine List.forall_mem_cons.2 ⟨?_, ih⟩
    cases hs with
    | fixed h =>
      have hfixed : ∀ entry ∈ fixedSpellings, entry.1 ≠ .endOfText := by decide
      exact hfixed _ h
    | sha1 h => simp
    | literal mark h => cases mark <;> simp [QuoteMark.literalKind]

/-! ## Parentheses -/

theorem countKind_cons (kind : Kind) (token : Token) (tokens : List Token) :
    countKind kind (token :: tokens) =
      (if token.kind = kind then 1 else 0) + countKind kind tokens := by
  unfold countKind
  rw [List.countP_cons]
  simp only [decide_eq_true_eq]
  omega

theorem countKind_append (kind : Kind) (ts us : List Token) :
    countKind kind (ts ++ us) = countKind kind ts + countKind kind us := List.countP_append

/-- A token changes the number of open parentheses as the scanner counts them. -/
theorem recount_add {token : Token} {unclosed : Nat}
    (h : token.kind = .closeParen → unclosed ≠ 0) :
    Cursor.recount token.kind unclosed + (if token.kind = .closeParen then 1 else 0) =
      unclosed + (if token.kind = .openParen then 1 else 0) := by
  cases hk : token.kind with
  | closeParen =>
    have := h hk
    simp only [Cursor.recount, ↓reduceIte, reduceCtorEq]
    omega
  | _ => simp [Cursor.recount]

theorem balanced_nil_iff {unclosed : Nat} : Balanced unclosed [] ↔ unclosed = 0 := by
  constructor
  · intro h
    simpa [countKind, eq_comm] using h.closed_eq
  · rintro rfl
    refine ⟨?_, rfl⟩
    intro start hs
    rw [List.prefix_nil.1 hs]
    exact Nat.zero_le _

theorem balanced_cons_iff {unclosed : Nat} {token : Token} {tokens : List Token} :
    Balanced unclosed (token :: tokens) ↔ (token.kind = .closeParen → unclosed ≠ 0) ∧
      Balanced (Cursor.recount token.kind unclosed) tokens := by
  constructor
  · intro h
    have hopen : token.kind = .closeParen → unclosed ≠ 0 := by
      intro hk
      have := h.closed_le [token] ⟨tokens, rfl⟩
      simp [countKind, hk] at this
      omega
    have hr := recount_add hopen
    refine ⟨hopen, ?_, ?_⟩
    · intro start hs
      have := h.closed_le (token :: start) (List.cons_prefix_cons.2 ⟨rfl, hs⟩)
      rw [countKind_cons, countKind_cons] at this
      omega
    · have := h.closed_eq
      rw [countKind_cons, countKind_cons] at this
      omega
  · rintro ⟨hopen, h⟩
    have hr := recount_add hopen
    refine ⟨?_, ?_⟩
    · intro start hs
      cases start with
      | nil => exact Nat.zero_le _
      | cons first start =>
        obtain ⟨rfl, ht⟩ := List.cons_prefix_cons.1 hs
        have := h.closed_le start ht
        rw [countKind_cons, countKind_cons]
        omega
    · have := h.closed_eq
      rw [countKind_cons, countKind_cons]
      omega

/-- Tokens are balanced if the scanner has none open behind them. -/
theorem counted_zero_iff {unclosed : Nat} {tokens : List Token} :
    Counted unclosed tokens 0 ↔ Balanced unclosed tokens := by
  induction tokens generalizing unclosed with
  | nil =>
    rw [balanced_nil_iff]
    constructor
    · intro h
      cases h with
      | nil => rfl
    · rintro rfl
      exact .nil
  | cons token tokens ih =>
    rw [balanced_cons_iff, ← ih]
    constructor
    · intro h
      cases h with
      | cons hopen h => exact ⟨hopen, h⟩
    · rintro ⟨hopen, h⟩
      exact .cons hopen h

/-- What the scanner counts is the difference of the two kinds. -/
theorem Counted.countKind_add {unclosed left : Nat} {tokens : List Token}
    (h : Counted unclosed tokens left) :
    countKind .closeParen tokens + left = unclosed + countKind .openParen tokens := by
  induction h with
  | nil => exact Nat.add_comm ..
  | cons hopen h ih =>
    have := recount_add hopen
    rw [countKind_cons, countKind_cons]
    omega

/-! ## Running over blanks and spellings -/

namespace Cursor

theorem skipBlanks_append {ws : List Char} (hw : Text.AllBlank ws) (rest : List Char)
    (position unclosed : Nat) :
    (mk .between (ws ++ rest) position unclosed).skipBlanks =
      (mk .between rest (position + ws.length) unclosed).skipBlanks := by
  simp [skipBlanks, List.dropWhile_append_of_pos hw, List.takeWhile_append_of_pos hw,
    Nat.add_assoc]

/-- Blanks only move the cursor. -/
theorem run_append_blanks {ws : List Char} (hw : Text.AllBlank ws) (rest : List Char)
    (position unclosed : Nat) :
    (mk .between (ws ++ rest) position unclosed).run =
      (mk .between rest (position + ws.length) unclosed).run := by
  have hs : (mk .between (ws ++ rest) position unclosed).step =
      (mk .between rest (position + ws.length) unclosed).step := by
    simp only [step, skipBlanks_append hw]
  rw [run_eq, run_eq (mk .between rest _ _), hs]

theorem skipBlanks_eq_self {c : Char} (hc : Text.isBlank c = false) (cs : List Char)
    (position unclosed : Nat) :
    (mk .between (c :: cs) position unclosed).skipBlanks =
      mk .between (c :: cs) position unclosed := by
  simp [skipBlanks, hc]

/-- Settling what to read changes nothing but the mode. -/
theorem run_of_of? {cs : List Char} {mode : Mode} (h : Mode.of? cs = some mode)
    (position unclosed : Nat) :
    (mk .between cs position unclosed).run = (mk mode cs position unclosed).run := by
  cases cs with
  | nil => simp [Mode.of?] at h
  | cons c cs =>
    have hs : (mk .between (c :: cs) position unclosed).step =
        .advance none (mk mode (c :: cs) position unclosed) := by
      simp [step, skipBlanks_eq_self (isBlank_eq_false_of_of? h), settle, h]
    rw [run_eq, hs]
    simp

theorem step_fixed_append {kind : Kind} {cs : List Char} (hne : cs ≠ [])
    (hlength : cs.length = kind.spelling.length) (rest : List Char) (position : Nat)
    {unclosed : Nat} (hopen : kind = .closeParen → unclosed ≠ 0) :
    (mk (.fixed kind) (cs ++ rest) position unclosed).step =
      .advance (some ⟨kind, String.ofList cs⟩)
        ⟨.between, rest, position + cs.length, recount kind unclosed⟩ := by
  obtain ⟨c, cs, rfl⟩ := List.exists_cons_of_ne_nil hne
  have hmore : kind.spelling.length - 1 = cs.length := by
    rw [← hlength, List.length_cons, Nat.add_sub_cancel]
  have hnot : ¬(kind = .closeParen ∧ unclosed = 0) := fun h => hopen h.1 h.2
  simp [step, readFixed, hnot, hmore, Nat.add_assoc, Nat.add_comm 1]

theorem step_quoted_append {mark : QuoteMark} {text : List Char} (h : text.getLast? ≠ some '\\')
    (rest : List Char) (position unclosed : Nat) :
    (mk (.quoted mark) (mark.char :: mark.protect text ++ [mark.char] ++ rest) position
        unclosed).step =
      .advance (some ⟨mark.literalKind, String.ofList text⟩)
        ⟨.between, rest, position + (mark.char :: mark.protect text ++ [mark.char]).length,
          unclosed⟩ := by
  have hb := mark.body?_protect rest h
  simp only [step, readQuoted, List.cons_append, List.append_assoc, List.nil_append, hb]
  simp
  omega

theorem recount_literalKind (mark : QuoteMark) (unclosed : Nat) :
    recount mark.literalKind unclosed = unclosed := by
  cases mark <;> rfl

/-- A spelling of a token is read as the token, whatever follows it. -/
theorem run_append_spelled {token : Token} {cs : List Char} (h : Spelled token cs)
    (rest : List Char) (position unclosed : Nat)
    (hopen : token.kind = .closeParen → unclosed ≠ 0) :
    (mk .between (cs ++ rest) position unclosed).run =
      ⟨token :: (mk .between rest (position + cs.length)
          (recount token.kind unclosed)).run.tokens,
        (mk .between rest (position + cs.length) (recount token.kind unclosed)).run.errors⟩ := by
  cases h with
  | @fixed kind text h =>
    obtain ⟨hmem, htext⟩ := mem_exactKinds_of_mem_fixedSpellings h
    obtain ⟨c, tail, hc, -⟩ := (Spelled.fixed h).exists_head
    have hm := of?_append_of_mem hmem rest
    rw [← htext] at hm
    have hclose : kind = .closeParen → unclosed ≠ 0 := hopen
    rw [run_of_of? hm, run_eq, step_fixed_append (by simp [hc]) (by rw [htext]) _ _ hclose]
    simp
  | sha1 h =>
    obtain ⟨c, tail, hc, -⟩ := (Spelled.sha1 h).exists_head
    have hlength := congrArg List.length h
    rw [List.length_map] at hlength
    rw [run_of_of? (of?_append_of_sha1 h rest), run_eq,
      step_fixed_append (by simp [hc]) hlength _ _ (by simp)]
    simp
  | literal mark h =>
    rw [List.cons_append, List.cons_append, run_of_of? (of?_mark mark _), run_eq,
      ← List.cons_append, ← List.cons_append, step_quoted_append h]
    simp [recount_literalKind]

/-- A layout of tokens is read as these tokens, whatever follows it. -/
theorem run_append_laid {tokens : List Token} {cs : List Char} (h : Laid tokens cs)
    (rest : List Char) (position : Nat) {unclosed left : Nat} (hc : Counted unclosed tokens left) :
    (mk .between (cs ++ rest) position unclosed).run =
      ⟨tokens ++ (mk .between rest (position + cs.length) left).run.tokens,
        (mk .between rest (position + cs.length) left).run.errors⟩ := by
  induction h generalizing position unclosed with
  | blanks hw =>
    cases hc with
    | nil =>
      rw [run_append_blanks hw]
      rfl
  | @token token tokens ws cs tail hw hs h ih =>
    cases hc with
    | cons hopen hc =>
      rw [List.append_assoc, List.append_assoc, run_append_blanks hw,
        run_append_spelled hs _ _ _ hopen, ih _ hc]
      simp [Nat.add_assoc]

/-! ## Where the scanner stops -/

/-- The scanner cannot go on at the characters, with a number of parentheses open. -/
inductive Stuck (unclosed : Nat) : List Char → Prop
  /-- No token starts here. -/
  | stray {c : Char} {cs : List Char} (hc : Text.isBlank c = false)
    (h : Mode.of? (c :: cs) = none) : Stuck unclosed (c :: cs)
  /-- There is nothing to close. -/
  | unopened {cs : List Char} (h : unclosed = 0) : Stuck unclosed (')' :: cs)
  /-- A literal is opened and not closed. -/
  | unended {mark : QuoteMark} {cs : List Char} (h : mark.body? cs = none) :
    Stuck unclosed (mark.char :: cs)

theorem run_nil (position unclosed : Nat) :
    (mk .between [] position unclosed).run =
      ⟨[endToken], (mk .between [] position unclosed).unclosedError.toList⟩ := by
  rw [run_eq]
  rfl

theorem errors_ne_nil_of_stuck {cs : List Char} {unclosed : Nat} (h : Stuck unclosed cs)
    (position : Nat) : (mk .between cs position unclosed).run.errors ≠ [] := by
  cases h with
  | stray hc h =>
    rw [run_eq]
    simp [step, skipBlanks_eq_self hc, settle, h]
  | unopened h =>
    rename_i cs
    have hm : Mode.of? (')' :: cs) = some (.fixed .closeParen) := rfl
    rw [run_of_of? hm, run_eq]
    simp [step, readFixed, h]
  | unended h =>
    rw [run_of_of? (of?_mark _ _), run_eq]
    simp [step, readQuoted, h]

/-- At a character that is no blank, either the scanner is stuck or it reads a spelling. -/
theorem stuck_or_exists_spelled {c : Char} (hc : Text.isBlank c = false) (cs : List Char)
    (unclosed : Nat) :
    Stuck unclosed (c :: cs) ∨ ∃ token s rest, c :: cs = s ++ rest ∧ Spelled token s ∧
      (token.kind = .closeParen → unclosed ≠ 0) := by
  cases hm : Mode.of? (c :: cs) with
  | none => exact .inl (.stray hc hm)
  | some mode =>
    cases mode with
    | between => exact absurd rfl (mode_ne_between hm)
    | fixed kind =>
      obtain ⟨s, rest, hcs, hs⟩ := spelled_of_of?_eq_fixed hm
      by_cases hk : kind = .closeParen ∧ unclosed = 0
      · obtain ⟨rfl, hu⟩ := hk
        left
        rw [hcs, eq_of_spelled_closeParen hs]
        exact .unopened hu
      · exact .inr ⟨_, s, rest, hcs, hs, fun h hu => hk ⟨h, hu⟩⟩
    | quoted mark =>
      obtain ⟨cs', hcs⟩ := eq_cons_of_of?_eq_quoted hm
      rw [hcs]
      cases hb : mark.body? cs' with
      | none => exact .inl (.unended hb)
      | some read =>
        obtain ⟨text, rest⟩ := read
        refine .inr ⟨_, _, rest, ?_, .literal mark (QuoteMark.getLast?_of_body? hb), ?_⟩
        · rw [QuoteMark.eq_protect_of_body? hb]
          simp
        · cases mark <;> simp [QuoteMark.literalKind]

theorem exists_blanks (cs : List Char) : ∃ ws rest, cs = ws ++ rest ∧ Text.AllBlank ws ∧
    ∀ c ∈ rest.head?, Text.isBlank c = false := by
  refine ⟨cs.takeWhile Text.isBlank, cs.dropWhile Text.isBlank,
    List.takeWhile_append_dropWhile.symm, ?_, ?_⟩
  · exact List.all_eq_true.1 List.all_takeWhile
  · intro c hc
    have := List.head?_dropWhile_not Text.isBlank cs
    rw [Option.mem_def] at hc
    rw [hc] at this
    exact this

/-- Any text is a layout of tokens and something that the scanner is stuck at, or nothing. -/
theorem exists_laid_stuck (cs : List Char) (unclosed : Nat) :
    ∃ tokens front tail left, cs = front ++ tail ∧ Laid tokens front ∧
      Counted unclosed tokens left ∧ (tail = [] ∨ Stuck left tail) := by
  induction hn : cs.length using Nat.strongRecOn generalizing cs unclosed with
  | _ n ih =>
    obtain ⟨ws, cs, rfl, hw, hhead⟩ := exists_blanks cs
    cases cs with
    | nil => exact ⟨[], ws, [], unclosed, rfl, .blanks hw, .nil, .inl rfl⟩
    | cons c tail =>
      rcases stuck_or_exists_spelled (hhead c rfl) tail unclosed with
        hs | ⟨token, s, rest, he, hs, hopen⟩
      · exact ⟨[], ws, c :: tail, unclosed, rfl, .blanks hw, .nil, .inr hs⟩
      · rw [he] at hn ⊢
        obtain ⟨d, ds, rfl, -⟩ := hs.exists_head
        have hlt : rest.length < n := by
          rw [← hn]
          simp only [List.length_append, List.length_cons]
          omega
        obtain ⟨tokens, front, tail, left, rfl, hl, hc, hend⟩ := ih _ hlt rest _ rfl
        refine ⟨token :: tokens, ws ++ (d :: ds) ++ front, tail, left, ?_, .token hw hs hl,
          .cons hopen hc, hend⟩
        simp only [List.append_assoc]

/-- A run without errors has read a layout of balanced tokens. -/
theorem exists_laid_of_errors_eq_nil {cs : List Char} {position unclosed : Nat}
    (h : (mk .between cs position unclosed).run.errors = []) :
    ∃ tokens, (mk .between cs position unclosed).run.tokens = tokens ++ [endToken] ∧
      Laid tokens cs ∧ Balanced unclosed tokens := by
  obtain ⟨tokens, front, tail, left, rfl, hl, hc, hend⟩ := exists_laid_stuck cs unclosed
  rw [run_append_laid hl _ _ hc] at h ⊢
  rcases hend with rfl | hs
  · rw [run_nil] at h ⊢
    have hleft : left = 0 := by
      by_cases hleft : left = 0
      · exact hleft
      · simp [unclosedError, hleft] at h
    subst hleft
    refine ⟨tokens, rfl, ?_, counted_zero_iff.1 hc⟩
    rw [List.append_nil]
    exact hl
  · exact absurd h (errors_ne_nil_of_stuck hs _)

end Cursor

theorem ofText_of_laid {text : String} {body : List Token} (h : Laid body text.toList)
    (hb : Balanced 0 body) : ofText text = .ok (body ++ [endToken]) := by
  have hs : scan text = (Cursor.start text.toList).run := rfl
  have hr := Cursor.run_append_laid h [] 0 (counted_zero_iff.2 hb)
  rw [List.append_nil, Cursor.run_nil] at hr
  rw [ofText, Scan.toExcept, hs, Cursor.start, hr]
  rfl

theorem exists_laid_of_ofText {text : String} {tokens : List Token}
    (h : ofText text = .ok tokens) :
    ∃ body, tokens = body ++ [endToken] ∧ Laid body text.toList ∧ Balanced 0 body := by
  have hs : scan text = (Cursor.start text.toList).run := rfl
  rw [ofText, Scan.toExcept, hs] at h
  split at h
  · next he =>
    obtain ⟨body, ht, hl, hb⟩ := Cursor.exists_laid_of_errors_eq_nil he
    refine ⟨body, ?_, hl, hb⟩
    rw [← ht]
    exact (Except.ok.inj h).symm
  · simp at h

/-- **A text can be split into tokens** if and only if it is a layout of tokens with balanced
parentheses; these are its tokens, and the token that ends the text follows them. -/
theorem ofText_eq_ok_iff (text : String) (tokens : List Token) :
    ofText text = .ok tokens ↔
      ∃ body, tokens = body ++ [endToken] ∧ Laid body text.toList ∧ Balanced 0 body := by
  constructor
  · exact exists_laid_of_ofText
  · rintro ⟨body, rfl, hl, hb⟩
    exact ofText_of_laid hl hb

end Token

end TriggerRule
