import TriggerRule.Proofs.Token.Layout

/-!
# How a scan ends

Any text is a layout of tokens, and behind it nothing or what the scanner is stuck at. `Halts` lists
the ways in which the scanner then ends: what it still emits, the error it halts with, and where. A
scan is made of the tokens of the layout, of these, and of the error for the parentheses left open
(`scan_of_halts`), so what an error says of the text, and of how much of it was split, can be told
for each way on its own (`Halts.explained`). Main statement: `scan_explained`.
-/

namespace TriggerRule

namespace QuoteMark

/-- In a literal that is never closed, each mark comes right after a backslash. -/
theorem getLast?_of_body?_eq_none {mark : QuoteMark} {cs before after : List Char}
    (h : mark.body? cs = none) (hcs : cs = before ++ mark.char :: after) :
    before.getLast? = some '\\' := by
  have huncons : ∀ {c : Char} {ds before : List Char}, ¬c = mark.char →
      c :: ds = before ++ mark.char :: after →
      ∃ front, before = c :: front ∧ ds = front ++ mark.char :: after := by
    intro c ds before hc heq
    rcases List.cons_eq_append_iff.1 heq with ⟨rfl, hmark⟩ | ⟨front, rfl, hds⟩
    · exact absurd (List.cons.inj hmark).1.symm hc
    · exact ⟨front, rfl, hds⟩
  have hlast : ∀ {c : Char} {front : List Char}, front.getLast? = some '\\' →
      (c :: front).getLast? = some '\\' := by
    intro c front hfront
    rw [List.getLast?_cons, hfront]
    rfl
  fun_induction body? mark cs generalizing before with
  | case1 => simp at hcs
  | case2 => simp at h
  | case3 hc =>
    obtain ⟨front, rfl, hfront⟩ := huncons hc hcs
    simp at hfront
  | case4 ds hc ih =>
    obtain ⟨front, rfl, hfront⟩ := huncons hc hcs
    -- the mark is the one that the backslash guards, or one behind it
    rcases List.cons_eq_append_iff.1 hfront with ⟨rfl, -⟩ | ⟨front, rfl, hds⟩
    · rfl
    · exact hlast (hlast (ih (Option.map_eq_none_iff.1 h) hds))
  | case5 d ds hd hc ih =>
    obtain ⟨front, rfl, hfront⟩ := huncons hc hcs
    exact hlast (ih (Option.map_eq_none_iff.1 h) hfront)
  | case6 c cs hc _ ih =>
    obtain ⟨front, rfl, hfront⟩ := huncons hc hcs
    exact hlast (ih (Option.map_eq_none_iff.1 h) hfront)

end QuoteMark

namespace Token

/-! ## What the errors of a scan say -/

/-- No token starts at the characters, nor one that is never closed. -/
def StartsNoToken (cs : List Char) : Prop :=
  (∀ mark : QuoteMark, cs.head? ≠ some mark.char) ∧ ∀ token s, Spelled token s → ¬s <+: cs

/-- The characters alone are scanned to the tokens, with no error but for parentheses that are open
at their end. -/
def ScansTo (cs : List Char) (tokens : List Token) : Prop :=
  (scan (String.ofList cs)).tokens = tokens ∧
    ∀ error ∈ (scan (String.ofList cs)).errors, ∃ position, error = .unclosedParen position

/-- The error keeps the scanner from what follows, the end of the text included. -/
def ScanError.breaksOff : ScanError → Bool
  | .strayCharacter _ _ | .unopenedParen _ => true
  | .unclosedLiteral _ _ | .unclosedParen _ => false

/-- What an error says of the characters that it is met in and of the tokens emitted. -/
def ScanError.Explained (cs : List Char) (tokens : List Token) : ScanError → Prop
  | .strayCharacter found position =>
    cs[position]? = some found ∧ Text.isBlank found = false ∧ StartsNoToken (cs.drop position) ∧
      ScansTo (cs.take position) (tokens ++ [endToken])
  | .unopenedParen position =>
    cs[position]? = some ')' ∧
      ofText (String.ofList (cs.take position)) = .ok (tokens ++ [endToken])
  | .unclosedLiteral mark position =>
    position = cs.length ∧ tokens.getLast? = some endToken ∧
      ∃ front body, cs = front ++ mark.char :: body ∧ ScansTo front tokens ∧
        ∀ before after, body = before ++ mark.char :: after → before.getLast? = some '\\'
  | .unclosedParen _ => countKind .closeParen tokens < countKind .openParen tokens

/-- What the errors of a scan of the characters say of them and of its tokens. -/
structure Scan.Explained (cs : List Char) (scan : Scan) : Prop where
  /-- The tokens but for the end of the text are laid out where the text begins, and take up all of
  it if nothing but a closing parenthesis is missed. -/
  laid : ∃ body front, front <+: cs ∧ Laid body front ∧
    (scan.tokens = body ∨ scan.tokens = body ++ [endToken]) ∧
    ((∀ error ∈ scan.errors, ∃ position, error = .unclosedParen position) →
      front = cs ∧ scan.tokens = body ++ [endToken])
  length_le : scan.errors.length ≤ 2
  /-- Only that parentheses are open comes second, where the scanner halts with something else. -/
  second : ∀ first second, scan.errors = [first, second] →
    second = .unclosedParen first.position ∧
      ((∃ found position, first = .strayCharacter found position) ∨
        ∃ mark position, first = .unclosedLiteral mark position)
  /-- Alone, it comes at the end of the text. -/
  alone : ∀ position, scan.errors = [.unclosedParen position] → position = cs.length
  explained : ∀ error ∈ scan.errors, error.Explained cs scan.tokens
  unclosedParen_iff : (∃ position, .unclosedParen position ∈ scan.errors) ↔
    countKind .closeParen scan.tokens < countKind .openParen scan.tokens
  /-- The end of the text comes last. -/
  endOfText_last : ∀ token ∈ scan.tokens.dropLast, token.kind ≠ .endOfText
  endOfText_iff : (∃ token ∈ scan.tokens, token.kind = .endOfText) ↔
    ∀ error ∈ scan.errors, error.breaksOff = false
  /-- Without errors the text has been split. -/
  split : scan.errors = [] → ∃ body, scan.tokens = body ++ [endToken] ∧ Laid body cs ∧
    Balanced 0 body

/-! ## The ways to halt -/

/-- How the scanner ends at the characters behind what it has read, with a number of parentheses
open: what it still emits, the error it halts with, and the position it halts at. -/
inductive Halts (left position : Nat) :
    List Char → Option Token → Option ScanError → Nat → Prop
  | finished : Halts left position [] (some endToken) none position
  | stray {c : Char} {cs : List Char} (hc : Text.isBlank c = false)
    (h : Mode.of? (c :: cs) = none) :
    Halts left position (c :: cs) none (some (.strayCharacter c position)) position
  | unopened {cs : List Char} (h : left = 0) :
    Halts left position (')' :: cs) none (some (.unopenedParen position)) position
  | unended {mark : QuoteMark} {cs : List Char} (h : mark.body? cs = none) :
    Halts left position (mark.char :: cs) (some endToken)
      (some (.unclosedLiteral mark (position + 1 + cs.length))) (position + 1 + cs.length)

/-- The error for parentheses that are open where the scanner halts. -/
def unclosedError? (left stop : Nat) : Option ScanError :=
  if left = 0 then none else some (.unclosedParen stop)

variable {left position stop : Nat} {tail front cs : List Char} {emitted : Option Token}
  {error : Option ScanError} {tokens : List Token}

theorem exists_halts (h : tail = [] ∨ Cursor.Stuck left tail) (position : Nat) :
    ∃ emitted error stop, Halts left position tail emitted error stop := by
  rcases h with rfl | h
  · exact ⟨_, _, _, .finished⟩
  · cases h with
    | stray hc h => exact ⟨_, _, _, .stray hc h⟩
    | unopened h => exact ⟨_, _, _, .unopened h⟩
    | unended h => exact ⟨_, _, _, .unended h⟩

theorem Halts.run_eq (h : Halts left position tail emitted error stop) :
    (Cursor.mk .between tail position left).run =
      ⟨emitted.toList, error.toList ++ (unclosedError? left stop).toList⟩ := by
  cases h with
  | finished => exact Cursor.run_nil position left
  | stray hc h =>
    rw [Cursor.run_eq]
    simp [Cursor.step, Cursor.skipBlanks_eq_self hc, Cursor.settle, h, Cursor.unclosedError,
      unclosedError?]
  | @unopened cs h =>
    have hm : Mode.of? (')' :: cs) = some (.fixed .closeParen) := rfl
    rw [Cursor.run_of_of? hm, Cursor.run_eq]
    simp [Cursor.step, Cursor.readFixed, h, Cursor.unclosedError, unclosedError?]
  | unended h =>
    rw [Cursor.run_of_of? (of?_mark _ _), Cursor.run_eq]
    simp [Cursor.step, Cursor.readQuoted, h, Cursor.unclosedError, unclosedError?]

theorem scan_of_halts {text : String} (htext : text.toList = front ++ tail)
    (hl : Laid tokens front) (hc : Counted 0 tokens left)
    (h : Halts left front.length tail emitted error stop) :
    scan text = ⟨tokens ++ emitted.toList, error.toList ++ (unclosedError? left stop).toList⟩ := by
  have hs : scan text = (Cursor.start text.toList).run := rfl
  rw [hs, htext, Cursor.start, Cursor.run_append_laid hl tail 0 hc, Nat.zero_add, h.run_eq]

/-- What is laid out before a halt is split as it is there, whatever parentheses it leaves open. -/
theorem scansTo_of_laid (hl : Laid tokens front) (hc : Counted 0 tokens left) :
    ScansTo front (tokens ++ [endToken]) := by
  have htext : (String.ofList front).toList = front ++ [] := by simp
  rw [ScansTo, scan_of_halts htext hl hc .finished]
  refine ⟨rfl, ?_⟩
  intro e he
  simp only [unclosedError?] at he
  split at he
  · simp at he
  · exact ⟨_, by simpa using he⟩

/-! ## What a halt says -/

theorem Spelled.exists_of?_append {token : Token} (h : Spelled token cs) (rest : List Char) :
    ∃ mode, Mode.of? (cs ++ rest) = some mode := by
  cases h with
  | fixed h =>
    obtain ⟨hmem, htext⟩ := mem_exactKinds_of_mem_fixedSpellings h
    rw [htext]
    exact ⟨_, of?_append_of_mem hmem rest⟩
  | sha1 h => exact ⟨_, of?_append_of_sha1 h rest⟩
  | literal mark h => exact ⟨_, of?_mark mark _⟩

theorem startsNoToken_of_of? (h : Mode.of? cs = none) : StartsNoToken cs := by
  refine ⟨?_, ?_⟩
  · intro mark hhead
    obtain ⟨rest, rfl⟩ := List.head?_eq_some_iff.1 hhead
    simp [of?_mark] at h
  · rintro token s hs ⟨rest, rfl⟩
    obtain ⟨mode, hmode⟩ := hs.exists_of?_append rest
    simp [hmode] at h

/-- The error that the scanner halts with is explained. -/
theorem Halts.explained (h : Halts left front.length tail emitted error stop)
    (hl : Laid tokens front) (hc : Counted 0 tokens left) :
    ∀ e ∈ error, e.Explained (front ++ tail) (tokens ++ emitted.toList) := by
  cases h with
  | finished => simp
  | @stray c cs hblank h =>
    rintro _ ⟨⟩
    have hstart : StartsNoToken ((front ++ c :: cs).drop front.length) := by
      rw [List.drop_left]
      exact startsNoToken_of_of? h
    have hscan : ScansTo ((front ++ c :: cs).take front.length) (tokens ++ [endToken]) := by
      rw [List.take_left]
      exact scansTo_of_laid hl hc
    refine ⟨by simp, hblank, hstart, ?_⟩
    simpa using hscan
  | @unopened cs h =>
    rintro _ ⟨⟩
    subst h
    have htext : (String.ofList front).toList = front := String.toList_ofList
    rw [← htext] at hl
    refine ⟨by simp, ?_⟩
    rw [List.take_left, Option.toList_none, List.append_nil]
    exact ofText_of_laid hl (counted_zero_iff.1 hc)
  | @unended mark cs h =>
    rintro _ ⟨⟩
    refine ⟨?_, ?_, front, cs, rfl, scansTo_of_laid hl hc, ?_⟩
    · rw [List.length_append, List.length_cons]
      omega
    · simp
    · intro before after
      exact QuoteMark.getLast?_of_body?_eq_none h

theorem mem_unclosedError?_iff {e : ScanError} :
    unclosedError? left stop = some e ↔ left ≠ 0 ∧ e = .unclosedParen stop := by
  unfold unclosedError?
  by_cases h : left = 0
  · simp [h]
  · simp [h, eq_comm]

theorem mem_errors_iff {e : ScanError} :
    e ∈ error.toList ++ (unclosedError? left stop).toList ↔
      error = some e ∨ left ≠ 0 ∧ e = .unclosedParen stop := by
  rw [List.mem_append, Option.mem_toList, Option.mem_toList, mem_unclosedError?_iff]

/-- The error for open parentheses comes second only at a character that starts no token, and in a
literal. -/
theorem Halts.second (h : Halts left position tail emitted error stop) {first second : ScanError}
    (heq : error.toList ++ (unclosedError? left stop).toList = [first, second]) :
    second = .unclosedParen first.position ∧
      ((∃ found place, first = .strayCharacter found place) ∨
        ∃ mark place, first = .unclosedLiteral mark place) := by
  have hsplit : error = some first ∧ unclosedError? left stop = some second := by
    cases error with
    | none =>
      have hlength := congrArg List.length heq
      have := (unclosedError? left stop).length_toList_le
      simp at hlength
      omega
    | some e =>
      obtain ⟨rfl, hlast⟩ := List.cons.inj heq
      exact ⟨rfl, Option.toList_eq_singleton_iff.1 hlast⟩
  obtain ⟨rfl, hlast⟩ := hsplit
  obtain ⟨hleft, rfl⟩ := mem_unclosedError?_iff.1 hlast
  cases h with
  | stray hc h => exact ⟨rfl, .inl ⟨_, _, rfl⟩⟩
  | unopened h => exact absurd h hleft
  | unended h => exact ⟨rfl, .inr ⟨_, _, rfl⟩⟩

/-- The scanner emits the end of the text unless an error keeps it from there. -/
theorem Halts.emitted_cases (h : Halts left position tail emitted error stop) :
    emitted = none ∧ (∃ e, error = some e ∧ e.breaksOff = true) ∨
      emitted = some endToken ∧ ∀ e, error = some e → e.breaksOff = false := by
  cases h with
  | finished => exact .inr ⟨rfl, by simp⟩
  | stray hc h => exact .inl ⟨rfl, _, rfl, rfl⟩
  | unopened h => exact .inl ⟨rfl, _, rfl, rfl⟩
  | unended h => exact .inr ⟨rfl, by simp [ScanError.breaksOff]⟩

/-- A scanner that halts with nothing but open parentheses has come to the end of the text. -/
theorem Halts.of_unclosed (h : Halts left position tail emitted error stop)
    (hunclosed : ∀ e, error = some e → ∃ place, e = .unclosedParen place) :
    tail = [] ∧ emitted = some endToken := by
  cases h with
  | finished => exact ⟨rfl, rfl⟩
  | stray hc h => simpa using hunclosed _ rfl
  | unopened h => simpa using hunclosed _ rfl
  | unended h => simpa using hunclosed _ rfl

/-- The tokens of a scan but for the end of the text are laid out where the text begins, and take up
all of it unless the scanner halts before its end. -/
theorem exists_laid_of_scan (text : String) : ∃ body front, front <+: text.toList ∧
    Laid body front ∧
    ((scan text).tokens = body ∨ (scan text).tokens = body ++ [endToken]) ∧
    ((∀ error ∈ (scan text).errors, ∃ position, error = .unclosedParen position) →
      front = text.toList ∧ (scan text).tokens = body ++ [endToken]) := by
  obtain ⟨body, front, tail, left, htext, hl, hc, hend⟩ := Cursor.exists_laid_stuck text.toList 0
  obtain ⟨emitted, error, stop, h⟩ := exists_halts hend front.length
  rw [scan_of_halts htext hl hc h, htext]
  refine ⟨body, front, List.prefix_append front tail, hl, ?_, fun hunclosed => ?_⟩
  · rcases h.emitted_cases with ⟨rfl, -⟩ | ⟨rfl, -⟩
    · exact .inl (List.append_nil body)
    · exact .inr rfl
  · obtain ⟨rfl, rfl⟩ := h.of_unclosed fun e he => hunclosed e (mem_errors_iff.2 (.inl he))
    exact ⟨(List.append_nil front).symm, rfl⟩

theorem Halts.error_ne (h : Halts left position tail emitted error stop) (place : Nat) :
    error ≠ some (.unclosedParen place) := by
  cases h <;> simp

/-- Where nothing else is wrong, open parentheses are missed at the end of the text. -/
theorem Halts.alone (h : Halts left position tail emitted error stop) {place : Nat}
    (heq : error.toList ++ (unclosedError? left stop).toList = [.unclosedParen place]) :
    tail = [] ∧ place = position := by
  cases error with
  | none =>
    obtain ⟨-, hplace⟩ := mem_unclosedError?_iff.1 (Option.toList_eq_singleton_iff.1 heq)
    cases h with
    | finished => exact ⟨rfl, ScanError.unclosedParen.inj hplace⟩
  | some e =>
    obtain ⟨rfl, -⟩ := List.cons.inj heq
    exact absurd rfl (h.error_ne place)

/-- The end of the text is no parenthesis. -/
theorem Halts.countKind_add (h : Halts left position tail emitted error stop)
    (hc : Counted 0 tokens left) :
    countKind .closeParen (tokens ++ emitted.toList) + left =
      countKind .openParen (tokens ++ emitted.toList) := by
  have hcount := hc.countKind_add
  have hnone : ∀ kind, kind ≠ .endOfText → countKind kind emitted.toList = 0 := by
    intro kind hkind
    rcases h.emitted_cases with ⟨rfl, -⟩ | ⟨rfl, -⟩
    · rfl
    · simp [countKind, endToken, hkind.symm]
  rw [countKind_append, countKind_append, hnone _ (by simp), hnone _ (by simp)]
  omega

theorem Halts.endOfText_last (h : Halts left position tail emitted error stop)
    (hl : Laid tokens front) :
    ∀ token ∈ (tokens ++ emitted.toList).dropLast, token.kind ≠ .endOfText := by
  intro token ht
  refine hl.kind_ne_endOfText token ?_
  rcases h.emitted_cases with ⟨rfl, -⟩ | ⟨rfl, -⟩
  · rw [Option.toList_none, List.append_nil] at ht
    exact (List.dropLast_sublist tokens).subset ht
  · rw [Option.toList_some, List.dropLast_concat] at ht
    exact ht

theorem Halts.endOfText_iff (h : Halts left position tail emitted error stop)
    (hl : Laid tokens front) : (∃ token ∈ tokens ++ emitted.toList, token.kind = .endOfText) ↔
      ∀ e ∈ error.toList ++ (unclosedError? left stop).toList, e.breaksOff = false := by
  rcases h.emitted_cases with ⟨rfl, e, he, hb⟩ | ⟨rfl, hbreak⟩
  · rw [Option.toList_none, List.append_nil]
    constructor
    · rintro ⟨token, ht, hk⟩
      exact absurd hk (hl.kind_ne_endOfText token ht)
    · intro hall
      have hnot := hall e (mem_errors_iff.2 (.inl he))
      rw [hb] at hnot
      cases hnot
  · constructor
    · intro _ e he
      rcases mem_errors_iff.1 he with he | ⟨-, rfl⟩
      · exact hbreak e he
      · rfl
    · intro _
      exact ⟨endToken, by simp, rfl⟩

/-- A scanner that meets no error has come to the end of the text, with no parenthesis open. -/
theorem Halts.of_errors_eq_nil (h : Halts left position tail emitted error stop)
    (hnone : error.toList ++ (unclosedError? left stop).toList = []) :
    left = 0 ∧ tail = [] ∧ emitted = some endToken := by
  have hleft : left = 0 := by
    by_cases hleft : left = 0
    · exact hleft
    · have hmem : ScanError.unclosedParen stop ∈
          error.toList ++ (unclosedError? left stop).toList :=
        mem_errors_iff.2 (.inr ⟨hleft, rfl⟩)
      rw [hnone] at hmem
      cases hmem
  refine ⟨hleft, h.of_unclosed fun e he => ?_⟩
  simp [he] at hnone

/-- **What the errors of a scan say**, of the text and of how much of it was split into tokens. -/
theorem scan_explained (text : String) : (scan text).Explained text.toList := by
  obtain ⟨tokens, front, tail, left, htext, hl, hc, hend⟩ :=
    Cursor.exists_laid_stuck text.toList 0
  obtain ⟨emitted, error, stop, h⟩ := exists_halts hend front.length
  have hcount := h.countKind_add hc
  have hlaid := exists_laid_of_scan text
  rw [scan_of_halts htext hl hc h, htext] at hlaid ⊢
  constructor
  case laid => exact hlaid
  case length_le =>
    rw [List.length_append]
    have := error.length_toList_le
    have := (unclosedError? left stop).length_toList_le
    omega
  case second => exact fun _ _ => h.second
  case alone =>
    intro place heq
    obtain ⟨rfl, rfl⟩ := h.alone heq
    rw [List.append_nil]
  case explained =>
    intro e he
    rcases mem_errors_iff.1 he with he | ⟨hleft, rfl⟩
    · exact h.explained hl hc e he
    · exact Nat.lt_of_lt_of_eq (Nat.lt_add_of_pos_right (Nat.pos_of_ne_zero hleft)) hcount
  case unclosedParen_iff =>
    rw [← hcount, Nat.lt_add_right_iff_pos, Nat.pos_iff_ne_zero]
    constructor
    · rintro ⟨place, he⟩
      rcases mem_errors_iff.1 he with he | ⟨hleft, -⟩
      · exact absurd he (h.error_ne place)
      · exact hleft
    · intro hleft
      exact ⟨stop, mem_errors_iff.2 (.inr ⟨hleft, rfl⟩)⟩
  case endOfText_last => exact h.endOfText_last hl
  case endOfText_iff => exact h.endOfText_iff hl
  case split =>
    intro hnone
    obtain ⟨rfl, rfl, rfl⟩ := h.of_errors_eq_nil hnone
    rw [List.append_nil]
    exact ⟨tokens, rfl, hl, counted_zero_iff.1 hc⟩

/-- Two errors: no token starts at the last character, and two groups are open there. -/
example : scan "(('a' == #" = ⟨[⟨.openParen, "("⟩, ⟨.openParen, "("⟩, ⟨.singleQuoted, "a"⟩,
    ⟨.equals, "=="⟩], [.strayCharacter '#' 9, .unclosedParen 9]⟩ := by cbv

end Token

end TriggerRule
