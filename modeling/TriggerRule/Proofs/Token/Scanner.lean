import TriggerRule.Proofs.Token.Layout
import TriggerRule.Token.Scanner

/-!
# Offsets between characters

A cursor that stands in a text has a number of bytes before it, and with it becomes a scanner
(`Cursor.toScanner`). The slices that the scanner takes from there are the characters before the
cursor and those behind it, so it settles on the same mode (`Mode.ofText?_eq`), reads the same
literals (`QuoteMark.readBody_of_body?`) and comes to the same offset. Main statement:
`Cursor.step?_toScanner`, by which a step of the scanner is a step of the cursor and no slice is at
fault.
-/

namespace TriggerRule

/-! ## The bytes of a literal -/

namespace QuoteMark

variable {mark : QuoteMark}

theorem readBody_char (cs text : List Char) (bytes : Nat) :
    mark.readBody (mark.char :: cs) text bytes = (some text, bytes + mark.char.utf8Size) := by
  rw [readBody, if_neg fun h => mark.char_ne_backslash h.1, if_pos rfl]

theorem readBody_escaped (cs text : List Char) (bytes : Nat) :
    mark.readBody ('\\' :: mark.char :: cs) text bytes =
      mark.readBody cs (text ++ [mark.char]) (bytes + Text.size ['\\', mark.char]) := by
  have hsize : bytes + 1 + mark.char.utf8Size = bytes + Text.size ['\\', mark.char] := by
    simp only [Text.size_cons, Text.size_nil, Nat.add_assoc, Nat.add_zero]
    rfl
  rw [readBody, if_pos ⟨rfl, rfl⟩, hsize, List.tail_cons]

theorem readBody_cons {c : Char} {cs : List Char} (hchar : c ≠ mark.char)
    (hguard : c = '\\' → cs.head? ≠ some mark.char) (text : List Char) (bytes : Nat) :
    mark.readBody (c :: cs) text bytes = mark.readBody cs (text ++ [c]) (bytes + c.utf8Size) := by
  rw [readBody, if_neg fun h => hguard h.1 h.2, if_neg hchar]

/-- The bytes of a literal are read up to the mark that closes it. -/
theorem readBody_of_body? {cs body rest : List Char} (h : mark.body? cs = some (body, rest))
    (text : List Char) (bytes : Nat) :
    mark.readBody cs text bytes =
      (some (text ++ body), bytes + Text.size (mark.protect body ++ [mark.char])) := by
  fun_induction body? mark cs generalizing body text bytes with
  | case1 => simp at h
  | case2 =>
    obtain ⟨rfl, rfl⟩ := Prod.mk.inj (Option.some.inj h)
    simp [readBody_char, protect]
  | case3 => simp at h
  | case4 ds _ ih =>
    obtain ⟨⟨t, r⟩, hb, he⟩ := Option.map_eq_some_iff.1 h
    obtain ⟨rfl, rfl⟩ := Prod.mk.inj he
    simp [readBody_escaped, ih hb, protect_char, Nat.add_assoc]
  | case5 d ds hd hchar ih =>
    obtain ⟨⟨t, r⟩, hb, he⟩ := Option.map_eq_some_iff.1 h
    obtain ⟨rfl, rfl⟩ := Prod.mk.inj he
    have hguard : '\\' = '\\' → (d :: ds).head? ≠ some mark.char := by simpa using hd
    simp [readBody_cons hchar hguard, ih hb, protect_cons hchar, Nat.add_assoc]
  | case6 c cs hchar hc ih =>
    obtain ⟨⟨t, r⟩, hb, he⟩ := Option.map_eq_some_iff.1 h
    obtain ⟨rfl, rfl⟩ := Prod.mk.inj he
    have hguard : c = '\\' → cs.head? ≠ some mark.char := fun h => absurd h hc
    simp [readBody_cons hchar hguard, ih hb, protect_cons hchar, Nat.add_assoc]

/-- All bytes are read where no mark closes the literal. -/
theorem readBody_of_body?_eq_none {cs : List Char} (h : mark.body? cs = none) (text : List Char)
    (bytes : Nat) : mark.readBody cs text bytes = (none, bytes + Text.size cs) := by
  fun_induction body? mark cs generalizing text bytes with
  | case1 => simp [readBody]
  | case2 => simp at h
  | case3 hchar =>
    have hguard : '\\' = '\\' → ([] : List Char).head? ≠ some mark.char := by simp
    simp [readBody_cons hchar hguard, readBody]
  | case4 ds _ ih =>
    simp [readBody_escaped, ih (Option.map_eq_none_iff.1 h), Nat.add_assoc]
  | case5 d ds hd hchar ih =>
    have hguard : '\\' = '\\' → (d :: ds).head? ≠ some mark.char := by simpa using hd
    simp [readBody_cons hchar hguard, ih (Option.map_eq_none_iff.1 h), Nat.add_assoc]
  | case6 c cs hchar hc ih =>
    have hguard : c = '\\' → cs.head? ≠ some mark.char := fun h => absurd h hc
    simp [readBody_cons hchar hguard, ih (Option.map_eq_none_iff.1 h), Nat.add_assoc]

end QuoteMark

namespace Token

/-! ## Recognising a token by its bytes -/

theorem utf8Size_of_toLower {c : Char} (h : c.toLower.utf8Size = 1) : c.utf8Size = 1 := by
  unfold Char.toLower at h
  split at h
  · next hc =>
    have hle : c.toNat ≤ 90 := UInt32.le_iff_toNat_le.1 hc.2
    rw [Char.utf8Size_eq_one_iff, UInt32.le_iff_toNat_le]
    exact Nat.le_trans hle (by decide)
  · exact h

theorem size_of_map_toLower {cs spelling : List Char} (h : cs.map Char.toLower = spelling)
    (hs : ∀ c ∈ spelling, c.utf8Size = 1) : Text.size cs = spelling.length := by
  induction cs generalizing spelling with
  | nil =>
    subst h
    rfl
  | cons c cs ih =>
    subst h
    rw [List.map_cons, List.forall_mem_cons] at hs
    rw [Text.size_cons, utf8Size_of_toLower hs.1, ih rfl hs.2, List.map_cons, List.length_cons,
      Nat.add_comm]

theorem size_of_toLower_sha1 {cs : List Char} (h : cs.map Char.toLower = Kind.sha1.spelling) :
    Text.size cs = Kind.sha1.size := by
  refine size_of_map_toLower h ?_
  simp only [Kind.spelling, List.forall_mem_cons]
  exact ⟨rfl, rfl, rfl, rfl, by simp⟩

/-- The word `sha1` is the first four bytes of a text if and only if it is the first four
characters. -/
theorem toLower_slice?_iff (text : String) :
    (∃ word, Text.slice? text 0 Kind.sha1.size = some word ∧
      word.toList.map Char.toLower = Kind.sha1.spelling) ↔
    (text.toList.take 4).map Char.toLower = Kind.sha1.spelling := by
  constructor
  · rintro ⟨word, hs, hl⟩
    obtain ⟨before, after, rfl, hstart, -⟩ := Text.slice?_eq_some_iff.1 hs
    obtain rfl : before = "" := String.utf8ByteSize_eq_zero_iff.1 hstart.symm
    have hlength : word.toList.length = 4 := by simpa [Kind.spelling] using congrArg List.length hl
    rw [String.toList_append, String.toList_append, String.toList_empty, List.nil_append,
      ← hlength, List.take_left, hl]
  · intro hl
    have hparts : text.toList = [] ++ text.toList.take 4 ++ text.toList.drop 4 :=
      (List.take_append_drop 4 text.toList).symm
    have hs := Text.slice?_of_toList hparts
    rw [Text.size_nil, Nat.zero_add, size_of_toLower_sha1 hl] at hs
    exact ⟨_, hs, by rw [String.toList_ofList, hl]⟩

theorem Mode.ofText?_eq (text : String) : Mode.ofText? text = Mode.of? text.toList := by
  unfold Mode.ofText?
  split
  · next h =>
    rw [h]
    rfl
  · next c cs h =>
    have hfind : exactKinds.find? (fun kind => kind.spelling.isPrefixOf (c :: cs)) =
        (spelledKind? [.openParen, .closeParen, .comma] (c :: cs)).or
          (spelledKind? [.equals, .matchesRegex, .and, .or, .not] (c :: cs)) := by
      unfold spelledKind?
      rw [← List.find?_append]
      rfl
    have hmark : ∀ mark : QuoteMark, c = mark.char →
        spelledKind? [.openParen, .closeParen, .comma] (c :: cs) = none := by
      rintro mark rfl
      cases mark <;> rfl
    rw [h, Mode.of?]
    by_cases hsingle : c = QuoteMark.single.char
    · rw [hmark _ hsingle, if_pos hsingle, if_pos hsingle]
    by_cases hdouble : c = QuoteMark.double.char
    · rw [hmark _ hdouble, if_neg hsingle, if_neg hsingle, if_pos hdouble, if_pos hdouble]
    rw [if_neg hsingle, if_neg hdouble, if_neg hsingle, if_neg hdouble, fixedKind?, hfind]
    cases spelledKind? [.openParen, .closeParen, .comma] (c :: cs) with
    | some kind => rfl
    | none =>
      cases spelledKind? [.equals, .matchesRegex, .and, .or, .not] (c :: cs) with
      | some kind => rfl
      | none =>
        have hsha1 := toLower_slice?_iff text
        rw [h] at hsha1
        rw [Option.or_none]
        simp only
        cases hs : Text.slice? text 0 Kind.sha1.size with
        | none =>
          rw [hs] at hsha1
          rw [if_neg fun hl => by simpa using hsha1.2 hl]
          rfl
        | some word =>
          rw [hs] at hsha1
          simp only [Option.some.injEq, exists_eq_left'] at hsha1
          simp only [hsha1]
          split <;> rfl

/-- The characters spell the kind, in any letter case if the kind is `sha1`. -/
def Kind.Spells (kind : Kind) (word : List Char) : Prop :=
  kind ∈ exactKinds ∧ word = kind.spelling ∨
    kind = .sha1 ∧ word.map Char.toLower = kind.spelling

theorem Kind.Spells.length_eq {kind : Kind} {word : List Char} (h : kind.Spells word) :
    word.length = kind.spelling.length := by
  rcases h with ⟨-, rfl⟩ | ⟨-, hl⟩
  · rfl
  · rw [← hl, List.length_map]

theorem Kind.Spells.size_eq {kind : Kind} {word : List Char} (h : kind.Spells word) :
    Text.size word = kind.size := by
  rcases h with ⟨-, rfl⟩ | ⟨rfl, hl⟩
  · rfl
  · exact size_of_toLower_sha1 hl

theorem Kind.Spells.ne_nil {kind : Kind} {word : List Char} (h : kind.Spells word) :
    word ≠ [] := by
  have hne : ∀ kind ∈ Kind.sha1 :: exactKinds, kind.spelling.length ≠ 0 := by decide
  have hk : kind ∈ Kind.sha1 :: exactKinds := by
    rcases h with ⟨hk, -⟩ | ⟨rfl, -⟩
    · exact List.mem_cons_of_mem _ hk
    · exact List.mem_cons_self
  intro hw
  apply hne kind hk
  rw [← h.length_eq, hw]
  rfl

theorem exists_spells_of_of? {cs : List Char} {kind : Kind}
    (h : Mode.of? cs = some (.fixed kind)) : ∃ word rest, cs = word ++ rest ∧ kind.Spells word := by
  obtain ⟨word, rest, hcs, hs⟩ := spelled_of_of?_eq_fixed h
  refine ⟨word, rest, hcs, ?_⟩
  generalize ht : (⟨kind, String.ofList word⟩ : Token) = token at hs
  cases hs with
  | fixed hf =>
    obtain ⟨rfl, -⟩ := Token.mk.inj ht
    exact .inl (mem_exactKinds_of_mem_fixedSpellings hf)
  | sha1 hl =>
    obtain ⟨rfl, -⟩ := Token.mk.inj ht
    exact .inr ⟨rfl, hl⟩
  | literal mark hl =>
    rw [List.cons_append, List.cons_append] at hcs
    rw [hcs, of?_mark] at h
    simp at h

/-! ## The slices of a scanner -/

namespace Scanner

variable {text : String} {before rest : List Char} {scanner : Scanner}

theorem rest?_eq (h : text.toList = before ++ rest) (ho : scanner.offset = Text.size before) :
    scanner.rest? text = some (String.ofList rest) := by
  have hend : text.utf8ByteSize = Text.size before + Text.size rest := by
    rw [← Text.size_toList, h, Text.size_append]
  rw [rest?, ho, hend]
  apply Text.slice?_of_toList
  rw [h, List.append_nil]

theorem position?_eq (h : text.toList = before ++ rest) (ho : scanner.offset = Text.size before) :
    scanner.position? text = some before.length := by
  have hs : Text.slice? text (Text.size []) (Text.size [] + Text.size before) =
      some (String.ofList before) := Text.slice?_of_toList h
  rw [Text.size_nil, Nat.zero_add] at hs
  rw [position?, ho, hs, Option.map_some, String.length_ofList]

theorem fail?_eq (h : text.toList = before ++ rest) (ho : scanner.offset = Text.size before)
    (error : Nat → ScanError) : scanner.fail? text error =
      some { scanner.halt with errors := scanner.errors ++ [error before.length] } := by
  rw [fail?, position?_eq h ho]
  rfl

end Scanner

/-! ## A cursor as a scanner -/

/-- The number of bytes before the cursor. -/
def Cursor.offset (text : String) (cursor : Cursor) : Nat :=
  text.utf8ByteSize - Text.size cursor.rest

/-- The scanner that stands where the cursor does. -/
def Cursor.toScanner (text : String) (tokens : List Token) (cursor : Cursor) : Scanner :=
  ⟨some cursor.mode, cursor.offset text, cursor.unclosed, tokens, []⟩

/-- The scanner behind a step. -/
def Step.toScanner (text : String) (tokens : List Token) : Step → Scanner
  | .advance emitted next => next.toScanner text (tokens ++ emitted.toList)
  | .halt emitted error last =>
    ⟨none, last.offset text, last.unclosed, tokens ++ emitted.toList, error.toList⟩

namespace Cursor

/-- The cursor stands in the text, with as many characters before it as it says. -/
def StandsIn (text : String) (cursor : Cursor) : Prop :=
  ∃ before, text.toList = before ++ cursor.rest ∧ cursor.position = before.length

/-- The cursor is between tokens, or a token of the kind that its mode reads stands there. -/
def Ready (cursor : Cursor) : Prop :=
  cursor.mode = .between ∨ Mode.of? cursor.rest = some cursor.mode

variable {text : String} {before rest : List Char} {tokens : List Token}

theorem offset_mk (h : text.toList = before ++ rest) (mode : Mode) (position unclosed : Nat) :
    (mk mode rest position unclosed).offset text = Text.size before := by
  rw [offset, ← Text.size_toList, h, Text.size_append, Nat.add_sub_cancel]

theorem toScanner_mk (h : text.toList = before ++ rest) (mode : Mode) (position unclosed : Nat) :
    (mk mode rest position unclosed).toScanner text tokens =
      ⟨some mode, Text.size before, unclosed, tokens, []⟩ := by
  rw [toScanner, offset_mk h]

variable {cursor : Cursor}

theorem skipBlanks?_toScanner (h : cursor.StandsIn text) :
    (cursor.toScanner text tokens).skipBlanks? text =
      some (cursor.skipBlanks.toScanner text tokens) := by
  obtain ⟨mode, rest, position, unclosed⟩ := cursor
  obtain ⟨before, ht, -⟩ := h
  simp only at ht
  have hparts := List.takeWhile_append_dropWhile (p := Text.isBlank) (l := rest)
  have hbehind : text.toList =
      before ++ rest.takeWhile Text.isBlank ++ rest.dropWhile Text.isBlank := by
    rw [ht, List.append_assoc, hparts]
  have hblanks : (String.ofList rest).utf8ByteSize - Text.size (rest.dropWhile Text.isBlank) =
      Text.size (rest.takeWhile Text.isBlank) := by
    have hsize := congrArg Text.size hparts
    rw [Text.size_append] at hsize
    change Text.size rest - _ = _
    omega
  rw [toScanner_mk ht, skipBlanks, toScanner_mk hbehind, Scanner.skipBlanks?,
    Scanner.rest?_eq ht rfl]
  simp [hblanks]

theorem settle?_toScanner (h : cursor.StandsIn text) :
    (cursor.toScanner text tokens).settle? text = some (cursor.settle.toScanner text tokens) := by
  obtain ⟨mode, rest, position, unclosed⟩ := cursor
  obtain ⟨before, ht, rfl⟩ := h
  simp only at ht
  rw [toScanner_mk ht, Scanner.settle?, Scanner.rest?_eq ht rfl]
  simp only [Option.bind_eq_bind, Option.bind_some, String.toList_ofList]
  cases rest with
  | nil => simp [settle, Step.toScanner, Scanner.emit, Scanner.halt, offset_mk ht]
  | cons c cs =>
    simp only [settle, Mode.ofText?_eq, String.toList_ofList]
    cases Mode.of? (c :: cs) with
    | none => simp [Scanner.fail?_eq ht, Step.toScanner, Scanner.halt, offset_mk ht]
    | some mode => simp [Step.toScanner, toScanner_mk ht]

/-- A token with a fixed spelling is read unless it closes a parenthesis and none is open. -/
theorem readFixed_append {kind : Kind} {word : List Char} (h : kind.Spells word)
    (rest : List Char) (mode : Mode) (position unclosed : Nat) :
    (mk mode (word ++ rest) position unclosed).readFixed kind =
      if kind = .closeParen ∧ unclosed = 0 then
        .halt none (some (.unopenedParen position)) ⟨mode, word ++ rest, position, unclosed⟩
      else
        .advance (some ⟨kind, String.ofList word⟩)
          ⟨.between, rest, position + word.length, recount kind unclosed⟩ := by
  obtain ⟨c, cs, rfl⟩ := List.exists_cons_of_ne_nil h.ne_nil
  have hmore : kind.spelling.length - 1 = cs.length := by
    rw [← h.length_eq, List.length_cons, Nat.add_sub_cancel]
  simp [readFixed, hmore, Nat.add_assoc, Nat.add_comm 1]

theorem readFixed?_toScanner {kind : Kind} (h : cursor.StandsIn text)
    (hm : Mode.of? cursor.rest = some (.fixed kind)) :
    (cursor.toScanner text tokens).readFixed? text kind =
      some ((cursor.readFixed kind).toScanner text tokens) := by
  obtain ⟨mode, rest, position, unclosed⟩ := cursor
  obtain ⟨before, ht, rfl⟩ := h
  obtain ⟨word, tail, rfl, hword⟩ := exists_spells_of_of? hm
  simp only at ht
  have hbehind : text.toList = before ++ word ++ tail := by rw [ht, List.append_assoc]
  rw [toScanner_mk ht, readFixed_append hword, Scanner.readFixed?]
  by_cases hclose : kind = .closeParen ∧ unclosed = 0
  · rw [if_pos hclose, if_pos hclose, Scanner.fail?_eq ht rfl]
    simp [Step.toScanner, Scanner.halt, offset_mk ht]
  · rw [if_neg hclose, if_neg hclose]
    simp [← hword.size_eq, Text.slice?_of_toList hbehind, Step.toScanner, toScanner_mk hbehind,
      Scanner.emit]

theorem readQuoted?_toScanner {mark : QuoteMark} (h : cursor.StandsIn text)
    (hm : Mode.of? cursor.rest = some (.quoted mark)) :
    (cursor.toScanner text tokens).readQuoted? text mark =
      some ((cursor.readQuoted mark).toScanner text tokens) := by
  obtain ⟨mode, rest, position, unclosed⟩ := cursor
  obtain ⟨before, ht, rfl⟩ := h
  obtain ⟨cs, rfl⟩ := eq_cons_of_of?_eq_quoted hm
  simp only at ht
  have hinside : text.toList = before ++ [mark.char] ++ cs := by
    rw [ht, List.append_assoc, List.singleton_append]
  have hsize : Text.size before + mark.char.utf8Size = Text.size (before ++ [mark.char]) := by simp
  rw [toScanner_mk ht, Scanner.readQuoted?]
  simp only [hsize]
  rw [Scanner.rest?_eq hinside rfl]
  simp only [Option.bind_eq_bind, Option.bind_some, String.toList_ofList, readQuoted]
  cases hb : mark.body? cs with
  | none =>
    have hend : text.toList = before ++ [mark.char] ++ cs ++ [] := by rw [hinside, List.append_nil]
    rw [QuoteMark.readBody_of_body?_eq_none hb]
    simp only [Nat.zero_add, ← Text.size_append]
    rw [Scanner.fail?_eq hend rfl]
    simp [Step.toScanner, Scanner.halt, Scanner.emit, offset_mk hend, Nat.add_assoc,
      Nat.add_comm 1]
  | some read =>
    obtain ⟨body, tail⟩ := read
    have hbehind : text.toList =
        before ++ [mark.char] ++ (mark.protect body ++ [mark.char]) ++ tail := by
      rw [hinside, QuoteMark.eq_protect_of_body? hb]
      simp
    rw [QuoteMark.readBody_of_body? hb]
    simp only [Nat.zero_add, ← Text.size_append]
    simp [Step.toScanner, toScanner_mk hbehind, Scanner.emit]

theorem StandsIn.of_passed {next : Cursor} {passed : List Char} (h : cursor.StandsIn text)
    (hr : cursor.rest = passed ++ next.rest)
    (hp : next.position = cursor.position + passed.length) : next.StandsIn text := by
  obtain ⟨before, ht, hb⟩ := h
  refine ⟨before ++ passed, ?_, ?_⟩
  · rw [ht, hr, List.append_assoc]
  · rw [hp, hb, List.length_append]

/-- The scanner takes the steps of the cursor, and none of its slices is at fault. -/
theorem step?_toScanner (h : cursor.StandsIn text) (hr : cursor.Ready) :
    (cursor.toScanner text tokens).step? text cursor.mode =
      some (cursor.step.toScanner text tokens) := by
  unfold step
  cases hm : cursor.mode with
  | between =>
    have hblanks : cursor.rest = cursor.rest.takeWhile Text.isBlank ++ cursor.skipBlanks.rest :=
      List.takeWhile_append_dropWhile.symm
    rw [Scanner.step?, skipBlanks?_toScanner h]
    exact settle?_toScanner (h.of_passed hblanks rfl)
  | fixed kind =>
    rw [Ready, hm] at hr
    exact readFixed?_toScanner h (hr.resolve_left (by simp))
  | quoted mark =>
    rw [Ready, hm] at hr
    exact readQuoted?_toScanner h (hr.resolve_left (by simp))

end Cursor

end Token

end TriggerRule
