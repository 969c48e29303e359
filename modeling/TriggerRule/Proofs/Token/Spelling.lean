import TriggerRule.Token.Scan

/-!
# How tokens are written

`Spelled token cs` says that the characters `cs` are one way to write the token. Most kinds have one
spelling; `sha1` keeps its letter case, and a literal is its text between two marks with a backslash
before each mark inside. No two spellings start alike, so the scanner recognises a token from the
characters at the cursor whatever follows them: `of?_append` and `readFixed_append` for the tokens
with a fixed spelling, `body?_protect` and `eq_protect_of_body?` for the literals.
-/

namespace TriggerRule

namespace QuoteMark

/-! ## The body of a literal -/

/-- What is read up to the closing mark is the text with its marks protected. -/
theorem eq_protect_of_body? {mark : QuoteMark} {cs text rest : List Char}
    (h : mark.body? cs = some (text, rest)) : cs = mark.protect text ++ mark.char :: rest := by
  fun_induction body? mark cs generalizing text with
  | case1 => simp at h
  | case2 =>
    obtain ⟨rfl, rfl⟩ := Prod.mk.inj (Option.some.inj h)
    rfl
  | case3 => simp at h
  | case4 ds _ ih =>
    obtain ⟨⟨t, r⟩, hb, he⟩ := Option.map_eq_some_iff.1 h
    obtain ⟨rfl, rfl⟩ := Prod.mk.inj he
    rw [protect_char, ih hb]
    rfl
  | case5 d ds _ _ ih =>
    obtain ⟨⟨t, r⟩, hb, he⟩ := Option.map_eq_some_iff.1 h
    obtain ⟨rfl, rfl⟩ := Prod.mk.inj he
    rw [protect_cons (Ne.symm mark.char_ne_backslash), ih hb]
    rfl
  | case6 c cs hc _ ih =>
    obtain ⟨⟨t, r⟩, hb, he⟩ := Option.map_eq_some_iff.1 h
    obtain ⟨rfl, rfl⟩ := Prod.mk.inj he
    rw [protect_cons hc, ih hb]
    rfl

/-- A literal is only closed right after a mark or a character other than a backslash. -/
theorem getLast?_of_body? {mark : QuoteMark} {cs text rest : List Char}
    (h : mark.body? cs = some (text, rest)) : text.getLast? ≠ some '\\' := by
  fun_induction body? mark cs generalizing text with
  | case1 => simp at h
  | case2 =>
    obtain ⟨rfl, rfl⟩ := Prod.mk.inj (Option.some.inj h)
    simp
  | case3 => simp at h
  | case4 ds _ ih =>
    obtain ⟨⟨t, r⟩, hb, he⟩ := Option.map_eq_some_iff.1 h
    obtain ⟨rfl, rfl⟩ := Prod.mk.inj he
    cases t with
    | nil => simpa using mark.char_ne_backslash
    | cons e es => simpa using ih hb
  | case5 d ds hd _ ih =>
    obtain ⟨⟨t, r⟩, hb, he⟩ := Option.map_eq_some_iff.1 h
    obtain ⟨rfl, rfl⟩ := Prod.mk.inj he
    cases t with
    | nil =>
      -- an empty text means that the closing mark comes next, and it does not
      have := eq_protect_of_body? hb
      simp only [protect, List.flatMap_nil, List.nil_append, List.cons.injEq] at this
      exact absurd this.1 hd
    | cons e es => simpa using ih hb
  | case6 c cs _ hc ih =>
    obtain ⟨⟨t, r⟩, hb, he⟩ := Option.map_eq_some_iff.1 h
    obtain ⟨rfl, rfl⟩ := Prod.mk.inj he
    cases t with
    | nil => simpa using hc
    | cons e es => simpa using ih hb

end QuoteMark

namespace Token

/-! ## Spellings -/

/-- The kinds that are always written the same way, and how. -/
def fixedSpellings : List (Kind × String) :=
  [(.openParen, "("), (.closeParen, ")"), (.comma, ","), (.matchesRegex, "~="), (.equals, "=="),
    (.not, "!"), (.and, "&&"), (.or, "||")]

/-- The characters that a token may be written with. -/
inductive Spelled : Token → List Char → Prop
  /-- A kind with one spelling, which is also the text of the token. -/
  | fixed {kind : Kind} {text : String} (h : (kind, text) ∈ fixedSpellings) :
    Spelled ⟨kind, text⟩ text.toList
  /-- The word `sha1` in any letter case; the token keeps the case. -/
  | sha1 {cs : List Char} (h : cs.map Char.toLower = ['s', 'h', 'a', '1']) :
    Spelled ⟨.sha1, String.ofList cs⟩ cs
  /-- A text between two marks; a backslash at its end would guard the second of them. -/
  | literal (mark : QuoteMark) {text : List Char} (h : text.getLast? ≠ some '\\') :
    Spelled ⟨mark.literalKind, String.ofList text⟩ (mark.char :: mark.protect text ++ [mark.char])

theorem mem_exactKinds_of_mem_fixedSpellings {kind : Kind} {text : String}
    (h : (kind, text) ∈ fixedSpellings) : kind ∈ exactKinds ∧ text.toList = kind.spelling := by
  simp only [fixedSpellings, List.mem_cons, Prod.mk.injEq, List.not_mem_nil, or_false] at h
  rcases h with ⟨rfl, rfl⟩ | ⟨rfl, rfl⟩ | ⟨rfl, rfl⟩ | ⟨rfl, rfl⟩ | ⟨rfl, rfl⟩ | ⟨rfl, rfl⟩ |
    ⟨rfl, rfl⟩ | ⟨rfl, rfl⟩ <;> exact ⟨by decide, rfl⟩

theorem mem_fixedSpellings_of_mem_exactKinds {kind : Kind} (h : kind ∈ exactKinds) :
    (kind, String.ofList kind.spelling) ∈ fixedSpellings := by
  revert kind
  decide

/-! ## Recognising a token at the cursor -/

theorem toLower_of_isBlank {c : Char} (h : Text.isBlank c = true) : c.toLower = c := by
  unfold Char.toLower
  split
  · next hc =>
    -- no blank is an upper-case letter
    have h1 : 65 ≤ c.toNat := UInt32.le_iff_toNat_le.1 hc.1
    have h2 : c.toNat ≤ 90 := UInt32.le_iff_toNat_le.1 hc.2
    simp only [Text.isBlank, Bool.or_eq_true, Bool.and_eq_true, decide_eq_true_eq,
      beq_iff_eq] at h
    omega
  · rfl

/-- A kind with one spelling is recognised from it, whatever follows. -/
theorem of?_append_of_mem {kind : Kind} (h : kind ∈ exactKinds) (rest : List Char) :
    Mode.of? (kind.spelling ++ rest) = some (.fixed kind) := by
  simp only [exactKinds, List.mem_cons, List.not_mem_nil, or_false] at h
  rcases h with rfl | rfl | rfl | rfl | rfl | rfl | rfl | rfl <;> rfl

theorem toLower_head_ne {kind : Kind} (h : kind ∈ exactKinds) :
    (kind.spelling.headD 's').toLower ≠ 's' := by
  revert kind
  decide

/-- A word that starts with an `s` of either case is none of the kinds with one spelling. -/
theorem find?_exactKinds_of_toLower {c : Char} (hc : c.toLower = 's') (cs : List Char) :
    exactKinds.find? (fun kind => kind.spelling.isPrefixOf (c :: cs)) = none := by
  rw [List.find?_eq_none]
  intro kind hk hp
  obtain ⟨tail, ht⟩ := List.isPrefixOf_iff_prefix.1 hp
  have hhead := toLower_head_ne hk
  cases hs : kind.spelling with
  | nil => simp [hs] at hhead
  | cons b bs =>
    rw [hs, List.cons_append] at ht
    rw [hs, List.headD_cons, (List.cons.inj ht).1] at hhead
    exact hhead hc

theorem of?_append_of_sha1 {cs : List Char} (h : cs.map Char.toLower = ['s', 'h', 'a', '1'])
    (rest : List Char) : Mode.of? (cs ++ rest) = some (.fixed .sha1) := by
  obtain ⟨c, cs, rfl, hc, h⟩ := List.map_eq_cons_iff.1 h
  have hne : ∀ d : Char, d.toLower ≠ 's' → c ≠ d := by
    rintro d hd rfl
    exact hd hc
  have hlength : cs.length = 3 := by simpa using congrArg List.length h
  have htake : ((c :: (cs ++ rest)).take 4).map Char.toLower = Kind.sha1.spelling := by
    simp [hlength, hc, h, Kind.spelling]
  rw [List.cons_append, Mode.of?, if_neg (hne _ (by decide)), if_neg (hne _ (by decide)),
    fixedKind?, find?_exactKinds_of_toLower hc]
  simp only [htake, ↓reduceIte, Option.map_some]

theorem of?_mark (mark : QuoteMark) (rest : List Char) :
    Mode.of? (mark.char :: rest) = some (.quoted mark) := by
  cases mark <;> rfl

/-- What is recognised as a kind with a fixed spelling is a spelling of that kind. -/
theorem spelled_of_of?_eq_fixed {cs : List Char} {kind : Kind}
    (h : Mode.of? cs = some (.fixed kind)) :
    ∃ s rest, cs = s ++ rest ∧ Spelled ⟨kind, String.ofList s⟩ s := by
  cases cs with
  | nil => simp [Mode.of?] at h
  | cons c cs =>
    rw [Mode.of?] at h
    split at h
    · simp at h
    · split at h
      · simp at h
      · obtain ⟨k, hk, he⟩ := Option.map_eq_some_iff.1 h
        obtain rfl : k = kind := by simpa using he
        rw [fixedKind?] at hk
        split at hk
        · next hf =>
          obtain rfl := Option.some.inj hk
          have hmem := mem_fixedSpellings_of_mem_exactKinds (List.mem_of_find?_eq_some hf)
          have hp := List.find?_some hf
          obtain ⟨tail, ht⟩ := List.isPrefixOf_iff_prefix.1 hp
          refine ⟨_, tail, ht.symm, ?_⟩
          simpa using Spelled.fixed hmem
        · split at hk
          · next hs =>
            obtain rfl := Option.some.inj hk
            exact ⟨_, _, (List.take_append_drop 4 (c :: cs)).symm, .sha1 hs⟩
          · simp at hk

/-- What is recognised as a literal starts with its mark. -/
theorem eq_cons_of_of?_eq_quoted {cs : List Char} {mark : QuoteMark}
    (h : Mode.of? cs = some (.quoted mark)) : ∃ rest, cs = mark.char :: rest := by
  cases cs with
  | nil => simp [Mode.of?] at h
  | cons c cs =>
    rw [Mode.of?] at h
    split at h
    · next hc =>
      obtain rfl : QuoteMark.single = mark := by simpa using h
      exact ⟨cs, by rw [hc]⟩
    · split at h
      · next hc =>
        obtain rfl : QuoteMark.double = mark := by simpa using h
        exact ⟨cs, by rw [hc]⟩
      · simp at h

/-- A spelling is not empty and does not start with a blank. -/
theorem Spelled.exists_head {token : Token} {cs : List Char} (h : Spelled token cs) :
    ∃ c rest, cs = c :: rest ∧ Text.isBlank c = false := by
  cases h with
  | fixed h =>
    have hhead : ∀ entry ∈ fixedSpellings, entry.2.toList ≠ [] ∧
        Text.isBlank (entry.2.toList.headD ' ') = false := by decide
    obtain ⟨hne, hblank⟩ := hhead _ h
    obtain ⟨c, rest, hc⟩ := List.exists_cons_of_ne_nil hne
    exact ⟨c, rest, hc, by simpa [hc] using hblank⟩
  | sha1 h =>
    obtain ⟨c, rest, rfl, hc, -⟩ := List.map_eq_cons_iff.1 h
    refine ⟨c, rest, rfl, ?_⟩
    cases hb : Text.isBlank c with
    | false => rfl
    | true =>
      rw [toLower_of_isBlank hb] at hc
      exact absurd (hc ▸ hb) (by decide)
  | literal mark h => exact ⟨mark.char, _, rfl, by cases mark <;> decide⟩

theorem eq_of_spelled_closeParen {text : String} {cs : List Char}
    (h : Spelled ⟨.closeParen, text⟩ cs) : cs = [')'] := by
  generalize ht : (⟨.closeParen, text⟩ : Token) = token at h
  cases h with
  | @fixed kind text' h =>
    obtain ⟨hk, rfl⟩ := Token.mk.inj ht
    subst hk
    simp only [fixedSpellings, List.mem_cons, Prod.mk.injEq, reduceCtorEq, false_and, true_and,
      List.not_mem_nil, or_false, false_or] at h
    rw [h]
    rfl
  | sha1 h => exact absurd (Token.mk.inj ht).1 (by decide)
  | literal mark h => exact absurd (Token.mk.inj ht).1 (by cases mark <;> decide)

/-- No token starts with a blank. -/
theorem isBlank_eq_false_of_of? {c : Char} {cs : List Char} {mode : Mode}
    (h : Mode.of? (c :: cs) = some mode) : Text.isBlank c = false := by
  cases mode with
  | between => exact absurd rfl (Cursor.mode_ne_between h)
  | fixed kind =>
    obtain ⟨s, rest, hs, hspelled⟩ := spelled_of_of?_eq_fixed h
    obtain ⟨d, tail, rfl, hd⟩ := hspelled.exists_head
    rw [(List.cons.inj hs).1]
    exact hd
  | quoted mark =>
    obtain ⟨rest, hr⟩ := eq_cons_of_of?_eq_quoted h
    rw [(List.cons.inj hr).1]
    cases mark <;> decide

end Token

end TriggerRule
