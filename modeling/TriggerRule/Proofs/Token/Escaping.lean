import TriggerRule.Proofs.Token.Halt

/-!
# Backslashes before the mark of a literal

In a literal a backslash right before the mark is dropped, and the mark is part of the text. A
backslash before that one guards nothing and is kept, so that in the text it comes to stand right
before the mark. That is the only way to such a text (`infix_protect_iff`): a mark in it has a
backslash before it where the literal was written with two. Main statement:
`backslash_before_mark_iff_of_scan`.
-/

namespace TriggerRule

namespace QuoteMark

theorem literalKind_injective {mark other : QuoteMark}
    (h : mark.literalKind = other.literalKind) : mark = other := by
  cases mark <;> cases other <;> simp_all [literalKind]

variable (mark : QuoteMark)

/-- A quoted text begins with a mark and the backslash before it where the text begins with a
mark. -/
theorem prefix_protect_iff (text : List Char) :
    ['\\', mark.char] <+: mark.protect text ↔ [mark.char] <+: text := by
  cases text with
  | nil => simp [protect]
  | cons c cs =>
    by_cases hc : c = mark.char
    · subst hc
      simp [protect_char, List.cons_prefix_cons]
    · rw [protect_cons hc, List.cons_prefix_cons, List.cons_prefix_cons]
      refine ⟨fun h => ?_, fun h => absurd h.1.symm hc⟩
      -- no bare mark comes next in the quoted form
      obtain ⟨rest, hrest⟩ := h.2
      cases cs with
      | nil => simp [protect] at hrest
      | cons d ds =>
        have hhead := mark.head?_protect_append_ne d ds []
        rw [List.append_nil, ← hrest] at hhead
        exact absurd rfl hhead

/-- The marks of a text with a backslash before them are those that are written with two. -/
theorem infix_protect_iff (text : List Char) :
    ['\\', '\\', mark.char] <:+: mark.protect text ↔ ['\\', mark.char] <:+: text := by
  induction text with
  | nil => simp [protect]
  | cons c cs ih =>
    by_cases hc : c = mark.char
    · subst hc
      have hne := mark.char_ne_backslash
      rw [protect_char, List.infix_cons_iff, List.infix_cons_iff, ih, List.infix_cons_iff]
      simp [List.cons_prefix_cons, Ne.symm hne]
    · rw [protect_cons hc, List.infix_cons_iff, ih, List.infix_cons_iff, List.cons_prefix_cons,
        List.cons_prefix_cons, prefix_protect_iff]

end QuoteMark

namespace Token

/-! ## Where a token of a layout is written -/

/-- A token of a layout is spelled behind the tokens before it. -/
theorem Laid.exists_spelled {front back : List Token} {token : Token} {cs : List Char}
    (h : Laid (front ++ token :: back) cs) :
    ∃ before s after, cs = before ++ s ++ after ∧ Laid front before ∧ Spelled token s := by
  induction front generalizing cs with
  | nil =>
    cases h with
    | @token _ _ ws s rest hw hs h => exact ⟨ws, s, rest, rfl, .blanks hw, hs⟩
  | cons first front ih =>
    cases h with
    | @token _ _ ws s rest hw hs h =>
      obtain ⟨before, t, after, rfl, hl, ht⟩ := ih h
      exact ⟨ws ++ s ++ before, t, after, by simp, .token hw hs hl, ht⟩

theorem Spelled.exists_mark {token : Token} {cs : List Char} (h : Spelled token cs)
    (hl : token.isLiteral = true) : ∃ mark : QuoteMark, token.kind = mark.literalKind ∧
      cs = mark.char :: mark.protect token.text.toList ++ [mark.char] := by
  cases h with
  | fixed h =>
    have hfixed : ∀ entry ∈ fixedSpellings, entry.1.isLiteral = false := by decide
    exact absurd hl (Bool.eq_false_iff.1 (hfixed _ h))
  | sha1 h => cases hl
  | literal mark h => exact ⟨mark, rfl, by simp⟩

/-- A literal of a scan is written in the text behind the tokens before it. -/
theorem exists_enclosed_of_scan {text : String} {front back : List Token} {token : Token}
    (h : (scan text).tokens = front ++ token :: back) (hl : token.isLiteral = true) :
    ∃ (mark : QuoteMark) (before after : List Char), token.kind = mark.literalKind ∧
      Laid front before ∧ text.toList =
        before ++ (mark.char :: mark.protect token.text.toList ++ [mark.char]) ++ after := by
  obtain ⟨tokens, laid, ⟨tail, htext⟩, hlaid, hscan, -⟩ := exists_laid_of_scan text
  have hsplit : ∃ later, tokens = front ++ token :: later := by
    rcases hscan with hscan | hscan
    · exact ⟨back, hscan.symm.trans h⟩
    · -- the end of the text is no literal, so it stands behind this one
      rw [h] at hscan
      rcases List.eq_nil_or_concat back with rfl | ⟨later, last, rfl⟩
      · obtain ⟨-, hlast⟩ := List.append_inj' hscan rfl
        obtain rfl : token = endToken := by simpa using hlast
        cases hl
      · rw [List.concat_eq_append, ← List.cons_append, ← List.append_assoc] at hscan
        exact ⟨later, (List.append_inj' hscan rfl).1.symm⟩
  obtain ⟨later, rfl⟩ := hsplit
  obtain ⟨before, s, after, rfl, hbefore, hs⟩ := hlaid.exists_spelled
  obtain ⟨mark, hkind, rfl⟩ := hs.exists_mark hl
  exact ⟨mark, before, after ++ tail, hkind, hbefore, by simp [← htext]⟩

/-! ## The text of a literal -/

/-- **Every escaped mark is taken up as the mark alone**: a literal stands in the text between two
marks, as its own text with a backslash before each mark in it. A mark in its text has a backslash
right before it if and only if one was written there with two. -/
theorem backslash_before_mark_iff_of_scan {text : String} {front back : List Token}
    {token : Token} (h : (scan text).tokens = front ++ token :: back)
    (hl : token.isLiteral = true) :
    ∃ (mark : QuoteMark) (before body after : List Char), token.kind = mark.literalKind ∧
      Laid front before ∧ text.toList = before ++ mark.char :: body ++ mark.char :: after ∧
      body = mark.protect token.text.toList ∧
      (['\\', mark.char] <:+: token.text.toList ↔ ['\\', '\\', mark.char] <:+: body) := by
  obtain ⟨mark, before, after, hkind, hbefore, htext⟩ := exists_enclosed_of_scan h hl
  refine ⟨mark, before, _, after, hkind, hbefore, ?_, rfl, (mark.infix_protect_iff _).symm⟩
  simp [htext]

/-- Two literals: in the first a mark is written with two backslashes, in the second with one. -/
theorem backslash_before_mark_iff_of_scan_bothMarks :
    (scan "'a\\\\'b' \"c\\\"d\" #").tokens =
        [⟨.singleQuoted, "a\\'b"⟩, ⟨.doubleQuoted, "c\"d"⟩] ∧
      (∃ body after, "'a\\\\'b' \"c\\\"d\" #".toList = '\'' :: body ++ '\'' :: after ∧
        ['\\', '\\', '\''] <:+: body) ∧
      ¬['\\', '"'] <:+: "c\"d".toList := by
  have hscan : (scan "'a\\\\'b' \"c\\\"d\" #").tokens =
      [⟨.singleQuoted, "a\\'b"⟩, ⟨.doubleQuoted, "c\"d"⟩] := by cbv
  refine ⟨hscan, ?_, ?_⟩
  · have hfirst : (scan "'a\\\\'b' \"c\\\"d\" #").tokens =
        [] ++ ⟨.singleQuoted, "a\\'b"⟩ :: [⟨.doubleQuoted, "c\"d"⟩] := hscan
    obtain ⟨mark, before, body, after, hkind, -, -, hbody, hiff⟩ :=
      backslash_before_mark_iff_of_scan hfirst rfl
    obtain rfl : QuoteMark.single = mark := QuoteMark.literalKind_injective hkind
    have hinfix : ['\\', '\\', '\''] <:+: body := hiff.1 ⟨['a'], ['b'], rfl⟩
    exact ⟨body, " \"c\\\"d\" #".toList, by rw [hbody]; rfl, hinfix⟩
  · have hsecond : (scan "'a\\\\'b' \"c\\\"d\" #").tokens =
        [⟨.singleQuoted, "a\\'b"⟩] ++ ⟨.doubleQuoted, "c\"d"⟩ :: [] := hscan
    obtain ⟨mark, before, body, after, hkind, -, -, rfl, hiff⟩ :=
      backslash_before_mark_iff_of_scan hsecond rfl
    obtain rfl : QuoteMark.double = mark := QuoteMark.literalKind_injective hkind
    exact fun h => absurd (hiff.1 h) (by decide)

/-- A mark written with two backslashes has one right before it in the text of its own literal. -/
theorem exists_backslash_before_mark :
    scan "'\\\\''" = ⟨[⟨.singleQuoted, "\\'"⟩, endToken], []⟩ ∧
      ¬∀ text, ∀ token ∈ (scan text).tokens, ∀ mark : QuoteMark,
        token.kind = mark.literalKind → ¬['\\', mark.char] <:+: token.text.toList := by
  have hscan : scan "'\\\\''" = ⟨[⟨.singleQuoted, "\\'"⟩, endToken], []⟩ := by cbv
  refine ⟨hscan, fun hnone => ?_⟩
  have hmem : ⟨.singleQuoted, "\\'"⟩ ∈ (scan "'\\\\''").tokens := by
    rw [hscan]
    exact List.mem_cons_self
  exact hnone _ _ hmem .single rfl ⟨[], [], rfl⟩

end Token

end TriggerRule
