import TriggerRule.Token

/-!
# Quoted literals

A literal stands between two equal quotation marks. Inside it a backslash right before that mark
makes the mark part of the text; every other backslash is itself. So a text is quoted by putting a
backslash before each mark, and read back whole unless it ends in a backslash, which would then
guard the closing mark. Main statement: `body?_protect`.
-/

namespace TriggerRule

inductive QuoteMark where
  | single
  | double
  deriving DecidableEq, Inhabited

namespace QuoteMark

def char : QuoteMark → Char
  | .single => '\''
  | .double => '"'

/-- The kind of the literals written with the mark. -/
def literalKind : QuoteMark → Token.Kind
  | .single => .singleQuoted
  | .double => .doubleQuoted

/-- A text with a backslash before each mark. -/
def protect (mark : QuoteMark) (text : List Char) : List Char :=
  text.flatMap fun c => if c = mark.char then ['\\', c] else [c]

/-- A text as a literal between two marks. -/
def enclose (mark : QuoteMark) (text : String) : String :=
  String.ofList (mark.char :: mark.protect text.toList ++ [mark.char])

/-- Reads the text of a literal up to its closing mark, and what follows the mark. The list starts
right after the opening mark; there is no answer when no mark closes the literal. -/
def body? (mark : QuoteMark) : List Char → Option (List Char × List Char)
  | [] => none
  | c :: cs =>
    if c = mark.char then some ([], cs)
    else if c = '\\' then
      match cs with
      | [] => none
      | d :: ds =>
        if d = mark.char then (mark.body? ds).map fun (text, rest) => (d :: text, rest)
        else (mark.body? (d :: ds)).map fun (text, rest) => (c :: text, rest)
    else (mark.body? cs).map fun (text, rest) => (c :: text, rest)

theorem literalKind_isLiteral (mark : QuoteMark) : mark.literalKind.isLiteral = true := by
  cases mark <;> rfl

theorem char_ne_backslash (mark : QuoteMark) : mark.char ≠ '\\' := by
  cases mark <;> decide

/-! ## Reading a body -/

theorem body?_char (mark : QuoteMark) (cs : List Char) :
    mark.body? (mark.char :: cs) = some ([], cs) := by
  rw [body?.eq_def]
  simp

theorem body?_escaped (mark : QuoteMark) (cs : List Char) :
    mark.body? ('\\' :: mark.char :: cs) =
      (mark.body? cs).map fun (text, rest) => (mark.char :: text, rest) := by
  rw [body?.eq_def]
  simp [Ne.symm mark.char_ne_backslash]

/-- A character is itself unless it is the mark or guards one. -/
theorem body?_cons {mark : QuoteMark} {c : Char} {cs : List Char} (hchar : c ≠ mark.char)
    (hguard : c = '\\' → cs.head? ≠ some mark.char) :
    mark.body? (c :: cs) = (mark.body? cs).map fun (text, rest) => (c :: text, rest) := by
  rw [body?.eq_def]
  simp only [if_neg hchar]
  split
  · next hc =>
    cases cs with
    | nil => simp [body?]
    | cons d ds =>
      have hd : d ≠ mark.char := by simpa using hguard hc
      simp [hd]
  · rfl

theorem length_of_body? {mark : QuoteMark} {body text rest : List Char}
    (h : mark.body? body = some (text, rest)) : rest.length < body.length := by
  fun_induction body? mark body generalizing text with
  | case1 => simp at h
  | case2 => simp_all
  | case3 => simp at h
  | case4 ds _ ih =>
    obtain ⟨⟨t, r⟩, hb, he⟩ := Option.map_eq_some_iff.1 h
    obtain ⟨rfl, rfl⟩ := Prod.mk.inj he
    have := ih hb
    simp only [List.length_cons]
    omega
  | case5 d ds _ _ ih =>
    obtain ⟨⟨t, r⟩, hb, he⟩ := Option.map_eq_some_iff.1 h
    obtain ⟨rfl, rfl⟩ := Prod.mk.inj he
    have := ih hb
    simp only [List.length_cons] at this ⊢
    omega
  | case6 c cs _ _ ih =>
    obtain ⟨⟨t, r⟩, hb, he⟩ := Option.map_eq_some_iff.1 h
    obtain ⟨rfl, rfl⟩ := Prod.mk.inj he
    have := ih hb
    simp only [List.length_cons]
    omega

/-! ## Quoting a text -/

theorem protect_char (mark : QuoteMark) (cs : List Char) :
    mark.protect (mark.char :: cs) = '\\' :: mark.char :: mark.protect cs := by
  simp [protect]

theorem protect_cons {mark : QuoteMark} {c : Char} (h : c ≠ mark.char) (cs : List Char) :
    mark.protect (c :: cs) = c :: mark.protect cs := by
  simp [protect, h]

/-- Where a text goes on, no bare mark comes next in its quoted form. -/
theorem head?_protect_append_ne (mark : QuoteMark) (c : Char) (cs rest : List Char) :
    (mark.protect (c :: cs) ++ rest).head? ≠ some mark.char := by
  by_cases hc : c = mark.char
  · subst hc
    simp [protect_char, Ne.symm mark.char_ne_backslash]
  · simp [protect_cons hc, hc]

/-- A quoted text is read back up to its closing mark unless it ends in a backslash. -/
theorem body?_protect (mark : QuoteMark) {text : List Char} (rest : List Char)
    (h : text.getLast? ≠ some '\\') :
    mark.body? (mark.protect text ++ mark.char :: rest) = some (text, rest) := by
  induction text with
  | nil => simp [protect, body?_char]
  | cons c cs ih =>
    have hcs : cs.getLast? ≠ some '\\' := by
      cases cs with
      | nil => simp
      | cons d ds => simpa [List.getLast?_cons_cons] using h
    by_cases hc : c = mark.char
    · subst hc
      simp [protect_char, body?_escaped, ih hcs]
    · rw [protect_cons hc, List.cons_append, body?_cons hc, ih hcs]
      · rfl
      · intro hb
        cases cs with
        | nil => simp [hb] at h
        | cons d ds => exact mark.head?_protect_append_ne d ds (mark.char :: rest)

end QuoteMark

end TriggerRule
