import Mathlib.Tactic.SplitIfs
import TriggerRule.Json.Lexeme
import TriggerRule.Json.Write

/-!
# How lexemes are written

A character of a string may be written in several ways (`CharSpelled`), and the writer of documents
uses one of them (`charSpelled_escape`). Whichever is used, the string is read back
(`string?_append`). `Spelled lexeme cs` says that the characters are one way to write a lexeme; a
number has none, because only what follows it tells where it ends. Any other lexeme is read from its
spelling whatever follows, and so lexemes that are laid out one after the other, with blanks between
them as one likes (`Laid`), are read as such. Main statement: `Laid.lexemes?_eq`.
-/

namespace TriggerRule.Json

namespace Lexeme

/-! ## The characters of a string -/

/-- The ways to write a character between the quotes of a string: as itself, by a letter behind a
backslash, or by hexadecimal digits. -/
inductive CharSpelled (c : Char) : List Char → Prop
  | plain (hq : c ≠ '"') (hb : c ≠ '\\') (hc : 0x20 ≤ c.toNat) : CharSpelled c [c]
  | short {e : Char} (h : shortEscape? e = some c) : CharSpelled c ['\\', e]
  /-- Four digits for a character up to U+FFFF. -/
  | unit {w x y z : Char} (h : hexValue4? w x y z = some c.toNat) :
    CharSpelled c ['\\', 'u', w, x, y, z]
  /-- A surrogate pair, four digits for each half, for a character beyond that. -/
  | pair {w x y z w' x' y' z' : Char} (hc : 0x10000 ≤ c.toNat)
    (hh : hexValue4? w x y z = some (0xD800 + (c.toNat - 0x10000) / 0x400))
    (hl : hexValue4? w' x' y' z' = some (0xDC00 + (c.toNat - 0x10000) % 0x400)) :
    CharSpelled c ['\\', 'u', w, x, y, z, '\\', 'u', w', x', y', z']

/-- The ways to write a text between the quotes of a string. -/
inductive TextSpelled : List Char → List Char → Prop
  | nil : TextSpelled [] []
  | cons {c : Char} {text cs body : List Char} (hc : CharSpelled c cs)
    (h : TextSpelled text body) : TextSpelled (c :: text) (cs ++ body)

theorem stringBody?_plain {c : Char} (hq : c ≠ '"') (hb : c ≠ '\\') (hc : 0x20 ≤ c.toNat)
    (rest : List Char) : stringBody? (c :: rest) =
      (stringBody? rest).map fun (units, rest) => (c.toNat :: units, rest) := by
  rw [stringBody?.eq_def]
  simp only [if_neg hq, if_neg hb, if_neg (Nat.not_lt.2 hc)]

theorem stringBody?_short {c e : Char} (h : shortEscape? e = some c) (rest : List Char) :
    stringBody? ('\\' :: e :: rest) =
      (stringBody? rest).map fun (units, rest) => (c.toNat :: units, rest) := by
  have hu : e ≠ 'u' := by
    rintro rfl
    simp [shortEscape?] at h
  rw [stringBody?.eq_def]
  simp [hu, h]

theorem stringBody?_unit {w x y z : Char} {unit : Nat} (h : hexValue4? w x y z = some unit)
    (rest : List Char) : stringBody? ('\\' :: 'u' :: w :: x :: y :: z :: rest) =
      (stringBody? rest).map fun (units, rest) => (unit :: units, rest) := by
  rw [stringBody?.eq_def]
  simp [h]

/-- No character is half of a surrogate pair. -/
theorem not_isSurrogate (c : Char) :
    isHighSurrogate c.toNat = false ∧ isLowSurrogate c.toNat = false := by
  have hv : c.toNat < 0xD800 ∨ 0xDFFF < c.toNat ∧ c.toNat < 0x110000 := c.valid
  simp only [isHighSurrogate, isLowSurrogate, Bool.and_eq_false_iff, decide_eq_false_iff_not]
  omega

theorem joinSurrogates_char (c : Char) (units : List Nat) :
    joinSurrogates (c.toNat :: units) = (joinSurrogates units).map (c :: ·) := by
  obtain ⟨hh, hl⟩ := not_isSurrogate c
  rw [joinSurrogates.eq_def]
  simp [hh, hl, Char.ofNat_toNat]

theorem joinSurrogates_pair {c : Char} (hc : 0x10000 ≤ c.toNat) (units : List Nat) :
    joinSurrogates ((0xD800 + (c.toNat - 0x10000) / 0x400) ::
      (0xDC00 + (c.toNat - 0x10000) % 0x400) :: units) = (joinSurrogates units).map (c :: ·) := by
  have hv : c.toNat < 0xD800 ∨ 0xDFFF < c.toNat ∧ c.toNat < 0x110000 := c.valid
  have hh : isHighSurrogate (0xD800 + (c.toNat - 0x10000) / 0x400) = true := by
    simp only [isHighSurrogate, Bool.and_eq_true, decide_eq_true_eq]
    omega
  have hl : isLowSurrogate (0xDC00 + (c.toNat - 0x10000) % 0x400) = true := by
    simp only [isLowSurrogate, Bool.and_eq_true, decide_eq_true_eq]
    omega
  have hn : 0x10000 + (0xD800 + (c.toNat - 0x10000) / 0x400 - 0xD800) * 0x400 +
      (0xDC00 + (c.toNat - 0x10000) % 0x400 - 0xDC00) = c.toNat := by omega
  rw [joinSurrogates.eq_def]
  simp only [hh, hl, if_true, hn, Char.ofNat_toNat]

/-- A spelling of a character is read as units that join to it. -/
theorem CharSpelled.exists_units {c : Char} {cs : List Char} (h : CharSpelled c cs) :
    ∃ before, (∀ rest, stringBody? (cs ++ rest) =
        (stringBody? rest).map fun (units, rest) => (before ++ units, rest)) ∧
      ∀ units, joinSurrogates (before ++ units) = (joinSurrogates units).map (c :: ·) := by
  cases h with
  | plain hq hb hc => exact ⟨[c.toNat], stringBody?_plain hq hb hc, joinSurrogates_char c⟩
  | short h => exact ⟨[c.toNat], stringBody?_short h, joinSurrogates_char c⟩
  | unit h => exact ⟨[c.toNat], stringBody?_unit h, joinSurrogates_char c⟩
  | pair hc hh hl =>
    refine ⟨[_, _], fun rest => ?_, joinSurrogates_pair hc⟩
    simp only [List.cons_append, List.nil_append, stringBody?_unit hh, stringBody?_unit hl,
      Option.map_map]
    rfl

theorem TextSpelled.exists_units {text body : List Char} (h : TextSpelled text body) :
    ∃ units, joinSurrogates units = some text ∧
      ∀ rest, stringBody? (body ++ '"' :: rest) = some (units, rest) := by
  induction h with
  | nil =>
    refine ⟨[], rfl, fun rest => ?_⟩
    rw [List.nil_append, stringBody?.eq_def]
    rfl
  | cons hc h ih =>
    obtain ⟨units, hj, hr⟩ := ih
    obtain ⟨before, hread, hjoin⟩ := hc.exists_units
    refine ⟨before ++ units, ?_, fun rest => ?_⟩
    · rw [hjoin, hj]
      rfl
    · rw [List.append_assoc, hread, hr]
      rfl

/-- A string is read from behind its opening quote up to the closing one, whatever follows. -/
theorem string?_append {text body : List Char} (h : TextSpelled text body) (rest : List Char) :
    string? (body ++ '"' :: rest) = some (.string (some (String.ofList text)), rest) := by
  obtain ⟨units, hj, hr⟩ := h.exists_units
  simp only [string?, hr, hj, Option.map_some]

/-! ## The characters that the writer escapes -/

/-- A number below 256 in four digits. -/
theorem hexValue4?_hexDigit {n : Nat} (h : n < 256) :
    hexValue4? '0' '0' (Text.hexDigit (n / 16)) (Text.hexDigit (n % 16)) = some n := by
  have hzero : Text.hexValue? '0' = some 0 := by decide
  have hhigh : n / 16 < 16 := by omega
  have hlow : n % 16 < 16 := Nat.mod_lt n (by decide)
  rw [hexValue4?, hzero, Text.hexValue?_hexDigit hhigh, Text.hexValue?_hexDigit hlow]
  simp only [Option.some.injEq]
  omega

theorem charSpelled_escape (c : Char) : CharSpelled c (escape c) := by
  unfold escape
  split_ifs with hq hb h8 hc hn hr ht hlow
  · subst hq
    exact .short rfl
  · subst hb
    exact .short rfl
  · subst h8
    exact .short rfl
  · subst hc
    exact .short rfl
  · subst hn
    exact .short rfl
  · subst hr
    exact .short rfl
  · subst ht
    exact .short rfl
  · exact .unit (hexValue4?_hexDigit (Nat.lt_trans hlow (by decide)))
  · exact .plain hq hb (Nat.not_lt.1 hlow)

theorem textSpelled_escape (text : List Char) : TextSpelled text (text.flatMap escape) := by
  induction text with
  | nil => exact .nil
  | cons c text ih => exact .cons (charSpelled_escape c) ih

/-! ## Lexemes -/

/-- How a lexeme is written that is always written the same way. -/
def fixedSpelling? : Lexeme → Option String
  | .openArray => some "["
  | .closeArray => some "]"
  | .openObject => some "\x7b"
  | .closeObject => some "\x7d"
  | .comma => some ","
  | .colon => some ":"
  | .null => some "null"
  | .bool true => some "true"
  | .bool false => some "false"
  | .number _ | .string _ => none

/-- The characters that a lexeme other than a number may be written with. -/
inductive Spelled : Lexeme → List Char → Prop
  | fixed {lexeme : Lexeme} {text : String} (h : lexeme.fixedSpelling? = some text) :
    Spelled lexeme text.toList
  | string {text body : List Char} (h : TextSpelled text body) :
    Spelled (.string (some (String.ofList text))) ('"' :: body ++ ['"'])

/-- A spelling of a lexeme is read as the lexeme, whatever follows it. -/
theorem Spelled.lexeme?_append {lexeme : Lexeme} {cs : List Char} (h : Spelled lexeme cs)
    (rest : List Char) : lexeme? (cs ++ rest) = some (lexeme, rest) := by
  cases h with
  | fixed h =>
    unfold fixedSpelling? at h
    split at h <;> cases h <;> rfl
  | @string text body h =>
    have hs : lexeme? ('"' :: (body ++ '"' :: rest)) = string? (body ++ '"' :: rest) := rfl
    rw [List.cons_append, List.cons_append, List.append_assoc]
    exact hs.trans (string?_append h rest)

/-- A spelling is not empty and does not start with a blank. -/
theorem Spelled.exists_head {lexeme : Lexeme} {cs : List Char} (h : Spelled lexeme cs) :
    ∃ c rest, cs = c :: rest ∧ isBlank c = false := by
  cases h with
  | fixed h =>
    unfold fixedSpelling? at h
    split at h <;> cases h <;> exact ⟨_, _, rfl, rfl⟩
  | string h => exact ⟨'"', _, rfl, rfl⟩

/-! ## Lexemes one after the other -/

/-- The ways to write lexemes one after the other, with blanks before, between and behind them. -/
inductive Laid : List Lexeme → List Char → Prop
  /-- The blanks behind the last lexeme. -/
  | blanks {ws : List Char} (hw : ∀ c ∈ ws, isBlank c = true) : Laid [] ws
  | lexeme {lexeme : Lexeme} {lexemes : List Lexeme} {ws cs rest : List Char}
    (hw : ∀ c ∈ ws, isBlank c = true) (hs : Spelled lexeme cs) (h : Laid lexemes rest) :
    Laid (lexeme :: lexemes) (ws ++ cs ++ rest)

variable {ls ms : List Lexeme} {cs ds ws : List Char}

theorem Spelled.laid {lexeme : Lexeme} (h : Spelled lexeme cs) : Laid [lexeme] cs := by
  have hl : Laid [lexeme] ([] ++ cs ++ []) := .lexeme (by simp) h (.blanks (by simp))
  rw [List.nil_append, List.append_nil] at hl
  exact hl

theorem Laid.append_blanks (hw : ∀ c ∈ ws, isBlank c = true) (h : Laid ls cs) :
    Laid ls (ws ++ cs) := by
  cases h with
  | blanks hv => exact .blanks (List.forall_mem_append.2 ⟨hw, hv⟩)
  | lexeme hv hs h =>
    rw [← List.append_assoc, ← List.append_assoc]
    exact .lexeme (List.forall_mem_append.2 ⟨hw, hv⟩) hs h

theorem Laid.append (h : Laid ls cs) (hl : Laid ms ds) : Laid (ls ++ ms) (cs ++ ds) := by
  induction h with
  | blanks hw => exact hl.append_blanks hw
  | lexeme hw hs h ih =>
    rw [List.append_assoc]
    exact .lexeme hw hs ih

/-- Blanks are passed over. -/
theorem lexemes?_append_blanks (hw : ∀ c ∈ ws, isBlank c = true) (rest : List Char) :
    lexemes? (ws ++ rest) = lexemes? rest := by
  have hdrop : (ws ++ rest).dropWhile isBlank = rest.dropWhile isBlank :=
    List.dropWhile_append_of_pos hw
  rw [lexemes?, lexemes?, hdrop]

/-- A lexeme is split off where it is spelled. -/
theorem Spelled.lexemes?_append {lexeme : Lexeme} (h : Spelled lexeme cs) (rest : List Char) :
    lexemes? (cs ++ rest) = (lexemes? rest).map (lexeme :: ·) := by
  obtain ⟨c, tail, rfl, hc⟩ := h.exists_head
  have hl := h.lexeme?_append rest
  have hdrop : (c :: tail ++ rest).dropWhile isBlank = c :: (tail ++ rest) := by simp [hc]
  rw [List.cons_append] at hl
  rw [lexemes?, hdrop]
  split
  · next hnil => simp at hnil
  · next d ds hcons =>
    rw [← hcons, hl]

theorem lexemes?_nil : lexemes? [] = some [] := by
  rw [lexemes?]
  rfl

/-- Lexemes are read as they are laid out, in whichever way. -/
theorem Laid.lexemes?_eq (h : Laid ls cs) : lexemes? cs = some ls := by
  induction h with
  | @blanks ws hw =>
    have hblanks := lexemes?_append_blanks hw []
    rw [List.append_nil, lexemes?_nil] at hblanks
    exact hblanks
  | lexeme hw hs h ih =>
    rw [List.append_assoc, lexemes?_append_blanks hw, hs.lexemes?_append, ih]
    rfl

end Lexeme

end TriggerRule.Json
