import TriggerRule.Json
import TriggerRule.Text.Hex

/-!
# The lexemes of a JSON text

A JSON text is a sequence of punctuation, strings, numbers and the three words, with blanks between
them as one likes. `lexemes?` splits a text, and refuses one that is no such sequence.
Main statement: `length_of_lexeme?`, every lexeme takes up some of the text.
-/

namespace TriggerRule.Json

/-- The smallest parts of a JSON text. -/
inductive Lexeme where
  | openArray
  | closeArray
  | openObject
  | closeObject
  | comma
  | colon
  | null
  | bool (value : Bool)
  | number (value : Decimal)
  /-- A string, and the text it names if it names one. -/
  | string (text : Option String)
  deriving DecidableEq

namespace Lexeme

/-- The characters that may stand between lexemes. -/
def isBlank (c : Char) : Bool := c = ' ' || c = '\t' || c = '\n' || c = '\r'

/-! ## Strings -/

/-- The number that four hexadecimal digits spell. -/
def hexValue4? (a b c d : Char) : Option Nat :=
  match Text.hexValue? a, Text.hexValue? b, Text.hexValue? c, Text.hexValue? d with
  | some a, some b, some c, some d => some (((a * 16 + b) * 16 + c) * 16 + d)
  | _, _, _, _ => none

/-- The character that a letter after a backslash stands for. -/
def shortEscape? (c : Char) : Option Char :=
  if c = '"' then some '"'
  else if c = '\\' then some '\\'
  else if c = '/' then some '/'
  else if c = 'b' then some '\x08'
  else if c = 'f' then some '\x0c'
  else if c = 'n' then some '\n'
  else if c = 'r' then some '\r'
  else if c = 't' then some '\t'
  else none

/-- Reads a string from behind its opening quote: the code points and surrogates it spells, and what
follows the closing quote. -/
def stringBody? : List Char → Option (List Nat × List Char)
  | [] => none
  | c :: cs =>
    if c = '"' then some ([], cs)
    else if c = '\\' then
      match cs with
      | [] => none
      | e :: es =>
        if e = 'u' then
          match es with
          | w :: x :: y :: z :: rest =>
            match hexValue4? w x y z with
            | some unit => (stringBody? rest).map fun (units, rest) => (unit :: units, rest)
            | none => none
          | _ => none
        else
          match shortEscape? e with
          | some d => (stringBody? es).map fun (units, rest) => (d.toNat :: units, rest)
          | none => none
    else if c.toNat < 0x20 then none
    else (stringBody? cs).map fun (units, rest) => (c.toNat :: units, rest)

/-- The first half of a surrogate pair. -/
def isHighSurrogate (n : Nat) : Bool := 0xD800 ≤ n && n ≤ 0xDBFF

/-- The second half of a surrogate pair. -/
def isLowSurrogate (n : Nat) : Bool := 0xDC00 ≤ n && n ≤ 0xDFFF

/-- Joins surrogate pairs to the characters they stand for; half a pair stands for nothing. -/
def joinSurrogates : List Nat → Option (List Char)
  | [] => some []
  | n :: ns =>
    if isHighSurrogate n then
      match ns with
      | m :: ms =>
        if isLowSurrogate m then
          (joinSurrogates ms).map
            (Char.ofNat (0x10000 + (n - 0xD800) * 0x400 + (m - 0xDC00)) :: ·)
        else none
      | [] => none
    else if isLowSurrogate n then none
    else (joinSurrogates ns).map (Char.ofNat n :: ·)

/-- Reads the string whose opening quote has been read. -/
def string? (cs : List Char) : Option (Lexeme × List Char) :=
  (stringBody? cs).map fun (units, rest) =>
    (string ((joinSurrogates units).map String.ofList), rest)

/-! ## Numbers -/

/-- The digits at the start of the characters, and the rest. -/
def digitRun (cs : List Char) : List Char × List Char :=
  (cs.takeWhile Char.isDigit, cs.dropWhile Char.isDigit)

/-- The number that decimal digits spell. -/
def digitsValue (digits : List Char) : Nat :=
  digits.foldl (fun n c => n * 10 + (c.toNat - '0'.toNat)) 0

/-- The digits before the point: a zero alone, or digits that do not start with one. -/
def wholePart? : List Char → Option (List Char × List Char)
  | [] => none
  | c :: cs =>
    if c = '0' then some (['0'], cs)
    else if c.isDigit then some (digitRun (c :: cs))
    else none

/-- The digits after the point, if there is a point; then there has to be a digit. -/
def fraction? : List Char → Option (List Char × List Char)
  | '.' :: cs =>
    match digitRun cs with
    | ([], _) => none
    | run => some run
  | cs => some ([], cs)

/-- The digits of an exponent behind its sign. -/
def exponentDigits? (negative : Bool) (cs : List Char) : Option (Int × List Char) :=
  match digitRun cs with
  | ([], _) => none
  | (digits, rest) =>
    let value : Int := digitsValue digits
    some (if negative then -value else value, rest)

/-- The exponent behind the letter `e`, with or without a sign. -/
def signedExponent? : List Char → Option (Int × List Char)
  | '-' :: cs => exponentDigits? true cs
  | '+' :: cs => exponentDigits? false cs
  | cs => exponentDigits? false cs

def exponent? : List Char → Option (Int × List Char)
  | 'e' :: cs => signedExponent? cs
  | 'E' :: cs => signedExponent? cs
  | cs => some (0, cs)

def unsigned? (negative : Bool) (cs : List Char) : Option (Lexeme × List Char) :=
  match wholePart? cs with
  | none => none
  | some (whole, cs) =>
    match fraction? cs with
    | none => none
    | some (fraction, cs) =>
      (exponent? cs).map fun (exponent, rest) =>
        (number (.ofDigits negative whole fraction exponent), rest)

def number? : List Char → Option (Lexeme × List Char)
  | '-' :: cs => unsigned? true cs
  | cs => unsigned? false cs

/-! ## All lexemes -/

/-- What follows a word that the characters start with. -/
def word? (word : List Char) (cs : List Char) : Option (List Char) :=
  if word.isPrefixOf cs then some (cs.drop word.length) else none

/-- Reads the lexeme at the start of the characters. -/
def lexeme? : List Char → Option (Lexeme × List Char)
  | [] => none
  | c :: cs =>
    if c = '[' then some (openArray, cs)
    else if c = ']' then some (closeArray, cs)
    else if c = '\x7b' then some (openObject, cs)
    else if c = '\x7d' then some (closeObject, cs)
    else if c = ',' then some (comma, cs)
    else if c = ':' then some (colon, cs)
    else if c = '"' then string? cs
    else if c = 'n' then (word? ['u', 'l', 'l'] cs).map (null, ·)
    else if c = 't' then (word? ['r', 'u', 'e'] cs).map (bool true, ·)
    else if c = 'f' then (word? ['a', 'l', 's', 'e'] cs).map (bool false, ·)
    else number? (c :: cs)

/-! ## Every lexeme takes up some of the text -/

theorem length_of_stringBody? {cs rest : List Char} {units : List Nat}
    (h : stringBody? cs = some (units, rest)) : rest.length < cs.length := by
  fun_induction stringBody? cs generalizing units with
  | case1 => cases h
  | case2 cs =>
    simp only [Option.some.injEq, Prod.mk.injEq] at h
    simp [h.2]
  | case3 => cases h
  | case4 _ w x y z rest unit _ ih =>
    obtain ⟨⟨t, r⟩, hb, he⟩ := Option.map_eq_some_iff.1 h
    obtain ⟨-, rfl⟩ := Prod.mk.inj he
    have := ih hb
    simp only [List.length_cons]
    omega
  | case5 => cases h
  | case6 => cases h
  | case7 _ e es _ d _ ih =>
    obtain ⟨⟨t, r⟩, hb, he⟩ := Option.map_eq_some_iff.1 h
    obtain ⟨-, rfl⟩ := Prod.mk.inj he
    have := ih hb
    simp only [List.length_cons]
    omega
  | case8 => cases h
  | case9 => cases h
  | case10 c cs _ _ _ ih =>
    obtain ⟨⟨t, r⟩, hb, he⟩ := Option.map_eq_some_iff.1 h
    obtain ⟨-, rfl⟩ := Prod.mk.inj he
    exact Nat.lt_succ_of_lt (ih hb)

theorem length_of_wholePart? {cs rest digits : List Char}
    (h : wholePart? cs = some (digits, rest)) : rest.length < cs.length := by
  cases cs with
  | nil => simp [wholePart?] at h
  | cons c cs =>
    rw [wholePart?] at h
    split at h
    · simp only [Option.some.injEq, Prod.mk.injEq] at h
      simp [← h.2]
    · split at h
      · next hd =>
        simp only [digitRun, Option.some.injEq, Prod.mk.injEq, List.dropWhile_cons, hd,
          if_true] at h
        have := (List.dropWhile_suffix (l := cs) Char.isDigit).length_le
        simp only [← h.2, List.length_cons]
        omega
      · cases h

theorem length_of_fraction? {cs rest digits : List Char}
    (h : fraction? cs = some (digits, rest)) : rest.length ≤ cs.length := by
  unfold fraction? at h
  split at h
  · next cs =>
    split at h
    · cases h
    · simp only [digitRun, Option.some.injEq, Prod.mk.injEq] at h
      have := (List.dropWhile_suffix (l := cs) Char.isDigit).length_le
      simp only [← h.2, List.length_cons]
      omega
  · simp only [Option.some.injEq, Prod.mk.injEq] at h
    simp [h.2]

theorem length_of_exponentDigits? {negative : Bool} {cs rest : List Char} {value : Int}
    (h : exponentDigits? negative cs = some (value, rest)) : rest.length ≤ cs.length := by
  unfold exponentDigits? at h
  split at h
  · cases h
  · next heq =>
    simp only [digitRun, Prod.mk.injEq] at heq
    simp only [Option.some.injEq, Prod.mk.injEq] at h
    rw [← h.2, ← heq.2]
    exact (List.dropWhile_suffix _).length_le

theorem length_of_exponent? {cs rest : List Char} {value : Int}
    (h : exponent? cs = some (value, rest)) : rest.length ≤ cs.length := by
  have signed : ∀ {cs : List Char}, signedExponent? cs = some (value, rest) →
      rest.length ≤ cs.length := by
    intro cs h
    unfold signedExponent? at h
    split at h
    · exact Nat.le_succ_of_le (length_of_exponentDigits? h)
    · exact Nat.le_succ_of_le (length_of_exponentDigits? h)
    · exact length_of_exponentDigits? h
  unfold exponent? at h
  split at h
  · exact Nat.le_succ_of_le (signed h)
  · exact Nat.le_succ_of_le (signed h)
  · simp only [Option.some.injEq, Prod.mk.injEq] at h
    simp [h.2]

theorem length_of_number? {cs rest : List Char} {lexeme : Lexeme}
    (h : number? cs = some (lexeme, rest)) : rest.length < cs.length := by
  have unsigned : ∀ {negative : Bool} {cs : List Char},
      unsigned? negative cs = some (lexeme, rest) → rest.length < cs.length := by
    intro negative cs h
    unfold unsigned? at h
    split at h
    · cases h
    · next hw =>
      split at h
      · cases h
      · next hf =>
        obtain ⟨⟨e, r⟩, he, hp⟩ := Option.map_eq_some_iff.1 h
        obtain ⟨-, rfl⟩ := Prod.mk.inj hp
        have := length_of_wholePart? hw
        have := length_of_fraction? hf
        have := length_of_exponent? he
        omega
  unfold number? at h
  split at h
  · exact Nat.lt_succ_of_lt (unsigned h)
  · exact unsigned h

theorem length_of_word? {word cs rest : List Char} (h : word? word cs = some rest) :
    rest.length ≤ cs.length := by
  unfold word? at h
  split at h
  · simp only [Option.some.injEq] at h
    simp [← h]
  · cases h

theorem length_of_lexeme? {cs rest : List Char} {lexeme : Lexeme}
    (h : lexeme? cs = some (lexeme, rest)) : rest.length < cs.length := by
  cases cs with
  | nil => simp [lexeme?] at h
  | cons c cs =>
    rw [lexeme?] at h
    have word : ∀ {w : List Char} {l : Lexeme},
        (word? w cs).map (l, ·) = some (lexeme, rest) → rest.length < (c :: cs).length := by
      intro w l h
      obtain ⟨r, hw, he⟩ := Option.map_eq_some_iff.1 h
      obtain ⟨-, rfl⟩ := Prod.mk.inj he
      exact Nat.lt_succ_of_le (length_of_word? hw)
    have mark : ∀ {l : Lexeme}, some (l, cs) = some (lexeme, rest) →
        rest.length < (c :: cs).length := by
      intro l h
      simp only [Option.some.injEq, Prod.mk.injEq] at h
      simp [← h.2]
    split at h
    · exact mark h
    split at h
    · exact mark h
    split at h
    · exact mark h
    split at h
    · exact mark h
    split at h
    · exact mark h
    split at h
    · exact mark h
    split at h
    · obtain ⟨⟨units, r⟩, hb, he⟩ := Option.map_eq_some_iff.1 h
      obtain ⟨-, rfl⟩ := Prod.mk.inj he
      exact Nat.lt_succ_of_lt (length_of_stringBody? hb)
    split at h
    · exact word h
    split at h
    · exact word h
    split at h
    · exact word h
    exact length_of_number? h

def lexemes? (cs : List Char) : Option (List Lexeme) :=
  match _hb : cs.dropWhile isBlank with
  | [] => some []
  | d :: ds =>
    match _hl : lexeme? (d :: ds) with
    | none => none
    | some (lexeme, rest) => (lexemes? rest).map (lexeme :: ·)
termination_by cs.length
decreasing_by
  have := length_of_lexeme? _hl
  have := (List.dropWhile_suffix (l := cs) isBlank).length_le
  rw [_hb] at this
  omega

end Lexeme

end TriggerRule.Json
