import TriggerRule.Text.Literal

/-!
# Literals are read back

What a character is written as in a literal tells where it ends, whichever characters are spelled
out by number: a backslash decides what follows it, the digits of a number run up to their brace,
and anything else is itself (`unescape?_escape_append`). So a literal can be read back, and two
texts with one literal are the same. Neither a tab nor a line feed occurs in a literal. Main
statement: `literalWith_injective`.
-/

namespace TriggerRule.Text

/-! ## Hexadecimal numbers -/

/-- The number that hexadecimal digits stand for. -/
def hexNumber (digits : List Char) : Nat :=
  digits.foldl (fun n c => 16 * n + (hexValue? c).getD 0) 0

theorem hexNumber_hexDigits (n : Nat) : hexNumber (hexDigits n) = n := by
  fun_induction hexDigits n with
  | case1 n hn => simp [hexNumber, hexValue?_hexDigit hn]
  | case2 n hn ih =>
    have hlast : n % 16 < 16 := Nat.mod_lt n (by decide)
    rw [hexNumber, List.foldl_append, ← hexNumber, ih]
    simp only [List.foldl_cons, List.foldl_nil, hexValue?_hexDigit hlast, Option.getD_some]
    exact Nat.div_add_mod n 16

theorem isSome_hexValue?_of_mem {n : Nat} {c : Char} (h : c ∈ hexDigits n) :
    (hexValue? c).isSome = true := by
  fun_induction hexDigits n with
  | case1 n hn =>
    obtain rfl := List.mem_singleton.1 h
    rw [hexValue?_hexDigit hn]
    rfl
  | case2 n hn ih =>
    rcases List.mem_append.1 h with h | h
    · exact ih h
    · obtain rfl := List.mem_singleton.1 h
      rw [hexValue?_hexDigit (Nat.mod_lt n (by decide))]
      rfl

/-- What is no digit does not occur among digits. -/
theorem notMem_hexDigits {c : Char} (h : hexValue? c = none) (n : Nat) : c ∉ hexDigits n := by
  intro hmem
  have hsome := isSome_hexValue?_of_mem hmem
  rw [h] at hsome
  cases hsome

/-! ## One character -/

/-- The letters that are written behind a backslash, each with the character it stands for. -/
def letters : List (Char × Char) :=
  [('"', '"'), ('\\', '\\'), ('t', '\t'), ('n', '\n'), ('r', '\r'), ('0', '\x00')]

/-- Reads what is behind a backslash: a letter, or a number in braces. -/
def unescapeGuarded? : List Char → Option (Char × List Char)
  | [] => none
  | c :: cs =>
    match letters.lookup c with
    | some value => some (value, cs)
    | none =>
      some (Char.ofNat (hexNumber ((cs.drop 1).takeWhile (· ≠ '\x7d'))),
        ((cs.drop 1).dropWhile (· ≠ '\x7d')).drop 1)

/-- Reads one character of a literal, and gives what follows it. -/
def unescape? : List Char → Option (Char × List Char)
  | [] => none
  | c :: cs => if c = '\\' then unescapeGuarded? cs else some (c, cs)

variable (unprintable : Char → Bool)

theorem escape_of_mem {letter c : Char} (h : (letter, c) ∈ letters) :
    escape unprintable c = ['\\', letter] := by
  simp only [letters, List.mem_cons, Prod.mk.injEq, List.not_mem_nil, or_false] at h
  rcases h with ⟨rfl, rfl⟩ | ⟨rfl, rfl⟩ | ⟨rfl, rfl⟩ | ⟨rfl, rfl⟩ | ⟨rfl, rfl⟩ | ⟨rfl, rfl⟩ <;> rfl

theorem escape_of_notMem {c : Char} (h : c ∉ letters.map Prod.snd) :
    escape unprintable c =
      if unprintable c then ['\\', 'u', '\x7b'] ++ hexDigits c.toNat ++ ['\x7d'] else [c] := by
  simp only [letters, List.map_cons, List.map_nil, List.mem_cons, List.not_mem_nil, or_false,
    not_or] at h
  simp [escape, h]

/-- A character is written by its letter, by its number or as itself. -/
theorem escape_cases (c : Char) :
    (∃ letter, (letter, c) ∈ letters ∧ escape unprintable c = ['\\', letter]) ∨
      escape unprintable c = ['\\', 'u', '\x7b'] ++ hexDigits c.toNat ++ ['\x7d'] ∨
      c ∉ letters.map Prod.snd ∧ escape unprintable c = [c] := by
  by_cases hc : c ∈ letters.map Prod.snd
  · obtain ⟨⟨letter, value⟩, hmem, rfl⟩ := List.mem_map.1 hc
    exact .inl ⟨letter, hmem, escape_of_mem unprintable hmem⟩
  · rw [escape_of_notMem unprintable hc]
    cases unprintable c with
    | true => exact .inr (.inl rfl)
    | false => exact .inr (.inr ⟨hc, rfl⟩)

/-- A number in braces is read up to the closing brace. -/
theorem unescape?_number (c : Char) (rest : List Char) :
    unescape? (['\\', 'u', '\x7b'] ++ hexDigits c.toNat ++ ['\x7d'] ++ rest) =
      some (c, rest) := by
  have hdigits : ∀ d ∈ hexDigits c.toNat, decide (d ≠ '\x7d') = true := by
    intro d hd
    refine decide_eq_true ?_
    rintro rfl
    exact notMem_hexDigits rfl _ hd
  have htake : (hexDigits c.toNat ++ '\x7d' :: rest).takeWhile (· ≠ '\x7d') =
      hexDigits c.toNat := by
    rw [List.takeWhile_append_of_pos hdigits]
    simp
  have hdrop : (hexDigits c.toNat ++ '\x7d' :: rest).dropWhile (· ≠ '\x7d') =
      '\x7d' :: rest := by
    rw [List.dropWhile_append_of_pos hdigits]
    simp
  have hletter : letters.lookup 'u' = none := rfl
  simp only [List.append_assoc, List.cons_append, List.nil_append, unescape?, unescapeGuarded?,
    if_true, hletter, List.drop_succ_cons, List.drop_zero, htake, hdrop, hexNumber_hexDigits,
    Char.ofNat_toNat]

/-- Each character is read back, whatever follows it. -/
theorem unescape?_escape_append (c : Char) (rest : List Char) :
    unescape? (escape unprintable c ++ rest) = some (c, rest) := by
  rcases escape_cases unprintable c with ⟨letter, hmem, he⟩ | he | ⟨hc, he⟩
  · have hvalue : ∀ entry ∈ letters, letters.lookup entry.1 = some entry.2 := by decide
    have hletter : letters.lookup letter = some c := hvalue _ hmem
    rw [he]
    simp [unescape?, unescapeGuarded?, hletter]
  · rw [he]
    exact unescape?_number c rest
  · have hbackslash : c ≠ '\\' := by
      rintro rfl
      exact hc (by decide)
    rw [he]
    simp [unescape?, hbackslash]

variable {unprintable} in
theorem escape_append_inj {c d : Char} {s t : List Char}
    (h : escape unprintable c ++ s = escape unprintable d ++ t) : c = d ∧ s = t := by
  have hread : unescape? (escape unprintable d ++ t) = some (c, s) := by
    rw [← h, unescape?_escape_append]
  rw [unescape?_escape_append] at hread
  obtain ⟨rfl, rfl⟩ := Prod.mk.inj (Option.some.inj hread)
  exact ⟨rfl, rfl⟩

/-- No character is written with a bare quotation mark first. -/
theorem head?_escape_append_ne (c : Char) (rest : List Char) :
    (escape unprintable c ++ rest).head? ≠ some '"' := by
  rcases escape_cases unprintable c with ⟨letter, -, he⟩ | he | ⟨hc, he⟩
  · simp [he]
  · simp [he]
  · rw [he]
    rintro ⟨⟩
    exact hc (by decide)

/-- A tab and a line feed are written by their letters, and occur in nothing that is written. -/
theorem notMem_escape {x : Char} (hx : x = '\t' ∨ x = '\n') (c : Char) :
    x ∉ escape unprintable c := by
  have hletters : x ∈ letters.map Prod.snd ∧ (∀ entry ∈ letters, x ≠ entry.1) ∧
      hexValue? x = none ∧ x ∉ ['\\', 'u', '\x7b', '\x7d'] := by
    rcases hx with rfl | rfl <;> decide
  obtain ⟨hvalue, hletter, hdigit, hother⟩ := hletters
  rcases escape_cases unprintable c with ⟨letter, hmem, he⟩ | he | ⟨hc, he⟩
  · have hne := hletter _ hmem
    simp_all
  · have hdigits := notMem_hexDigits hdigit c.toNat
    simp_all
  · rw [he, List.mem_singleton]
    rintro rfl
    exact hc hvalue

/-! ## The whole literal -/

variable {unprintable} in
/-- A text is read back from what it is written as up to the closing mark. -/
theorem flatMap_escape_inj {a b : List Char}
    (h : a.flatMap (escape unprintable) ++ ['"'] = b.flatMap (escape unprintable) ++ ['"']) :
    a = b := by
  induction a generalizing b with
  | nil =>
    cases b with
    | nil => rfl
    | cons d ds =>
      have hhead := head?_escape_append_ne unprintable d
        (ds.flatMap (escape unprintable) ++ ['"'])
      rw [← List.append_assoc, ← List.flatMap_cons, ← h] at hhead
      exact absurd rfl hhead
  | cons c cs ih =>
    cases b with
    | nil =>
      have hhead := head?_escape_append_ne unprintable c
        (cs.flatMap (escape unprintable) ++ ['"'])
      rw [← List.append_assoc, ← List.flatMap_cons, h] at hhead
      exact absurd rfl hhead
    | cons d ds =>
      rw [List.flatMap_cons, List.flatMap_cons, List.append_assoc, List.append_assoc] at h
      obtain ⟨rfl, hrest⟩ := escape_append_inj h
      rw [ih hrest]

/-- **No two texts have one literal**, whichever characters are spelled out by number. -/
theorem literalWith_injective {text other : String}
    (h : literalWith unprintable text = literalWith unprintable other) : text = other := by
  have hlists : '"' :: (text.toList.flatMap (escape unprintable) ++ ['"']) =
      '"' :: (other.toList.flatMap (escape unprintable) ++ ['"']) := String.ofList_injective h
  exact String.toList_inj.1 (flatMap_escape_inj (List.cons.inj hlists).2)

theorem notMem_literalWith {x : Char} (hx : x = '\t' ∨ x = '\n') (text : String) :
    x ∉ (literalWith unprintable text).toList := by
  have hmark : x ≠ '"' := by
    rcases hx with rfl | rfl <;> decide
  have htext : x ∉ text.toList.flatMap (escape unprintable) := by
    intro h
    obtain ⟨c, -, hc⟩ := List.mem_flatMap.1 h
    exact notMem_escape unprintable hx c hc
  rw [literalWith, String.toList_ofList, List.cons_append, List.mem_cons, List.mem_append,
    List.mem_singleton]
  rintro (h | h | h)
  · exact hmark h
  · exact htext h
  · exact hmark h

end TriggerRule.Text
