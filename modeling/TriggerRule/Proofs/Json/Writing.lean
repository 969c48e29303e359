import TriggerRule.Proofs.Json.Spelling

/-!
# The lexemes of a document

`Json.lexemes` are the lexemes that a document is written with. Both layouts spell just these: the
compact one puts nothing between them (`laid_compact`), the indented one line breaks and spaces
(`laid_indentedAt`). A document is `Plain` if it holds no number and nothing unreadable, and only
such documents are looked at here.
-/

namespace TriggerRule.Json

open Lexeme (Laid Spelled)

mutual

/-- The lexemes of a document, in the order of the text. -/
def lexemes : Json → List Lexeme
  | null => [.null]
  | bool value => [.bool value]
  | number value => [.number value]
  | string text => [.string (some text)]
  | array items => .openArray :: itemLexemes items ++ [.closeArray]
  | object entries => .openObject :: entryLexemes entries ++ [.closeObject]
  | unreadable => [.string none]

/-- The lexemes of items, with a comma between each two. -/
def itemLexemes : List Json → List Lexeme
  | [] => []
  | [item] => item.lexemes
  | item :: items => item.lexemes ++ .comma :: itemLexemes items

/-- The lexemes of entries, with a comma between each two. -/
def entryLexemes : List (String × Json) → List Lexeme
  | [] => []
  | [(key, value)] => .string (some key) :: .colon :: value.lexemes
  | (key, value) :: entries =>
    .string (some key) :: .colon :: value.lexemes ++ .comma :: entryLexemes entries

end

mutual

/-- There is no number in the document, and nothing that names no text. -/
def Plain : Json → Prop
  | null | bool _ | string _ => True
  | number _ | unreadable => False
  | array items => PlainItems items
  | object entries => PlainEntries entries

/-- The items are plain. -/
def PlainItems : List Json → Prop
  | [] => True
  | item :: items => item.Plain ∧ PlainItems items

/-- The values of the entries are plain. -/
def PlainEntries : List (String × Json) → Prop
  | [] => True
  | (_, value) :: entries => value.Plain ∧ PlainEntries entries

end

/-! ## Single lexemes -/

theorem laid_fixed {lexeme : Lexeme} {text : String} (h : lexeme.fixedSpelling? = some text) :
    Laid [lexeme] text.toList :=
  (Spelled.fixed h).laid

theorem laid_string (text : String) : Laid [.string (some text)] (writeString text).toList := by
  have h := (Spelled.string (Lexeme.textSpelled_escape text.toList)).laid
  rw [String.ofList_toList] at h
  rw [writeString, String.toList_ofList]
  exact h

theorem laid_bool (value : Bool) :
    Laid [.bool value] (if value then "true" else "false").toList := by
  cases value with
  | false => exact laid_fixed rfl
  | true => exact laid_fixed rfl

theorem laid_newLine (level : Nat) : Laid [] (newLine level).toList := by
  apply Laid.blanks
  rw [newLine, String.toList_ofList]
  refine List.forall_mem_cons.2 ⟨rfl, ?_⟩
  intro c hc
  rw [List.eq_of_mem_replicate hc]
  rfl

variable {ls ms : List Lexeme} {s t : String}

theorem laid_append (h : Laid ls s.toList) (ht : Laid ms t.toList) :
    Laid (ls ++ ms) (s ++ t).toList := by
  rw [String.toList_append]
  exact h.append ht

/-- Items or entries with a comma between them. -/
theorem laid_comma (h : Laid ls s.toList) (ht : Laid ms t.toList) :
    Laid (ls ++ .comma :: ms) (s ++ "," ++ t).toList := by
  have hcomma : Laid [.comma] ",".toList := laid_fixed rfl
  rw [List.append_cons]
  exact laid_append (laid_append h hcomma) ht

/-- What an array or an object holds, between its brackets. -/
theorem laid_enclosed {opening closing : Lexeme} {o c : String}
    (ho : opening.fixedSpelling? = some o) (h : Laid ls s.toList)
    (hc : closing.fixedSpelling? = some c) :
    Laid (opening :: ls ++ [closing]) (o ++ s ++ c).toList :=
  laid_append (laid_append (laid_fixed ho) h) (laid_fixed hc)

theorem laid_array (h : Laid ls s.toList) :
    Laid (.openArray :: ls ++ [.closeArray]) ("[" ++ s ++ "]").toList :=
  laid_enclosed rfl h rfl

theorem laid_object (h : Laid ls s.toList) :
    Laid (.openObject :: ls ++ [.closeObject]) ("\x7b" ++ s ++ "\x7d").toList :=
  laid_enclosed rfl h rfl

/-! ## The compact layout -/

theorem laid_compactEntry {value : Json} (key : String)
    (h : Laid value.lexemes value.compact.toList) :
    Laid (.string (some key) :: .colon :: value.lexemes)
      (writeString key ++ ":" ++ value.compact).toList := by
  have hcolon : Laid [.colon] ":".toList := laid_fixed rfl
  exact laid_append (laid_append (laid_string key) hcolon) h

mutual

/-- The compact text of a plain document lays out its lexemes. -/
theorem laid_compact : ∀ {document : Json}, document.Plain →
    Laid document.lexemes document.compact.toList
  | null, _ => laid_fixed rfl
  | bool value, _ => laid_bool value
  | number _, h => h.elim
  | string text, _ => laid_string text
  | array _, h => laid_array (laid_compactItems h)
  | object _, h => laid_object (laid_compactEntries h)
  | unreadable, h => h.elim

theorem laid_compactItems : ∀ {items : List Json}, PlainItems items →
    Laid (itemLexemes items) (compactItems items).toList
  | [], _ => .blanks (by simp [compactItems])
  | [_], h => laid_compact h.1
  | _ :: next :: items, h => laid_comma (laid_compact h.1) (laid_compactItems h.2)

theorem laid_compactEntries : ∀ {entries : List (String × Json)}, PlainEntries entries →
    Laid (entryLexemes entries) (compactEntries entries).toList
  | [], _ => .blanks (by simp [compactEntries])
  | [(key, _)], h => laid_compactEntry key (laid_compact h.1)
  | (key, _) :: next :: entries, h =>
    laid_comma (laid_compactEntry key (laid_compact h.1)) (laid_compactEntries h.2)

end

/-! ## The indented layout -/

/-- An item or an entry on a line of its own. -/
theorem laid_line (level : Nat) (h : Laid ls s.toList) :
    Laid ls (newLine level ++ s).toList :=
  laid_append (laid_newLine level) h

/-- The closing bracket stands on a line of its own. -/
theorem laid_lines (level : Nat) (h : Laid ls s.toList) :
    Laid ls (s ++ newLine level).toList := by
  have hlines := laid_append h (laid_newLine level)
  rw [List.append_nil] at hlines
  exact hlines

theorem laid_indentedEntry {value : Json} (level : Nat) (key : String)
    (h : Laid value.lexemes (value.indentedAt (level + 1)).toList) :
    Laid (.string (some key) :: .colon :: value.lexemes)
      (newLine (level + 1) ++ writeString key ++ ": " ++ value.indentedAt (level + 1)).toList := by
  have hcolon : Laid [.colon] ":".toList := laid_fixed rfl
  have hspace : Laid [] " ".toList := .blanks (by simp [Lexeme.isBlank])
  have hboth : Laid [.colon] ": ".toList := hcolon.append hspace
  have hkey := laid_line (level + 1) (laid_string key)
  exact laid_append (laid_append hkey hboth) h

mutual

/-- The indented text of a plain document lays out its lexemes. -/
theorem laid_indentedAt : ∀ {document : Json} (level : Nat), document.Plain →
    Laid document.lexemes (document.indentedAt level).toList
  | null, _, _ => laid_fixed rfl
  | bool value, _, _ => laid_bool value
  | number _, _, h => h.elim
  | string text, _, _ => laid_string text
  | array [], _, _ => by
    have hnone : Laid [] "".toList := .blanks (by simp)
    rw [indentedAt, lexemes]
    exact laid_array hnone
  | array (_ :: _), level, h => by
    have hlines := laid_array (laid_lines level (laid_indentedItems level h))
    rw [← String.append_assoc] at hlines
    rw [indentedAt, lexemes]
    exact hlines
  | object [], _, _ => by
    have hnone : Laid [] "".toList := .blanks (by simp)
    rw [indentedAt, lexemes]
    exact laid_object hnone
  | object (_ :: _), level, h => by
    have hlines := laid_object (laid_lines level (laid_indentedEntries level h))
    rw [← String.append_assoc] at hlines
    rw [indentedAt, lexemes]
    exact hlines
  | unreadable, _, h => h.elim

theorem laid_indentedItems : ∀ {items : List Json} (level : Nat), PlainItems items →
    Laid (itemLexemes items) (indentedItems level items).toList
  | [], _, _ => .blanks (by simp [indentedItems])
  | [_], level, h => laid_line _ (laid_indentedAt (level + 1) h.1)
  | _ :: next :: items, level, h =>
    laid_comma (laid_line _ (laid_indentedAt (level + 1) h.1)) (laid_indentedItems level h.2)

theorem laid_indentedEntries : ∀ {entries : List (String × Json)} (level : Nat),
    PlainEntries entries → Laid (entryLexemes entries) (indentedEntries level entries).toList
  | [], _, _ => .blanks (by simp [indentedEntries])
  | [(key, _)], level, h => laid_indentedEntry level key (laid_indentedAt (level + 1) h.1)
  | (key, _) :: next :: entries, level, h =>
    laid_comma (laid_indentedEntry level key (laid_indentedAt (level + 1) h.1))
      (laid_indentedEntries level h.2)

end

end TriggerRule.Json
