import TriggerRule.Json.Read
import TriggerRule.Proofs.Json.Writing

/-!
# Reading a written document back

The reader takes the lexemes of any document to the document, in whatever containers it stands
(`run_lexemes`), so a document is read from its lexemes however they are laid out (`read?_of_laid`),
and a plain one from what the writer makes of it (`read?_compact`, `read?_indented`). How many
brackets are open at once in it is its `depth`, and that alone decides whether it can be read within
a number of brackets (`isReadableWithin_iff`).
-/

namespace TriggerRule.Json

/-! ## Reading the lexemes -/

/-- An entry with a key that names a text. -/
def named (entry : String × Json) : Option String × Json := (some entry.1, entry.2)

/-- Entries of which every key names a text make an object. -/
theorem ofEntries_named (entries : List (String × Json)) :
    ofEntries (entries.map named).reverse = object entries := by
  have hall : ∀ {key : Option String × Json → Option (String × Json)},
      (∀ entry, key (named entry) = some entry) →
      ∀ entries : List (String × Json), (entries.map named).mapM key = some entries := by
    intro key hkey entries
    induction entries with
    | nil => rfl
    | cons entry entries ih => simp [List.mapM_cons, ih, hkey]
  rw [ofEntries, ← List.map_reverse, hall]
  · exact congrArg object entries.reverse_reverse
  · intro entry
    rfl

namespace Reader

/-- The first lexeme of a document is no closing bracket, so an array that was just opened takes it
for the start of an item. -/
theorem run_firstItem (outer : List Container) (item : Json) (items : List Json)
    (rest : List Lexeme) :
    (firstItem outer).run (itemLexemes (item :: items) ++ rest) =
      (value (.array [] :: outer)).run (itemLexemes (item :: items) ++ rest) := by
  have hitem : ∀ later, (firstItem outer).run (item.lexemes ++ later) =
      (value (.array [] :: outer)).run (item.lexemes ++ later) := by
    intro later
    cases item <;> rfl
  cases items with
  | nil => exact hitem rest
  | cons next items =>
    rw [itemLexemes, List.append_assoc]
    · exact hitem _
    · simp

theorem run_firstKey (outer : List Container) (entry : String × Json)
    (entries : List (String × Json)) (rest : List Lexeme) :
    (firstKey outer).run (entryLexemes (entry :: entries) ++ rest) =
      (key outer []).run (entryLexemes (entry :: entries) ++ rest) := by
  cases entries <;> rfl

mutual

/-- The lexemes of a document are read as the document, whatever follows them. -/
theorem run_lexemes : ∀ (document : Json) (outer : List Container) (rest : List Lexeme),
    (value outer).run (document.lexemes ++ rest) = (done outer document).run rest
  | .null, _, _ => rfl
  | .bool _, _, _ => rfl
  | .number _, _, _ => rfl
  | .string _, _, _ => rfl
  | .array [], _, _ => rfl
  | .array (item :: items), outer, rest => by
    have hitems := run_itemLexemes (item :: items) [] outer rest (by simp)
    rw [← run_firstItem] at hitems
    rw [lexemes, List.append_assoc]
    exact hitems
  | .object [], _, _ => rfl
  | .object (entry :: entries), outer, rest => by
    have hentries := run_entryLexemes (entry :: entries) [] outer rest (by simp)
    rw [← run_firstKey, List.append_nil, ofEntries_named] at hentries
    rw [lexemes, List.append_assoc]
    exact hentries
  | .unreadable, _, _ => rfl

/-- The rest of an array is read behind the items before it. -/
theorem run_itemLexemes : ∀ (items before : List Json) (outer : List Container)
    (rest : List Lexeme), items ≠ [] →
    (value (.array before :: outer)).run (itemLexemes items ++ .closeArray :: rest) =
      (done outer (array (before.reverse ++ items))).run rest
  | [], _, _, _, h => absurd rfl h
  | [item], before, outer, rest, _ => by
    rw [itemLexemes, run_lexemes item, ← List.reverse_cons]
    rfl
  | item :: next :: items, before, outer, rest, _ => by
    have hitems := run_itemLexemes (next :: items) (item :: before) outer rest (by simp)
    rw [List.reverse_cons, List.append_assoc] at hitems
    rw [itemLexemes, List.append_assoc, run_lexemes item]
    · exact hitems
    · simp

/-- The rest of an object is read behind the entries before it. -/
theorem run_entryLexemes : ∀ (entries : List (String × Json)) (before : Entries)
    (outer : List Container) (rest : List Lexeme), entries ≠ [] →
    (key outer before).run (entryLexemes entries ++ .closeObject :: rest) =
      (done outer (ofEntries ((entries.map named).reverse ++ before))).run rest
  | [], _, _, _, h => absurd rfl h
  | [(name, item)], before, outer, rest, _ =>
    run_lexemes item (.object before (some name) :: outer) (.closeObject :: rest)
  | (name, item) :: next :: entries, before, outer, rest, _ => by
    have hitem := run_lexemes item (.object before (some name) :: outer)
      (.comma :: (entryLexemes (next :: entries) ++ .closeObject :: rest))
    have hentries := run_entryLexemes (next :: entries) (named (name, item) :: before) outer rest
      (by simp)
    rw [List.map_cons, List.reverse_cons, List.append_assoc, List.singleton_append, ← hentries,
      entryLexemes]
    · simp only [List.cons_append, List.append_assoc]
      exact hitem
    · simp

end

end Reader

theorem read?_of_laid {document : Json} {text : String}
    (h : Lexeme.Laid document.lexemes text.toList) : read? text = some document := by
  have hrun := Reader.run_lexemes document [] []
  rw [List.append_nil] at hrun
  simp only [read?, h.lexemes?_eq, hrun]
  rfl

/-- A plain document is read back from its text in either layout. -/
theorem read?_compact {document : Json} (h : document.Plain) :
    read? document.compact = some document := read?_of_laid (laid_compact h)

theorem read?_indented {document : Json} (h : document.Plain) :
    read? document.indented = some document := read?_of_laid (laid_indentedAt 0 h)

/-! ## Brackets -/

mutual

/-- How many brackets are open at once in the document. -/
def depth : Json → Nat
  | null | bool _ | number _ | string _ | unreadable => 0
  | array items => itemsDepth items + 1
  | object entries => entriesDepth entries + 1

/-- The deepest of the items. -/
def itemsDepth : List Json → Nat
  | [] => 0
  | item :: items => max item.depth (itemsDepth items)

/-- The deepest of the values of the entries. -/
def entriesDepth : List (String × Json) → Nat
  | [] => 0
  | (_, value) :: entries => max value.depth (entriesDepth entries)

end

mutual

/-- A plain document can be read if and only if no more brackets are open at once than may be. -/
theorem isReadableWithin_iff : ∀ {document : Json} (brackets : Nat), document.Plain →
    (document.isReadableWithin brackets = true ↔ document.depth ≤ brackets)
  | null, _, _ => by simp [isReadableWithin, depth]
  | bool _, _, _ => by simp [isReadableWithin, depth]
  | number _, _, h => h.elim
  | string _, _, _ => by simp [isReadableWithin, depth]
  | array _, 0, _ => by simp [isReadableWithin, depth]
  | array _, brackets + 1, h => by
    rw [isReadableWithin, depth, areReadableWithin_iff brackets h, Nat.add_le_add_iff_right]
  | object _, 0, _ => by simp [isReadableWithin, depth]
  | object _, brackets + 1, h => by
    rw [isReadableWithin, depth, entriesReadableWithin_iff brackets h, Nat.add_le_add_iff_right]
  | unreadable, _, h => h.elim

theorem areReadableWithin_iff : ∀ {items : List Json} (brackets : Nat), PlainItems items →
    (areReadableWithin brackets items = true ↔ itemsDepth items ≤ brackets)
  | [], _, _ => by simp [areReadableWithin, itemsDepth]
  | _ :: _, brackets, h => by
    rw [areReadableWithin, itemsDepth, Bool.and_eq_true, isReadableWithin_iff brackets h.1,
      areReadableWithin_iff brackets h.2, Nat.max_le]

theorem entriesReadableWithin_iff : ∀ {entries : List (String × Json)} (brackets : Nat),
    PlainEntries entries →
    (entriesReadableWithin brackets entries = true ↔ entriesDepth entries ≤ brackets)
  | [], _, _ => by simp [entriesReadableWithin, entriesDepth]
  | (_, _) :: _, brackets, h => by
    rw [entriesReadableWithin, entriesDepth, Bool.and_eq_true, isReadableWithin_iff brackets h.1,
      entriesReadableWithin_iff brackets h.2, Nat.max_le]

end

theorem isReadable_iff {document : Json} (h : document.Plain) :
    document.isReadable = true ↔ document.depth < 128 := by
  rw [isReadable, isReadableWithin_iff maxBrackets h, maxBrackets, Nat.lt_succ_iff]

end TriggerRule.Json
