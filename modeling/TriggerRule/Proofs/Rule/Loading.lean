import TriggerRule.Proofs.Rule.Document
import TriggerRule.Proofs.Rule.Limit
import TriggerRule.Proofs.Rule.RoundTrip

/-!
# Loading the rule of a text

In the document of a rule every node takes brackets of its own (`Rule.brackets`), so the document
nests deeper than the groups of the text do: runs that are joined without a parenthesis count as
well. Reading bounds the groups of a text and loading the brackets of a document, and the one bound
does not imply the other. A text with no more than 24 parentheses open at once is safe
(`Derives.brackets_le`), and one with 25 may be too deep already (`brackets_layered`). Main
statement: `load?_readToDocument`.
-/

namespace TriggerRule

open Token Grammar

namespace Rule

/-! ## The brackets of a rule -/

mutual

/-- How many brackets are open at once in the document of the rule: the object of a match holds the
match and its parameter, and the parts of a conjunction or a disjunction stand in an array. -/
def brackets : Rule → Nat
  | leaf _ => 3
  | all parts => bracketsList parts + 2
  | any parts => bracketsList parts + 2
  | not part => part.brackets + 1

/-- The most brackets of the rules of the list. -/
def bracketsList : List Rule → Nat
  | [] => 0
  | part :: parts => max part.brackets (bracketsList parts)

end

theorem bracketsList_le_iff {parts : List Rule} {n : Nat} :
    bracketsList parts ≤ n ↔ ∀ part ∈ parts, part.brackets ≤ n := by
  induction parts with
  | nil => simp [bracketsList]
  | cons part parts ih => rw [bracketsList, Nat.max_le, ih, List.forall_mem_cons]

mutual

theorem depth_toJson : ∀ rule : Rule, rule.toJson.depth = rule.brackets
  | leaf condition => rfl
  | all parts => by
    rw [toJson, brackets, ← itemsDepth_listToJson parts]
    simp [Json.depth, Json.entriesDepth]
  | any parts => by
    rw [toJson, brackets, ← itemsDepth_listToJson parts]
    simp [Json.depth, Json.entriesDepth]
  | not part => by
    rw [toJson, brackets, ← depth_toJson part]
    simp [Json.depth, Json.entriesDepth]

theorem itemsDepth_listToJson : ∀ parts : List Rule,
    Json.itemsDepth (listToJson parts) = bracketsList parts
  | [] => rfl
  | part :: parts => by
    rw [listToJson, Json.itemsDepth, depth_toJson part, itemsDepth_listToJson parts, bracketsList]

end

/-- The document of a rule is loaded back unless it has too many brackets, and refused if so. -/
theorem load?_write_eq (rule : Rule) (indent : Bool) :
    load? (rule.write indent) = if rule.brackets < 128 then some rule else none := by
  have hp := rule.plain_toJson
  rw [load?, write, Json.read?_write hp, Option.bind_some, ← depth_toJson, ofJson?_toJson]
  by_cases hr : rule.toJson.isReadable = true
  · rw [if_pos hr, if_pos ((Json.isReadable_iff hp).1 hr)]
  · rw [if_neg hr, if_neg fun hd => hr ((Json.isReadable_iff hp).2 hd)]

end Rule

/-! ## Groups and brackets -/

theorem Rule.brackets_growsBy : Rule.GrowsBy Rule.brackets 3 1 2 where
  leaf_le _ := Nat.le_refl 3
  not_le _ := Nat.le_refl _
  all_le _ _ h := Nat.add_le_add_right (Rule.bracketsList_le_iff.2 h) 2
  any_le _ _ h := Nat.add_le_add_right (Rule.bracketsList_le_iff.2 h) 2

namespace Grammar

/-- Each level takes five brackets at most: two for a disjunction, two for a conjunction, and one
for a negation. -/
theorem Derives.brackets_le {openings : Nat} {ts : List Token} {r : Rule}
    (h : Derives openings ts r) : r.brackets ≤ 5 * openings + 7 := by
  have hinside : Inside (openings + 1) ts r := h
  exact hinside.measure_le Rule.brackets_growsBy

end Grammar

namespace Rule

/-! ## Texts in layers -/

/-- A text in which every level has a disjunction, a conjunction and a negation around the next. -/
def layeredText (m : Match) : Nat → String
  | 0 => mixedText m
  | n + 1 => m.render ++ " || " ++ m.render ++ " && " ++ ("!(" ++ layeredText m n ++ ")")

/-- The rule of that text. -/
def layered (m : Match) : Nat → Rule
  | 0 => mixed m
  | n + 1 => .any [.leaf m, .all [.leaf m, .not (layered m n)]]

theorem exists_derives_layered {m : Match} (hm : m.Unguarded) (hn : m.parameter.name ≠ "")
    (n : Nat) : ∃ ts, Laid ts (layeredText m n).toList ∧ Derives n ts (layered m n) := by
  induction n with
  | zero => exact exists_derives_mixed hm hn
  | succ n ih =>
    obtain ⟨ts, hl, hd⟩ := ih
    have hinside : Inside (n + 1) ts (layered m n) := hd
    exact exists_derives_match_or hm hn (laid_negation hl) (operand_negation hinside)

theorem read_layeredText {m : Match} (hm : m.Unguarded) (hn : m.parameter.name ≠ "") {n : Nat}
    (h : n ≤ 127) : read (layeredText m n) = .ok (layered m n) := by
  obtain ⟨ts, hl, hd⟩ := exists_derives_layered hm hn n
  exact read_eq_ok_iff_derives.2 ⟨ts, hl, hd.mono h⟩

/-- The layers take as many brackets as there may be. -/
theorem brackets_layered (m : Match) (n : Nat) : (layered m n).brackets = 5 * n + 7 := by
  induction n with
  | zero => rfl
  | succ n ih =>
    simp only [layered, brackets, bracketsList, ih]
    omega

/-! ## From text to document and back -/

/-- **The rule of a text is loaded back** from its document, in either layout, if and only if fewer
than 128 brackets are open at once there; otherwise the document is refused. A text with no more
than 24 parentheses open at once is always loaded back. -/
theorem load?_readToDocument {text : String} {rule : Rule} (h : read text = .ok rule)
    (indent : Bool) : ∃ document, readToDocument indent text = .ok document ∧
      (load? document = some rule ↔ rule.brackets < 128) ∧
      (128 ≤ rule.brackets → load? document = none) ∧
      ∀ tokens, ofText text = .ok tokens → OpensWithin 24 tokens →
        load? document = some rule := by
  have hload : load? (rule.write indent) = some rule ↔ rule.brackets < 128 := by
    rw [load?_write_eq]
    split <;> simp [*]
  refine ⟨rule.write indent, ?_, hload, ?_, ?_⟩
  · rw [readToDocument, h]
    rfl
  · intro hdeep
    rw [load?_write_eq, if_neg (Nat.not_lt.2 hdeep)]
  · intro tokens ht hopens
    have hmost : ∀ tokens, ofText text = .ok tokens → OpensWithin 24 tokens := by
      intro others ho
      obtain rfl := Except.ok.inj (ht.symm.trans ho)
      exact hopens
    obtain ⟨body, -, hd⟩ := exists_derives_of_opensWithin (by decide) h hmost
    exact hload.2 (Nat.lt_succ_of_le hd.brackets_le)

theorem read_layered_sample {n : Nat} (h : n ≤ 127) :
    read (layeredText sampleMatch n) = .ok (layered sampleMatch n) :=
  read_layeredText ⟨by decide, by decide⟩ (by decide) h

/-- A sample of 24 layers is loaded back. -/
theorem load?_readToDocument_layered :
    read (layeredText sampleMatch 24) = .ok (layered sampleMatch 24) ∧
      ∃ document, readToDocument true (layeredText sampleMatch 24) = .ok document ∧
        load? document = some (layered sampleMatch 24) := by
  have h := read_layered_sample (show 24 ≤ 127 by decide)
  obtain ⟨document, hwrite, hload, -⟩ := load?_readToDocument h true
  refine ⟨h, document, hwrite, hload.2 ?_⟩
  rw [brackets_layered]
  decide

/-- With one layer more the sample is read, but its document is not loaded back. -/
theorem load?_readToDocument_ne_of_layered :
    read (layeredText sampleMatch 25) = .ok (layered sampleMatch 25) ∧
      ∃ document, readToDocument false (layeredText sampleMatch 25) = .ok document ∧
        load? document ≠ some (layered sampleMatch 25) := by
  have h := read_layered_sample (show 25 ≤ 127 by decide)
  refine ⟨h, (layered sampleMatch 25).write false, ?_, ?_⟩
  · rw [readToDocument, h]
    rfl
  · rw [load?_write_eq, brackets_layered]
    simp

end Rule

end TriggerRule
