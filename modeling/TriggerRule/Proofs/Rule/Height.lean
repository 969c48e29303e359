import TriggerRule.Proofs.Rule.Loading

/-!
# How high a rule can get

Reading bounds the groups that are open at once, and what is done with a rule afterwards follows its
tree: to render it, to write its document and to visit its matches are all to fold it, node by node
(`Fold`). A fold of a rule makes as many calls inside each other as the rule is high
(`Fold.runWithin_eq`), and each level of a rule that is read adds a disjunction, a conjunction and a
negation at most (`Derives.height_le`). Main statement: `parse_bounded`.
-/

namespace TriggerRule

open Token Grammar

namespace Rule

/-! ## The height of a rule -/

mutual

/-- How many nodes there are on the longest way from the rule down to a match. -/
def height : Rule → Nat
  | leaf _ => 1
  | all parts => heightList parts + 1
  | any parts => heightList parts + 1
  | not part => part.height + 1

/-- The height of the highest rule of the list. -/
def heightList : List Rule → Nat
  | [] => 0
  | part :: parts => max part.height (heightList parts)

end

theorem heightList_le_iff {parts : List Rule} {n : Nat} :
    heightList parts ≤ n ↔ ∀ part ∈ parts, part.height ≤ n := by
  induction parts with
  | nil => simp [heightList]
  | cons part parts ih => rw [heightList, Nat.max_le, ih, List.forall_mem_cons]

theorem height_growsBy : GrowsBy height 1 1 1 where
  leaf_le _ := Nat.le_refl 1
  not_le _ := Nat.le_refl _
  all_le _ _ h := Nat.add_le_add_right (heightList_le_iff.2 h) 1
  any_le _ _ h := Nat.add_le_add_right (heightList_le_iff.2 h) 1

end Rule

theorem Grammar.Derives.height_le {openings : Nat} {ts : List Token} {r : Rule}
    (h : Derives openings ts r) : r.height ≤ 3 * (openings + 1) := by
  have hinside : Inside (openings + 1) ts r := h
  exact hinside.measure_le Rule.height_growsBy

/-! ## Folding a rule -/

/-- What comes of each node of a rule, from what came of its parts. The part of a negation can be
looked at once more. -/
structure Fold (β : Type) where
  leaf : Match → β
  all : List β → β
  any : List β → β
  not : Rule → β → β

namespace Fold

variable {β : Type} (fold : Fold β)

mutual

def run : Rule → β
  | .leaf condition => fold.leaf condition
  | .all parts => fold.all (runList parts)
  | .any parts => fold.any (runList parts)
  | .not part => fold.not part (run part)

def runList : List Rule → List β
  | [] => []
  | part :: parts => run part :: runList parts

end

/-- Folds a rule with room for so many calls inside each other; there is nothing without room. -/
def runWithin : Nat → Rule → Option β
  | 0, _ => none
  | _ + 1, .leaf condition => some (fold.leaf condition)
  | room + 1, .all parts => (parts.mapM (runWithin room)).map fold.all
  | room + 1, .any parts => (parts.mapM (runWithin room)).map fold.any
  | room + 1, .not part => (runWithin room part).map (fold.not part)

theorem mapM_runWithin {room : Nat} {parts : List Rule}
    (h : ∀ part ∈ parts, fold.runWithin room part =
      if part.height ≤ room then some (fold.run part) else none) :
    parts.mapM (fold.runWithin room) =
      if Rule.heightList parts ≤ room then some (fold.runList parts) else none := by
  induction parts with
  | nil => simp [Rule.heightList, runList]
  | cons part parts ih =>
    obtain ⟨hpart, hparts⟩ := List.forall_mem_cons.1 h
    rw [List.mapM_cons, hpart, ih hparts, Rule.heightList, runList]
    simp only [Nat.max_le]
    by_cases hp : part.height ≤ room
    · by_cases hps : Rule.heightList parts ≤ room <;> simp [hp, hps]
    · simp [hp]

/-- A fold needs room for as many calls as the rule is high. -/
theorem runWithin_eq (room : Nat) (rule : Rule) : fold.runWithin room rule =
    if rule.height ≤ room then some (fold.run rule) else none := by
  -- the parts are folded with room for one call less
  induction room generalizing rule with
  | zero =>
    have hpos : 0 < rule.height := by cases rule <;> simp [Rule.height]
    rw [if_neg (Nat.not_le.2 hpos), runWithin]
  | succ room ih =>
    cases rule with
    | leaf condition => simp [runWithin, Rule.height, run]
    | all parts =>
      rw [runWithin, fold.mapM_runWithin fun part _ => ih part, Rule.height, run]
      simp [apply_ite]
    | any parts =>
      rw [runWithin, fold.mapM_runWithin fun part _ => ih part, Rule.height, run]
      simp [apply_ite]
    | not part =>
      rw [runWithin, ih, Rule.height, run]
      simp [apply_ite]

/-! ## What is done with a rule -/

/-- The text of a rule, from the texts of its parts. -/
def renderer : Fold String where
  leaf := Match.render
  all texts := "(" ++ " && ".intercalate texts ++ ")"
  any texts := "(" ++ " || ".intercalate texts ++ ")"
  not part text := if part.isGroup then "!" ++ text else "!(" ++ text ++ ")"

/-- The document of a rule, from the documents of its parts. -/
def writer : Fold Json where
  leaf condition := .object [("match", condition.toJson)]
  all documents := .object [("and", .array documents)]
  any documents := .object [("or", .array documents)]
  not _ document := .object [("not", document)]

/-- The visits to the matches of a rule, those of one part after those of another. -/
def visitor {m : Type → Type} [Monad m] (visit : Match → m Unit) : Fold (m Unit) where
  leaf := visit
  all visits := visits.forM id
  any visits := visits.forM id
  not _ visits := visits

mutual

theorem run_renderer : ∀ rule : Rule, renderer.run rule = rule.render
  | .leaf _ => rfl
  | .all parts => by
    rw [run, Rule.render, ← intercalate_renderer]
    rfl
  | .any parts => by
    rw [run, Rule.render, ← intercalate_renderer]
    rfl
  | .not part => by
    rw [run, Rule.render, run_renderer part]
    rfl

theorem intercalate_renderer (operator : String) : ∀ parts : List Rule,
    operator.intercalate (renderer.runList parts) = Rule.renderList operator parts
  | [] => rfl
  | [part] => by
    rw [runList, run_renderer part]
    rfl
  | part :: next :: parts => by
    have hrest := intercalate_renderer operator (next :: parts)
    rw [runList] at hrest
    rw [runList, runList, String.intercalate_cons_cons, run_renderer part, hrest]
    rfl

end

mutual

theorem run_writer : ∀ rule : Rule, writer.run rule = rule.toJson
  | .leaf _ => rfl
  | .all parts => by
    rw [run, Rule.toJson, runList_writer]
    rfl
  | .any parts => by
    rw [run, Rule.toJson, runList_writer]
    rfl
  | .not part => by
    rw [run, Rule.toJson, run_writer part]
    rfl

theorem runList_writer : ∀ parts : List Rule, writer.runList parts = Rule.listToJson parts
  | [] => rfl
  | part :: parts => by
    rw [runList, Rule.listToJson, run_writer part, runList_writer parts]

end

section

variable {m : Type → Type} [Monad m] (visit : Match → m Unit)

mutual

theorem run_visitor : ∀ rule : Rule, (visitor visit).run rule = rule.visitLeaves visit
  | .leaf _ => rfl
  | .all parts => forM_visitor parts
  | .any parts => forM_visitor parts
  | .not part => run_visitor part

theorem forM_visitor : ∀ parts : List Rule,
    ((visitor visit).runList parts).forM id = Rule.visitLeavesList visit parts
  | [] => rfl
  | part :: parts => by
    rw [runList, Rule.visitLeavesList, ← run_visitor part, ← forM_visitor parts]
    rfl

end

end

end Fold

namespace Rule

/-- **A rule that is read is bounded**, whatever tokens it is read from: every conjunction and
disjunction in it has two parts or more, every parameter has a name, and the rule is no higher than
384. So whatever is done with it node by node is done with 384 calls inside each other. -/
theorem parse_bounded {tokens : List Token} {rule : Rule} (h : parse tokens = .ok rule) :
    rule.Branched ∧ (∀ m ∈ rule.leaves, m.parameter.name ≠ "") ∧ rule.height ≤ 384 ∧
      (∀ (β : Type) (fold : Fold β), fold.runWithin 384 rule = some (fold.run rule)) ∧
      Fold.renderer.runWithin 384 rule = some rule.render ∧
      Fold.writer.runWithin 384 rule = some rule.toJson ∧
      ∀ (m : Type → Type) [Monad m] (visit : Match → m Unit),
        (Fold.visitor visit).runWithin 384 rule = some (rule.visitLeaves visit) := by
  obtain ⟨body, ending, rest, rfl, -, hd⟩ :=
    exists_derives_of_parseWithin (parse_eq_ok_iff_parseWithin.1 h)
  have hheight : rule.height ≤ 384 := hd.height_le
  have hfold : ∀ (β : Type) (fold : Fold β), fold.runWithin 384 rule = some (fold.run rule) := by
    intro β fold
    rw [fold.runWithin_eq, if_pos hheight]
  refine ⟨hd.shaped.branched, ?_, hheight, hfold, ?_, ?_, ?_⟩
  · intro m hm
    obtain ⟨t, -, -, hp⟩ := (hd.shaped.shown m hm).parameter
    exact Reference.name_ne_of_parse hp
  · rw [hfold, Fold.run_renderer]
  · rw [hfold, Fold.run_writer]
  · intro m _ visit
    rw [hfold, Fold.run_visitor]

/-- Every layer of the text is three nodes high. -/
theorem height_layered (m : Match) (n : Nat) : (layered m n).height = 3 * (n + 1) := by
  induction n with
  | zero => rfl
  | succ n ih =>
    simp only [layered, height, heightList, ih]
    omega

/-- As many layers as can be read are as high as a rule can get, and they are not rendered with room
for one call less. -/
theorem parse_bounded_layered :
    ∃ tokens, ofText (layeredText sampleMatch 127) = .ok tokens ∧
      parse tokens = .ok (layered sampleMatch 127) ∧
      Fold.renderer.runWithin 384 (layered sampleMatch 127) =
        some (layered sampleMatch 127).render ∧
      Fold.renderer.runWithin 383 (layered sampleMatch 127) = none := by
  obtain ⟨tokens, ht, hp⟩ := read_eq_ok_iff_exists.1 (read_layered_sample (Nat.le_refl 127))
  obtain ⟨-, -, -, -, hrender, -⟩ := parse_bounded hp
  refine ⟨tokens, ht, hp, hrender, ?_⟩
  rw [Fold.renderer.runWithin_eq, height_layered]
  rfl

end Rule

end TriggerRule
