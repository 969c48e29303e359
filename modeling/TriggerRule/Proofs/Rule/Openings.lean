import TriggerRule.Proofs.Rule.Rendering

/-!
# Which rules have a text

Since `&&` binds tighter than `||`, not every conjunction and disjunction has to stand in
parentheses. `Rule.openings` counts how many groups are open at once in a text of a rule that has
parentheses just where they are needed. No text of the rule gets by with fewer
(`Derives.openings_le`), and one does with as many (`spared_of_branched`). Main statement:
`exists_read_eq_ok_iff`, by which a rule has a text if and only if it is writable and takes no more
groups than may be open at once.
-/

namespace TriggerRule

open Token Grammar

namespace Rule

/-! ## The groups that a rule needs -/

def isAny : Rule → Bool
  | any _ => true
  | _ => false

mutual

/-- How many groups have to be open at once where the rule is written. -/
def openings : Rule → Nat
  | leaf _ => 0
  | all parts => factorOpenings parts
  | any parts => termOpenings parts
  | not part => part.openings + 1

/-- The most groups that a part of a conjunction needs; if it is a conjunction or a disjunction
itself, it is one more group. -/
def factorOpenings : List Rule → Nat
  | [] => 0
  | part :: parts =>
    max (if part.isGroup then part.openings + 1 else part.openings) (factorOpenings parts)

/-- The most groups that a part of a disjunction needs; if it is a disjunction itself, it is one
more group, and a conjunction is none. -/
def termOpenings : List Rule → Nat
  | [] => 0
  | part :: parts =>
    max (if part.isAny then part.openings + 1 else part.openings) (termOpenings parts)

end

/-- The groups that the rule needs where an operand stands. -/
def operandOpenings (rule : Rule) : Nat :=
  if rule.isGroup then rule.openings + 1 else rule.openings

/-- The groups that the rule needs where a run of operands stands. -/
def runOpenings (rule : Rule) : Nat :=
  if rule.isAny then rule.openings + 1 else rule.openings

theorem factorOpenings_le_iff {parts : List Rule} {n : Nat} :
    factorOpenings parts ≤ n ↔ ∀ part ∈ parts, part.operandOpenings ≤ n := by
  induction parts with
  | nil => simp [factorOpenings]
  | cons part parts ih => rw [factorOpenings, Nat.max_le, ih, List.forall_mem_cons, operandOpenings]

theorem termOpenings_le_iff {parts : List Rule} {n : Nat} :
    termOpenings parts ≤ n ↔ ∀ part ∈ parts, part.runOpenings ≤ n := by
  induction parts with
  | nil => simp [termOpenings]
  | cons part parts ih => rw [termOpenings, Nat.max_le, ih, List.forall_mem_cons, runOpenings]

theorem openings_le_runOpenings (rule : Rule) : rule.openings ≤ rule.runOpenings := by
  unfold runOpenings
  split <;> omega

theorem runOpenings_le_operandOpenings (rule : Rule) :
    rule.runOpenings ≤ rule.operandOpenings := by
  cases rule <;> simp [runOpenings, operandOpenings, isAny, isGroup]

theorem operandOpenings_le_succ (rule : Rule) : rule.operandOpenings ≤ rule.openings + 1 := by
  unfold operandOpenings
  split <;> omega

end Rule

/-! ## No text gets by with fewer -/

namespace Grammar

variable {Inner : List Token → Rule → Prop} {ts : List Token} {r : Rule} {n : Nat}

theorem Operand.openings_le (hinner : ∀ ts r, Inner ts r → r.openings < n)
    (h : Operand Inner ts r) : r.operandOpenings ≤ n := by
  cases h with
  | value h hp => exact Nat.zero_le n
  | regex h hp => exact Nat.zero_le n
  | hash h ht hp => exact Nat.zero_le n
  | group ho h hc => exact Nat.le_trans r.operandOpenings_le_succ (hinner _ _ h)
  | negation ho h hc => exact hinner _ _ h

theorem Run.openings_le (hinner : ∀ ts r, Inner ts r → r.openings < n) (h : Run Inner ts r) :
    r.runOpenings ≤ n := by
  have hparts : ∀ {ts : List Token} {rs : List Rule}, Joined .and (Operand Inner) ts rs →
      ∀ r ∈ rs, r.operandOpenings ≤ n := by
    intro ts rs h r hr
    obtain ⟨us, -, hu⟩ := h.exists_of_mem hr
    exact hu.openings_le hinner
  cases h with
  | single h =>
    exact Nat.le_trans r.runOpenings_le_operandOpenings (hparts h r (List.mem_singleton.2 rfl))
  | all h hlength => exact Rule.factorOpenings_le_iff.2 (hparts h)

theorem Level.openings_le (hinner : ∀ ts r, Inner ts r → r.openings < n) (h : Level Inner ts r) :
    r.openings ≤ n := by
  have hparts : ∀ {ts : List Token} {rs : List Rule}, Joined .or (Run Inner) ts rs →
      ∀ r ∈ rs, r.runOpenings ≤ n := by
    intro ts rs h r hr
    obtain ⟨us, -, hu⟩ := h.exists_of_mem hr
    exact hu.openings_le hinner
  cases h with
  | single h =>
    exact Nat.le_trans r.openings_le_runOpenings (hparts h r (List.mem_singleton.2 rfl))
  | any h hlength => exact Rule.termOpenings_le_iff.2 (hparts h)

theorem Inside.openings_lt (h : Inside n ts r) : r.openings < n := by
  induction n generalizing ts r with
  | zero => exact h.elim
  | succ n ih => exact Nat.lt_succ_of_le (Level.openings_le (fun _ _ h => ih h) h)

/-- A derivation has as many groups open at once as its rule needs, or more. -/
theorem Derives.openings_le {openings : Nat} (h : Derives openings ts r) :
    r.openings ≤ openings := by
  have hinside : Inside (openings + 1) ts r := h
  exact Nat.le_of_lt_succ hinside.openings_lt

end Grammar

/-! ## A text with as many -/

namespace Rule

/-- There is a text of the form for the rule. -/
def Stated (Form : List Token → Rule → Prop) (rule : Rule) : Prop :=
  ∃ ts cs, Laid ts cs ∧ Form ts rule

variable {Form Form' : List Token → Rule → Prop} {rule : Rule}

theorem Stated.imp (hform : ∀ ts, Form ts rule → Form' ts rule) (h : Stated Form rule) :
    Stated Form' rule := by
  obtain ⟨ts, cs, hl, hf⟩ := h
  exact ⟨ts, cs, hl, hform ts hf⟩

/-- Parts that have texts are joined by an operator. -/
theorem exists_joined {operator : Kind} (hspelling : operator.spelling ≠ []) {parts : List Rule}
    (hne : parts ≠ []) (h : ∀ part ∈ parts, Stated Form part) :
    ∃ ts cs, Laid ts cs ∧ Joined operator Form ts parts := by
  induction parts with
  | nil => exact absurd rfl hne
  | cons part parts ih =>
    obtain ⟨ts, cs, hl, hf⟩ := h part (List.mem_cons_self ..)
    by_cases hparts : parts = []
    · subst hparts
      exact ⟨ts, cs, hl, .one hf⟩
    · obtain ⟨us, ds, hus, hu⟩ := ih hparts fun p hp => h p (List.mem_cons_of_mem _ hp)
      exact ⟨ts ++ ([word operator] ++ us), _, hl.append ((laid_word hspelling).append hus),
        .cons hf rfl hu⟩

theorem Stated.operand_mono {m n : Nat} (hmn : m ≤ n) (h : Stated (Operand (Inside m)) rule) :
    Stated (Operand (Inside n)) rule :=
  h.imp fun _ ht => ht.imp fun _ _ hr => hr.mono hmn

theorem Stated.run_mono {m n : Nat} (hmn : m ≤ n) (h : Stated (Run (Inside m)) rule) :
    Stated (Run (Inside n)) rule :=
  h.imp fun _ ht => ht.imp fun _ _ hr => hr.mono hmn

theorem Stated.group {n : Nat} (h : Stated (Level (Inside n)) rule) :
    Stated (Operand (Inside (n + 1))) rule := by
  obtain ⟨ts, cs, hl, hd⟩ := h
  have hopen : Laid [word .openParen] _ := laid_word (by decide)
  have hclose : Laid [word .closeParen] _ := laid_word (by decide)
  exact ⟨_, _, (hopen.append hl).append hclose, operand_enclosed hd⟩

theorem Stated.negation {n : Nat} (h : Stated (Level (Inside n)) rule) :
    Stated (Operand (Inside (n + 1))) rule.not := by
  obtain ⟨ts, cs, hl, hd⟩ := h
  have hnot : Laid [word .not] _ := laid_word (by decide)
  have hopen : Laid [word .openParen] _ := laid_word (by decide)
  have hclose : Laid [word .closeParen] _ := laid_word (by decide)
  exact ⟨_, _, hnot.append ((hopen.append hl).append hclose), operand_negation hd⟩

/-- Wherever the rule stands, it has a text with just the groups that it needs there. -/
structure Spared (rule : Rule) : Prop where
  operand : Stated (Operand (Inside rule.operandOpenings)) rule
  run : Stated (Run (Inside rule.runOpenings)) rule
  level : Stated (Level (Inside rule.openings)) rule

theorem spared_of_operand (hg : rule.isGroup = false)
    (h : Stated (Operand (Inside rule.openings)) rule) : rule.Spared := by
  have hoperand : rule.operandOpenings = rule.openings := by simp [operandOpenings, hg]
  have hrun : rule.runOpenings = rule.openings := by
    have hle := rule.runOpenings_le_operandOpenings
    rw [hoperand] at hle
    exact Nat.le_antisymm hle rule.openings_le_runOpenings
  refine ⟨?_, ?_, ?_⟩
  · rw [hoperand]
    exact h
  · rw [hrun]
    exact h.imp fun ts ht => .single (.one ht)
  · exact h.imp fun ts ht => .of_operand ht

/-- A conjunction or a disjunction is an operand as a group. -/
theorem spared_of_level (hg : rule.isGroup = true)
    (hrun : rule.isAny = false → Stated (Run (Inside rule.openings)) rule)
    (h : Stated (Level (Inside rule.openings)) rule) : rule.Spared := by
  have hoperand : rule.operandOpenings = rule.openings + 1 := by simp [operandOpenings, hg]
  refine ⟨?_, ?_, h⟩
  · rw [hoperand]
    exact h.group
  · by_cases ha : rule.isAny = true
    · rw [runOpenings, if_pos ha]
      exact h.group.imp fun ts ht => .single (.one ht)
    · rw [runOpenings, if_neg ha]
      exact hrun (Bool.eq_false_iff.2 ha)

/-- A branched rule without empty names and unguarded literals has texts with just the groups that
it needs. -/
theorem spared_of_branched (hb : rule.Branched) (hn : ∀ m ∈ rule.leaves, m.parameter.name ≠ "")
    (hu : ∀ m ∈ rule.leaves, m.Unguarded) : rule.Spared := by
  induction rule using induction_parts with
  | leaf m =>
    have hm : m ∈ (leaf m).leaves := List.mem_singleton.2 rfl
    exact spared_of_operand rfl ⟨_, _, m.laid_render (hu m hm), m.operand_tokens (hn m hm) _⟩
  | all parts ih =>
    obtain ⟨hlength, hparts⟩ := branched_all_iff.1 hb
    have hspared : ∀ part ∈ parts, part.Spared := fun part hp =>
      ih part hp (hparts part hp) (forall_leaves_of_mem hn hp) (forall_leaves_of_mem hu hp)
    have hrun : Stated (Run (Inside (all parts).openings)) (all parts) := by
      have hand : Kind.and.spelling ≠ [] := by simp [Kind.spelling]
      have hneed := factorOpenings_le_iff.1 (Nat.le_refl (factorOpenings parts))
      obtain ⟨ts, cs, hl, hj⟩ := exists_joined hand (List.ne_nil_of_length_pos (by omega))
        fun part hp => (hspared part hp).operand.operand_mono (hneed part hp)
      rw [openings]
      exact ⟨ts, cs, hl, .all hj hlength⟩
    exact spared_of_level rfl (fun _ => hrun) (hrun.imp fun ts ht => .single (.one ht))
  | any parts ih =>
    obtain ⟨hlength, hparts⟩ := branched_any_iff.1 hb
    have hspared : ∀ part ∈ parts, part.Spared := fun part hp =>
      ih part hp (hparts part hp) (forall_leaves_of_mem hn hp) (forall_leaves_of_mem hu hp)
    have hlevel : Stated (Level (Inside (any parts).openings)) (any parts) := by
      have hor : Kind.or.spelling ≠ [] := by simp [Kind.spelling]
      have hneed := termOpenings_le_iff.1 (Nat.le_refl (termOpenings parts))
      obtain ⟨ts, cs, hl, hj⟩ := exists_joined hor (List.ne_nil_of_length_pos (by omega))
        fun part hp => (hspared part hp).run.run_mono (hneed part hp)
      rw [openings]
      exact ⟨ts, cs, hl, .any hj hlength⟩
    exact spared_of_level rfl (by simp [isAny]) hlevel
  | not part ih =>
    rw [Branched] at hb
    have hpart := (ih hb hn hu).level.negation
    exact spared_of_operand rfl (by rw [openings]; exact hpart)

/-- **A rule has a text** if and only if it is writable and needs no more groups open at once than
the nesting limit allows. -/
theorem exists_read_eq_ok_iff (rule : Rule) :
    (∃ text, read text = .ok rule) ↔ rule.Writable ∧ rule.openings ≤ 127 := by
  constructor
  · rintro ⟨text, h⟩
    obtain ⟨body, -, hd⟩ := read_eq_ok_iff_derives.1 h
    exact ⟨writable_of_read h, hd.openings_le⟩
  · rintro ⟨hw, hle⟩
    obtain ⟨ts, cs, hl, hd⟩ := (spared_of_branched hw.branched hw.named hw.unguarded).level
    refine ⟨String.ofList cs, read_eq_ok_iff_derives.2 ⟨ts, ?_, ?_⟩⟩
    · rw [String.toList_ofList]
      exact hl
    · exact Derives.mono hle hd

end Rule

end TriggerRule
