import TriggerRule.Proofs.Reference
import TriggerRule.Proofs.Rule.Layout
import TriggerRule.Rule.Render

/-!
# What reading can return

Not every rule can be read from a text: a conjunction or a disjunction that is read has two parts or
more, no parameter is without a name, and no literal ends in a backslash, since the backslash would
have guarded its closing mark. `Rule.Writable` gathers this, and `Rule.nesting` is how deep the
groups of the rule nest once it is written out. How large a rule can get is bounded by how deep its
groups nest, whatever the measure (`Inside.measure_le`). Main statement: `writable_of_read`.
-/

namespace TriggerRule

/-- The text ends in a backslash. -/
def Text.EndsInBackslash (text : String) : Prop := text.toList.getLast? = some '\\'

instance : DecidablePred Text.EndsInBackslash := fun text =>
  inferInstanceAs (Decidable (text.toList.getLast? = some '\\'))

/-- Neither literal of the match ends in a backslash; that of the parameter ends as its name does.
-/
structure Match.Unguarded (condition : Match) : Prop where
  name : ¬Text.EndsInBackslash condition.parameter.name
  literal : ¬Text.EndsInBackslash condition.test.literal

namespace Rule

/-! ## Induction on the parts of a rule -/

section

variable {P : Rule → Prop}

@[elab_as_elim]
theorem induction_parts (leaf : ∀ m, P (.leaf m))
    (all : ∀ parts, (∀ part ∈ parts, P part) → P (.all parts))
    (any : ∀ parts, (∀ part ∈ parts, P part) → P (.any parts))
    (not : ∀ part, P part → P (.not part)) : ∀ rule, P rule
  | .leaf m => leaf m
  | .all parts => all parts fun part _ => induction_parts leaf all any not part
  | .any parts => any parts fun part _ => induction_parts leaf all any not part
  | .not part => not part (induction_parts leaf all any not part)

end

theorem mem_leavesList {m : Match} {parts : List Rule} :
    m ∈ leavesList parts ↔ ∃ part ∈ parts, m ∈ part.leaves := by
  induction parts with
  | nil => simp [leavesList]
  | cons part parts ih => simp [leavesList, ih]

theorem forall_leaves_of_mem {Q : Match → Prop} {part : Rule} {parts : List Rule}
    (h : ∀ m ∈ leavesList parts, Q m) (hp : part ∈ parts) : ∀ m ∈ part.leaves, Q m :=
  fun m hm => h m (mem_leavesList.2 ⟨part, hp, hm⟩)

/-! ## Branching and nesting -/

mutual

/-- Every conjunction and disjunction in the rule has two parts or more. -/
def Branched : Rule → Prop
  | leaf _ => True
  | all parts => 2 ≤ parts.length ∧ BranchedList parts
  | any parts => 2 ≤ parts.length ∧ BranchedList parts
  | not part => part.Branched

/-- The rules of the list are branched. -/
def BranchedList : List Rule → Prop
  | [] => True
  | part :: parts => part.Branched ∧ BranchedList parts

end

mutual

/-- How many groups are open at once where the rule is written out. A conjunction or a disjunction
is a group, and so is the part of a negation unless it is a group already. -/
def nesting : Rule → Nat
  | leaf _ => 0
  | all parts => nestingList parts + 1
  | any parts => nestingList parts + 1
  | not part => if part.isGroup then part.nesting else part.nesting + 1

/-- The deepest nesting among the rules of the list. -/
def nestingList : List Rule → Nat
  | [] => 0
  | part :: parts => max part.nesting (nestingList parts)

end

theorem branchedList_iff {parts : List Rule} :
    BranchedList parts ↔ ∀ part ∈ parts, part.Branched := by
  induction parts with
  | nil => simp [BranchedList]
  | cons part parts ih => simp [BranchedList, ih]

theorem branched_all_iff {parts : List Rule} :
    (all parts).Branched ↔ 2 ≤ parts.length ∧ ∀ part ∈ parts, part.Branched := by
  rw [Branched, branchedList_iff]

theorem branched_any_iff {parts : List Rule} :
    (any parts).Branched ↔ 2 ≤ parts.length ∧ ∀ part ∈ parts, part.Branched := by
  rw [Branched, branchedList_iff]

theorem nesting_le_nestingList {part : Rule} {parts : List Rule} (h : part ∈ parts) :
    part.nesting ≤ nestingList parts := by
  induction parts with
  | nil => simp at h
  | cons first parts ih =>
    rw [nestingList]
    rcases List.mem_cons.1 h with rfl | h
    · exact Nat.le_max_left _ _
    · exact Nat.le_trans (ih h) (Nat.le_max_right _ _)

/-- A measure of rules that is bounded on matches, and grows no more than so much from the part to a
negation and from the largest part to a conjunction or a disjunction. -/
structure GrowsBy (measure : Rule → Nat) (leaf negation group : Nat) : Prop where
  leaf_le : ∀ m, measure (.leaf m) ≤ leaf
  not_le : ∀ part, measure (.not part) ≤ measure part + negation
  all_le : ∀ parts n, (∀ part ∈ parts, measure part ≤ n) → measure (.all parts) ≤ n + group
  any_le : ∀ parts n, (∀ part ∈ parts, measure part ≤ n) → measure (.any parts) ≤ n + group

/-- A rule that is read back from its text, if its groups do not nest too deep. -/
structure Writable (rule : Rule) : Prop where
  branched : rule.Branched
  named : ∀ m ∈ rule.leaves, m.parameter.name ≠ ""
  unguarded : ∀ m ∈ rule.leaves, m.Unguarded

end Rule

namespace Grammar

/-! ## The shape of a derived rule -/

/-- The tokens hold the parameter and the literal of the match. -/
structure Shown (ts : List Token) (m : Match) : Prop where
  parameter : ∃ t ∈ ts, t.isLiteral = true ∧ Reference.parse t.text = .ok m.parameter
  literal : ∃ t ∈ ts, t.isLiteral = true ∧ t.text = m.test.literal

/-- The rule has the shape of a derivation, and the tokens hold its literals. -/
structure Shaped (ts : List Token) (r : Rule) : Prop where
  branched : r.Branched
  shown : ∀ m ∈ r.leaves, Shown ts m

section Shaped

variable {Inner : List Token → Rule → Prop} {ts us : List Token} {r : Rule} {rs : List Rule}

theorem Shaped.mono (h : Shaped ts r) (hsub : ts ⊆ us) : Shaped us r := by
  refine ⟨h.branched, ?_⟩
  intro m hm
  obtain ⟨⟨p, hp, hparameter⟩, ⟨v, hv, htext⟩⟩ := h.shown m hm
  exact ⟨⟨p, hsub hp, hparameter⟩, ⟨v, hsub hv, htext⟩⟩

theorem Shaped.not (h : Shaped ts r) : Shaped ts (.not r) := by
  refine ⟨?_, ?_⟩
  · rw [Rule.Branched]
    exact h.branched
  · rw [Rule.leaves]
    exact h.shown

/-- Two shaped rules or more make a shaped conjunction and a shaped disjunction. -/
theorem shaped_parts (hlength : 2 ≤ rs.length) (h : ∀ r ∈ rs, Shaped ts r) :
    Shaped ts (.all rs) ∧ Shaped ts (.any rs) := by
  have hbranched : ∀ r ∈ rs, r.Branched := fun r hr => (h r hr).branched
  have hshown : ∀ m ∈ Rule.leavesList rs, Shown ts m := by
    intro m hm
    obtain ⟨r, hr, hm⟩ := Rule.mem_leavesList.1 hm
    exact (h r hr).shown m hm
  constructor
  · refine ⟨Rule.branched_all_iff.2 ⟨hlength, hbranched⟩, ?_⟩
    rw [Rule.leaves]
    exact hshown
  · refine ⟨Rule.branched_any_iff.2 ⟨hlength, hbranched⟩, ?_⟩
    rw [Rule.leaves]
    exact hshown

theorem shaped_leaf {p v : Token} {reference : Reference} {test : Test} (hp : p ∈ ts)
    (hpl : p.isLiteral = true) (hparse : Reference.parse p.text = .ok reference) (hv : v ∈ ts)
    (hvl : v.isLiteral = true) (htext : v.text = test.literal) :
    Shaped ts (.leaf ⟨reference, test⟩) := by
  refine ⟨?_, ?_⟩
  · rw [Rule.Branched]
    trivial
  · intro m hm
    rw [Rule.leaves] at hm
    obtain rfl := List.mem_singleton.1 hm
    exact ⟨⟨p, hp, hpl, hparse⟩, ⟨v, hv, hvl, htext⟩⟩

theorem Operand.shaped (hinner : ∀ ts r, Inner ts r → Shaped ts r) (h : Operand Inner ts r) :
    Shaped ts r := by
  have hbody : ∀ {opening body closing : List Token}, body ⊆ opening ++ body ++ closing := by
    intro opening body closing t ht
    exact List.mem_append_left _ (List.mem_append_right _ ht)
  cases h with
  | value h hp =>
    cases h with
    | value hpl he hv => exact shaped_leaf (by simp) hpl hp (by simp) hv rfl
  | regex h hp =>
    cases h with
    | regex hpl he hv => exact shaped_leaf (by simp) hpl hp (by simp) hv rfl
  | hash h ht hp =>
    cases h with
    | hash hpl he hw ho htl hc hs hr =>
      exact shaped_leaf (List.mem_cons_self ..) hpl hp (by simp) hs rfl
  | group ho h hc => exact (hinner _ _ h).mono hbody
  | negation ho h hc => exact ((hinner _ _ h).mono hbody).not

theorem Derives.shaped {openings : Nat} (h : Derives openings ts r) : Shaped ts r := by
  have hparts : ∀ {operator : Token.Kind} {ts : List Token} {rs : List Rule},
      Joined operator Shaped ts rs → ∀ r ∈ rs, Shaped ts r := by
    intro operator ts rs h r hr
    obtain ⟨us, hsub, hu⟩ := h.exists_of_mem hr
    exact hu.mono hsub
  have hclosed : Closed Shaped := by
    refine ⟨?_, ?_, ?_⟩
    · exact fun ts r h => h.shaped fun _ _ h => h
    · exact fun ts rs h hlength => (shaped_parts hlength (hparts h)).1
    · exact fun ts rs h hlength => (shaped_parts hlength (hparts h)).2
  exact hclosed.derives h

end Shaped

/-! ## The size of a derived rule -/

section Measure

variable {measure : Rule → Nat} {leaf negation group n : Nat} {Inner : List Token → Rule → Prop}
  {ts : List Token} {r : Rule}

theorem Operand.measure_le (hm : Rule.GrowsBy measure leaf negation group)
    (hleaf : leaf ≤ n + negation) (hinner : ∀ ts r, Inner ts r → measure r ≤ n)
    (h : Operand Inner ts r) : measure r ≤ n + negation := by
  cases h with
  | value h hp => exact Nat.le_trans (hm.leaf_le _) hleaf
  | regex h hp => exact Nat.le_trans (hm.leaf_le _) hleaf
  | hash h ht hp => exact Nat.le_trans (hm.leaf_le _) hleaf
  | group ho h hc => exact Nat.le_trans (hinner _ _ h) (Nat.le_add_right ..)
  | negation ho h hc =>
    exact Nat.le_trans (hm.not_le _) (Nat.add_le_add_right (hinner _ _ h) negation)

theorem Run.measure_le (hm : Rule.GrowsBy measure leaf negation group)
    (hleaf : leaf ≤ n + negation) (hinner : ∀ ts r, Inner ts r → measure r ≤ n)
    (h : Run Inner ts r) : measure r ≤ n + negation + group := by
  have hparts : ∀ {ts : List Token} {rs : List Rule}, Joined .and (Operand Inner) ts rs →
      ∀ r ∈ rs, measure r ≤ n + negation := by
    intro ts rs h r hr
    obtain ⟨us, -, hu⟩ := h.exists_of_mem hr
    exact hu.measure_le hm hleaf hinner
  cases h with
  | single h =>
    exact Nat.le_trans (hparts h r (List.mem_singleton.2 rfl)) (Nat.le_add_right ..)
  | all h hlength => exact hm.all_le _ _ (hparts h)

/-- A level adds a disjunction, a conjunction and a negation at most. -/
theorem Level.measure_le (hm : Rule.GrowsBy measure leaf negation group)
    (hleaf : leaf ≤ n + negation) (hinner : ∀ ts r, Inner ts r → measure r ≤ n)
    (h : Level Inner ts r) : measure r ≤ n + negation + group + group := by
  have hparts : ∀ {ts : List Token} {rs : List Rule}, Joined .or (Run Inner) ts rs →
      ∀ r ∈ rs, measure r ≤ n + negation + group := by
    intro ts rs h r hr
    obtain ⟨us, -, hu⟩ := h.exists_of_mem hr
    exact hu.measure_le hm hleaf hinner
  cases h with
  | single h =>
    exact Nat.le_trans (hparts h r (List.mem_singleton.2 rfl)) (Nat.le_add_right ..)
  | any h hlength => exact hm.any_le _ _ (hparts h)

theorem Inside.measure_le (hm : Rule.GrowsBy measure leaf negation group) (h : Inside n ts r) :
    measure r ≤ (negation + 2 * group) * n + (leaf - negation) := by
  induction n generalizing ts r with
  | zero => exact h.elim
  | succ n ih =>
    -- what the bound starts from lets a match be as large as a negation
    have hle := Level.measure_le hm (by omega) (fun _ _ h => ih h) h
    rw [Nat.mul_succ]
    omega

end Measure

end Grammar

/-- No literal of a text ends in a backslash. -/
theorem Token.Laid.not_endsInBackslash {ts : List Token} {cs : List Char} (h : Laid ts cs) :
    ∀ t ∈ ts, t.isLiteral = true → ¬Text.EndsInBackslash t.text := by
  induction h with
  | blanks hw => simp
  | token hw hs h ih =>
    refine List.forall_mem_cons.2 ⟨?_, ih⟩
    intro hl
    cases hs with
    | fixed h =>
      have hfixed : ∀ entry ∈ fixedSpellings, entry.1.isLiteral = false := by decide
      exact absurd ((hfixed _ h).symm.trans hl) (by decide)
    | sha1 h => exact absurd hl (by simp [Token.isLiteral, Kind.isLiteral])
    | literal mark h => simpa [Text.EndsInBackslash] using h

namespace Rule

theorem writable_of_laid {body : List Token} {cs : List Char} {openings : Nat} {rule : Rule}
    (hl : Token.Laid body cs) (hd : Grammar.Derives openings body rule) : rule.Writable := by
  have hs := hd.shaped
  refine ⟨hs.branched, ?_, ?_⟩
  · intro m hm
    obtain ⟨t, -, -, hp⟩ := (hs.shown m hm).parameter
    exact Reference.name_ne_of_parse hp
  · intro m hm
    obtain ⟨t, ht, htl, hp⟩ := (hs.shown m hm).parameter
    obtain ⟨u, hu, hul, htext⟩ := (hs.shown m hm).literal
    refine ⟨?_, ?_⟩
    · intro hend
      apply hl.not_endsInBackslash t ht htl
      rw [← Reference.render_of_parse hp]
      exact (Reference.getLast?_render (by decide) _).2 hend
    · intro hend
      apply hl.not_endsInBackslash u hu hul
      rw [htext]
      exact hend

/-- Every rule that is read from a text has the shape of a rule that can be written. -/
theorem writable_of_read {text : String} {rule : Rule} (h : read text = .ok rule) :
    rule.Writable := by
  obtain ⟨body, hl, hd⟩ := read_eq_ok_iff_derives.1 h
  exact writable_of_laid hl hd

end Rule

end TriggerRule
