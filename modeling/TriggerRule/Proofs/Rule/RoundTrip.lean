import TriggerRule.Proofs.Rule.Rendering

/-!
# Reading a rendered rule back

The text of a rule is read back as the rule if and only if the rule is writable and its groups do
not nest past the limit (`read_render_eq_ok_iff`). A rule that was read is always writable, but it
may nest too deep: the text it was read from had no parentheses where precedence said enough, and
the rendering has them everywhere. Then reading fails at the first group too many (`TooDeep`), and
this is the only way it can (`read_render_of_read`).
-/

namespace TriggerRule

open Token Grammar

namespace Nest

/-! ## Tokens that are refused -/

variable {limit : Nat} {nest next : Nest} {ts us : List Token} {cause : Cause}

/-- Reading the tokens fails for the cause, whatever follows them. -/
def Refuses (limit : Nat) (nest : Nest) (ts : List Token) (cause : Cause) : Prop :=
  ∀ index rest, ∃ failure, nest.readFrom limit index (ts ++ rest) = .error failure ∧
    failure.origin.1 = cause

theorem Refuses.append (h : Refuses limit nest ts cause) (us : List Token) :
    Refuses limit nest (ts ++ us) cause := by
  intro index rest
  rw [List.append_assoc]
  exact h index (us ++ rest)

theorem Reads.refuses (h : Reads limit nest ts next) (hu : Refuses limit next us cause) :
    Refuses limit nest (ts ++ us) cause := by
  intro index rest
  rw [List.append_assoc, h]
  exact hu _ _

/-- A group is refused where its level would be past the limit, and where its body is. -/
theorem refuses_group {waiting : List Frame} {operands : Operands} {opening body : List Token}
    {enclosure : Enclosure} (hopening : Phrase.Written opening (.operand enclosure.opening))
    (ho : operands.takesOperand = true)
    (hbody : waiting.length + 1 < limit → ∀ frame,
      Refuses limit ⟨frame :: waiting, .empty⟩ body .nestingTooDeep) :
    Refuses limit ⟨waiting, operands⟩ (opening ++ body) .nestingTooDeep := by
  intro index rest
  by_cases hlimit : limit ≤ waiting.length + 1
  · refine ⟨(Nest.mk waiting operands).fail .nestingTooDeep index, ?_, ?_⟩
    · rw [List.append_assoc]
      apply readFrom_append_of_error hopening
      rw [step_opening ho, openLevel]
      exact if_pos hlimit
    · rw [fail, Failure.origin_wrap]
  · have hopen : (Nest.mk waiting operands).step limit index (.operand enclosure.opening) =
        .ok ⟨⟨enclosure, index, operands⟩ :: waiting, .empty⟩ := by
      rw [step_opening ho, openLevel]
      exact if_neg hlimit
    rw [List.append_assoc, readFrom_append_of_ok hopening hopen]
    exact hbody (Nat.not_le.1 hlimit) _ _ _

/-- After an operand, an operator is read and makes room for the next operand. -/
theorem exists_reads_operator {operator : Kind} (hoperator : operator = .and ∨ operator = .or)
    {waiting : List Frame} (operands : Operands) (part : Rule) :
    ∃ after : Operands, after.takesOperand = true ∧
      Reads limit ⟨waiting, operands.add part⟩ [word operator] ⟨waiting, after⟩ := by
  have ho : (operands.add part).takesOperator = true := by
    simp [Operands.takesOperator_eq]
  rcases hoperator with rfl | rfl
  · exact ⟨_, Operands.takesOperand_addAnd _, reads_and rfl ho⟩
  · exact ⟨_, Operands.takesOperand_addOr _, reads_or rfl ho⟩

end Nest

/-! ## Rules that nest too deep -/

namespace Rule

open Nest

variable {limit : Nat}

/-- Where a rule nests past the limit its tokens are refused, as an operand of a level and as what a
group holds. -/
structure TooDeep (limit : Nat) (rule : Rule) : Prop where
  tokens : ∀ waiting operands, operands.takesOperand = true → waiting.length + 1 ≤ limit →
    limit < waiting.length + 1 + rule.nesting →
    Refuses limit ⟨waiting, operands⟩ rule.tokens .nestingTooDeep
  body : ∀ waiting, waiting.length + 1 ≤ limit → limit < waiting.length + rule.not.nesting →
    Refuses limit ⟨waiting, .empty⟩ rule.body .nestingTooDeep

theorem tooDeep_of_body {rule : Rule} (hg : rule.isGroup = true)
    (h : ∀ waiting, waiting.length + 1 ≤ limit → limit < waiting.length + rule.nesting →
      Refuses limit ⟨waiting, .empty⟩ rule.body .nestingTooDeep) : TooDeep limit rule := by
  refine ⟨?_, ?_⟩
  · intro waiting operands ho hroom hdeep
    have hgroup : Refuses limit ⟨waiting, operands⟩ ([word .openParen] ++ rule.body)
        .nestingTooDeep := by
      have hopening : Phrase.Written [word .openParen] (.operand Enclosure.group.opening) :=
        .group rfl
      refine refuses_group hopening ho ?_
      intro hlimit frame
      apply h
      · rw [List.length_cons]
        exact hlimit
      · rw [List.length_cons]
        exact hdeep
    rw [Rule.tokens, if_pos hg]
    exact hgroup.append [word .closeParen]
  · intro waiting hroom hdeep
    rw [nesting, if_pos hg] at hdeep
    exact h waiting hroom hdeep

theorem tooDeep_of_tokens {rule : Rule} (hg : rule.isGroup = false)
    (h : ∀ waiting operands, operands.takesOperand = true → waiting.length + 1 ≤ limit →
      limit < waiting.length + 1 + rule.nesting →
      Refuses limit ⟨waiting, operands⟩ rule.body .nestingTooDeep) : TooDeep limit rule := by
  have hng : ¬rule.isGroup = true := by simp [hg]
  refine ⟨?_, ?_⟩
  · rw [Rule.tokens, if_neg hng]
    exact h
  · intro waiting hroom hdeep
    rw [nesting, if_neg hng] at hdeep
    have hempty : Operands.empty.takesOperand = true := rfl
    apply h waiting .empty hempty hroom
    omega

/-- Joined parts are refused at the first that nests past the limit; those before it are read. -/
theorem refuses_joined {operator : Kind} (hoperator : operator = .and ∨ operator = .or)
    {parts : List Rule} (hd : ∀ part ∈ parts, part.Derived)
    (h : ∀ part ∈ parts, TooDeep limit part) {waiting : List Frame} {operands : Operands}
    (ho : operands.takesOperand = true) (hroom : waiting.length + 1 ≤ limit)
    (hdeep : limit < waiting.length + 1 + nestingList parts) :
    Refuses limit ⟨waiting, operands⟩ (joinedTokens operator parts) .nestingTooDeep := by
  induction parts generalizing operands with
  | nil =>
    rw [nestingList] at hdeep
    omega
  | cons part parts ih =>
    by_cases hpart : limit < waiting.length + 1 + part.nesting
    · have hrefuse := (h part (List.mem_cons_self ..)).tokens waiting operands ho hroom hpart
      by_cases hne : parts = []
      · subst hne
        rw [joinedTokens_singleton]
        exact hrefuse
      · rw [joinedTokens_cons hne]
        exact hrefuse.append _
    · have hread := reads_operand_of_room (hd part (List.mem_cons_self ..)).operand ho
        (Nat.not_lt.1 hpart)
      obtain ⟨after, hafter, hop⟩ := exists_reads_operator hoperator operands part
      rw [nestingList] at hdeep
      have hne : parts ≠ [] := by
        rintro rfl
        rw [nestingList] at hdeep
        omega
      have hrest := ih (fun p hp => hd p (List.mem_cons_of_mem _ hp))
        (fun p hp => h p (List.mem_cons_of_mem _ hp)) hafter (by omega)
      rw [joinedTokens_cons hne, List.append_cons, List.append_assoc]
      exact hread.refuses (hop.refuses hrest)

/-- A conjunction or a disjunction is refused at its parts. -/
theorem tooDeep_of_joined {operator : Kind} (hoperator : operator = .and ∨ operator = .or)
    {rule : Rule} {parts : List Rule} (hg : rule.isGroup = true)
    (hbody : rule.body = joinedTokens operator parts)
    (hnesting : rule.nesting = nestingList parts + 1) (hd : ∀ part ∈ parts, part.Derived)
    (h : ∀ part ∈ parts, TooDeep limit part) : TooDeep limit rule := by
  apply tooDeep_of_body hg
  intro waiting hroom hdeep
  have hempty : Operands.empty.takesOperand = true := rfl
  rw [hbody]
  apply refuses_joined hoperator hd h hempty hroom
  omega

theorem tooDeep_of_branched {rule : Rule} (hb : rule.Branched)
    (hn : ∀ m ∈ rule.leaves, m.parameter.name ≠ "") : TooDeep limit rule := by
  induction rule using induction_parts with
  | leaf m =>
    apply tooDeep_of_tokens rfl
    intro waiting operands ho hroom hdeep
    rw [nesting] at hdeep
    omega
  | all parts ih =>
    obtain ⟨-, hparts⟩ := branched_all_iff.1 hb
    refine tooDeep_of_joined (.inl rfl) rfl (by rw [body]) (by rw [nesting]) ?_ ?_
    · exact fun part hp => derived_tokens (hparts part hp) (forall_leaves_of_mem hn hp)
    · exact fun part hp => ih part hp (hparts part hp) (forall_leaves_of_mem hn hp)
  | any parts ih =>
    obtain ⟨-, hparts⟩ := branched_any_iff.1 hb
    refine tooDeep_of_joined (.inr rfl) rfl (by rw [body]) (by rw [nesting]) ?_ ?_
    · exact fun part hp => derived_tokens (hparts part hp) (forall_leaves_of_mem hn hp)
    · exact fun part hp => ih part hp (hparts part hp) (forall_leaves_of_mem hn hp)
  | not part ih =>
    rw [Branched] at hb
    apply tooDeep_of_tokens rfl
    intro waiting operands ho hroom hdeep
    have hnegation : Refuses limit ⟨waiting, operands⟩ ([word .not, word .openParen] ++ part.body)
        .nestingTooDeep := by
      have hopening : Phrase.Written [word .not, word .openParen]
          (.operand Enclosure.negation.opening) := .negation rfl rfl
      refine refuses_group hopening ho ?_
      intro hlimit frame
      apply (ih hb hn).body
      · rw [List.length_cons]
        exact hlimit
      · rw [List.length_cons]
        exact hdeep
    rw [body]
    exact hnegation.append [word .closeParen]

/-! ## Reading what was rendered -/

theorem read_render_of_le {rule : Rule} (h : rule.Writable) (hle : rule.nesting ≤ 127) :
    read rule.render = .ok rule := by
  rw [read_eq_ok_iff_derives]
  refine ⟨rule.tokens, laid_render h.unguarded, ?_⟩
  apply Level.of_operand
  refine (derived_tokens h.branched h.named).operand.imp ?_
  intro ts r hr
  exact hr.mono hle

/-- The rendering of a rule that nests too deep is refused for that reason. -/
theorem read_render_of_lt {rule : Rule} (h : rule.Writable) (hlt : 127 < rule.nesting) :
    ∃ failure, read rule.render = .error (.tokens failure) ∧
      failure.origin.1 = .nestingTooDeep := by
  have hd := derived_tokens h.branched h.named
  have hsplit : Token.ofText rule.render = .ok (rule.tokens ++ [endToken]) :=
    Token.ofText_of_laid (laid_render h.unguarded)
      (Derives.neutral (Level.of_operand hd.operand)).balanced
  have hfresh : Operands.empty.takesOperand = true := rfl
  have hdeep : 128 < ([] : List Frame).length + 1 + rule.nesting := by
    rw [List.length_nil]
    omega
  obtain ⟨failure, hf, hcause⟩ :=
    (tooDeep_of_branched h.branched h.named).tokens [] .empty hfresh (by simp) hdeep 0 [endToken]
  have hparse : parseSites (rule.tokens ++ [endToken]) = .error failure := by
    rw [parseSites, depthLimit, parseWithin_eq_readFrom]
    exact hf
  refine ⟨failure.anchored (rule.tokens ++ [endToken]), ?_, ?_⟩
  · exact (read_eq_error_tokens_iff hsplit).2 (by simp [parse, hparse])
  · rw [Failure.anchored, Failure.origin_map]
    exact hcause

theorem nesting_le_of_read_render {rule : Rule} (h : rule.Writable)
    (hr : read rule.render = .ok rule) : rule.nesting ≤ 127 := by
  by_cases hle : rule.nesting ≤ 127
  · exact hle
  · obtain ⟨failure, hf, -⟩ := read_render_of_lt h (Nat.not_le.1 hle)
    rw [hf] at hr
    simp at hr

/-- **A rule is read back from its rendering** if and only if it is writable and leaves room for its
groups below the nesting limit. -/
theorem read_render_eq_ok_iff (rule : Rule) :
    read rule.render = .ok rule ↔ rule.Writable ∧ rule.nesting ≤ 127 := by
  constructor
  · intro h
    have hw := writable_of_read h
    exact ⟨hw, nesting_le_of_read_render hw h⟩
  · rintro ⟨hw, hle⟩
    exact read_render_of_le hw hle

/-! ## Negations around a text -/

/-- The text with a number of negations around it. -/
def negatedText : Nat → String → String
  | 0, text => text
  | n + 1, text => "!(" ++ negatedText n text ++ ")"

/-- The rule under a number of negations. -/
def negated : Nat → Rule → Rule
  | 0, rule => rule
  | n + 1, rule => .not (negated n rule)

/-- Each negation around a text takes one more group. -/
theorem exists_derives_negated {openings : Nat} {ts : List Token} {text : String} {rule : Rule}
    (hl : Laid ts text.toList) (hd : Derives openings ts rule) (n : Nat) :
    ∃ us, Laid us (negatedText n text).toList ∧ Derives (openings + n) us (negated n rule) := by
  induction n with
  | zero => exact ⟨ts, hl, hd⟩
  | succ n ih =>
    obtain ⟨us, hus, hu⟩ := ih
    have hinside : Inside (openings + n + 1) us (negated n rule) := hu
    exact ⟨_, laid_negation hus, Level.of_operand (operand_negation hinside)⟩

theorem nesting_negated {rule : Rule} (hg : rule.isGroup = true) (n : Nat) :
    (negated (n + 1) rule).nesting = rule.nesting + n := by
  induction n with
  | zero =>
    rw [negated, negated, nesting, if_pos hg]
    rfl
  | succ n ih =>
    have hng : ¬(negated (n + 1) rule).isGroup = true := by simp [negated, isGroup]
    rw [negated, nesting, if_neg hng, ih]
    rfl

/-- A match, or twice the match: a text without a parenthesis. -/
def mixedText (m : Match) : String := m.render ++ " || " ++ m.render ++ " && " ++ m.render

/-- The rule of that text, which takes two groups to write out. -/
def mixed (m : Match) : Rule := .any [.leaf m, .all [.leaf m, .leaf m]]

/-- The match, or the match and whatever operand comes last. -/
theorem exists_derives_match_or {m : Match} (hm : m.Unguarded) (hn : m.parameter.name ≠ "")
    {openings : Nat} {ts : List Token} {text : String} {rule : Rule} (hl : Laid ts text.toList)
    (hr : Operand (Inside openings) ts rule) :
    ∃ us, Laid us (m.render ++ " || " ++ m.render ++ " && " ++ text).toList ∧
      Derives openings us (.any [.leaf m, .all [.leaf m, rule]]) := by
  have hor : Laid [word .or] " || ".toList := laid_spaced (by decide)
  have hand : Laid [word .and] " && ".toList := laid_spaced (by decide)
  have hlaid := m.laid_render hm
  have hoperand : Operand (Inside openings) m.tokens (.leaf m) := m.operand_tokens hn _
  have hrun : Run (Inside openings) (m.tokens ++ word .and :: ts) (.all [.leaf m, rule]) :=
    .all (.more (.one hoperand) rfl hr) (by simp)
  have hrule : Derives openings (m.tokens ++ word .or :: (m.tokens ++ word .and :: ts))
      (.any [.leaf m, .all [.leaf m, rule]]) :=
    .any (.more (.one (.single (.one hoperand))) rfl hrun) (by simp)
  have htokens : m.tokens ++ word .or :: (m.tokens ++ word .and :: ts) =
      m.tokens ++ [word .or] ++ m.tokens ++ [word .and] ++ ts := by simp
  refine ⟨_, ?_, hrule⟩
  rw [htokens, String.toList_append, String.toList_append, String.toList_append,
    String.toList_append]
  exact (((hlaid.append hor).append hlaid).append hand).append hl

theorem exists_derives_mixed {m : Match} (hm : m.Unguarded) (hn : m.parameter.name ≠ "") :
    ∃ ts, Laid ts (mixedText m).toList ∧ Derives 0 ts (mixed m) :=
  exists_derives_match_or hm hn (m.laid_render hm) (m.operand_tokens hn _)

theorem read_negatedText {m : Match} (hm : m.Unguarded) (hn : m.parameter.name ≠ "") {n : Nat}
    (h : n ≤ 127) : read (negatedText n (mixedText m)) = .ok (negated n (mixed m)) := by
  obtain ⟨ts, hl, hd⟩ := exists_derives_mixed hm hn
  obtain ⟨us, hus, hu⟩ := exists_derives_negated hl hd n
  rw [Nat.zero_add] at hu
  have hinside : Inside (n + 1) us (negated n (mixed m)) := hu
  exact read_eq_ok_iff_derives.2 ⟨us, hus, hinside.mono (Nat.succ_le_succ h)⟩

/-! ## Rules that were read -/

/-- **A rule that was read** is read back from its rendering if and only if its groups leave room
below the nesting limit there; otherwise the rendering is refused because it nests too deep. -/
theorem read_render_of_read {text : String} {rule : Rule} (h : read text = .ok rule) :
    (read rule.render = .ok rule ↔ rule.nesting ≤ 127) ∧
      (127 < rule.nesting → ∃ failure, read rule.render = .error (.tokens failure) ∧
        failure.origin.1 = .nestingTooDeep) := by
  have hw := writable_of_read h
  refine ⟨?_, read_render_of_lt hw⟩
  constructor
  · exact nesting_le_of_read_render hw
  · exact read_render_of_le hw

/-- The parameter `query.a` is held against `1`. -/
def sampleMatch : Match := ⟨⟨.query, "a"⟩, .value "1"⟩

theorem read_negated_sample {n : Nat} (h : n ≤ 127) :
    read (negatedText n (mixedText sampleMatch)) = .ok (negated n (mixed sampleMatch)) :=
  read_negatedText ⟨by decide, by decide⟩ (by decide) h

/-- Under one negation the sample is read back. -/
theorem read_render_of_read_sample :
    read (negatedText 1 (mixedText sampleMatch)) = .ok (negated 1 (mixed sampleMatch)) ∧
      (read (negated 1 (mixed sampleMatch)).render = .ok (negated 1 (mixed sampleMatch)) ↔
        (negated 1 (mixed sampleMatch)).nesting ≤ 127) ∧
      (negated 1 (mixed sampleMatch)).nesting ≤ 127 := by
  have h := read_negated_sample (show 1 ≤ 127 by decide)
  exact ⟨h, (read_render_of_read h).1, by decide⟩

/-- Under as many negations as can be read, the sample is not read back. -/
theorem read_render_ne_of_negated_sample :
    read (negatedText 127 (mixedText sampleMatch)) = .ok (negated 127 (mixed sampleMatch)) ∧
      read (negated 127 (mixed sampleMatch)).render ≠ .ok (negated 127 (mixed sampleMatch)) := by
  have h := read_negated_sample (Nat.le_refl 127)
  refine ⟨h, ?_⟩
  intro hr
  have hle := nesting_le_of_read_render (writable_of_read h) hr
  have hg : (mixed sampleMatch).isGroup = true := rfl
  have hnesting : (mixed sampleMatch).nesting = 2 := rfl
  rw [nesting_negated hg 126, hnesting] at hle
  exact absurd hle (by decide)

end Rule

end TriggerRule
