import TriggerRule.Proofs.Rule.Place
import TriggerRule.Proofs.Rule.Rendering

/-!
# What a refusal depends on

Reading stops at the first construct that cannot be repaired. Whatever has been read before it can
be completed, by an operand where one is due and a parenthesis for each waiting level
(`Begun.exists_completion`). And whatever comes later is not looked at, because a phrase is settled
by eight tokens (`Stops.congr`). Main statement: `parse_error_correct_prefix`.
-/

namespace TriggerRule

open Token

/-- The index of the first token of the construct that is refused. A hash over something else than
the payload is anchored at its target, four tokens behind its parameter. -/
def Failure.blamed (failure : Failure Site) : Nat :=
  match failure.origin with
  | (.badHashTarget, site) => site.index - 4
  | (_, site) => site.index

namespace Nest

variable {limit index : Nat} {nest : Nest} {ts rest others : List Token} {failure : Failure Site}

/-! ## Completing a nest -/

/-- A level that can end is closed, and so are the levels around it. -/
theorem Begun.exists_closing {waiting : List Frame} {operands : Operands} {rule : Rule}
    (h : Begun limit ts ⟨waiting, operands⟩) (hc : operands.close = .ok rule) :
    ∃ us whole, ∀ index, (Nest.mk waiting operands).readFrom limit index us = .ok whole := by
  -- on the waiting levels: with the closed level for an operand, the next can end as well
  induction waiting generalizing ts operands rule with
  | nil =>
    refine ⟨[endToken], rule, fun index => ?_⟩
    have hp : Phrase.read? [endToken] = none := rfl
    rw [readFrom_of_read? hp, finish, hc]
    rfl
  | cons frame outer ih =>
    have hclose : ∀ index, (Nest.mk (frame :: outer) operands).step limit index .close =
        .ok ⟨outer, frame.operands.add (frame.enclosure.apply rule)⟩ := by
      intro index
      simp only [Nest.step, Nest.closeLevel, hc]
    have hparen : Phrase.Written [word .closeParen] .close := .close rfl
    have hnext := h.step hparen (hclose ts.length)
    obtain ⟨vs, hv⟩ := hnext.operands
    obtain ⟨next, hn⟩ := hv.exists_close (Operands.takesOperand_add ..)
    obtain ⟨us, whole, hr⟩ := ih hnext hn
    refine ⟨[word .closeParen] ++ us, whole, fun index => ?_⟩
    rw [readFrom_append_of_ok hparen (hclose index), hr]

/-- Whatever has been read, there are tokens that complete it to a rule. -/
theorem Begun.exists_completion (h : Begun limit ts nest) :
    ∃ us rule, ∀ index, nest.readFrom limit index us = .ok rule := by
  obtain ⟨waiting, operands⟩ := nest
  by_cases ho : operands.takesOperand = true
  · -- any match will do for the operand that is due
    let condition : Match := ⟨⟨.query, "name"⟩, .value ""⟩
    have hoperand : ∀ Inner, Grammar.Operand Inner condition.tokens (.leaf condition) :=
      condition.operand_tokens (by decide)
    have hread : Reads limit ⟨waiting, operands⟩ condition.tokens
        ⟨waiting, operands.add (.leaf condition)⟩ :=
      reads_operand (hoperand fun _ _ => False) ho fun _ _ h => h.elim
    have hnext : Begun limit (ts ++ condition.tokens) ⟨waiting, operands.add (.leaf condition)⟩ :=
      h.extend fun vs hv => hv.add ho (hoperand _)
    obtain ⟨vs, hv⟩ := hnext.operands
    obtain ⟨next, hn⟩ := hv.exists_close (Operands.takesOperand_add ..)
    obtain ⟨us, rule, hr⟩ := hnext.exists_closing hn
    refine ⟨condition.tokens ++ us, rule, fun index => ?_⟩
    rw [hread, hr]
  · obtain ⟨vs, hv⟩ := h.operands
    obtain ⟨rule, hc⟩ := hv.exists_close (Bool.eq_false_iff.2 ho)
    exact h.exists_closing hc

/-! ## Looking at eight tokens -/

theorem prefix_of_take_eq {us : List Token} {bound : Nat} (h : us <+: rest)
    (hle : us.length ≤ bound) (hagree : others.take bound = rest.take bound) : us <+: others := by
  have htake : us <+: rest.take bound := List.prefix_take_iff.2 ⟨h, hle⟩
  rw [← hagree] at htake
  exact htake.trans (List.take_prefix ..)

/-- Where no phrase starts in tokens that end the text, none does in tokens that begin alike. -/
theorem read?_eq_none_of_take_eq (hend : ∃ t ∈ rest, t.kind = .endOfText)
    (hagree : others.take (min 8 rest.length) = rest.take (min 8 rest.length))
    (h : Phrase.read? rest = none) : Phrase.read? others = none := by
  cases hp : Phrase.read? others with
  | none => rfl
  | some phrase =>
    exfalso
    obtain ⟨us, tail, rfl, hu⟩ := Phrase.exists_written_of_read? hp
    by_cases hle : us.length ≤ rest.length
    · have hmin : us.length ≤ min 8 rest.length := Nat.le_min.2 ⟨hu.length_le, hle⟩
      obtain ⟨tail', rfl⟩ := prefix_of_take_eq (List.prefix_append us tail) hmin hagree.symm
      simp [hu.read?_append] at h
    · -- the phrase would go on past the token that ends the text
      have hmin : min 8 rest.length = rest.length :=
        Nat.min_eq_right (Nat.le_trans (Nat.le_of_not_le hle) hu.length_le)
      rw [hmin, List.take_length, List.take_append_of_le_length (Nat.le_of_not_le hle)] at hagree
      obtain ⟨t, ht, hk⟩ := hend
      rw [← hagree] at ht
      exact hu.kind_ne_endOfText t (List.mem_of_mem_take ht) hk

/-- Reading stops alike before tokens that begin alike, if they end the text. -/
theorem Stops.congr (h : Stops limit nest index rest failure)
    (hend : ∃ t ∈ rest, t.kind = .endOfText)
    (hagree : others.take (min 8 rest.length) = rest.take (min 8 rest.length)) :
    Stops limit nest index others failure := by
  cases h with
  | @phrase us phrase _ hu hs tail =>
    have hmin : us.length ≤ min 8 (us ++ tail).length := by
      have := hu.length_le
      rw [List.length_append]
      omega
    obtain ⟨tail', rfl⟩ := prefix_of_take_eq (List.prefix_append us tail) hmin hagree
    exact .phrase hu hs tail'
  | finish hp hf =>
    refine .finish (read?_eq_none_of_take_eq hend hagree hp) ?_
    have hne : min 8 rest.length ≠ 0 := by
      obtain ⟨t, ht, -⟩ := hend
      have := List.length_pos_of_mem ht
      omega
    have hhead : others.head? = rest.head? := by
      have htake := congrArg List.head? hagree
      rwa [List.head?_take, List.head?_take, if_neg hne, if_neg hne] at htake
    rw [Nest.finish, hhead]
    exact hf

/-! ## What is blamed -/

/-- The refused construct starts where reading stops, and its anchor is one of its eight tokens. -/
theorem Blocks.blamed {cause : Cause} {stop : Nat} (h : Blocks limit nest index rest cause stop)
    (hend : ∃ t ∈ rest, t.kind = .endOfText) :
    (nest.fail cause stop).blamed = index ∧ stop < index + min 8 rest.length := by
  rw [Failure.blamed, origin_fail]
  rcases h.stop_eq with ⟨rfl, hc⟩ | ⟨rfl, rfl, us, tail, _, _, _, rfl, hu⟩
  · obtain ⟨t, ht, -⟩ := hend
    have := List.length_pos_of_mem ht
    refine ⟨?_, by omega⟩
    cases cause <;> simp at hc ⊢
  · have hlength : us.length = 8 := hu.length
    refine ⟨Nat.add_sub_cancel .., ?_⟩
    rw [List.length_append]
    omega

/-- A failure is anchored at tokens up to the one where it is raised. -/
theorem Begun.index_lt_of_mem_anchors_fail (h : Begun limit ts nest) {cause : Cause}
    {stop bound : Nat} (hle : ts.length ≤ bound) (hlt : stop < bound) :
    ∀ site ∈ (nest.fail cause stop).anchors, site.index < bound := by
  intro site hsite
  rw [anchors_fail] at hsite
  rcases List.mem_append.1 hsite with hsite | hsite
  · obtain ⟨⟨enclosure, site⟩, hg, rfl⟩ := List.mem_map.1 hsite
    obtain ⟨frame, hf, -, hindex⟩ := mem_openGroups_iff.1 ⟨site.depth, hg⟩
    rw [← hindex]
    exact Nat.lt_of_lt_of_le (h.index_lt frame hf) hle
  · rw [List.mem_singleton.1 hsite]
    exact hlt

end Nest

namespace Rule

open Nest

variable {ts rest others : List Token} {nest : Nest} {failure : Failure Site}

/-- Whatever has been read can be continued to a rule. -/
theorem exists_parse_append_of_reached (h : Reached depthLimit ts nest) :
    ∃ us rule, parse (ts ++ us) = .ok rule := by
  obtain ⟨us, rule, hr⟩ := h.begun.exists_completion
  have hp := h.parseWithin_append us
  rw [hr] at hp
  exact ⟨us, rule, parse_eq_ok_iff_parseWithin.2 hp⟩

/-- Tokens that agree with what has been read and with eight more are refused alike. -/
theorem parse_congr_of_stops (h : Reached depthLimit ts nest)
    (hstop : Stops depthLimit nest ts.length rest failure)
    (hend : ∃ t ∈ rest, t.kind = .endOfText)
    (hsites : ∀ site ∈ failure.anchors, site.index < ts.length + min 8 rest.length)
    (hagree : others.take (ts.length + min 8 rest.length) =
      (ts ++ rest).take (ts.length + min 8 rest.length)) :
    parse others = .error (failure.anchored (ts ++ rest)) := by
  obtain ⟨others, rfl⟩ : ts <+: others :=
    prefix_of_take_eq (List.prefix_append ts rest) (Nat.le_add_right ..) hagree
  have htail : others.take (min 8 rest.length) = rest.take (min 8 rest.length) := by
    rw [List.take_length_add_append, List.take_length_add_append] at hagree
    exact List.append_cancel_left hagree
  rw [parse_of_parseSites (parseWithin_of_stops h (hstop.congr hend htail)),
    Failure.anchored_congr hagree hsites]

/-- **A refusal is local.** The tokens before the construct that is blamed can be continued to a
rule, and whatever agrees with the tokens up to the eighth of the construct is refused alike. -/
theorem parse_error_correct_prefix {tokens : List Token} {refusal : Failure Anchor}
    (hend : ∃ t ∈ tokens, t.kind = .endOfText) (h : parse tokens = .error refusal) :
    ∃ failure, parseSites tokens = .error failure ∧ failure.anchored tokens = refusal ∧
      failure.blamed < tokens.length ∧
      (∃ rest rule, parse (tokens.take failure.blamed ++ rest) = .ok rule) ∧
      ∀ others, others.take (min (failure.blamed + 8) tokens.length) =
          tokens.take (min (failure.blamed + 8) tokens.length) →
        parse others = .error refusal := by
  obtain ⟨failure, hs, rfl⟩ := exists_parseSites_of_parse h
  refine ⟨failure, hs, rfl, ?_⟩
  obtain ⟨ts, rest, nest, rfl, hreached, hstop⟩ := exists_stops_of_parseWithin hs
  have hrest : ∃ t ∈ rest, t.kind = .endOfText := by
    obtain ⟨t, ht, hk⟩ := hend
    rcases List.mem_append.1 ht with ht | ht
    · exact absurd hk (hreached.kind_ne_endOfText t ht)
    · exact ⟨t, ht, hk⟩
  obtain ⟨cause, stop, hblocks, rfl⟩ := hstop.exists_blocks
  obtain ⟨hblamed, hlt⟩ := hblocks.blamed hrest
  have hbound : min (ts.length + 8) (ts ++ rest).length = ts.length + min 8 rest.length := by
    rw [List.length_append]
    omega
  rw [hblamed, hbound]
  refine ⟨?_, ?_, ?_⟩
  · rw [List.length_append]
    obtain ⟨t, ht, -⟩ := hrest
    have := List.length_pos_of_mem ht
    omega
  · rw [List.take_left]
    exact exists_parse_append_of_reached hreached
  · intro others hagree
    refine parse_congr_of_stops hreached hstop hrest ?_ hagree
    exact hreached.begun.index_lt_of_mem_anchors_fail (Nat.le_add_right ..) hlt

/-- A hash over the query, in a group. -/
def hashOfQuery : List Token :=
  [word .openParen, literal "query.a", word .equals, word .sha1, word .openParen,
    literal "query.b", word .comma, literal "k", word .closeParen, word .closeParen, endToken]

theorem parseSites_hashOfQuery : parseSites hashOfQuery =
    .error (.within .group ⟨0, 1⟩ (.raised .badHashTarget ⟨5, 2⟩)) := by
  have hsplit : Phrase.split hashOfQuery =
      ([.operand .group, .operand (.hash "query.a" "query.b" "k"), .close], [endToken]) := by cbv
  rw [parseSites, parseWithin, hsplit]
  rfl

/-- The hash is blamed from its parameter on: before it stands a group to be filled, and what
follows it is of no account. -/
theorem parse_error_correct_prefix_hashOfQuery :
    (∃ t ∈ hashOfQuery, t.kind = .endOfText) ∧
      parse hashOfQuery =
        .error (.within .group ⟨"(", 0, 1⟩ (.raised .badHashTarget ⟨"query.b", 15, 2⟩)) ∧
      (∃ rest rule, parse ([word .openParen] ++ rest) = .ok rule) ∧
      ∀ rest, parse (hashOfQuery.take 9 ++ rest) = parse hashOfQuery := by
  have hend : ∃ t ∈ hashOfQuery, t.kind = .endOfText := ⟨endToken, by simp [hashOfQuery], rfl⟩
  have hparse : parse hashOfQuery =
      .error (.within .group ⟨"(", 0, 1⟩ (.raised .badHashTarget ⟨"query.b", 15, 2⟩)) := by
    rw [parse_of_parseSites parseSites_hashOfQuery]
    rfl
  obtain ⟨failure, hs, -, -, hrepair, hlocal⟩ := parse_error_correct_prefix hend hparse
  rw [parseSites_hashOfQuery] at hs
  obtain rfl := Except.error.inj hs
  refine ⟨hend, hparse, hrepair, fun rest => ?_⟩
  rw [hparse]
  apply hlocal
  rfl

end Rule

end TriggerRule
