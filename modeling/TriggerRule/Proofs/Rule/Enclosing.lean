import TriggerRule.Proofs.Rule.Place
import TriggerRule.Proofs.Rule.Rendering

/-!
# The groups around a refused token

Where a token is refused, the groups that its failure is wrapped in are those that are open there.
Which these are can be told by counting parentheses: an opening one is `Unclosed` if none of the
tokens behind it closes it. A level that breaks off is balanced, so of the tokens read so far just
the openings of the waiting levels are unclosed (`Begun.unclosed_iff`). Main statement:
`parse_error_chain`.
-/

namespace TriggerRule

namespace Token

variable {ts us : List Token} {enclosure : Enclosure} {index : Nat}

/-! ## Parentheses that stay open -/

/-- The tokens close no parenthesis that was open before them. -/
def Inward (ts : List Token) : Prop :=
  ∀ start, start <+: ts → countKind .closeParen start ≤ countKind .openParen start

/-- What an opening parenthesis belongs to, by the tokens before it, and where that begins: a
negation at its `!`, a group at the parenthesis itself. The parenthesis of a call comes after
`sha1` and opens neither. -/
inductive Opening : List Token → Enclosure → Nat → Prop
  | group {before : List Token} (hn : lastKind before ≠ some .not)
    (hs : lastKind before ≠ some .sha1) : Opening before .group before.length
  | negation {before : List Token} {t : Token} (ht : t.kind = .not) :
    Opening (before ++ [t]) .negation before.length

/-- A group or a negation begins at the index, and the tokens do not close it. -/
def Unclosed (ts : List Token) (enclosure : Enclosure) (index : Nat) : Prop :=
  ∃ before paren after, ts = before ++ paren :: after ∧ paren.kind = .openParen ∧
    Opening before enclosure index ∧ Inward after

theorem Inward.of_append (h : Inward (ts ++ us)) : Inward ts :=
  fun start hs => h start (hs.trans (List.prefix_append ts us))

theorem Inward.append (h : Inward ts) (hu : Inward us) : Inward (ts ++ us) := by
  intro start hs
  rcases List.prefix_or_prefix_of_prefix hs (List.prefix_append ts us) with hs' | ⟨rest, rfl⟩
  · exact h start hs'
  · have hts := h ts (List.prefix_refl ts)
    have hrest := hu rest ((List.prefix_append_right_inj ts).1 hs)
    rw [countKind_append, countKind_append]
    omega

theorem inward_nil : Inward [] := by
  intro start hs
  rw [List.prefix_nil.1 hs]
  exact Nat.le_refl _

theorem inward_singleton {t : Token} (h : t.kind ≠ .closeParen) : Inward [t] := by
  intro start hs
  rcases List.prefix_cons_iff.1 hs with rfl | ⟨rest, rfl, hr⟩
  · exact Nat.le_refl _
  · rw [List.prefix_nil.1 hr]
    simp [countKind, h]

theorem Balanced.inward (h : Balanced 0 ts) : Inward ts := by
  intro start hs
  have := h.closed_le start hs
  omega

/-- Balanced tokens close the parentheses that they open, and no other. -/
theorem unclosed_append (h : Balanced 0 us) :
    Unclosed (ts ++ us) enclosure index ↔ Unclosed ts enclosure index := by
  constructor
  · rintro ⟨before, paren, after, heq, hk, ho, ha⟩
    have hinside : ∀ {front : List Token}, us = front ++ paren :: after →
        Unclosed ts enclosure index := by
      -- one more parenthesis would be opened in the balanced tokens than is closed there
      rintro front rfl
      have hfront := h.closed_le front (List.prefix_append ..)
      have hafter := ha after (List.prefix_refl after)
      have hall := h.closed_eq
      rw [countKind_append, countKind_append, countKind_cons, countKind_cons, hk] at hall
      simp only [reduceCtorEq, ↓reduceIte] at hall
      omega
    rcases List.append_eq_append_iff.1 heq with ⟨front, rfl, hus⟩ | ⟨tail, rfl, htail⟩
    · exact hinside hus
    · cases tail with
      | nil =>
        have hus : us = [] ++ paren :: after := htail.symm
        exact hinside hus
      | cons first tail =>
        obtain ⟨rfl, rfl⟩ := List.cons.inj htail
        exact ⟨before, paren, tail, rfl, hk, ho, ha.of_append⟩
  · rintro ⟨before, paren, after, rfl, hk, ho, ha⟩
    exact ⟨before, paren, after ++ us, by simp, hk, ho, ha.append h.inward⟩

/-- A token that closes nothing leaves open what was open, and may open something. -/
theorem unclosed_concat {t : Token} (ht : t.kind ≠ .closeParen) :
    Unclosed (ts ++ [t]) enclosure index ↔
      Unclosed ts enclosure index ∨ t.kind = .openParen ∧ Opening ts enclosure index := by
  constructor
  · rintro ⟨before, paren, after, heq, hk, ho, ha⟩
    rcases List.eq_nil_or_concat after with rfl | ⟨after, last, rfl⟩
    · obtain ⟨rfl, hparen⟩ := List.append_inj' heq rfl
      obtain ⟨rfl, -⟩ := List.cons.inj hparen
      exact .inr ⟨hk, ho⟩
    · rw [List.concat_eq_append] at heq ha
      have hsplit : ts ++ [t] = (before ++ paren :: after) ++ [last] := by rw [heq]; simp
      obtain ⟨rfl, -⟩ := List.append_inj' hsplit rfl
      exact .inl ⟨before, paren, after, rfl, hk, ho, ha.of_append⟩
  · rintro (⟨before, paren, after, rfl, hk, ho, ha⟩ | ⟨hk, ho⟩)
    · exact ⟨before, paren, after ++ [t], by simp, hk, ho, ha.append (inward_singleton ht)⟩
    · exact ⟨ts, t, [], rfl, hk, ho, inward_nil⟩

theorem opening_iff_of_ne (hn : lastKind ts ≠ some .not) (hs : lastKind ts ≠ some .sha1) :
    Opening ts enclosure index ↔ enclosure = .group ∧ index = ts.length := by
  constructor
  · intro h
    cases h with
    | group => exact ⟨rfl, rfl⟩
    | negation ht =>
      rw [lastKind_concat, ht] at hn
      exact absurd rfl hn
  · rintro ⟨rfl, rfl⟩
    exact .group hn hs

theorem opening_concat_not {t : Token} (ht : t.kind = .not) :
    Opening (ts ++ [t]) enclosure index ↔ enclosure = .negation ∧ index = ts.length := by
  constructor
  · intro h
    generalize heq : ts ++ [t] = before at h
    cases h with
    | group hn hs =>
      rw [← heq, lastKind_concat, ht] at hn
      exact absurd rfl hn
    | negation _ =>
      obtain ⟨rfl, -⟩ := List.append_inj' heq rfl
      exact ⟨rfl, rfl⟩
  · rintro ⟨rfl, rfl⟩
    exact .negation ht

theorem not_opening_concat_sha1 {t : Token} (ht : t.kind = .sha1) :
    ¬Opening (ts ++ [t]) enclosure index := by
  intro h
  generalize heq : ts ++ [t] = before at h
  cases h with
  | group hn hs =>
    rw [← heq, lastKind_concat, ht] at hs
    exact hs rfl
  | negation hk =>
    obtain ⟨-, hlast⟩ := List.append_inj' heq rfl
    obtain ⟨rfl, -⟩ := List.cons.inj hlast
    simp [ht] at hk

/-- The opening of a level stays open. -/
theorem unclosed_append_opening {opened : Enclosure} (hn : lastKind ts ≠ some .not)
    (hs : lastKind ts ≠ some .sha1) (hu : Phrase.Written us (.operand opened.opening)) :
    Unclosed (ts ++ us) enclosure index ↔
      Unclosed ts enclosure index ∨ enclosure = opened ∧ index = ts.length := by
  cases opened with
  | group =>
    cases hu with
    | group ho =>
      rw [unclosed_concat (by simp [ho]), opening_iff_of_ne hn hs]
      simp [ho]
  | negation =>
    cases hu with
    | negation ht ho =>
      rw [List.append_cons, unclosed_concat (by simp [ho]), unclosed_concat (by simp [ht]),
        opening_concat_not ht]
      simp [ht, ho]

/-- The start of a call, up to its parenthesis, opens no group. -/
theorem unclosed_append_call {p e w o : Token} (hp : p.isLiteral = true) (he : e.kind = .equals)
    (hw : w.kind = .sha1) (ho : o.kind = .openParen) :
    Unclosed (ts ++ [p, e, w, o]) enclosure index ↔ Unclosed ts enclosure index := by
  have hpk : p.kind ≠ .closeParen ∧ p.kind ≠ .openParen :=
    ⟨Phrase.kind_ne_of_isLiteral hp rfl, Phrase.kind_ne_of_isLiteral hp rfl⟩
  have hcall : ¬Opening (ts ++ [p] ++ [e] ++ [w]) enclosure index := not_opening_concat_sha1 hw
  rw [List.append_cons, List.append_cons, List.append_cons, unclosed_concat (by simp [ho]),
    unclosed_concat (by simp [hw]), unclosed_concat (by simp [he]), unclosed_concat hpk.1]
  simp only [hcall, hpk.2, he, hw, reduceCtorEq, false_and, and_false, or_false]

end Token

/-! ## Levels that break off are balanced -/

namespace Grammar

open Token

variable {Inner : List Token → Rule → Prop} {ts : List Token}

theorem Ended.neutral {rs : List Rule} (hinner : ∀ ts r, Inner ts r → Neutral ts)
    (h : Ended Inner ts rs) : Neutral ts := by
  cases h with
  | nil => exact fun _ _ => Iff.rfl
  | or h ht =>
    have hlevel := closed_neutral.level hinner (level_disjunction h)
    exact hlevel.append (neutral_singleton (by simp [ht]) (by simp [ht]))

theorem Begun.neutral {operands : Operands} (hinner : ∀ ts r, Inner ts r → Neutral ts)
    (h : Begun Inner ts operands) : Neutral ts := by
  have hrun : ∀ {us : List Token} {rs : List Rule}, Joined .and (Operand Inner) us rs →
      Neutral us := fun hu => hu.neutral (by decide) (by decide) fun _ _ => Operand.neutral hinner
  cases h with
  | fresh h => exact h.neutral hinner
  | operand h hu => exact (h.neutral hinner).append (hrun hu)
  | @and _ _ t _ _ h hu ht =>
    have hoperator : Neutral [t] := neutral_singleton (by simp [ht]) (by simp [ht])
    exact ((h.neutral hinner).append (hrun hu)).append hoperator

theorem Inside.neutral {levels : Nat} {r : Rule} (h : Inside levels ts r) : Neutral ts := by
  cases levels with
  | zero => exact h.elim
  | succ levels => exact Derives.neutral h

end Grammar

/-! ## The openings of the waiting levels -/

namespace Nest

open Token

variable {limit : Nat} {ts rest : List Token} {nest : Nest} {enclosure : Enclosure} {index : Nat}

/-- Of what has been read, the openings of the waiting levels are what is not closed. -/
theorem Begun.unclosed_iff (h : Begun limit ts nest) : Unclosed ts enclosure index ↔
    ∃ frame ∈ nest.waiting, frame.enclosure = enclosure ∧ frame.index = index := by
  induction h with
  | @outermost ts operands h =>
    have hb := (h.neutral fun _ _ => Grammar.Inside.neutral).balanced
    have hnone : ¬Unclosed [] enclosure index := by
      rintro ⟨before, paren, after, heq, -⟩
      simp at heq
    rw [← List.nil_append ts, unclosed_append hb]
    simp [hnone]
  | @inside ts us vs frame outer operands h ho hu hindex hlimit hv ih =>
    -- what the level has read is balanced, so all that counts is how it was opened
    have hb := (hv.neutral fun _ _ => Grammar.Inside.neutral).balanced
    obtain ⟨hn, hs⟩ := h.placed.ne_not_sha1
    rw [unclosed_append hb, unclosed_append_opening hn hs hu, ih, ← hindex]
    simp only [List.mem_cons, exists_eq_or_imp]
    rw [or_comm, eq_comm, @eq_comm _ index]

/-- The tokens before the anchor of a failure leave open what those before its construct do. -/
theorem Blocks.unclosed_iff {cause : Cause} {stop : Nat}
    (h : Blocks limit nest ts.length rest cause stop) :
    Unclosed ((ts ++ rest).take stop) enclosure index ↔ Unclosed ts enclosure index := by
  rcases h.stop_eq with ⟨rfl, -⟩ | ⟨rfl, -, us, tail, _, _, _, rfl, hu⟩
  · rw [List.take_left]
  · cases hu with
    | hash hp he hw ho ht hc hs hr =>
      rw [List.take_length_add_append]
      exact unclosed_append_call hp he hw ho

theorem map_depth_anchors_fail {cause : Cause} :
    (nest.fail cause index).anchors.map Site.depth = List.range' 1 nest.depth := by
  rw [anchors_fail, List.map_append, List.map_map, depth, List.range'_1_concat, Nat.add_comm 1]
  exact congrArg (· ++ [_]) (map_depth_openGroups nest.waiting)

/-- The links of a failure are anchored one behind the other. -/
theorem Begun.pairwise_anchors_fail (h : Begun limit ts nest) {cause : Cause}
    (hle : ts.length ≤ index) :
    ((nest.fail cause index).anchors.map Site.index).Pairwise (· < ·) := by
  have hgroups : ((openGroups nest.waiting).map Prod.snd).map Site.index =
      (nest.waiting.map Frame.index).reverse := by
    have hmap := congrArg (List.map Prod.snd) (map_openGroups nest.waiting)
    rw [List.map_reverse, List.map_map, List.map_map] at hmap
    rw [List.map_map]
    exact hmap
  rw [anchors_fail, List.map_append, hgroups, List.pairwise_append]
  refine ⟨?_, List.pairwise_singleton .., ?_⟩
  · rw [List.pairwise_reverse, List.pairwise_map]
    exact h.pairwise_index
  · intro i hi j hj
    obtain ⟨frame, hf, rfl⟩ := List.mem_map.1 (List.mem_reverse.1 hi)
    obtain rfl : j = index := List.mem_singleton.1 hj
    exact Nat.lt_of_lt_of_le (h.index_lt frame hf) hle

theorem Blocks.le_depth_of_tooDeep {stop : Nat}
    (h : Blocks limit nest index rest .nestingTooDeep stop) : limit ≤ nest.depth := by
  have hclose : nest.operands.close ≠ .error .nestingTooDeep := by
    intro hc
    rcases Operands.cause_of_close hc with hc | hc | hc <;> simp at hc
  cases h with
  | phrase hu hf tail =>
    cases hf with
    | level hw hc => exact absurd hc hclose
    | tooDeep ho hl => exact hl
  | ending hk hw hc => exact absurd hc hclose

end Nest

namespace Rule

open Nest Token

/-- **A refusal is a chain** of at most as many links as levels may nest, the first at the first
level and each at one level more. The wrappers stand for the groups and negations that the tokens
before the refused one leave open, in the order of the tokens, and only at the deepest level can the
nesting be too deep. -/
theorem parse_error_chain {tokens : List Token} {refusal : Failure Anchor}
    (h : parse tokens = .error refusal) :
    ∃ failure, parseSites tokens = .error failure ∧ failure.anchored tokens = refusal ∧
      0 < refusal.anchors.length ∧ refusal.anchors.length ≤ 128 ∧
      refusal.anchors.map Anchor.depth = List.range' 1 refusal.anchors.length ∧
      (failure.anchors.map Site.index).Pairwise (· < ·) ∧
      (∀ enclosure index, (∃ depth, (enclosure, ⟨index, depth⟩) ∈ failure.enclosures) ↔
        Unclosed (tokens.take failure.origin.2.index) enclosure index) ∧
      (refusal.origin.1 = .nestingTooDeep → refusal.anchors.length = 128) := by
  obtain ⟨failure, hs, rfl⟩ := exists_parseSites_of_parse h
  refine ⟨failure, hs, rfl, ?_⟩
  obtain ⟨ts, rest, nest, rfl, hreached, hstop⟩ := exists_stops_of_parseWithin hs
  obtain ⟨cause, stop, hblocks, rfl⟩ := hstop.exists_blocks
  have hbegun := hreached.begun
  have hdepth : nest.depth ≤ 128 := hbegun.depth_le (by decide)
  have hlevels : ((nest.fail cause stop).anchored (ts ++ rest)).anchors.map Anchor.depth =
      List.range' 1 nest.depth := by
    rw [Failure.anchored, Failure.anchors_map, List.map_map]
    exact map_depth_anchors_fail
  have hlength : ((nest.fail cause stop).anchored (ts ++ rest)).anchors.length = nest.depth := by
    rw [← List.length_map Anchor.depth, hlevels, List.length_range']
  have hle : ts.length ≤ stop := by
    rcases hblocks.stop_eq with ⟨rfl, -⟩ | ⟨rfl, -⟩ <;> omega
  rw [hlength, hlevels, Failure.anchored, Failure.origin_map, origin_fail, enclosures_fail]
  refine ⟨Nat.succ_pos _, hdepth, rfl, hbegun.pairwise_anchors_fail hle, ?_, ?_⟩
  · intro enclosure index
    rw [mem_openGroups_iff, hblocks.unclosed_iff, hbegun.unclosed_iff]
  · rintro rfl
    exact Nat.le_antisymm hdepth hblocks.le_depth_of_tooDeep

/-- In a negation, a group that is closed and another that begins with an operator. -/
def groupAfterGroup : List Token :=
  [word .not, word .openParen, word .openParen, literal "query.a", word .equals, literal "1",
    word .closeParen, word .and, word .openParen, word .and, endToken]

theorem parseSites_groupAfterGroup : parseSites groupAfterGroup = .error
    (.within .negation ⟨0, 1⟩ (.within .group ⟨8, 2⟩ (.raised .unexpectedToken ⟨9, 3⟩))) := by
  have hsplit : Phrase.split groupAfterGroup =
      ([.operand .negation, .operand .group, .operand (.value "query.a" "1"), .close, .and,
        .operand .group, .and], [endToken]) := by cbv
  rw [parseSites, parseWithin, hsplit]
  rfl

/-- The negation and the second group are open at the operator, and the first group is not. -/
theorem parse_error_chain_groupAfterGroup :
    parse groupAfterGroup = .error (.within .negation ⟨"!", 0, 1⟩
      (.within .group ⟨"(", 16, 2⟩ (.raised .unexpectedToken ⟨"&&", 17, 3⟩))) ∧
      Unclosed (groupAfterGroup.take 9) .negation 0 ∧ Unclosed (groupAfterGroup.take 9) .group 8 ∧
      ¬Unclosed (groupAfterGroup.take 9) .group 2 := by
  have hparse : parse groupAfterGroup = .error (.within .negation ⟨"!", 0, 1⟩
      (.within .group ⟨"(", 16, 2⟩ (.raised .unexpectedToken ⟨"&&", 17, 3⟩))) := by
    rw [parse_of_parseSites parseSites_groupAfterGroup]
    rfl
  obtain ⟨failure, hs, -, -, -, -, -, hunclosed, -⟩ := parse_error_chain hparse
  rw [parseSites_groupAfterGroup] at hs
  obtain rfl := Except.error.inj hs
  refine ⟨hparse, (hunclosed _ _).1 ⟨1, ?_⟩, (hunclosed _ _).1 ⟨2, ?_⟩, fun h => ?_⟩
  · simp [Failure.enclosures]
  · simp [Failure.enclosures]
  · obtain ⟨depth, hmem⟩ := (hunclosed _ _).2 h
    simp [Failure.enclosures] at hmem

end Rule

end TriggerRule
