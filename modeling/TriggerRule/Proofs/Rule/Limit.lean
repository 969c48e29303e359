import TriggerRule.Proofs.Rule.Parentheses

/-!
# What the nesting limit decides

Two readers with different limits read alike as long as neither refuses to open a level: a phrase
that opens none is read without regard to the limit (`step_eq_or_opens`), and what the lower limit
lets through, the higher does too (`Reached.mono`). So the lower limit shows only where it is
`Exhausted`: there the one reader fails and the other goes on a level deeper. A level is open only
inside a parenthesis, so a limit above the number of parentheses that are open at once plays no part
(`parseWithin_eq_of_opensWithin`). Main statement: `parseUpTo_cases`.
-/

namespace TriggerRule

open Token

namespace Nest

variable {limit bound index : Nat} {nest next : Nest} {phrase : Phrase} {enclosure : Enclosure}
  {failure : Failure Site} {ts us rest : List Token}

/-! ## One phrase under two limits -/

/-- The nest after a level was opened in it at an index. -/
def opened (nest : Nest) (enclosure : Enclosure) (index : Nat) : Nest :=
  ⟨⟨enclosure, index, nest.operands⟩ :: nest.waiting, .empty⟩

theorem depth_opened : (nest.opened enclosure index).depth = nest.depth + 1 := rfl

theorem step_opening_of_lt (ho : nest.operands.takesOperand = true) (hlt : nest.depth < limit) :
    nest.step limit index (.operand enclosure.opening) = .ok (nest.opened enclosure index) := by
  rw [step_opening ho, openLevel, if_neg (Nat.not_le.2 hlt)]
  rfl

/-- Only a phrase that opens a level is read with regard to the limit. -/
theorem step_eq_or_opens (limit bound : Nat) (nest : Nest) (index : Nat) (phrase : Phrase) :
    nest.step limit index phrase = nest.step bound index phrase ∨
      ∃ enclosure : Enclosure, phrase = .operand enclosure.opening ∧
        nest.operands.takesOperand = true := by
  have hopening : ∀ enclosure : Enclosure, phrase = .operand enclosure.opening →
      nest.step limit index phrase = nest.step bound index phrase ∨
        ∃ enclosure : Enclosure, phrase = .operand enclosure.opening ∧
          nest.operands.takesOperand = true := by
    rintro enclosure rfl
    by_cases ho : nest.operands.takesOperand = true
    · exact .inr ⟨enclosure, rfl, ho⟩
    · left
      rw [step, step, if_neg ho, if_neg ho]
  cases phrase with
  | and => exact .inl rfl
  | or => exact .inl rfl
  | close => exact .inl rfl
  | operand start =>
    cases start with
    | group => exact hopening .group rfl
    | negation => exact hopening .negation rfl
    | value parameter text => exact .inl rfl
    | regex parameter pattern => exact .inl rfl
    | hash parameter target secret => exact .inl rfl

theorem step_mono (hle : limit ≤ bound) (h : nest.step limit index phrase = .ok next) :
    nest.step bound index phrase = .ok next := by
  rcases step_eq_or_opens limit bound nest index phrase with heq | ⟨enclosure, rfl, ho⟩
  · rw [← heq, h]
  · rw [step_opening ho, openLevel] at h ⊢
    split at h
    · simp at h
    · next hlt => rw [if_neg fun hb => hlt (Nat.le_trans hle hb), h]

/-- A phrase is refused under every limit, unless it opens a level and the limit is reached. -/
theorem step_eq_error_or_tooDeep (h : nest.step limit index phrase = .error failure)
    (bound : Nat) : nest.step bound index phrase = .error failure ∨
      ∃ enclosure : Enclosure, phrase = .operand enclosure.opening ∧
        nest.operands.takesOperand = true ∧ limit ≤ nest.depth ∧
        failure = nest.fail .nestingTooDeep index := by
  rcases step_eq_or_opens limit bound nest index phrase with heq | ⟨enclosure, rfl, ho⟩
  · left
    rw [← heq, h]
  · rw [step_opening ho, openLevel] at h
    split at h
    · next hl => exact .inr ⟨enclosure, rfl, ho, hl, (Except.error.inj h).symm⟩
    · simp at h

/-! ## Whole runs under two limits -/

/-- What the lower limit lets through, the higher does too. -/
theorem Reached.mono (hle : limit ≤ bound) (h : Reached limit ts nest) :
    Reached bound ts nest := by
  induction h with
  | start => exact .start
  | step h hu hs ih => exact ih.step hu (step_mono hle hs)

/-- The limit keeps the reader from going on behind the tokens: they are read to the deepest level
there may be, and a phrase comes next that would open another. -/
structure Exhausted (limit : Nat) (ts us : List Token) (nest : Nest) (enclosure : Enclosure) :
    Prop where
  reached : Reached limit ts nest
  opening : Phrase.Written us (.operand enclosure.opening)
  due : nest.operands.takesOperand = true
  depth : nest.depth = limit

/-- A higher limit lets the next level open. -/
theorem Exhausted.reached_opened (h : Exhausted limit ts us nest enclosure)
    (hlt : limit < bound) : Reached bound (ts ++ us) (nest.opened enclosure ts.length) := by
  refine (h.reached.mono (Nat.le_of_lt hlt)).step h.opening (step_opening_of_lt h.due ?_)
  rw [h.depth]
  exact hlt

/-- Where reading stops under a limit it stops under every higher one, unless the limit is
exhausted there. -/
theorem Stops.of_le (hl : 0 < limit) (hr : Reached limit ts nest)
    (h : Stops limit nest ts.length rest failure) (bound : Nat) :
    Stops bound nest ts.length rest failure ∨
      ∃ us tail enclosure, rest = us ++ tail ∧ Exhausted limit ts us nest enclosure ∧
        failure = nest.fail .nestingTooDeep ts.length := by
  cases h with
  | @phrase us _ _ hu hs tail =>
    rcases step_eq_error_or_tooDeep hs bound with hb | ⟨enclosure, rfl, ho, hle, rfl⟩
    · exact .inl (.phrase hu hb tail)
    · have hdepth := Nat.le_antisymm (hr.begun.depth_le hl) hle
      exact .inr ⟨us, tail, enclosure, rfl, ⟨hr, hu, ho, hdepth⟩, rfl⟩
  | finish hp hf => exact .inl (.finish hp hf)

@[simp] theorem length_anchors_fail (cause : Cause) :
    (nest.fail cause index).anchors.length = nest.depth := by
  rw [← List.length_map Site.depth, map_depth_anchors_fail, List.length_range']

end Nest

namespace Rule

open Nest

variable {limit bound : Nat} {tokens : List Token} {rule : Rule}

theorem parseWithin_mono (hle : limit ≤ bound) (hl : 0 < limit)
    (h : parseWithin limit tokens = .ok rule) : parseWithin bound tokens = .ok rule := by
  obtain ⟨body, ending, rest, rfl, hkind, hd⟩ := exists_derives_of_parseWithin h
  have hmore : Grammar.Derives (bound - 1) body rule := hd.mono (Nat.sub_le_sub_right hle 1)
  have hparse : parseWithin (bound - 1 + 1) (body ++ ending :: rest) = .ok rule :=
    parseWithin_of_derives hmore hkind
  rwa [Nat.sub_add_cancel (Nat.le_trans hl hle)] at hparse

/-- Under two limits the tokens are read alike, unless the lower of them is exhausted. -/
theorem parseWithin_eq_or_exhausted (hl : 0 < limit) (hle : limit ≤ bound)
    (tokens : List Token) : parseWithin limit tokens = parseWithin bound tokens ∨
      ∃ ts us rest nest enclosure, tokens = ts ++ us ++ rest ∧
        Exhausted limit ts us nest enclosure ∧
        parseWithin limit tokens = .error (nest.fail .nestingTooDeep ts.length) := by
  cases hp : parseWithin limit tokens with
  | ok rule => exact .inl (parseWithin_mono hle hl hp).symm
  | error failure =>
    obtain ⟨ts, rest, nest, rfl, hr, hs⟩ := exists_stops_of_parseWithin hp
    rcases hs.of_le hl hr bound with hb | ⟨us, tail, enclosure, rfl, he, rfl⟩
    · exact .inl (parseWithin_of_stops (hr.mono hle) hb).symm
    · exact .inr ⟨ts, us, tail, nest, enclosure, (List.append_assoc ..).symm, he, rfl⟩

end Rule

/-! ## Parentheses and levels -/

namespace Token

/-- No more than a number of parentheses are open at once among the tokens. -/
def OpensWithin (most : Nat) (tokens : List Token) : Prop :=
  ∀ start, start <+: tokens →
    countKind .openParen start ≤ countKind .closeParen start + most

theorem opensWithin_of_countKind_le {most : Nat} {tokens : List Token}
    (h : countKind .openParen tokens ≤ most) : OpensWithin most tokens := by
  intro start hs
  have hle : countKind .openParen start ≤ countKind .openParen tokens := hs.sublist.countP_le
  omega

end Token

namespace Nest

variable {limit most : Nat} {ts us rest : List Token} {nest : Nest} {enclosure : Enclosure}

theorem countKind_opening (h : Phrase.Written us (.operand enclosure.opening)) :
    countKind .openParen us = 1 ∧ countKind .closeParen us = 0 := by
  cases enclosure with
  | group =>
    cases h with
    | group ho => simp [countKind, ho]
  | negation =>
    cases h with
    | negation hn ho => simp [countKind, hn, ho]

/-- As many parentheses are open as levels wait. -/
theorem Begun.countKind_openParen (h : Begun limit ts nest) :
    countKind .openParen ts = countKind .closeParen ts + nest.waiting.length := by
  induction h with
  | outermost h =>
    have hlevel := (h.neutral fun _ _ => Grammar.Inside.neutral).balanced.closed_eq
    rw [Nat.zero_add] at hlevel
    exact hlevel.symm
  | inside h ho hu hindex hlimit hv ih =>
    have hlevel := (hv.neutral fun _ _ => Grammar.Inside.neutral).balanced.closed_eq
    obtain ⟨hone, hnone⟩ := countKind_opening hu
    simp only [countKind_append, List.length_cons] at ih ⊢
    omega

/-- Where a limit is exhausted, as many parentheses are open as the limit says. -/
theorem Exhausted.not_opensWithin (h : Exhausted limit ts us nest enclosure) (hlt : most < limit)
    (rest : List Token) : ¬OpensWithin most (ts ++ us ++ rest) := by
  intro hmost
  have hopen := hmost (ts ++ us) (List.prefix_append ..)
  have hcount := h.reached.begun.countKind_openParen
  obtain ⟨hone, hnone⟩ := countKind_opening h.opening
  have hdepth : nest.waiting.length + 1 = limit := h.depth
  rw [countKind_append, countKind_append] at hopen
  omega

end Nest

namespace Rule

open Nest

/-- A limit above the number of parentheses that are open at once plays no part. -/
theorem parseWithin_eq_of_opensWithin {most limit : Nat} {tokens : List Token}
    (h : OpensWithin most tokens) (hlt : most < limit) :
    parseWithin limit tokens = parseWithin (most + 1) tokens := by
  rcases parseWithin_eq_or_exhausted (Nat.succ_pos most) hlt tokens with
    heq | ⟨ts, us, rest, nest, enclosure, rfl, he, -⟩
  · exact heq.symm
  · exact absurd h (he.not_opensWithin (Nat.lt_succ_self most) rest)

/-- The rule of a text is derived with no more groups open at once than parentheses. -/
theorem exists_derives_of_opensWithin {text : String} {rule : Rule} {most : Nat}
    (hlt : most < 128) (h : read text = .ok rule)
    (hopens : ∀ tokens, ofText text = .ok tokens → OpensWithin most tokens) :
    ∃ body, Laid body text.toList ∧ Grammar.Derives most body rule := by
  obtain ⟨tokens, ht, hp⟩ := read_eq_ok_iff_exists.1 h
  obtain ⟨body, rfl, hl, -⟩ := exists_laid_of_ofText ht
  have hroom := parseWithin_eq_of_opensWithin (hopens _ ht) hlt
  rw [parse_eq_ok_iff_parseWithin, hroom] at hp
  exact ⟨body, hl, derives_of_parseWithin hl.kind_ne_endOfText hp⟩

/-! ## The limit as a parameter -/

/-- Reads a token sequence as a rule whose levels nest no deeper than the limit. -/
def parseUpTo (limit : Nat) (tokens : List Token) : Except (Failure Anchor) Rule :=
  (parseWithin limit tokens).mapError (Failure.anchored tokens)

/-- **The nesting limit changes nothing but rules that nest too deep.** Under two limits a token
sequence is read alike, or the lower is exhausted: the reader refuses the token that would open one
level more, as the last of as many links as there may be levels. Under the higher limit that level
is opened, and reading goes on from there. -/
theorem parseUpTo_cases {limit bound : Nat} (hl : 1 ≤ limit) (hle : limit ≤ bound)
    (tokens : List Token) :
    parse tokens = parseUpTo 128 tokens ∧
      (parseUpTo limit tokens = parseUpTo bound tokens ∨
        ∃ ts us rest nest enclosure refusal, tokens = ts ++ us ++ rest ∧
          Exhausted limit ts us nest enclosure ∧
          parseUpTo limit tokens = .error refusal ∧
          refusal.origin = (.nestingTooDeep, Site.anchor tokens ⟨ts.length, limit⟩) ∧
          refusal.anchors.length = limit ∧
          (limit < bound →
            Reached bound (ts ++ us) (nest.opened enclosure ts.length) ∧
            (nest.opened enclosure ts.length).depth = limit + 1 ∧
            parseWithin bound tokens =
              (nest.opened enclosure ts.length).readFrom bound (ts ++ us).length rest) ∧
          (limit = bound → parseUpTo bound tokens = .error refusal)) := by
  refine ⟨rfl, ?_⟩
  rcases parseWithin_eq_or_exhausted hl hle tokens with
    heq | ⟨ts, us, rest, nest, enclosure, htokens, he, hfail⟩
  · left
    rw [parseUpTo, parseUpTo, heq]
  · right
    have hrefusal : parseUpTo limit tokens =
        .error ((nest.fail .nestingTooDeep ts.length).anchored tokens) := by
      rw [parseUpTo, hfail, mapError_error]
    refine ⟨ts, us, rest, nest, enclosure, _, htokens, he, hrefusal, ?_, ?_, ?_, ?_⟩
    · rw [Failure.anchored, Failure.origin_map, origin_fail, he.depth]
    · rw [Failure.anchored, Failure.anchors_map, List.length_map, length_anchors_fail, he.depth]
    · intro hlt
      have hopened := he.reached_opened hlt
      refine ⟨hopened, ?_, ?_⟩
      · rw [depth_opened, he.depth]
      · rw [htokens]
        exact hopened.parseWithin_append rest
    · rintro rfl
      exact hrefusal

/-- A match in parentheses. -/
def groupedMatch : List Token :=
  [word .openParen, literal "query.a", word .equals, literal "1", word .closeParen, endToken]

theorem parseUpTo_groupedMatch :
    parseUpTo 1 groupedMatch = .error (.raised .nestingTooDeep ⟨"(", 0, 1⟩) ∧
      parseUpTo 128 groupedMatch = .ok (.leaf ⟨⟨.query, "a"⟩, .value "1"⟩) := by
  have hsplit : Phrase.split groupedMatch =
      ([.operand .group, .operand (.value "query.a" "1"), .close], [endToken]) := by cbv
  constructor
  · rw [parseUpTo, parseWithin, hsplit]
    rfl
  · rw [parseUpTo, parseWithin, hsplit]
    rfl

/-- A reader that allows one level is stopped by the parenthesis, and one that allows more opens a
second level there. -/
theorem parseUpTo_cases_groupedMatch :
    parseUpTo 1 groupedMatch = .error (.raised .nestingTooDeep ⟨"(", 0, 1⟩) ∧
      parseUpTo 128 groupedMatch = .ok (.leaf ⟨⟨.query, "a"⟩, .value "1"⟩) ∧
      ∃ ts us rest nest enclosure, groupedMatch = ts ++ us ++ rest ∧
        Exhausted 1 ts us nest enclosure ∧
        Reached 128 (ts ++ us) (nest.opened enclosure ts.length) ∧
        (nest.opened enclosure ts.length).depth = 2 := by
  obtain ⟨hone, hmany⟩ := parseUpTo_groupedMatch
  refine ⟨hone, hmany, ?_⟩
  have hcases := parseUpTo_cases (show 1 ≤ 1 by decide) (show 1 ≤ 128 by decide) groupedMatch
  rcases hcases.2 with heq | ⟨ts, us, rest, nest, enclosure, _, htokens, he, -, -, -, hopened, -⟩
  · simp [hone, hmany] at heq
  · obtain ⟨hreached, hdepth, -⟩ := hopened (by decide)
    exact ⟨ts, us, rest, nest, enclosure, htokens, he, hreached, hdepth⟩

end Rule

end TriggerRule
