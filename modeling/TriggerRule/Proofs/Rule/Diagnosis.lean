import TriggerRule.Proofs.Rule.Place
import TriggerRule.Proofs.Rule.Rendering

/-!
# The cause of a refusal

Why tokens are refused can be told from the refused token, the one before it, and the match or
opening that starts there, if one does. `Fits` says for each cause when that is. What the reader
reports fits (`Blocks.fits`), nothing fits where it reports a token as unexpected
(`Blocks.not_fits`), and no two causes fit at one site (`Fits.unique`). Main statement:
`parse_error_cause`.
-/

namespace TriggerRule

open Token

namespace Token

/-! ## Around a site -/

/-- The kind of the token at an index. -/
def kindAt (tokens : List Token) (index : Nat) : Option Kind := tokens[index]?.map kind

/-- The kind of the token before an index, which the first has none of. -/
def kindBefore (tokens : List Token) : Nat → Option Kind
  | 0 => none
  | index + 1 => kindAt tokens index

/-- A group has just been opened before the index. The parenthesis of a call comes after `sha1` and
opens none. -/
def GroupBegins (tokens : List Token) (index : Nat) : Prop :=
  kindBefore tokens index = some .openParen ∧ kindBefore tokens (index - 1) ≠ some .sha1

/-- An operand may stand at the index: where a level begins, and behind an operator. -/
def OperandDue (tokens : List Token) (index : Nat) : Prop :=
  index = 0 ∨ GroupBegins tokens index ∨
    kindBefore tokens index = some .and ∨ kindBefore tokens index = some .or

theorem kindAt_append (ts rest : List Token) :
    kindAt (ts ++ rest) ts.length = rest.head?.map kind := by
  rw [kindAt, List.getElem?_append_right (Nat.le_refl _), Nat.sub_self, List.head?_eq_getElem?]

theorem kindBefore_append (ts rest : List Token) :
    kindBefore (ts ++ rest) ts.length = lastKind ts := by
  rcases List.eq_nil_or_concat ts with rfl | ⟨front, t, rfl⟩
  · rfl
  · rw [List.concat_eq_append, List.length_append, lastKind_concat, List.append_assoc]
    exact kindAt_append front ([t] ++ rest)

end Token

/-- The tokens of the phrase stand at the index. -/
def Phrase.StandsAt (tokens : List Token) (index : Nat) (phrase : Phrase) : Prop :=
  ∃ us, us <+: tokens.drop index ∧ Written us phrase

theorem Phrase.StandsAt.read? {tokens : List Token} {index : Nat} {phrase : Phrase}
    (h : StandsAt tokens index phrase) : Phrase.read? (tokens.drop index) = some phrase := by
  obtain ⟨us, ⟨rest, heq⟩, hu⟩ := h
  rw [← heq]
  exact hu.read?_append rest

theorem Phrase.Written.standsAt {us : List Token} {phrase : Phrase} (h : Written us phrase)
    (ts rest : List Token) : StandsAt (ts ++ (us ++ rest)) ts.length phrase := by
  refine ⟨us, ?_, h⟩
  rw [List.drop_left]
  exact List.prefix_append us rest

/-- The token ends the level: a closing parenthesis that of a group, the end of the text the first.
-/
def Site.EndsLevel (tokens : List Token) (site : Site) : Prop :=
  kindAt tokens site.index = some .closeParen ∧ 1 < site.depth ∨
    kindAt tokens site.index = some .endOfText ∧ site.depth = 1

open Grammar (IsPayload) in
/-- When a token is refused for a cause. That a token is unexpected has no condition of its own, and
that a list lacks something is nothing that a rule is refused for. -/
def Cause.Fits (tokens : List Token) (site : Site) : Cause → Prop
  | .emptyLevel =>
    kindAt tokens site.index = some .closeParen ∧ 1 < site.depth ∧
        GroupBegins tokens site.index ∨
      site.index = 0 ∧ kindAt tokens 0 = some .endOfText ∧ site.depth = 1
  | .missingOperand =>
    (kindBefore tokens site.index = some .and ∨ kindBefore tokens site.index = some .or) ∧
      site.EndsLevel tokens
  | .nestingTooDeep =>
    site.depth = 128 ∧ OperandDue tokens site.index ∧
      ∃ enclosure : Enclosure,
        Phrase.StandsAt tokens site.index (.operand enclosure.opening)
  | .badHashTarget =>
    ∃ start parameter target secret, site.index = start + 4 ∧ OperandDue tokens start ∧
      Phrase.StandsAt tokens start (.operand (.hash parameter target secret)) ∧ ¬IsPayload target
  | .badReference refusal =>
    OperandDue tokens site.index ∧ ∃ start text,
      Phrase.StandsAt tokens site.index (.operand start) ∧ start.parameter? = some text ∧
        (∀ target, start.target? = some target → IsPayload target) ∧
        Reference.parse text = .error refusal
  | .unexpectedToken | .missingReference | .missingComma => False

namespace Cause

variable {tokens : List Token} {site : Site} {cause : Cause}

/-! ## No two causes fit -/

/-- The one cause that may fit, by the phrase that starts at the token and the kinds of the token
and of the one before. -/
def candidate (tokens : List Token) (site : Site) : Cause :=
  match Phrase.read? (tokens.drop site.index), kindAt tokens site.index with
  | some (.operand start), _ =>
    match start.parameter? with
    | none => .nestingTooDeep
    | some text =>
      match Reference.parse text with
      | .error refusal => .badReference refusal
      | .ok _ => .unexpectedToken
  | _, some .closeParen | _, some .endOfText =>
    if kindBefore tokens site.index = some .and ∨ kindBefore tokens site.index = some .or then
      .missingOperand
    else .emptyLevel
  | _, _ => .badHashTarget

theorem drop_of_kindAt {index : Nat} {kind : Kind} (h : kindAt tokens index = some kind) :
    ∃ t rest, tokens.drop index = t :: rest ∧ t.kind = kind := by
  rw [kindAt, ← List.head?_drop] at h
  obtain ⟨t, ht, hk⟩ := Option.map_eq_some_iff.1 h
  obtain ⟨rest, hrest⟩ := List.head?_eq_some_iff.1 ht
  exact ⟨t, rest, hrest, hk⟩

/-- A token that ends a level is no operand. -/
theorem read?_of_endsLevel (h : site.EndsLevel tokens) :
    (Phrase.read? (tokens.drop site.index) = some .close ∨
        Phrase.read? (tokens.drop site.index) = none) ∧
      (kindAt tokens site.index = some .closeParen ∨
        kindAt tokens site.index = some .endOfText) := by
  rcases h with ⟨hk, -⟩ | ⟨hk, -⟩
  · obtain ⟨t, rest, hdrop, ht⟩ := drop_of_kindAt hk
    exact ⟨.inl (by simp [hdrop, Phrase.read?, ht]), .inl hk⟩
  · obtain ⟨t, rest, hdrop, ht⟩ := drop_of_kindAt hk
    exact ⟨.inr (by simp [hdrop, Phrase.read?, ht]), .inr hk⟩

theorem candidate_of_endsLevel (h : site.EndsLevel tokens) : candidate tokens site =
    if kindBefore tokens site.index = some .and ∨ kindBefore tokens site.index = some .or then
      .missingOperand
    else .emptyLevel := by
  obtain ⟨hr | hr, hk | hk⟩ := read?_of_endsLevel h <;> simp only [candidate, hr, hk]

/-- At the target of a hash no phrase starts. -/
theorem candidate_of_standsAt_hash {start : Nat} {parameter target secret : String}
    (hi : site.index = start + 4)
    (h : Phrase.StandsAt tokens start (.operand (.hash parameter target secret))) :
    candidate tokens site = .badHashTarget := by
  obtain ⟨us, ⟨rest, heq⟩, hu⟩ := h
  cases hu with
  | @hash p e w o t c s r hp he hw ho ht hc hs hr =>
    have hdrop : tokens.drop site.index = t :: c :: s :: r :: rest := by
      rw [hi, ← List.drop_drop, ← heq]
      rfl
    have hk : kindAt tokens site.index = some t.kind := by
      rw [kindAt, ← List.head?_drop, hdrop]
      rfl
    rcases Phrase.isLiteral_iff.1 ht with hl | hl <;>
      simp [candidate, hdrop, hk, hl, Phrase.read?, Phrase.matchOf?, hc]

theorem Fits.candidate_eq (h : cause.Fits tokens site) : candidate tokens site = cause := by
  cases cause with
  | emptyLevel =>
    rcases h with ⟨hk, hd, hb⟩ | ⟨hi, hk, hd⟩
    · simp [candidate_of_endsLevel (.inl ⟨hk, hd⟩), hb.1]
    · rw [← hi] at hk
      simp [candidate_of_endsLevel (.inr ⟨hk, hd⟩), hi, kindBefore]
  | missingOperand => rw [candidate_of_endsLevel h.2, if_pos h.1]
  | nestingTooDeep =>
    obtain ⟨-, -, enclosure, hs⟩ := h
    rw [candidate, hs.read?]
    cases enclosure <;> rfl
  | badHashTarget =>
    obtain ⟨start, parameter, target, secret, hi, -, hs, -⟩ := h
    exact candidate_of_standsAt_hash hi hs
  | badReference refusal =>
    obtain ⟨-, start, text, hs, hp, -, hr⟩ := h
    simp only [candidate, hs.read?, hp, hr]
  | unexpectedToken => exact h.elim
  | missingReference => exact h.elim
  | missingComma => exact h.elim

theorem Fits.unique {other : Cause} (h : cause.Fits tokens site)
    (ho : other.Fits tokens site) : cause = other := by
  rw [← h.candidate_eq, ho.candidate_eq]

/-- Where a cause fits, but for the target of a hash, a level ends or an operand may stand and one
does. -/
theorem Fits.operandDue (h : cause.Fits tokens site) (hc : cause ≠ .badHashTarget) :
    OperandDue tokens site.index ∧ (site.EndsLevel tokens ∨
      ∃ start, Phrase.read? (tokens.drop site.index) = some (.operand start)) := by
  cases cause with
  | emptyLevel =>
    rcases h with ⟨hk, hd, hb⟩ | ⟨hi, hk, hd⟩
    · exact ⟨.inr (.inl hb), .inl (.inl ⟨hk, hd⟩)⟩
    · refine ⟨.inl hi, .inl (.inr ⟨?_, hd⟩)⟩
      rw [hi]
      exact hk
  | missingOperand => exact ⟨.inr (.inr h.1), .inl h.2⟩
  | nestingTooDeep =>
    obtain ⟨-, ho, enclosure, hs⟩ := h
    exact ⟨ho, .inr ⟨_, hs.read?⟩⟩
  | badHashTarget => exact absurd rfl hc
  | badReference refusal =>
    obtain ⟨ho, start, text, hs, -⟩ := h
    exact ⟨ho, .inr ⟨start, hs.read?⟩⟩
  | unexpectedToken => exact h.elim
  | missingReference => exact h.elim
  | missingComma => exact h.elim

end Cause

/-! ## What the reader reports -/

namespace Nest

variable {limit : Nat} {ts rest : List Token} {nest : Nest} {cause : Cause} {stop : Nat}

/-- Of the parentheses only those of groups are ever the last token. -/
theorem Reached.groupBegins_iff (h : Reached limit ts nest) (rest : List Token) :
    GroupBegins (ts ++ rest) ts.length ↔ lastKind ts = some .openParen := by
  rw [GroupBegins, kindBefore_append, and_iff_left_iff_imp]
  intro hl
  rcases List.eq_nil_or_concat ts with rfl | ⟨front, t, rfl⟩
  · simp [lastKind] at hl
  · rw [List.concat_eq_append] at h hl ⊢
    rw [lastKind_concat] at hl
    rw [List.length_append, List.append_assoc]
    show kindBefore (front ++ ([t] ++ rest)) front.length ≠ some .sha1
    rw [kindBefore_append]
    exact h.lastKind_ne_sha1 (Option.some.inj hl)

theorem Reached.operandDue_iff (h : Reached limit ts nest) (rest : List Token) :
    OperandDue (ts ++ rest) ts.length ↔ nest.operands.takesOperand = true := by
  have hnil : ts.length = 0 ↔ lastKind ts = none := by simp [lastKind]
  rw [OperandDue, h.groupBegins_iff, kindBefore_append, h.begun.placed.takesOperand_iff, hnil]

theorem endsLevel_iff (nest : Nest) (ts rest : List Token) :
    Site.EndsLevel (ts ++ rest) ⟨ts.length, nest.depth⟩ ↔
      rest.head?.map kind = some .closeParen ∧ nest.waiting ≠ [] ∨
        rest.head?.map kind = some .endOfText ∧ nest.waiting = [] := by
  rw [Site.EndsLevel, kindAt_append, depth, ← List.length_pos_iff, ← List.length_eq_zero_iff]
  simp

/-- A level that cannot end fits its end. -/
theorem Reached.fits_of_close (h : Reached limit ts nest)
    (hend : Site.EndsLevel (ts ++ rest) ⟨ts.length, nest.depth⟩)
    (hc : nest.operands.close = .error cause) :
    cause.Fits (ts ++ rest) ⟨ts.length, nest.depth⟩ := by
  have hp := h.begun.placed
  rcases h.begun.close_eq_error_iff.1 hc with ⟨he, rfl⟩ | ⟨-, hd, rfl⟩
  · rcases hp.isEmpty_iff.1 he with hl | hl
    · have hts : ts = [] := by simpa [lastKind] using hl
      subst hts
      obtain rfl := hp.eq_start
      rcases hend with ⟨-, hdepth⟩ | ⟨hk, hdepth⟩
      · exact absurd hdepth (by decide)
      · exact .inr ⟨rfl, hk, hdepth⟩
    · rcases hend with ⟨hk, hdepth⟩ | ⟨-, hdepth⟩
      · exact .inl ⟨hk, hdepth, (h.groupBegins_iff rest).2 hl⟩
      · rw [hl] at hp
        have := List.length_pos_iff.2 hp.waiting_ne_nil
        simp only [depth] at hdepth
        omega
  · refine ⟨?_, hend⟩
    rw [kindBefore_append]
    exact hp.dangling_iff.1 hd

/-- The reported cause fits, unless a token is just unexpected. -/
theorem Blocks.fits (hr : Reached 128 ts nest) (h : Blocks 128 nest ts.length rest cause stop)
    (hc : cause ≠ .unexpectedToken) : cause.Fits (ts ++ rest) ⟨stop, nest.depth⟩ := by
  cases h with
  | phrase hu hf tail =>
    cases hf with
    | operator => exact absurd rfl hc
    | outermost => exact absurd rfl hc
    | operand => exact absurd rfl hc
    | level hw hclose =>
      cases hu with
      | close hk =>
        exact hr.fits_of_close ((endsLevel_iff ..).2 (.inl ⟨by simp [hk], hw⟩)) hclose
    | tooDeep ho hl =>
      have hdepth : nest.depth = 128 := Nat.le_antisymm (hr.begun.depth_le (by decide)) hl
      exact ⟨hdepth, (hr.operandDue_iff _).2 ho, _, hu.standsAt ts tail⟩
    | target ho ht =>
      exact ⟨ts.length, _, _, _, rfl, (hr.operandDue_iff _).2 ho, hu.standsAt ts tail, ht⟩
    | parameter ho hp ht he =>
      exact ⟨(hr.operandDue_iff _).2 ho, _, _, hu.standsAt ts tail, hp, ht, he⟩
  | ending hk hw hclose => exact hr.fits_of_close ((endsLevel_iff ..).2 (.inr ⟨hk, hw⟩)) hclose
  | nothing => exact absurd rfl hc

/-- Reading does not stop at the target of a hash. -/
theorem Reached.not_standsAt_hash (h : Reached limit ts nest) {start : Nat}
    {parameter target secret : String} (hs : ts.length = start + 4) :
    ¬Phrase.StandsAt (ts ++ rest) start (.operand (.hash parameter target secret)) := by
  rintro ⟨us, ⟨tail, heq⟩, hu⟩
  cases hu with
  | @hash p e w o t c s r hp he hw ho ht hc hs' hr =>
    rw [List.drop_append_of_le_length (by omega)] at heq
    have hcall : [p, e, w, o] = ts.drop start := by
      have hsplit : [p, e, w, o] ++ (t :: c :: s :: r :: tail) = ts.drop start ++ rest := heq
      exact (List.append_inj hsplit (by simp [hs])).1
    have hts : ts = ts.take start ++ [p, e] ++ [w] ++ [o] := by
      rw [List.append_assoc, List.append_assoc]
      show ts = ts.take start ++ [p, e, w, o]
      rw [hcall, List.take_append_drop]
    rw [hts] at h
    apply h.lastKind_ne_sha1 ho
    rw [lastKind_concat, hw]

/-- Where a token is unexpected no cause fits. -/
theorem Blocks.not_fits (hr : Reached limit ts nest)
    (h : Blocks limit nest ts.length rest .unexpectedToken stop) (other : Cause) :
    ¬other.Fits (ts ++ rest) ⟨stop, nest.depth⟩ := by
  obtain rfl : stop = ts.length := by
    rcases h.stop_eq with ⟨rfl, -⟩ | ⟨-, hc, -⟩
    · rfl
    · simp at hc
  intro hfits
  -- all causes but this one need that an operand is due and that one starts or the level ends here
  by_cases hother : other = .badHashTarget
  · subst hother
    obtain ⟨start, _, _, _, hi, -, hs, -⟩ := hfits
    exact hr.not_standsAt_hash hi hs
  obtain ⟨hdue, hplace⟩ := hfits.operandDue hother
  rw [hr.operandDue_iff] at hdue
  rw [endsLevel_iff, List.drop_left] at hplace
  cases h with
  | @phrase us phrase _ _ hu hf tail =>
    rw [hu.read?_append] at hplace
    cases hf with
    | operator hp ho =>
      rcases hp with rfl | rfl
      · cases hu with
        | and hk => simp [hk] at hplace
      · cases hu with
        | or hk => simp [hk] at hplace
    | outermost hw =>
      cases hu with
      | close hk => simp [hk, hw] at hplace
    | level hw hc =>
      rcases hr.begun.cause_of_close hc with hc | hc <;> simp at hc
    | operand ho => simp [ho] at hdue
  | ending hk hw hc =>
    rcases hr.begun.cause_of_close hc with hc | hc <;> simp at hc
  | nothing hp hn =>
    rcases hplace with (⟨hk, -⟩ | hend) | ⟨start, hs⟩
    · obtain ⟨t, ht, hclose⟩ := Option.map_eq_some_iff.1 hk
      obtain ⟨tail, rfl⟩ := List.head?_eq_some_iff.1 ht
      simp [Phrase.read?, hclose] at hp
    · exact hn hend
    · simp [hp] at hs

end Nest

namespace Rule

open Nest

/-- **The cause of a refusal** fits its site and no other cause does; and a token is unexpected just
where no cause fits. -/
theorem parse_error_cause {tokens : List Token} {refusal : Failure Anchor}
    (h : parse tokens = .error refusal) :
    ∃ failure, parseSites tokens = .error failure ∧ failure.anchored tokens = refusal ∧
      (∀ cause, cause ≠ .unexpectedToken →
        (refusal.origin.1 = cause ↔ cause.Fits tokens failure.origin.2)) ∧
      (refusal.origin.1 = .unexpectedToken ↔
        ∀ cause : Cause, ¬cause.Fits tokens failure.origin.2) := by
  obtain ⟨failure, hs, rfl⟩ := exists_parseSites_of_parse h
  refine ⟨failure, hs, rfl, ?_⟩
  obtain ⟨ts, rest, nest, rfl, hreached, hstop⟩ := exists_stops_of_parseWithin hs
  obtain ⟨cause, stop, hblocks, rfl⟩ := hstop.exists_blocks
  rw [Failure.anchored, Failure.origin_map, origin_fail]
  by_cases hc : cause = .unexpectedToken
  · subst hc
    have hnone := hblocks.not_fits hreached
    refine ⟨fun other ho => ?_, ?_⟩
    · exact ⟨fun heq => absurd heq.symm ho, fun hf => absurd hf (hnone other)⟩
    · exact ⟨fun _ => hnone, fun _ => rfl⟩
  · have hfits := hblocks.fits hreached hc
    refine ⟨fun other _ => ?_, ?_⟩
    · exact ⟨fun heq => heq ▸ hfits, fun hf => hfits.unique hf⟩
    · exact ⟨fun heq => absurd heq hc, fun hnone => absurd hfits (hnone cause)⟩

/-- A match, and another with a parameter from a source that is none. -/
def matchOfNowhere : List Token :=
  [literal "query.a", word .equals, literal "1", word .and, literal "nowhere.b", word .matchesRegex,
    literal "x", endToken]

theorem parseSites_matchOfNowhere : parseSites matchOfNowhere =
    .error (.raised (.badReference (.unknownSource "nowhere")) ⟨4, 1⟩) := by
  have hsplit : Phrase.split matchOfNowhere =
      ([.operand (.value "query.a" "1"), .and, .operand (.regex "nowhere.b" "x")],
        [endToken]) := by cbv
  rw [parseSites, parseWithin, hsplit]
  rfl

/-- That the source is unknown fits the second match, and that an operand is missing does not. -/
theorem parse_error_cause_matchOfNowhere :
    parse matchOfNowhere =
        .error (.raised (.badReference (.unknownSource "nowhere")) ⟨"nowhere.b", 12, 1⟩) ∧
      (Cause.badReference (.unknownSource "nowhere")).Fits matchOfNowhere ⟨4, 1⟩ ∧
      ¬Cause.missingOperand.Fits matchOfNowhere ⟨4, 1⟩ := by
  have hparse : parse matchOfNowhere =
      .error (.raised (.badReference (.unknownSource "nowhere")) ⟨"nowhere.b", 12, 1⟩) := by
    rw [parse_of_parseSites parseSites_matchOfNowhere]
    rfl
  obtain ⟨failure, hs, -, hcause, -⟩ := parse_error_cause hparse
  rw [parseSites_matchOfNowhere] at hs
  obtain rfl := Except.error.inj hs
  refine ⟨hparse, (hcause _ (by simp)).1 rfl, fun hf => ?_⟩
  have hother := (hcause .missingOperand (by simp)).2 hf
  simp [Failure.origin] at hother

end Rule

end TriggerRule
