import TriggerRule.Proofs.Rule.Layout
import TriggerRule.Proofs.Rule.Place
import TriggerRule.Rule.Descent

/-!
# Descent ends

An iteration reads a phrase, so it moves the index on, and at a phrase the index is within the
tokens; `Effect` lists once what an iteration can do. A level that is read to a rule has taken
balanced tokens and, unless it is the outermost, the parenthesis that closes it (`Returns.spans`),
so the index is further on behind a group as well, and the distance to the end of the tokens bounds
the run. What is read by descent is what is read into a nest (`Returns.readFrom_eq`).
Main statement: `Descent.reading_sound`.
-/

namespace TriggerRule

/-- The failure inside groups, the outermost first. -/
def Failure.enclose {α : Type} (groups : List (Enclosure × α)) (failure : Failure α) : Failure α :=
  groups.foldr (fun group inner => within group.1 group.2 inner) failure

namespace Descent

open Token (Neutral Balanced lastKind)
open Nest (openGroups)

variable {limit : Nat} {tokens : List Token} {point next inner : Point} {enclosure : Enclosure}

/-! ## What an iteration does -/

/-- What an iteration does by the tokens at its point, and what the reader of a nest does there. -/
inductive Effect (limit : Nat) (tokens : List Token) (point : Point) : Iteration → Prop
  /-- An operator or a match is read. -/
  | goes {us rest : List Token} {phrase : Phrase} {operands : Operands}
    (ht : tokens.drop point.index = us ++ rest) (hu : Phrase.Written us phrase) (hn : Neutral us)
    (hs : ∀ waiting index,
      (Nest.mk waiting point.operands).step limit index phrase = .ok ⟨waiting, operands⟩) :
    Effect limit tokens point (.goes ⟨point.depth, operands, point.index + us.length⟩)
  /-- A group is opened. -/
  | enters {us rest : List Token} {enclosure : Enclosure}
    (ht : tokens.drop point.index = us ++ rest)
    (hu : Phrase.Written us (.operand enclosure.opening))
    (ho : point.operands.takesOperand = true) (hd : point.depth < limit) :
    Effect limit tokens point (.enters enclosure ⟨point.depth + 1, .empty, point.index + us.length⟩)
  /-- The group of the level is closed. -/
  | closes {closing : Token} {rest : List Token} (ht : tokens.drop point.index = closing :: rest)
    (hk : closing.kind = .closeParen) (hd : point.depth ≠ 1) :
    Effect limit tokens point (.ends point.index (point.index + 1))
  /-- The outermost level ends where the text does. -/
  | finishes (hp : Phrase.read? (tokens.drop point.index) = none)
    (hk : (tokens.drop point.index).head?.map Token.kind = some .endOfText) (hd : point.depth = 1) :
    Effect limit tokens point (.ends point.index point.index)
  | fails {cause : Cause} {stop : Nat} (hle : point.index ≤ tokens.length → stop ≤ tokens.length)
    (hr : ∀ waiting : List Frame, waiting.length + 1 = point.depth →
      (Nest.mk waiting point.operands).readFrom limit point.index (tokens.drop point.index) =
        .error ((Nest.mk waiting point.operands).fail cause stop)) :
    Effect limit tokens point (.fails (.raised cause ⟨stop, point.depth⟩))

section Phrase

variable {us rest : List Token} {phrase : Phrase}

theorem drop_add_length {first : Nat} (ht : tokens.drop first = us ++ rest) :
    tokens.drop (first + us.length) = rest := by
  rw [← List.drop_drop, ht, List.drop_left]

theorem add_length_le {first : Nat} (ht : tokens.drop first = us ++ rest) (hne : us ≠ []) :
    first + us.length ≤ tokens.length := by
  have hlength := congrArg List.length ht
  have hpos := List.length_pos_iff.2 hne
  rw [List.length_drop, List.length_append] at hlength
  omega

/-- A phrase is refused by the level where it is refused by the nest. -/
theorem effect_fail {cause : Cause} {stop : Nat} (ht : tokens.drop point.index = us ++ rest)
    (hu : Phrase.Written us phrase) (hle : stop ≤ point.index + us.length)
    (hs : ∀ waiting : List Frame, waiting.length + 1 = point.depth →
      (Nest.mk waiting point.operands).step limit point.index phrase =
        .error ((Nest.mk waiting point.operands).fail cause stop)) :
    Effect limit tokens point (point.fail cause stop) := by
  refine .fails ?_ ?_
  · intro _
    have hne := List.length_pos_iff.1 hu.length_pos
    exact Nat.le_trans hle (add_length_le ht hne)
  · intro waiting hw
    rw [ht]
    exact Nest.readFrom_append_of_error hu (hs waiting hw) rest

theorem effect_operator {t : Token} {operands : Operands}
    (ht : tokens.drop point.index = [t] ++ rest) (hu : Phrase.Written [t] phrase)
    (hn : Neutral [t])
    (hs : ∀ waiting index, (Nest.mk waiting point.operands).step limit index phrase =
      if point.operands.takesOperator then .ok ⟨waiting, operands⟩
      else .error ((Nest.mk waiting point.operands).fail .unexpectedToken index)) :
    Effect limit tokens point
      (if point.operands.takesOperator then .goes ⟨point.depth, operands, point.index + 1⟩
      else point.fail .unexpectedToken point.index) := by
  by_cases ho : point.operands.takesOperator = true
  · rw [if_pos ho]
    refine .goes ht hu hn ?_
    intro waiting index
    rw [hs, if_pos ho]
  · rw [if_neg ho]
    refine effect_fail ht hu (Nat.le_add_right ..) ?_
    intro waiting _
    rw [hs, if_neg ho]

theorem effect_descend (ht : tokens.drop point.index = us ++ rest)
    (hu : Phrase.Written us (.operand enclosure.opening))
    (ho : point.operands.takesOperand = true) :
    Effect limit tokens point (point.descend limit enclosure us.length) := by
  unfold Point.descend
  split
  · next hl =>
    refine effect_fail ht hu (Nat.le_add_right ..) ?_
    intro waiting hw
    rw [Nest.step_opening ho, Nest.openLevel, Nest.depth, hw, if_pos hl]
  · next hl => exact .enters ht hu ho (Nat.lt_of_not_le hl)

theorem effect_readMatch {start : Phrase.Operand} {parameter : String} {test : Test}
    (ht : tokens.drop point.index = us ++ rest) (hu : Phrase.Written us (.operand start))
    (ho : point.operands.takesOperand = true)
    (hn : ∀ reference, Reference.parse parameter = .ok reference → Neutral us)
    (hs : ∀ (nest : Nest) index,
      nest.readOperand limit index start = nest.pushMatch parameter test index) :
    Effect limit tokens point (point.readMatch parameter test us.length) := by
  have hstep : ∀ waiting index, (Nest.mk waiting point.operands).step limit index (.operand start) =
      (Nest.mk waiting point.operands).pushMatch parameter test index := by
    intro waiting index
    rw [Nest.step, if_pos ho, hs]
  unfold Point.readMatch
  cases hp : Reference.parse parameter with
  | error refusal =>
    refine effect_fail ht hu (Nat.le_add_right ..) ?_
    intro waiting _
    rw [hstep, Nest.pushMatch, hp]
  | ok reference =>
    refine .goes ht hu (hn reference hp) ?_
    intro waiting index
    rw [hstep, Nest.pushMatch, hp]
    rfl

theorem effect_readOperand {start : Phrase.Operand} (ht : tokens.drop point.index = us ++ rest)
    (hu : Phrase.Written us (.operand start)) (ho : point.operands.takesOperand = true) :
    Effect limit tokens point (point.readOperand limit start) := by
  have hw : us.length = start.width := hu.length
  cases start with
  | group =>
    have hopening : Phrase.Written us (.operand Enclosure.group.opening) := hu
    rw [Point.readOperand, ← hw]
    exact effect_descend ht hopening ho
  | negation =>
    have hopening : Phrase.Written us (.operand Enclosure.negation.opening) := hu
    rw [Point.readOperand, ← hw]
    exact effect_descend ht hopening ho
  | value parameter value =>
    rw [Point.readOperand, ← hw]
    refine effect_readMatch ht hu ho ?_ fun _ _ => rfl
    intro reference hp
    exact Grammar.closed_neutral.operand _ _ (.value hu hp)
  | regex parameter pattern =>
    rw [Point.readOperand, ← hw]
    refine effect_readMatch ht hu ho ?_ fun _ _ => rfl
    intro reference hp
    exact Grammar.closed_neutral.operand _ _ (.regex hu hp)
  | hash parameter target secret =>
    rw [Point.readOperand, ← hw]
    split
    · next hp =>
      refine effect_readMatch ht hu ho ?_ ?_
      · intro reference hr
        exact Grammar.closed_neutral.operand _ _ (.hash hu (Nest.isPayload_iff.1 hp) hr)
      · intro nest index
        rw [Nest.readOperand, if_pos hp]
    · next hp =>
      refine effect_fail ht hu ?_ ?_
      · rw [hw]
        exact Nat.add_le_add_left (show 4 ≤ 8 by decide) _
      · intro waiting _
        rw [Nest.step, if_pos ho, Nest.readOperand, if_neg hp]

end Phrase

theorem effect_iterate (limit : Nat) (tokens : List Token) (point : Point) :
    Effect limit tokens point (point.iterate limit tokens) := by
  unfold Point.iterate
  cases hp : Phrase.read? (tokens.drop point.index) with
  | none =>
    simp only [← List.head?_drop]
    split
    · next h => exact .finishes hp h.1 h.2
    · next h =>
      refine .fails (fun hle => hle) ?_
      intro waiting hw
      rw [Nest.readFrom_of_read? hp, Nest.finish, if_neg]
      rintro ⟨hk, hwaiting⟩
      simp only [List.isEmpty_iff] at hwaiting
      refine h ⟨hk, ?_⟩
      rw [← hw, hwaiting, List.length_nil]
  | some phrase =>
    obtain ⟨us, rest, ht, hu⟩ := Phrase.exists_written_of_read? hp
    cases phrase with
    | and =>
      cases hu with
      | @and t hk =>
        have hn : Neutral [t] := Token.neutral_singleton (by simp [hk]) (by simp [hk])
        exact effect_operator ht (.and hk) hn fun _ _ => rfl
    | or =>
      cases hu with
      | @or t hk =>
        have hn : Neutral [t] := Token.neutral_singleton (by simp [hk]) (by simp [hk])
        exact effect_operator ht (.or hk) hn fun _ _ => rfl
    | close =>
      simp only
      split
      · next hd =>
        refine effect_fail ht hu (Nat.le_add_right ..) ?_
        intro waiting hw
        obtain rfl : waiting = [] := List.length_eq_zero_iff.1 (by omega)
        rfl
      · next hd =>
        cases hu with
        | close hk => exact .closes ht hk hd
    | operand start =>
      simp only
      split
      · next ho => exact effect_readOperand ht hu ho
      · next ho =>
        refine effect_fail ht hu (Nat.le_add_right ..) ?_
        intro waiting _
        rw [Nest.step, if_neg ho]

theorem effect_of_iterate {iteration : Iteration}
    (hi : point.iterate limit tokens = iteration) : Effect limit tokens point iteration := by
  rw [← hi]
  exact effect_iterate limit tokens point

/-! ## What a level takes -/

/-- A level is read from one index to another: it takes balanced tokens, and behind them the
parenthesis that closes it unless it is the outermost. -/
def Spans (tokens : List Token) (depth first next : Nat) : Prop :=
  ∃ body rest, tokens.drop first = body ++ rest ∧ Neutral body ∧
    (depth = 1 ∧ next = first + body.length ∨
      depth ≠ 1 ∧ ∃ closing tail, rest = closing :: tail ∧ closing.kind = .closeParen ∧
        next = first + body.length + 1)

section Spans

variable {depth first next : Nat} {us rest : List Token}

theorem Spans.le (h : Spans tokens depth first next) : first ≤ next := by
  obtain ⟨body, rest, -, -, hnext⟩ := h
  rcases hnext with ⟨-, hnext⟩ | ⟨-, closing, tail, -, -, hnext⟩
  · omega
  · omega

theorem Spans.le_length (h : Spans tokens depth first next) (hle : first ≤ tokens.length) :
    next ≤ tokens.length := by
  obtain ⟨body, rest, ht, -, hnext⟩ := h
  have hlength := congrArg List.length ht
  rw [List.length_drop, List.length_append] at hlength
  rcases hnext with ⟨-, rfl⟩ | ⟨-, closing, tail, rfl, -, rfl⟩
  · omega
  · rw [List.length_cons] at hlength
    omega

theorem Spans.append (ht : tokens.drop first = us ++ rest) (hu : Neutral us)
    (h : Spans tokens depth (first + us.length) next) : Spans tokens depth first next := by
  obtain ⟨body, rest', ht', hbody, hnext⟩ := h
  rw [drop_add_length ht] at ht'
  refine ⟨us ++ body, rest', ?_, hu.append hbody, ?_⟩
  · rw [ht, ht', List.append_assoc]
  · rw [List.length_append, ← Nat.add_assoc]
    exact hnext

/-- A group is balanced with the tokens that open it and the parenthesis that closes it. -/
theorem neutral_group {body : List Token} {closing : Token}
    (hu : Phrase.Written us (.operand enclosure.opening)) (hbody : Neutral body)
    (hk : closing.kind = .closeParen) : Neutral (us ++ body ++ [closing]) := by
  have hgroup : Grammar.Operand (fun ts _ => Neutral ts) (us ++ body ++ [closing])
      (enclosure.apply default) := by
    cases enclosure with
    | group => exact .group hu hbody (.close hk)
    | negation => exact .negation hu hbody (.close hk)
  exact Grammar.closed_neutral.operand _ _ hgroup

/-- A level goes on behind a group that it has opened. -/
theorem Spans.group {inside behind : Nat} (ht : tokens.drop first = us ++ rest)
    (hu : Phrase.Written us (.operand enclosure.opening)) (hd : inside ≠ 1)
    (hi : Spans tokens inside (first + us.length) behind) (h : Spans tokens depth behind next) :
    Spans tokens depth first next := by
  obtain ⟨body, rest', ht', hbody, hbehind⟩ := hi
  rcases hbehind with ⟨hone, -⟩ | ⟨-, closing, tail, rfl, hk, rfl⟩
  · exact absurd hone hd
  · rw [drop_add_length ht] at ht'
    have hall : tokens.drop first = us ++ body ++ [closing] ++ tail := by
      rw [ht, ht']
      simp
    refine Spans.append hall (neutral_group hu hbody hk) ?_
    have hlength : first + (us ++ body ++ [closing]).length =
        first + us.length + body.length + 1 := by
      simp only [List.length_append, List.length_singleton]
      omega
    rw [hlength]
    exact h

end Spans

theorem close_eq_ok {stop behind next : Nat} {rule : Rule}
    (h : point.close stop behind = .ok (rule, next)) : next = behind := by
  unfold Point.close at h
  split at h
  · obtain ⟨-, rfl⟩ := Prod.mk.inj (Except.ok.inj h)
    rfl
  · cases h

/-- A level that is read to a rule has taken the tokens that it spans. -/
theorem Returns.spans {rule : Rule} {behind : Nat}
    (h : Returns limit tokens point (.ok (rule, behind))) (hd : 0 < point.depth) :
    Spans tokens point.depth point.index behind := by
  generalize hr : Except.ok (rule, behind) = outcome at h
  induction h generalizing rule behind with
  | @goes point next outcome hi _ ih =>
    cases effect_of_iterate hi with
    | goes ht hu hn hs => exact (ih hd hr).append ht hn
  | @resumes point inner enclosure rule next outcome hi _ _ ihinner ih =>
    cases effect_of_iterate hi with
    | enters ht hu ho hlimit =>
      have hinner := ihinner (Nat.succ_pos _) rfl
      exact Spans.group ht hu (by simp only; omega) hinner (ih hd hr)
  | inside => cases hr
  | @ends point stop next hi =>
    obtain rfl := close_eq_ok hr.symm
    cases effect_of_iterate hi with
    | @closes closing rest ht hk hone =>
      have hnil : Neutral [] := fun _ _ => Iff.rfl
      exact ⟨[], _, ht, hnil, .inr ⟨hone, closing, rest, rfl, hk, rfl⟩⟩
    | finishes hp hk hone =>
      have hnil : Neutral [] := fun _ _ => Iff.rfl
      exact ⟨[], _, rfl, hnil, .inl ⟨hone, rfl⟩⟩
  | fails => cases hr

/-- The loop of a level comes to one end only. -/
theorem Returns.unique {outcome other : Outcome} (h : Returns limit tokens point outcome)
    (ho : Returns limit tokens point other) : other = outcome := by
  induction h generalizing other with
  | goes hi _ ih =>
    cases ho with
    | goes hi' hr =>
      cases hi.symm.trans hi'
      exact ih hr
    | resumes hi' | inside hi' | ends hi' | fails hi' => cases hi.symm.trans hi'
  | resumes hi _ _ ihinner ih =>
    cases ho with
    | resumes hi' hinner hr =>
      cases hi.symm.trans hi'
      cases ihinner hinner
      exact ih hr
    | inside hi' hinner =>
      cases hi.symm.trans hi'
      cases ihinner hinner
    | goes hi' | ends hi' | fails hi' => cases hi.symm.trans hi'
  | inside hi _ ihinner =>
    cases ho with
    | resumes hi' hinner =>
      cases hi.symm.trans hi'
      cases ihinner hinner
    | inside hi' hinner =>
      cases hi.symm.trans hi'
      cases ihinner hinner
      rfl
    | goes hi' | ends hi' | fails hi' => cases hi.symm.trans hi'
  | ends hi =>
    cases ho with
    | ends hi' =>
      cases hi.symm.trans hi'
      rfl
    | goes hi' | resumes hi' | inside hi' | fails hi' => cases hi.symm.trans hi'
  | fails hi =>
    cases ho with
    | fails hi' =>
      cases hi.symm.trans hi'
      rfl
    | goes hi' | resumes hi' | inside hi' | ends hi' => cases hi.symm.trans hi'

/-! ## The index -/

/-- The point has a level, and its index is at a token or right behind the last. -/
structure Point.Inside (tokens : List Token) (point : Point) : Prop where
  depth_pos : 0 < point.depth
  index_le : point.index ≤ tokens.length

theorem inside_start (tokens : List Token) : Point.start.Inside tokens :=
  ⟨Nat.one_pos, Nat.zero_le _⟩

namespace Point.Inside

theorem goes (h : point.Inside tokens) (hi : point.iterate limit tokens = .goes next) :
    next.Inside tokens ∧ point.index < next.index ∧ next.depth = point.depth := by
  cases effect_of_iterate hi with
  | goes ht hu hn hs =>
    have hpos := hu.length_pos
    have hle := add_length_le ht (List.length_pos_iff.1 hpos)
    exact ⟨⟨h.depth_pos, hle⟩, Nat.lt_add_of_pos_right hpos, rfl⟩

theorem enters (hi : point.iterate limit tokens = .enters enclosure inner) :
    inner.Inside tokens ∧ point.index < inner.index ∧ inner.depth = point.depth + 1 ∧
      inner.depth ≤ limit := by
  cases effect_of_iterate hi with
  | enters ht hu ho hd =>
    have hpos := hu.length_pos
    have hle := add_length_le ht (List.length_pos_iff.1 hpos)
    exact ⟨⟨Nat.succ_pos _, hle⟩, Nat.lt_add_of_pos_right hpos, rfl, hd⟩

theorem resumes {rule : Rule} {behind : Nat} (h : point.Inside tokens)
    (hi : point.iterate limit tokens = .enters enclosure inner)
    (hr : Returns limit tokens inner (.ok (rule, behind))) :
    (point.resume enclosure rule behind).Inside tokens ∧ point.index < behind := by
  obtain ⟨hinner, hlt, -, -⟩ := enters hi
  have hspans := hr.spans hinner.depth_pos
  exact ⟨⟨h.depth_pos, hspans.le_length hinner.index_le⟩, Nat.lt_of_lt_of_le hlt hspans.le⟩

theorem turns (h : point.Inside tokens) (ht : Turns limit tokens point next) :
    next.Inside tokens ∧ point.index < next.index ∧ next.depth = point.depth := by
  cases ht with
  | goes hi => exact h.goes hi
  | resumes hi hr =>
    obtain ⟨hnext, hlt⟩ := h.resumes hi hr
    exact ⟨hnext, hlt, rfl⟩

theorem ends {stop behind : Nat} (h : point.Inside tokens)
    (hi : point.iterate limit tokens = .ends stop behind) :
    stop ≤ tokens.length ∧ behind ≤ tokens.length := by
  cases effect_of_iterate hi with
  | @closes closing rest ht hk hd =>
    have ht' : tokens.drop point.index = [closing] ++ rest := ht
    exact ⟨h.index_le, add_length_le ht' (List.cons_ne_nil _ _)⟩
  | finishes hp hk hd => exact ⟨h.index_le, h.index_le⟩

/-- From a point on the loop comes to its end. -/
theorem exists_returns (h : point.Inside tokens) :
    ∃ outcome, Returns limit tokens point outcome := by
  -- on the distance to the end of the tokens, which each phrase makes shorter
  induction hn : tokens.length - point.index using Nat.strongRecOn generalizing point with
  | _ n ih =>
    have hcloser : ∀ {next : Point}, next.Inside tokens → point.index < next.index →
        ∃ outcome, Returns limit tokens next outcome := by
      intro next hnext hlt
      have hle := hnext.index_le
      exact ih _ (by omega) hnext rfl
    cases hi : point.iterate limit tokens with
    | goes next =>
      obtain ⟨hnext, hlt, -⟩ := h.goes hi
      obtain ⟨outcome, hr⟩ := hcloser hnext hlt
      exact ⟨outcome, .goes hi hr⟩
    | enters enclosure inner =>
      obtain ⟨hinner, hlt, -, -⟩ := enters hi
      obtain ⟨outcome, hr⟩ := hcloser hinner hlt
      cases outcome with
      | error failure => exact ⟨_, .inside hi hr⟩
      | ok result =>
        obtain ⟨rule, behind⟩ := result
        obtain ⟨hnext, hlt⟩ := h.resumes hi hr
        obtain ⟨outcome, hlast⟩ := hcloser hnext hlt
        exact ⟨outcome, .resumes hi hr hlast⟩
    | ends stop next => exact ⟨_, .ends hi⟩
    | fails failure => exact ⟨_, .fails hi⟩

end Point.Inside

theorem index_le_of_close_eq_error {stop behind : Nat} {failure : Failure Site}
    (hle : stop ≤ tokens.length) (h : point.close stop behind = .error failure) :
    ∀ site ∈ failure.anchors, site.index ≤ tokens.length := by
  unfold Point.close at h
  split at h
  · cases h
  · obtain rfl := Except.error.inj h
    simpa [Failure.anchors] using hle

/-- A failure is anchored at tokens or right behind the last. -/
theorem Returns.index_le {failure : Failure Site} (h : Returns limit tokens point (.error failure))
    (hpoint : point.Inside tokens) : ∀ site ∈ failure.anchors, site.index ≤ tokens.length := by
  generalize hr : Except.error failure = outcome at h
  induction h generalizing failure with
  | goes hi _ ih => exact ih (hpoint.goes hi).1 hr
  | resumes hi hinner _ _ ih => exact ih (hpoint.resumes hi hinner).1 hr
  | inside hi _ ih =>
    obtain rfl := Except.error.inj hr
    rw [Failure.anchors, List.forall_mem_cons]
    exact ⟨hpoint.index_le, ih (Point.Inside.enters hi).1 rfl⟩
  | ends hi => exact index_le_of_close_eq_error (hpoint.ends hi).1 hr.symm
  | @fails point failure hi =>
    obtain rfl := Except.error.inj hr
    cases effect_of_iterate hi with
    | fails hle hread => simpa [Failure.anchors] using hle hpoint.index_le

/-- The bound is met where tokens break off before the end of the text. -/
example : (Point.mk 2 .empty 1).iterate depthLimit [⟨.openParen, "("⟩] =
    .fails (.raised .unexpectedToken ⟨1, 2⟩) := rfl

/-! ## Descent and the nest -/

/-- What a nest is read to whose innermost level has come to its end. -/
def handOver (limit : Nat) (tokens : List Token) (waiting : List Frame) :
    Outcome → Except (Failure Site) Rule
  | .error failure => .error (failure.enclose (openGroups waiting))
  | .ok (rule, next) =>
    match waiting with
    | [] => .ok rule
    | frame :: outer =>
      (Nest.mk outer (frame.operands.add (frame.enclosure.apply rule))).readFrom limit next
        (tokens.drop next)

theorem enclose_openGroups_cons (frame : Frame) (outer : List Frame) (failure : Failure Site) :
    failure.enclose (openGroups (frame :: outer)) =
      (Failure.within frame.enclosure ⟨frame.index, outer.length + 1⟩ failure).enclose
        (openGroups outer) := by
  rw [Failure.enclose, openGroups, List.foldr_append]
  rfl

theorem handOver_raised {waiting : List Frame} (operands : Operands) (cause : Cause) (stop : Nat) :
    handOver limit tokens waiting (.error (.raised cause ⟨stop, waiting.length + 1⟩)) =
      .error ((Nest.mk waiting operands).fail cause stop) := rfl

section ReadFrom

variable {us rest : List Token} {waiting : List Frame}

theorem readFrom_enters (ht : tokens.drop point.index = us ++ rest)
    (hu : Phrase.Written us (.operand enclosure.opening))
    (ho : point.operands.takesOperand = true) (hd : point.depth < limit)
    (hw : waiting.length + 1 = point.depth) :
    (Nest.mk waiting point.operands).readFrom limit point.index (tokens.drop point.index) =
      (Nest.mk (⟨enclosure, point.index, point.operands⟩ :: waiting) .empty).readFrom limit
        (point.index + us.length) (tokens.drop (point.index + us.length)) := by
  have hs : (Nest.mk waiting point.operands).step limit point.index (.operand enclosure.opening) =
      .ok ⟨⟨enclosure, point.index, point.operands⟩ :: waiting, .empty⟩ := by
    rw [Nest.step_opening ho, Nest.openLevel, Nest.depth, hw, if_neg (Nat.not_le.2 hd)]
  rw [ht, Nest.readFrom_append_of_ok hu hs, drop_add_length ht]

theorem readFrom_closes {closing : Token} (ht : tokens.drop point.index = closing :: rest)
    (hk : closing.kind = .closeParen) (hd : point.depth ≠ 1)
    (hw : waiting.length + 1 = point.depth) :
    (Nest.mk waiting point.operands).readFrom limit point.index (tokens.drop point.index) =
      handOver limit tokens waiting (point.close point.index (point.index + 1)) := by
  have hu : Phrase.Written [closing] .close := .close hk
  have ht' : tokens.drop point.index = [closing] ++ rest := ht
  cases waiting with
  | nil => exact absurd hw.symm hd
  | cons frame outer =>
    unfold Point.close
    cases hc : point.operands.close with
    | error cause =>
      have hs : (Nest.mk (frame :: outer) point.operands).step limit point.index .close =
          .error ((Nest.mk (frame :: outer) point.operands).fail cause point.index) := by
        simp only [Nest.step, Nest.closeLevel, hc]
      rw [ht', Nest.readFrom_append_of_error hu hs, ← hw]
      rfl
    | ok rule =>
      have hs : (Nest.mk (frame :: outer) point.operands).step limit point.index .close =
          .ok ⟨outer, frame.operands.add (frame.enclosure.apply rule)⟩ := by
        simp only [Nest.step, Nest.closeLevel, hc]
      have hrest : tokens.drop (point.index + 1) = rest := drop_add_length ht'
      rw [ht', Nest.readFrom_append_of_ok hu hs, handOver, hrest]
      rfl

theorem readFrom_finishes (hp : Phrase.read? (tokens.drop point.index) = none)
    (hk : (tokens.drop point.index).head?.map Token.kind = some .endOfText)
    (hd : point.depth = 1) (hw : waiting.length + 1 = point.depth) :
    (Nest.mk waiting point.operands).readFrom limit point.index (tokens.drop point.index) =
      handOver limit tokens waiting (point.close point.index point.index) := by
  obtain rfl : waiting = [] := List.length_eq_zero_iff.1 (by omega)
  rw [Nest.readFrom_of_read? hp, Nest.finish, if_pos ⟨hk, rfl⟩]
  unfold Point.close
  cases hc : point.operands.close with
  | error cause =>
    rw [mapError_error, ← hw]
    rfl
  | ok rule => rfl

end ReadFrom

/-- What a level is read to by descent is handed over to the levels that wait in the nest. -/
theorem Returns.readFrom_eq {outcome : Outcome} (h : Returns limit tokens point outcome)
    {waiting : List Frame} (hw : waiting.length + 1 = point.depth) :
    (Nest.mk waiting point.operands).readFrom limit point.index (tokens.drop point.index) =
      handOver limit tokens waiting outcome := by
  induction h generalizing waiting with
  | @goes point next outcome hi _ ih =>
    cases effect_of_iterate hi with
    | goes ht hu hn hs =>
      rw [← ih hw, ht, Nest.readFrom_append_of_ok hu (hs waiting _), drop_add_length ht]
  | @resumes point inner enclosure rule next outcome hi _ _ ihinner ih =>
    cases effect_of_iterate hi with
    | enters ht hu ho hd =>
      rw [readFrom_enters ht hu ho hd hw, ihinner (by rw [List.length_cons, hw])]
      exact ih hw
  | @inside point inner enclosure failure hi _ ihinner =>
    cases effect_of_iterate hi with
    | enters ht hu ho hd =>
      rw [readFrom_enters ht hu ho hd hw, ihinner (by rw [List.length_cons, hw]), handOver,
        enclose_openGroups_cons, hw]
      rfl
  | @ends point stop next hi =>
    cases effect_of_iterate hi with
    | closes ht hk hd => exact readFrom_closes ht hk hd hw
    | finishes hp hk hd => exact readFrom_finishes hp hk hd hw
  | @fails point failure hi =>
    cases effect_of_iterate hi with
    | fails hle hread => rw [hread waiting hw, ← hw, handOver_raised point.operands]

/-- By descent the tokens are read as they are into a nest. -/
theorem Returns.map_fst_eq {outcome : Outcome} (h : Returns limit tokens .start outcome) :
    outcome.map Prod.fst = Rule.parseWithin limit tokens := by
  have hw : ([] : List Frame).length + 1 = Point.start.depth := rfl
  have hread := h.readFrom_eq hw
  rw [Nest.parseWithin_eq_readFrom]
  cases outcome with
  | error failure => exact hread.symm
  | ok result => exact hread.symm

/-! ## Runs -/

/-- The tokens from one index up to another are those of a group behind its opening parenthesis: a
balanced sequence and the parenthesis that closes the group. -/
def Closes (tokens : List Token) (first next : Nat) : Prop :=
  ∃ opened body closing rest, tokens = opened ++ body ++ closing :: rest ∧
    opened.length = first ∧ lastKind opened = some .openParen ∧ Balanced 0 body ∧
    closing.kind = .closeParen ∧ next = first + body.length + 1

/-- A call for a group that is read to a rule takes the tokens up to the parenthesis that closes the
group, and no more. -/
theorem Returns.closes {rule : Rule} {behind : Nat}
    (hi : point.iterate limit tokens = .enters enclosure inner) (hpoint : point.Inside tokens)
    (h : Returns limit tokens inner (.ok (rule, behind))) :
    Closes tokens inner.index behind := by
  have hinner := (Point.Inside.enters hi).1
  cases effect_of_iterate hi with
  | @enters us _ _ ht hu ho hd =>
    obtain ⟨body, rest, ht', hbody, hbehind⟩ := h.spans hinner.depth_pos
    rcases hbehind with ⟨hone, -⟩ | ⟨-, closing, tail, rfl, hk, hbehind⟩
    · have hpos := hpoint.depth_pos
      simp only at hone
      omega
    · have hopened : lastKind (tokens.take point.index ++ us) = some .openParen :=
        Token.lastKind_append (Nest.lastKind_opening hu)
      refine ⟨tokens.take point.index ++ us, body, closing, tail, ?_, ?_, hopened,
        hbody.balanced, hk, hbehind⟩
      · rw [drop_add_length ht] at ht'
        rw [List.append_assoc, List.append_assoc, ← ht', ← ht, List.take_append_drop]
      · rw [List.length_append, List.length_take, Nat.min_eq_left hpoint.index_le]

theorem Visits.inside {loops : Nat} (h : Visits limit tokens loops point) :
    point.Inside tokens := by
  induction h with
  | start => exact inside_start tokens
  | turn _ ht ih => exact (ih.turns ht).1
  | call _ hi ih => exact (Point.Inside.enters hi).1

theorem Visits.depth_eq {loops : Nat} (h : Visits limit tokens loops point) :
    point.depth = loops := by
  induction h with
  | start => rfl
  | turn h ht ih => rw [(h.inside.turns ht).2.2, ih]
  | call _ hi ih =>
    obtain ⟨-, -, hdepth, -⟩ := Point.Inside.enters hi
    rw [hdepth, ih]

theorem Visits.depth_le {loops : Nat} (h : Visits limit tokens loops point) (hlimit : 1 ≤ limit) :
    point.depth ≤ limit := by
  induction h with
  | start => exact hlimit
  | turn h ht ih =>
    rw [(h.inside.turns ht).2.2]
    exact ih
  | call _ hi ih =>
    obtain ⟨-, -, -, hle⟩ := Point.Inside.enters hi
    exact hle

/-- What holds of a point that a run passes through with a number of loops that have not ended. -/
structure Sound (tokens : List Token) (loops : Nat) (point : Point) : Prop where
  index_le : point.index ≤ tokens.length
  depth_eq : point.depth = loops
  loops_le : loops ≤ depthLimit
  turns : ∀ next, Turns depthLimit tokens point next → point.index < next.index
  calls : ∀ enclosure inner rule next,
    point.iterate depthLimit tokens = .enters enclosure inner →
    Returns depthLimit tokens inner (.ok (rule, next)) → Closes tokens inner.index next
  ends : ∀ stop next, point.iterate depthLimit tokens = .ends stop next →
    stop ≤ tokens.length ∧ next ≤ tokens.length
  /-- The loop does not go on for ever. -/
  returns : ∃ outcome, Returns depthLimit tokens point outcome

theorem Visits.sound {loops : Nat} (h : Visits depthLimit tokens loops point) :
    Sound tokens loops point where
  index_le := h.inside.index_le
  depth_eq := h.depth_eq
  loops_le := by
    rw [← h.depth_eq]
    exact h.depth_le (by decide)
  turns next ht := (h.inside.turns ht).2.1
  calls enclosure inner rule next hi hr := hr.closes hi h.inside
  ends stop next hi := h.inside.ends hi
  returns := h.inside.exists_returns

/-- Each point that a run passes through is sound, and the run comes to one end: what is read by
descent is what is read into a nest, and a failure is anchored at tokens or right behind the last. -/
theorem reading_sound (tokens : List Token) :
    (∀ loops point, Visits depthLimit tokens loops point → Sound tokens loops point) ∧
      ∃ outcome, Returns depthLimit tokens .start outcome ∧
        (∀ other, Returns depthLimit tokens .start other → other = outcome) ∧
        outcome.map Prod.fst = Rule.parseSites tokens ∧
        ∀ failure, Rule.parseSites tokens = .error failure →
          ∀ site ∈ failure.anchors, site.index ≤ tokens.length := by
  constructor
  · intro loops point h
    exact h.sound
  · have hends : ∃ outcome, Returns depthLimit tokens .start outcome :=
      (inside_start tokens).exists_returns
    obtain ⟨outcome, hr⟩ := hends
    have heq := hr.map_fst_eq
    refine ⟨outcome, hr, fun _ hother => hr.unique hother, heq, ?_⟩
    intro failure hf
    rw [Rule.parseSites, ← heq] at hf
    cases outcome with
    | error refused =>
      obtain rfl := Except.error.inj hf
      exact hr.index_le (inside_start tokens)
    | ok result => cases hf

end Descent

end TriggerRule
