import TriggerRule.Proofs.Rule.Reading

/-!
# What has been read derives the operands

While a level is being read its tokens are a derivation that breaks off: `Grammar.Begun` says what
the operands of the level say about them, and `Nest.Begun` the same of a nest, whose waiting levels
break off where a group begins. One phrase keeps it (`Begun.step`), so all do. Main statement:
`parse_eq_ok_iff`, the tokens that are read as a rule are the derivations of the grammar.
-/

namespace TriggerRule

namespace Grammar

/-! ## A level that breaks off -/

section Level

variable {Inner : List Token → Rule → Prop}

/-- The runs of a level that are ended, each with the `||` behind it. -/
inductive Ended (Inner : List Token → Rule → Prop) : List Token → List Rule → Prop
  | nil : Ended Inner [] []
  | or {ts : List Token} {t : Token} {rs : List Rule} (h : Joined .or (Run Inner) ts rs)
    (ht : t.kind = .or) : Ended Inner (ts ++ [t]) rs

/-- The tokens are the beginning of a level, read as the operands. -/
inductive Begun (Inner : List Token → Rule → Prop) : List Token → Operands → Prop
  /-- Nothing has been read, or the last thing read is an `||`. -/
  | fresh {ts : List Token} {rs : List Rule} (h : Ended Inner ts rs) :
    Begun Inner ts (.reading rs [] !rs.isEmpty)
  /-- The last thing read is an operand. -/
  | operand {ts us : List Token} {rs run : List Rule} (h : Ended Inner ts rs)
    (hu : Joined .and (Operand Inner) us run) : Begun Inner (ts ++ us) (.reading rs run false)
  /-- The last thing read is an `&&`. -/
  | and {ts us : List Token} {t : Token} {rs run : List Rule} (h : Ended Inner ts rs)
    (hu : Joined .and (Operand Inner) us run) (ht : t.kind = .and) :
    Begun Inner (ts ++ us ++ [t]) (.reading rs run true)

theorem run_conjunction {ts : List Token} {rs : List Rule}
    (h : Joined .and (Operand Inner) ts rs) : Run Inner ts (Rule.conjunction rs) := by
  match rs, h with
  | [], h => exact absurd rfl h.ne_nil
  | [r], h => exact .single h
  | r :: s :: rs, h => exact .all h (by simp)

theorem level_disjunction {ts : List Token} {rs : List Rule} (h : Joined .or (Run Inner) ts rs) :
    Level Inner ts (Rule.disjunction rs) := by
  match rs, h with
  | [], h => exact absurd rfl h.ne_nil
  | [r], h => exact .single h
  | r :: s :: rs, h => exact .any h (by simp)

/-- A run after the ended ones is joined to them. -/
theorem Ended.joined {ts us : List Token} {rs : List Rule} {r : Rule} (h : Ended Inner ts rs)
    (hu : Run Inner us r) : Joined .or (Run Inner) (ts ++ us) (rs ++ [r]) := by
  cases h with
  | nil => exact .one hu
  | or h ht =>
    rw [List.append_assoc]
    exact .more h ht hu

theorem Begun.add {ts us : List Token} {operands : Operands} {r : Rule}
    (h : Begun Inner ts operands) (ho : operands.takesOperand = true) (hu : Operand Inner us r) :
    Begun Inner (ts ++ us) (operands.add r) := by
  cases h with
  | fresh h =>
    rw [Operands.add_reading ho]
    exact .operand h (.one hu)
  | operand h hr => simp [Operands.takesOperand, hr.ne_nil] at ho
  | and h hr ht =>
    have hj := Begun.operand h (hr.more ht hu)
    rw [Operands.add_reading ho, List.append_assoc, List.append_assoc]
    exact hj

theorem Begun.addAnd {ts : List Token} {t : Token} {operands : Operands}
    (h : Begun Inner ts operands) (ho : operands.takesOperator = true) (ht : t.kind = .and) :
    Begun Inner (ts ++ [t]) operands.addAnd := by
  cases h with
  | @fresh _ rs h => cases rs <;> simp [Operands.takesOperator] at ho
  | operand h hr =>
    rw [Operands.addAnd_reading hr.ne_nil]
    exact .and h hr ht
  | and h hr ht => simp [Operands.takesOperator] at ho

theorem Begun.addOr {ts : List Token} {t : Token} {operands : Operands}
    (h : Begun Inner ts operands) (ho : operands.takesOperator = true) (ht : t.kind = .or) :
    Begun Inner (ts ++ [t]) operands.addOr := by
  cases h with
  | @fresh _ rs h => cases rs <;> simp [Operands.takesOperator] at ho
  | @operand ts us rs run h hr =>
    have hb := Begun.fresh (Ended.or (h.joined (run_conjunction hr)) ht)
    have hne : (rs ++ [Rule.conjunction run]).isEmpty = false := by simp
    rw [hne] at hb
    rw [Operands.addOr_reading hr.ne_nil]
    exact hb
  | and h hr ht => simp [Operands.takesOperator] at ho

/-- A level can end behind an operand. -/
theorem Begun.exists_close {ts : List Token} {operands : Operands} (h : Begun Inner ts operands)
    (ho : operands.takesOperand = false) : ∃ rule, operands.close = .ok rule := by
  cases h with
  | @fresh _ rs h => cases rs <;> simp [Operands.takesOperand] at ho
  | operand h hr => exact ⟨_, Operands.close_reading hr.ne_nil⟩
  | and h hr ht => simp [Operands.takesOperand] at ho

/-- A level that cannot end is empty, or an operator waits there for its operand. -/
theorem Begun.close_eq_error_iff {ts : List Token} {operands : Operands} {cause : Cause}
    (h : Begun Inner ts operands) :
    operands.close = .error cause ↔ operands.isEmpty = true ∧ cause = .emptyLevel ∨
      operands.isEmpty = false ∧ operands.dangling = true ∧ cause = .missingOperand := by
  cases he : operands.isEmpty with
  | true => simp [Operands.close_of_isEmpty he, @eq_comm Cause]
  | false =>
    cases hd : operands.dangling with
    | true => simp [Operands.close_of_dangling he hd, @eq_comm Cause]
    | false =>
      obtain ⟨rule, hc⟩ := h.exists_close (by rw [Operands.takesOperand, he, hd]; rfl)
      simp [hc]

theorem Begun.level {ts : List Token} {operands : Operands} {r : Rule}
    (h : Begun Inner ts operands) (hc : operands.close = .ok r) : Level Inner ts r := by
  cases h with
  | @fresh _ rs h => cases rs <;> simp [Operands.close] at hc
  | operand h hr =>
    rw [Operands.close_reading hr.ne_nil] at hc
    obtain rfl := Except.ok.inj hc
    exact level_disjunction (h.joined (run_conjunction hr))
  | and h hr ht => simp [Operands.close, hr.ne_nil] at hc

end Level

end Grammar

/-! ## A nest that breaks off -/

/-- The phrase that opens a group. -/
def Enclosure.opening : Enclosure → Phrase.Operand
  | group => .group
  | negation => .negation

namespace Nest

open Grammar (Inside)

theorem step_opening {limit index : Nat} {nest : Nest} {enclosure : Enclosure}
    (ho : nest.operands.takesOperand = true) :
    nest.step limit index (.operand enclosure.opening) =
      nest.openLevel limit enclosure index := by
  cases enclosure <;> exact if_pos ho

/-- The tokens are the beginning of a rule, read as the nest. -/
inductive Begun (limit : Nat) : List Token → Nest → Prop
  | outermost {ts : List Token} {operands : Operands}
    (h : Grammar.Begun (Inside (limit - 1)) ts operands) : Begun limit ts ⟨[], operands⟩
  /-- A level breaks off at an operand, which is a group of which the body breaks off. -/
  | inside {ts us vs : List Token} {frame : Frame} {outer : List Frame} {operands : Operands}
    (h : Begun limit ts ⟨outer, frame.operands⟩) (ho : frame.operands.takesOperand = true)
    (hu : Phrase.Written us (.operand frame.enclosure.opening))
    (hindex : frame.index = ts.length) (hlimit : outer.length + 1 < limit)
    (hv : Grammar.Begun (Inside (limit - (outer.length + 2))) vs operands) :
    Begun limit (ts ++ us ++ vs) ⟨frame :: outer, operands⟩

variable {limit : Nat} {ts us : List Token}

/-- What goes on with the level being read goes on with the nest. -/
theorem Begun.extend {waiting : List Frame} {operands operands' : Operands}
    (h : Begun limit ts ⟨waiting, operands⟩)
    (hu : ∀ vs, Grammar.Begun (Inside (limit - (waiting.length + 1))) vs operands →
      Grammar.Begun (Inside (limit - (waiting.length + 1))) (vs ++ us) operands') :
    Begun limit (ts ++ us) ⟨waiting, operands'⟩ := by
  cases h with
  | outermost h => exact .outermost (hu _ h)
  | inside h ho hopening hindex hlimit hv =>
    rw [List.append_assoc]
    exact .inside h ho hopening hindex hlimit (hu _ hv)

theorem Begun.operands {nest : Nest} (h : Begun limit ts nest) :
    ∃ vs, Grammar.Begun (Inside (limit - nest.depth)) vs nest.operands := by
  cases h with
  | outermost h => exact ⟨_, h⟩
  | inside h ho hu hindex hlimit hv => exact ⟨_, hv⟩

/-- A level that cannot end is empty, or an operator waits there for its operand. -/
theorem Begun.close_eq_error_iff {nest : Nest} {cause : Cause} (h : Begun limit ts nest) :
    nest.operands.close = .error cause ↔ nest.operands.isEmpty = true ∧ cause = .emptyLevel ∨
      nest.operands.isEmpty = false ∧ nest.operands.dangling = true ∧ cause = .missingOperand := by
  obtain ⟨vs, hv⟩ := h.operands
  exact hv.close_eq_error_iff

theorem Begun.cause_of_close {nest : Nest} {cause : Cause} (h : Begun limit ts nest)
    (hc : nest.operands.close = .error cause) : cause = .emptyLevel ∨ cause = .missingOperand := by
  rcases h.close_eq_error_iff.1 hc with ⟨-, rfl⟩ | ⟨-, -, rfl⟩
  · exact .inl rfl
  · exact .inr rfl

theorem begun_start : Begun limit [] start := .outermost (.fresh .nil)

theorem Begun.pushMatch {waiting : List Frame} {operands : Operands} {parameter : String}
    {test : Test} {index : Nat} {next : Nest} (h : Begun limit ts ⟨waiting, operands⟩)
    (ho : operands.takesOperand = true)
    (hu : ∀ reference, Reference.parse parameter = .ok reference →
      Grammar.Operand (Inside (limit - (waiting.length + 1))) us (.leaf ⟨reference, test⟩))
    (hs : (Nest.mk waiting operands).pushMatch parameter test index = .ok next) :
    Begun limit (ts ++ us) next := by
  unfold Nest.pushMatch at hs
  split at hs
  · simp at hs
  · next reference hp =>
    obtain rfl := Except.ok.inj hs
    exact h.extend fun vs hv => hv.add ho (hu reference hp)

theorem Begun.openLevel {waiting : List Frame} {operands : Operands} {enclosure : Enclosure}
    {next : Nest} (h : Begun limit ts ⟨waiting, operands⟩) (ho : operands.takesOperand = true)
    (hu : Phrase.Written us (.operand enclosure.opening))
    (hs : (Nest.mk waiting operands).openLevel limit enclosure ts.length = .ok next) :
    Begun limit (ts ++ us) next := by
  unfold Nest.openLevel at hs
  split at hs
  · simp at hs
  · next hd =>
    obtain rfl := Except.ok.inj hs
    have hlimit : waiting.length + 1 < limit := Nat.not_le.1 hd
    have hb : Begun limit (ts ++ us ++ []) ⟨⟨enclosure, ts.length, operands⟩ :: waiting, .empty⟩ :=
      .inside h ho hu rfl hlimit (.fresh .nil)
    rw [List.append_nil] at hb
    exact hb

theorem isPayload_iff {target : String} : isPayload target = true ↔ Grammar.IsPayload target := by
  refine ⟨?_, isPayload_of_isPayload⟩
  intro h
  unfold isPayload at h
  rcases Bool.or_eq_true_iff.1 h with h | h
  · exact .inl (by simpa [Source.name] using h)
  · split at h
    · next reference hp =>
      obtain ⟨source, name⟩ := reference
      obtain rfl : source = .payload := by simpa using h
      exact .inr ⟨name, hp⟩
    · simp at h

theorem Begun.readOperand {waiting : List Frame} {operands : Operands} {start : Phrase.Operand}
    {next : Nest} (h : Begun limit ts ⟨waiting, operands⟩) (ho : operands.takesOperand = true)
    (hu : Phrase.Written us (.operand start))
    (hs : (Nest.mk waiting operands).readOperand limit ts.length start = .ok next) :
    Begun limit (ts ++ us) next := by
  cases start with
  | group =>
    have hopening : Phrase.Written us (.operand Enclosure.group.opening) := hu
    exact h.openLevel ho hopening hs
  | negation =>
    have hopening : Phrase.Written us (.operand Enclosure.negation.opening) := hu
    exact h.openLevel ho hopening hs
  | value parameter text => exact h.pushMatch ho (fun _ hp => .value hu hp) hs
  | regex parameter pattern => exact h.pushMatch ho (fun _ hp => .regex hu hp) hs
  | hash parameter target secret =>
    rw [Nest.readOperand] at hs
    split at hs
    · next ht => exact h.pushMatch ho (fun _ hp => .hash hu (isPayload_iff.1 ht) hp) hs
    · simp at hs

/-- A group that is closed is an operand of the level around it. -/
theorem Begun.closeLevel {waiting : List Frame} {operands : Operands} {index : Nat} {next : Nest}
    (h : Begun limit ts ⟨waiting, operands⟩) (hu : Phrase.Written us .close)
    (hs : (Nest.mk waiting operands).closeLevel index = .ok next) :
    Begun limit (ts ++ us) next := by
  cases h with
  | outermost h => simp [Nest.closeLevel] at hs
  | @inside ts opening vs frame outer operands h ho hopening hindex hlimit hv =>
    unfold Nest.closeLevel at hs
    simp only at hs
    split at hs
    · simp at hs
    · next rule hc =>
      obtain rfl := Except.ok.inj hs
      -- the body takes up one level of those that the level around it leaves room for
      have hroom : limit - (outer.length + 1) = limit - (outer.length + 2) + 1 := by omega
      have hbody : Inside (limit - (outer.length + 1)) vs rule := by
        rw [hroom]
        exact hv.level hc
      have hoperand : Grammar.Operand (Inside (limit - (outer.length + 1)))
          (opening ++ vs ++ us) (frame.enclosure.apply rule) := by
        cases he : frame.enclosure with
        | group =>
          rw [he] at hopening
          exact .group hopening hbody hu
        | negation =>
          rw [he] at hopening
          exact .negation hopening hbody hu
      rw [List.append_assoc, List.append_assoc, ← List.append_assoc opening]
      exact h.extend fun ws hw => hw.add ho hoperand

/-- One phrase goes on with the derivation that breaks off. -/
theorem Begun.step {nest next : Nest} {phrase : Phrase} (h : Begun limit ts nest)
    (hu : Phrase.Written us phrase) (hs : nest.step limit ts.length phrase = .ok next) :
    Begun limit (ts ++ us) next := by
  obtain ⟨waiting, operands⟩ := nest
  cases phrase with
  | and =>
    cases hu with
    | and hk =>
      rw [Nest.step] at hs
      split at hs
      · next ho =>
        obtain rfl := Except.ok.inj hs
        exact h.extend fun vs hv => hv.addAnd ho hk
      · simp at hs
  | or =>
    cases hu with
    | or hk =>
      rw [Nest.step] at hs
      split at hs
      · next ho =>
        obtain rfl := Except.ok.inj hs
        exact h.extend fun vs hv => hv.addOr ho hk
      · simp at hs
  | close => exact h.closeLevel hu hs
  | operand start =>
    rw [Nest.step] at hs
    split at hs
    · next ho => exact h.readOperand ho hu hs
    · simp at hs

/-- Tokens that are read to the end go on with the derivation and complete it. -/
theorem Begun.derives {nest : Nest} {tokens : List Token} {rule : Rule} (h : Begun limit ts nest)
    (hr : nest.readFrom limit ts.length tokens = .ok rule) :
    ∃ body ending rest, tokens = body ++ ending :: rest ∧ ending.kind = .endOfText ∧
      Grammar.Derives (limit - 1) (ts ++ body) rule := by
  induction tokens using Phrase.induction_phrases generalizing ts nest with
  | stop tokens hp =>
    rw [readFrom_of_read? hp, finish] at hr
    split at hr
    · next hend =>
      obtain ⟨hkind, hwaiting⟩ := hend
      obtain ⟨waiting, operands⟩ := nest
      obtain rfl : waiting = [] := List.isEmpty_iff.1 hwaiting
      cases tokens with
      | nil => simp at hkind
      | cons ending rest =>
        refine ⟨[], ending, rest, rfl, by simpa using hkind, ?_⟩
        rw [List.append_nil]
        cases h with
        | outermost h => exact h.level (mapError_eq_ok_iff.1 hr)
    · simp at hr
  | phrase us phrase tokens hu ih =>
    cases hs : nest.step limit ts.length phrase with
    | error failure => simp [readFrom_append_of_error hu hs] at hr
    | ok next =>
      rw [readFrom_append_of_ok hu hs, ← List.length_append] at hr
      obtain ⟨body, ending, rest, rfl, hkind, hd⟩ := ih (h.step hu hs) hr
      refine ⟨us ++ body, ending, rest, by simp, hkind, ?_⟩
      rw [← List.append_assoc]
      exact hd

end Nest

namespace Rule

/-- A derivation is read to its tree when the limit has room for its groups. -/
theorem parseWithin_of_derives {openings : Nat} {body rest : List Token} {ending : Token}
    {rule : Rule} (h : Grammar.Derives openings body rule) (hkind : ending.kind = .endOfText) :
    parseWithin (openings + 1) (body ++ ending :: rest) = .ok rule := by
  have hinside : Grammar.Inside (openings + 1) body rule := h
  have hroom : ([] : List Frame).length + (openings + 1) ≤ openings + 1 := by simp
  obtain ⟨operands, hr, hc⟩ := Nest.readsLevel_of_inside hinside hroom
  rw [Nest.parseWithin_eq_readFrom, Nest.start, hr]
  have hp : Phrase.read? (ending :: rest) = none := by simp [Phrase.read?, hkind]
  rw [Nest.readFrom_of_read? hp, Nest.finish]
  simp [hkind, hc]

/-- What is read as a rule is derived, with as many groups open at once as the limit allows. -/
theorem exists_derives_of_parseWithin {limit : Nat} {tokens : List Token} {rule : Rule}
    (h : parseWithin limit tokens = .ok rule) :
    ∃ body ending rest, tokens = body ++ ending :: rest ∧ ending.kind = .endOfText ∧
      Grammar.Derives (limit - 1) body rule :=
  Nest.begun_start.derives h

theorem parse_eq_ok_iff_parseWithin {tokens : List Token} {rule : Rule} :
    parse tokens = .ok rule ↔ parseWithin 128 tokens = .ok rule := by
  unfold parse parseSites depthLimit
  exact mapError_eq_ok_iff

/-- **A token sequence is read as a rule** if and only if it is a derivation of the rule by the
grammar, with no more groups open at once than the nesting limit allows, up to the first token that
ends the text. -/
theorem parse_eq_ok_iff (tokens : List Token) (rule : Rule) :
    parse tokens = .ok rule ↔
      ∃ body ending rest, tokens = body ++ ending :: rest ∧ ending.kind = .endOfText ∧
        (∀ t ∈ body, t.kind ≠ .endOfText) ∧ Grammar.Derives 127 body rule := by
  rw [parse_eq_ok_iff_parseWithin]
  constructor
  · intro h
    obtain ⟨body, ending, rest, rfl, hkind, hd⟩ := exists_derives_of_parseWithin h
    exact ⟨body, ending, rest, rfl, hkind, hd.kind_ne_endOfText, hd⟩
  · rintro ⟨body, ending, rest, rfl, hkind, -, hd⟩
    exact parseWithin_of_derives hd hkind

end Rule

end TriggerRule
