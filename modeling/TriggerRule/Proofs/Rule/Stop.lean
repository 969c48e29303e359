import TriggerRule.Proofs.Failure
import TriggerRule.Proofs.Rule.Derivation

/-!
# Where reading stops

A token sequence that is refused is read phrase by phrase up to some token, and there reading stops:
the phrase that comes next is refused, or no phrase comes next and the rule cannot end. `Reached` is
the way there and `Stops` the end of it; `exists_stops_of_parseWithin` finds both. `Fails` lists
once and for all why a phrase is refused, with the cause and the index the failure is anchored at.
-/

namespace TriggerRule

namespace Phrase.Operand

/-- The text of the parameter of a match. -/
def parameter? : Operand → Option String
  | group | negation => none
  | value parameter _ | regex parameter _ | hash parameter _ _ => some parameter

/-- The text of the target of a hash. -/
def target? : Operand → Option String
  | hash _ target _ => some target
  | group | negation | value _ _ | regex _ _ => none

end Phrase.Operand

namespace Nest

open Grammar (IsPayload)

/-! ## Why a phrase is refused -/

/-- The ways in which a phrase is refused, with the cause and where it is anchored. -/
inductive Fails (limit : Nat) (nest : Nest) (index : Nat) : Phrase → Cause → Nat → Prop
  /-- No operator may stand here. -/
  | operator {phrase : Phrase} (hp : phrase = .and ∨ phrase = .or)
    (ho : nest.operands.takesOperator = false) :
    Fails limit nest index phrase .unexpectedToken index
  /-- There is no group to close. -/
  | outermost (hw : nest.waiting = []) : Fails limit nest index .close .unexpectedToken index
  /-- The level of the group cannot end here. -/
  | level {cause : Cause} (hw : nest.waiting ≠ []) (hc : nest.operands.close = .error cause) :
    Fails limit nest index .close cause index
  /-- No operand may stand here. -/
  | operand {start : Phrase.Operand} (ho : nest.operands.takesOperand = false) :
    Fails limit nest index (.operand start) .unexpectedToken index
  | tooDeep {enclosure : Enclosure} (ho : nest.operands.takesOperand = true)
    (hl : limit ≤ nest.depth) :
    Fails limit nest index (.operand enclosure.opening) .nestingTooDeep index
  | target {parameter target secret : String} (ho : nest.operands.takesOperand = true)
    (ht : ¬IsPayload target) :
    Fails limit nest index (.operand (.hash parameter target secret)) .badHashTarget (index + 4)
  | parameter {start : Phrase.Operand} {text : String} {refusal : Reference.Refusal}
    (ho : nest.operands.takesOperand = true) (hp : start.parameter? = some text)
    (ht : ∀ target, start.target? = some target → IsPayload target)
    (hr : Reference.parse text = .error refusal) :
    Fails limit nest index (.operand start) (.badReference refusal) index

variable {limit index : Nat} {nest : Nest} {failure : Failure Site}

theorem exists_fails_of_pushMatch {start : Phrase.Operand} {text : String} {test : Test}
    (ho : nest.operands.takesOperand = true) (hp : start.parameter? = some text)
    (ht : ∀ target, start.target? = some target → IsPayload target)
    (h : nest.pushMatch text test index = .error failure) :
    ∃ cause stop, Fails limit nest index (.operand start) cause stop ∧
      failure = nest.fail cause stop := by
  unfold pushMatch at h
  split at h
  · next refusal hr =>
    obtain rfl := Except.error.inj h
    exact ⟨_, _, .parameter ho hp ht hr, rfl⟩
  · simp at h

theorem exists_fails_of_openLevel {enclosure : Enclosure}
    (ho : nest.operands.takesOperand = true)
    (h : nest.openLevel limit enclosure index = .error failure) :
    ∃ cause stop, Fails limit nest index (.operand enclosure.opening) cause stop ∧
      failure = nest.fail cause stop := by
  unfold openLevel at h
  split at h
  · next hl =>
    obtain rfl := Except.error.inj h
    exact ⟨_, _, .tooDeep ho hl, rfl⟩
  · simp at h

theorem exists_fails_of_readOperand {start : Phrase.Operand}
    (ho : nest.operands.takesOperand = true)
    (h : nest.readOperand limit index start = .error failure) :
    ∃ cause stop, Fails limit nest index (.operand start) cause stop ∧
      failure = nest.fail cause stop := by
  cases start with
  | group =>
    have hopen : nest.openLevel limit .group index = .error failure := h
    exact exists_fails_of_openLevel ho hopen
  | negation =>
    have hopen : nest.openLevel limit .negation index = .error failure := h
    exact exists_fails_of_openLevel ho hopen
  | value parameter text =>
    exact exists_fails_of_pushMatch ho rfl (by simp [Phrase.Operand.target?]) h
  | regex parameter pattern =>
    exact exists_fails_of_pushMatch ho rfl (by simp [Phrase.Operand.target?]) h
  | hash parameter target secret =>
    rw [readOperand] at h
    split at h
    · next hp =>
      refine exists_fails_of_pushMatch ho rfl ?_ h
      rintro _ ⟨⟩
      exact isPayload_iff.1 hp
    · next hp =>
      obtain rfl := Except.error.inj h
      exact ⟨_, _, .target ho fun ht => hp (isPayload_iff.2 ht), rfl⟩

theorem exists_fails_of_closeLevel (h : nest.closeLevel index = .error failure) :
    ∃ cause stop, Fails limit nest index .close cause stop ∧ failure = nest.fail cause stop := by
  unfold closeLevel at h
  split at h
  · next hw =>
    obtain rfl := Except.error.inj h
    exact ⟨_, _, .outermost hw, rfl⟩
  · next frame outer hw =>
    split at h
    · next cause hc =>
      obtain rfl := Except.error.inj h
      exact ⟨_, _, .level (by simp [hw]) hc, rfl⟩
    · simp at h

/-- A phrase that is refused fails in one of the ways, inside the groups that are open. -/
theorem exists_fails_of_step {phrase : Phrase}
    (h : nest.step limit index phrase = .error failure) :
    ∃ cause stop, Fails limit nest index phrase cause stop ∧ failure = nest.fail cause stop := by
  cases phrase with
  | and =>
    rw [step] at h
    split at h
    · simp at h
    · next ho =>
      obtain rfl := Except.error.inj h
      exact ⟨_, _, .operator (.inl rfl) (Bool.eq_false_iff.2 ho), rfl⟩
  | or =>
    rw [step] at h
    split at h
    · simp at h
    · next ho =>
      obtain rfl := Except.error.inj h
      exact ⟨_, _, .operator (.inr rfl) (Bool.eq_false_iff.2 ho), rfl⟩
  | close => exact exists_fails_of_closeLevel h
  | operand start =>
    rw [step] at h
    split at h
    · next ho => exact exists_fails_of_readOperand ho h
    · next ho =>
      obtain rfl := Except.error.inj h
      exact ⟨_, _, .operand (Bool.eq_false_iff.2 ho), rfl⟩

/-! ## The way to a stop -/

/-- The tokens are read phrase by phrase, and take the start to the nest. -/
inductive Reached (limit : Nat) : List Token → Nest → Prop
  | start : Reached limit [] start
  | step {ts us : List Token} {nest next : Nest} {phrase : Phrase} (h : Reached limit ts nest)
    (hu : Phrase.Written us phrase) (hs : nest.step limit ts.length phrase = .ok next) :
    Reached limit (ts ++ us) next

/-- Reading goes no further: it fails at the phrase that comes next, or at the end of the rule. -/
inductive Stops (limit : Nat) (nest : Nest) (index : Nat) : List Token → Failure Site → Prop
  | phrase {us : List Token} {phrase : Phrase} {failure : Failure Site}
    (hu : Phrase.Written us phrase) (hs : nest.step limit index phrase = .error failure)
    (rest : List Token) : Stops limit nest index (us ++ rest) failure
  | finish {rest : List Token} {failure : Failure Site} (hp : Phrase.read? rest = none)
    (hf : nest.finish index rest = .error failure) : Stops limit nest index rest failure

variable {ts rest tokens : List Token}

theorem Stops.readFrom (h : Stops limit nest index rest failure) :
    nest.readFrom limit index rest = .error failure := by
  cases h with
  | phrase hu hs rest => exact readFrom_append_of_error hu hs rest
  | finish hp hf => rw [readFrom_of_read? hp, hf]

theorem Reached.begun (h : Reached limit ts nest) : Begun limit ts nest := by
  induction h with
  | start => exact begun_start
  | step h hu hs ih => exact ih.step hu hs

/-- Whatever follows the tokens, reading comes to the nest. -/
theorem Reached.parseWithin_append (h : Reached limit ts nest) (rest : List Token) :
    Rule.parseWithin limit (ts ++ rest) = nest.readFrom limit ts.length rest := by
  induction h generalizing rest with
  | start => rfl
  | step h hu hs ih => rw [List.append_assoc, ih, readFrom_append_of_ok hu hs, List.length_append]

theorem Reached.kind_ne_endOfText (h : Reached limit ts nest) : ∀ t ∈ ts, t.kind ≠ .endOfText := by
  induction h with
  | start => simp
  | step h hu hs ih =>
    intro t ht
    rcases List.mem_append.1 ht with ht | ht
    · exact ih t ht
    · exact hu.kind_ne_endOfText t ht

/-- The token that ends the text is still to come. -/
theorem Reached.exists_endOfText (h : Reached limit ts nest)
    (hend : ∃ t ∈ ts ++ rest, t.kind = .endOfText) : ∃ t ∈ rest, t.kind = .endOfText := by
  obtain ⟨t, ht, hk⟩ := hend
  rcases List.mem_append.1 ht with ht | ht
  · exact absurd hk (h.kind_ne_endOfText t ht)
  · exact ⟨t, ht, hk⟩

theorem Reached.exists_stops (h : Reached limit ts nest)
    (hr : nest.readFrom limit ts.length tokens = .error failure) :
    ∃ us rest last, tokens = us ++ rest ∧ Reached limit (ts ++ us) last ∧
      Stops limit last (ts ++ us).length rest failure := by
  induction tokens using Phrase.induction_phrases generalizing ts nest with
  | stop tokens hp =>
    rw [readFrom_of_read? hp] at hr
    refine ⟨[], tokens, nest, rfl, ?_⟩
    rw [List.append_nil]
    exact ⟨h, .finish hp hr⟩
  | phrase us phrase tokens hu ih =>
    cases hs : nest.step limit ts.length phrase with
    | error refused =>
      rw [readFrom_append_of_error hu hs] at hr
      obtain rfl := Except.error.inj hr
      refine ⟨[], us ++ tokens, nest, rfl, ?_⟩
      rw [List.append_nil]
      exact ⟨h, .phrase hu hs tokens⟩
    | ok next =>
      rw [readFrom_append_of_ok hu hs, ← List.length_append] at hr
      obtain ⟨vs, rest, last, rfl, hl, hstop⟩ := ih (h.step hu hs) hr
      rw [List.append_assoc] at hl hstop
      exact ⟨us ++ vs, rest, last, (List.append_assoc ..).symm, hl, hstop⟩

/-- Tokens that are refused are read up to a stop. -/
theorem exists_stops_of_parseWithin (h : Rule.parseWithin limit tokens = .error failure) :
    ∃ ts rest nest, tokens = ts ++ rest ∧ Reached limit ts nest ∧
      Stops limit nest ts.length rest failure := by
  have hr : Nest.start.readFrom limit ([] : List Token).length tokens = .error failure := h
  exact Reached.start.exists_stops hr

/-- A way to a stop is the way that the reader goes. -/
theorem parseWithin_of_stops (h : Reached limit ts nest)
    (hs : Stops limit nest ts.length rest failure) :
    Rule.parseWithin limit (ts ++ rest) = .error failure := by
  rw [h.parseWithin_append, hs.readFrom]

/-! ## The failure at a stop -/

/-- Why reading stops before the tokens that are left, with the cause and where it is anchored. -/
inductive Blocks (limit : Nat) (nest : Nest) (index : Nat) : List Token → Cause → Nat → Prop
  | phrase {us : List Token} {phrase : Phrase} {cause : Cause} {stop : Nat}
    (hu : Phrase.Written us phrase) (hf : Fails limit nest index phrase cause stop)
    (rest : List Token) : Blocks limit nest index (us ++ rest) cause stop
  /-- The rule cannot end where the text does. -/
  | ending {rest : List Token} {cause : Cause} (hk : rest.head?.map Token.kind = some .endOfText)
    (hw : nest.waiting = []) (hc : nest.operands.close = .error cause) :
    Blocks limit nest index rest cause index
  /-- No phrase starts here, and the rule does not end here. -/
  | nothing {rest : List Token} (hp : Phrase.read? rest = none)
    (hn : ¬(rest.head?.map Token.kind = some .endOfText ∧ nest.waiting = [])) :
    Blocks limit nest index rest .unexpectedToken index

theorem Stops.exists_blocks (h : Stops limit nest index rest failure) :
    ∃ cause stop, Blocks limit nest index rest cause stop ∧ failure = nest.fail cause stop := by
  cases h with
  | phrase hu hs rest =>
    obtain ⟨cause, stop, hf, rfl⟩ := exists_fails_of_step hs
    exact ⟨cause, stop, .phrase hu hf rest, rfl⟩
  | finish hp hf =>
    simp only [Nest.finish, List.isEmpty_iff] at hf
    split at hf
    · next hend =>
      obtain ⟨cause, hc, rfl⟩ := mapError_eq_error_iff.1 hf
      exact ⟨cause, index, .ending hend.1 hend.2 hc, rfl⟩
    · next hn => exact ⟨_, _, .nothing hp hn, (Except.error.inj hf).symm⟩

/-- A failure is anchored where reading stops, unless the target of a hash is refused. -/
theorem Blocks.stop_eq {cause : Cause} {stop : Nat} (h : Blocks limit nest index rest cause stop) :
    stop = index ∧ cause ≠ .badHashTarget ∨
      stop = index + 4 ∧ cause = .badHashTarget ∧ ∃ us tail parameter target secret,
        rest = us ++ tail ∧ Phrase.Written us (.operand (.hash parameter target secret)) := by
  have hclose : ∀ {operands : Operands} {cause : Cause}, operands.close = .error cause →
      cause ≠ .badHashTarget := by
    intro operands cause hc
    rcases Operands.cause_of_close hc with rfl | rfl | rfl <;> simp
  cases h with
  | phrase hu hf tail =>
    cases hf with
    | operator hp ho => exact .inl ⟨rfl, by simp⟩
    | outermost hw => exact .inl ⟨rfl, by simp⟩
    | level hw hc => exact .inl ⟨rfl, hclose hc⟩
    | operand ho => exact .inl ⟨rfl, by simp⟩
    | tooDeep ho hl => exact .inl ⟨rfl, by simp⟩
    | target ho ht => exact .inr ⟨rfl, rfl, _, tail, _, _, _, rfl, hu⟩
    | parameter ho hp ht hr => exact .inl ⟨rfl, by simp⟩
  | ending hk hw hc => exact .inl ⟨rfl, hclose hc⟩
  | nothing hp hn => exact .inl ⟨rfl, by simp⟩

@[simp] theorem origin_fail (cause : Cause) :
    (nest.fail cause index).origin = (cause, ⟨index, nest.depth⟩) := by
  rw [fail, Failure.origin_wrap]

@[simp] theorem enclosures_fail (cause : Cause) :
    (nest.fail cause index).enclosures = openGroups nest.waiting := by
  rw [fail, Failure.enclosures_wrap]

@[simp] theorem anchors_fail (cause : Cause) :
    (nest.fail cause index).anchors =
      (openGroups nest.waiting).map Prod.snd ++ [⟨index, nest.depth⟩] := by
  rw [fail, Failure.anchors_wrap]

/-- The wrappers of a failure name the waiting levels, the outermost first. -/
theorem map_openGroups (waiting : List Frame) :
    (openGroups waiting).map (fun group => (group.1, group.2.index)) =
      (waiting.map fun frame => (frame.enclosure, frame.index)).reverse := by
  induction waiting with
  | nil => rfl
  | cons frame outer ih => simp [openGroups, ih]

/-- The wrappers of a failure are the waiting levels, each where it was opened. -/
theorem mem_openGroups_iff {waiting : List Frame} {enclosure : Enclosure} :
    (∃ depth, (enclosure, (⟨index, depth⟩ : Site)) ∈ openGroups waiting) ↔
      ∃ frame ∈ waiting, frame.enclosure = enclosure ∧ frame.index = index := by
  have hmap : (∃ depth, (enclosure, (⟨index, depth⟩ : Site)) ∈ openGroups waiting) ↔
      (enclosure, index) ∈ (openGroups waiting).map fun group => (group.1, group.2.index) := by
    constructor
    · rintro ⟨depth, hg⟩
      exact List.mem_map.2 ⟨_, hg, rfl⟩
    · intro hmem
      obtain ⟨⟨_, _, depth⟩, hg, heq⟩ := List.mem_map.1 hmem
      obtain ⟨rfl, rfl⟩ := Prod.mk.inj heq
      exact ⟨depth, hg⟩
  rw [hmap, map_openGroups, List.mem_reverse, List.mem_map]
  simp only [Prod.mk.injEq]

/-- The wrappers are at the levels from the first on. -/
theorem map_depth_openGroups (waiting : List Frame) :
    (openGroups waiting).map (fun group => group.2.depth) = List.range' 1 waiting.length := by
  induction waiting with
  | nil => rfl
  | cons frame outer ih =>
    rw [openGroups, List.map_append, ih, List.length_cons, List.range'_1_concat, Nat.add_comm 1]
    rfl

end Nest

namespace Rule

/-- A refusal states the sites of a failure by the tokens. -/
theorem exists_parseSites_of_parse {tokens : List Token} {refusal : Failure Anchor}
    (h : parse tokens = .error refusal) :
    ∃ failure, parseSites tokens = .error failure ∧ failure.anchored tokens = refusal :=
  mapError_eq_error_iff.1 h

theorem parse_of_parseSites {tokens : List Token} {failure : Failure Site}
    (h : parseSites tokens = .error failure) :
    parse tokens = .error (failure.anchored tokens) := by
  rw [parse, h, mapError_error]

end Rule

end TriggerRule
