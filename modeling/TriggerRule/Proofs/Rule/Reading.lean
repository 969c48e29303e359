import TriggerRule.Proofs.Rule.Grammar
import TriggerRule.Proofs.Rule.Operands
import TriggerRule.Rule.Nest

/-!
# Reading tokens into a nest

`Nest.readFrom` reads what is left of the tokens from a nest on, so that the reader can be followed
one phrase at a time (`readFrom_append_of_ok`, `readFrom_append_of_error`) until no phrase starts
(`readFrom_of_read?`). `Reads` says that some tokens take one nest to another whatever follows them.
Main statement: `readsLevel_of_inside`, the tokens of a level are read to the tree of its
derivation.
-/

namespace TriggerRule

/-! ## Failures under another name -/

section MapError

variable {α ε ε' : Type} {f : ε → ε'}

@[simp] theorem mapError_ok (a : α) : (Except.ok a : Except ε α).mapError f = .ok a := rfl

@[simp] theorem mapError_error (e : ε) :
    (Except.error e : Except ε α).mapError f = .error (f e) := rfl

theorem mapError_eq_ok_iff {x : Except ε α} {a : α} : x.mapError f = .ok a ↔ x = .ok a := by
  cases x <;> simp

theorem mapError_eq_error_iff {x : Except ε α} {e' : ε'} :
    x.mapError f = .error e' ↔ ∃ e, x = .error e ∧ f e = e' := by
  cases x <;> simp

end MapError

namespace Nest

/-! ## One phrase at a time -/

/-- Reads the tokens that are left, the first of which has an index, from a nest on. -/
def readFrom (limit : Nat) (nest : Nest) (index : Nat) (tokens : List Token) :
    Except (Failure Site) Rule :=
  let (phrases, rest) := Phrase.split tokens
  match nest.readAll limit index phrases with
  | .error failure => .error failure
  | .ok (last, stop) => last.finish stop rest

theorem parseWithin_eq_readFrom (limit : Nat) (tokens : List Token) :
    Rule.parseWithin limit tokens = start.readFrom limit 0 tokens := rfl

theorem readFrom_of_read? {tokens : List Token} (h : Phrase.read? tokens = none) (limit : Nat)
    (nest : Nest) (index : Nat) :
    nest.readFrom limit index tokens = nest.finish index tokens := by
  have hs : Phrase.split tokens = ([], tokens) := by
    rw [Phrase.split]
    split
    · rfl
    · next hp => simp [h] at hp
  rw [readFrom, hs]
  rfl

theorem split_append {ts : List Token} {phrase : Phrase} (h : Phrase.Written ts phrase)
    (rest : List Token) :
    Phrase.split (ts ++ rest) = (phrase :: (Phrase.split rest).1, (Phrase.split rest).2) := by
  have hr := h.read?_append rest
  rw [Phrase.split]
  split
  · next hp => simp [hr] at hp
  · next p hp =>
    obtain rfl : phrase = p := by simpa [hr] using hp
    rw [← h.length, List.drop_left]

variable {limit : Nat} {nest next : Nest} {index : Nat} {ts : List Token} {phrase : Phrase}

theorem readFrom_append_of_ok (h : Phrase.Written ts phrase)
    (hs : nest.step limit index phrase = .ok next) (rest : List Token) :
    nest.readFrom limit index (ts ++ rest) =
      next.readFrom limit (index + ts.length) rest := by
  rw [readFrom, split_append h, readFrom, h.length]
  simp only [readAll, hs]

theorem readFrom_append_of_error {failure : Failure Site} (h : Phrase.Written ts phrase)
    (hs : nest.step limit index phrase = .error failure) (rest : List Token) :
    nest.readFrom limit index (ts ++ rest) = .error failure := by
  rw [readFrom, split_append h]
  simp only [readAll, hs]

/-- Reading the tokens takes the nest to the last one, whatever follows them. -/
def Reads (limit : Nat) (nest : Nest) (ts : List Token) (last : Nest) : Prop :=
  ∀ index rest, nest.readFrom limit index (ts ++ rest) =
    last.readFrom limit (index + ts.length) rest

theorem Reads.append {us : List Token} {last : Nest} (h : Reads limit nest ts next)
    (hu : Reads limit next us last) : Reads limit nest (ts ++ us) last := by
  intro index rest
  rw [List.append_assoc, h, hu, List.length_append, Nat.add_assoc]

theorem reads_of_step (h : Phrase.Written ts phrase)
    (hs : ∀ index, nest.step limit index phrase = .ok next) : Reads limit nest ts next :=
  fun index rest => readFrom_append_of_ok h (hs index) rest

/-- The tokens take a level of which nothing has been read to a rule. -/
def ReadsLevel (limit : Nat) (waiting : List Frame) (ts : List Token) (rule : Rule) : Prop :=
  ∃ operands, Reads limit ⟨waiting, .empty⟩ ts ⟨waiting, operands⟩ ∧ operands.close = .ok rule

/-! ## One operand -/

section Level

open Grammar

variable {waiting : List Frame} {operands : Operands} {Inner : List Token → Rule → Prop}
  {rule : Rule}

theorem isPayload_of_isPayload {target : String} (h : IsPayload target) :
    isPayload target = true := by
  unfold isPayload
  rcases h with rfl | ⟨name, hp⟩
  · simp [Source.name]
  · simp [hp]

theorem reads_pushMatch {parameter : String} {reference : Reference} {start : Phrase.Operand}
    {test : Test} (h : Phrase.Written ts (.operand start)) (ho : operands.takesOperand = true)
    (hp : Reference.parse parameter = .ok reference)
    (hs : ∀ index, (Nest.mk waiting operands).readOperand limit index start =
      (Nest.mk waiting operands).pushMatch parameter test index) :
    Reads limit ⟨waiting, operands⟩ ts ⟨waiting, operands.add (.leaf ⟨reference, test⟩)⟩ := by
  apply reads_of_step h
  intro index
  simp [step, ho, hs, pushMatch, hp, push]

/-- A group is read as an operand when its tokens are read as a level. -/
theorem reads_group {opening body closing : List Token} {enclosure : Enclosure}
    {start : Phrase.Operand} (hopening : Phrase.Written opening (.operand start))
    (hstart : ∀ (nest : Nest) index,
      nest.readOperand limit index start = nest.openLevel limit enclosure index)
    (hclosing : Phrase.Written closing .close) (ho : operands.takesOperand = true)
    (hlimit : waiting.length + 1 < limit)
    (hbody : ∀ frame, ReadsLevel limit (frame :: waiting) body rule) :
    Reads limit ⟨waiting, operands⟩ (opening ++ body ++ closing)
      ⟨waiting, operands.add (enclosure.apply rule)⟩ := by
  intro index rest
  -- the frame remembers the index, so the way through the body depends on it
  obtain ⟨inner, hr, hclose⟩ := hbody ⟨enclosure, index, operands⟩
  have hopen : (Nest.mk waiting operands).step limit index (.operand start) =
      .ok ⟨⟨enclosure, index, operands⟩ :: waiting, .empty⟩ := by
    simp [step, ho, hstart, openLevel, depth, Nat.not_le.2 hlimit]
  have hend : Reads limit ⟨⟨enclosure, index, operands⟩ :: waiting, inner⟩ closing
      ⟨waiting, operands.add (enclosure.apply rule)⟩ := by
    apply reads_of_step hclosing
    intro stop
    simp [step, closeLevel, hclose]
  rw [List.append_assoc, List.append_assoc, readFrom_append_of_ok hopening hopen, hr, hend]
  simp [Nat.add_assoc]

/-- An operand is added to the operands of its level. -/
theorem reads_operand (h : Operand Inner ts rule) (ho : operands.takesOperand = true)
    (hinner : ∀ body r, Inner body r → waiting.length + 1 < limit ∧
      ∀ frame, ReadsLevel limit (frame :: waiting) body r) :
    Reads limit ⟨waiting, operands⟩ ts ⟨waiting, operands.add rule⟩ := by
  cases h with
  | value h hp => exact reads_pushMatch h ho hp fun index => rfl
  | regex h hp => exact reads_pushMatch h ho hp fun index => rfl
  | hash h ht hp =>
    apply reads_pushMatch h ho hp
    intro index
    rw [readOperand, if_pos (isPayload_of_isPayload ht)]
  | group hopening h hclosing =>
    obtain ⟨hlimit, hbody⟩ := hinner _ _ h
    exact reads_group hopening (fun _ _ => rfl) hclosing ho hlimit hbody
  | negation hopening h hclosing =>
    obtain ⟨hlimit, hbody⟩ := hinner _ _ h
    exact reads_group hopening (fun _ _ => rfl) hclosing ho hlimit hbody

/-! ## Runs and levels -/

variable (limit waiting Inner) in
/-- Operands of the form are read from every level that takes one. -/
def ReadsOperands : Prop := ∀ ts rule operands, Operand Inner ts rule →
  operands.takesOperand = true → Reads limit ⟨waiting, operands⟩ ts ⟨waiting, operands.add rule⟩

theorem reads_and {t : Token} (h : t.kind = .and) (ho : operands.takesOperator = true) :
    Reads limit ⟨waiting, operands⟩ [t] ⟨waiting, operands.addAnd⟩ := by
  apply reads_of_step (.and h)
  intro index
  simp [step, ho]

theorem reads_or {t : Token} (h : t.kind = .or) (ho : operands.takesOperator = true) :
    Reads limit ⟨waiting, operands⟩ [t] ⟨waiting, operands.addOr⟩ := by
  apply reads_of_step (.or h)
  intro index
  simp [step, ho]

/-- Joined operands go on with the run that is being read. -/
theorem reads_joined_and (hop : ReadsOperands limit waiting Inner) {alternatives run rs : List Rule}
    {dangling : Bool} (h : Joined .and (Operand Inner) ts rs)
    (ho : (Operands.reading alternatives run dangling).takesOperand = true) :
    Reads limit ⟨waiting, .reading alternatives run dangling⟩ ts
      ⟨waiting, .reading alternatives (run ++ rs) false⟩ := by
  induction h with
  | one h =>
    rw [← Operands.add_reading ho]
    exact hop _ _ _ h ho
  | @more ts us t rs r h ht hu ih =>
    have hne : run ++ rs ≠ [] := by simp [h.ne_nil]
    have hbehind : (Operands.reading alternatives (run ++ rs) false).takesOperator = true :=
      Operands.takesOperator_reading hne
    have hand : Reads limit ⟨waiting, _⟩ [t] ⟨waiting, _⟩ := reads_and ht hbehind
    have hdue : (Operands.reading alternatives (run ++ rs) true).takesOperand = true := by
      simp [Operands.takesOperand]
    have hlast := hop us r _ hu hdue
    rw [Operands.addAnd_reading hne] at hand
    rw [Operands.add_reading hdue] at hlast
    have hall := (ih.append hand).append hlast
    rw [List.append_assoc run, List.append_assoc ts] at hall
    exact hall

/-- A run is read from a level that has no run yet, and is the conjunction of what it leaves. -/
theorem reads_run (hop : ReadsOperands limit waiting Inner) {alternatives : List Rule}
    {dangling : Bool} (h : Grammar.Run Inner ts rule)
    (ho : (Operands.reading alternatives [] dangling).takesOperand = true) :
    ∃ run, Reads limit ⟨waiting, .reading alternatives [] dangling⟩ ts
        ⟨waiting, .reading alternatives run false⟩ ∧
      run ≠ [] ∧ Rule.conjunction run = rule := by
  cases h with
  | single h => exact ⟨[rule], reads_joined_and hop h ho, by simp, rfl⟩
  | @all rs h hlength =>
    refine ⟨rs, reads_joined_and hop h ho, h.ne_nil, ?_⟩
    match rs, hlength with
    | _ :: _ :: _, _ => rfl

/-- Joined runs become the alternatives of a level, the last of them still as its run. -/
theorem reads_joined_or (hop : ReadsOperands limit waiting Inner) {rs : List Rule}
    (h : Joined .or (Grammar.Run Inner) ts rs) :
    ∃ alternatives run, Reads limit ⟨waiting, .empty⟩ ts
        ⟨waiting, .reading alternatives run false⟩ ∧
      run ≠ [] ∧ alternatives ++ [Rule.conjunction run] = rs := by
  induction h with
  | one h =>
    have hfresh : (Operands.reading [] [] false).takesOperand = true := rfl
    obtain ⟨run, hr, hne, rfl⟩ := reads_run hop h hfresh
    exact ⟨[], run, hr, hne, rfl⟩
  | @more ts us t rs r h ht hu ih =>
    obtain ⟨alternatives, run, hr, hne, rfl⟩ := ih
    have hbehind : (Operands.reading alternatives run false).takesOperator = true :=
      Operands.takesOperator_reading hne
    have hor : Reads limit ⟨waiting, _⟩ [t] ⟨waiting, _⟩ := reads_or ht hbehind
    rw [Operands.addOr_reading hne] at hor
    have hdue : (Operands.reading (alternatives ++ [Rule.conjunction run]) [] true).takesOperand
        = true := by simp [Operands.takesOperand]
    obtain ⟨last, hl, hlast, rfl⟩ := reads_run hop hu hdue
    refine ⟨_, last, ?_, hlast, rfl⟩
    have hall := (hr.append hor).append hl
    rw [List.append_assoc ts] at hall
    exact hall

theorem readsLevel_of_readsOperands (hop : ReadsOperands limit waiting Inner)
    (h : Grammar.Level Inner ts rule) : ReadsLevel limit waiting ts rule := by
  cases h with
  | single h =>
    obtain ⟨alternatives, run, hr, hne, hrs⟩ := reads_joined_or hop h
    refine ⟨_, hr, ?_⟩
    rw [Operands.close_reading hne, hrs]
    rfl
  | @any rs h hlength =>
    obtain ⟨alternatives, run, hr, hne, hrs⟩ := reads_joined_or hop h
    refine ⟨_, hr, ?_⟩
    rw [Operands.close_reading hne, hrs]
    match rs, hlength with
    | _ :: _ :: _, _ => rfl

end Level

/-- What a group may hold is read as a level where the limit leaves room for its levels. -/
theorem readsLevel_of_inside {levels : Nat} {ts : List Token} {rule : Rule}
    (h : Grammar.Inside levels ts rule) {waiting : List Frame}
    (hroom : waiting.length + levels ≤ limit) : ReadsLevel limit waiting ts rule := by
  induction levels generalizing ts rule waiting with
  | zero => exact h.elim
  | succ levels ih =>
    refine readsLevel_of_readsOperands ?_ h
    intro us r operands hu ho
    refine reads_operand hu ho ?_
    intro body inner hb
    cases levels with
    | zero => exact hb.elim
    | succ levels =>
      refine ⟨by omega, ?_⟩
      intro frame
      apply ih hb
      simp only [List.length_cons]
      omega

/-- An operand is read where the limit leaves room for its level and for those of its groups. -/
theorem reads_operand_of_room {levels : Nat} {ts : List Token} {rule : Rule}
    (h : Grammar.Operand (Grammar.Inside levels) ts rule) {waiting : List Frame}
    {operands : Operands} (ho : operands.takesOperand = true)
    (hroom : waiting.length + 1 + levels ≤ limit) :
    Reads limit ⟨waiting, operands⟩ ts ⟨waiting, operands.add rule⟩ := by
  refine reads_operand h ho ?_
  intro body inner hb
  cases levels with
  | zero => exact hb.elim
  | succ levels =>
    refine ⟨by omega, ?_⟩
    intro frame
    apply readsLevel_of_inside hb
    simp only [List.length_cons]
    omega

end Nest

end TriggerRule
