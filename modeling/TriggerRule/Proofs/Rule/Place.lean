import TriggerRule.Proofs.Rule.Stop

/-!
# What the tokens say of the nest

The last of the tokens that have been read says what may come next: at the start and after an
opening parenthesis the level is empty, after an operator an operand is due, and after anything else
an operator is (`Placed`, `Begun.placed`). The waiting levels were opened at tokens in ascending
order, and there are fewer of them than the limit.
-/

namespace TriggerRule

namespace Token

/-- The kind of the last token. -/
def lastKind (ts : List Token) : Option Kind := ts.getLast?.map kind

theorem lastKind_concat (ts : List Token) (t : Token) : lastKind (ts ++ [t]) = some t.kind := by
  simp [lastKind]

theorem lastKind_append_of_ne_nil (ts : List Token) {us : List Token} (h : us ≠ []) :
    lastKind (ts ++ us) = lastKind us := by
  rw [lastKind, lastKind, List.getLast?_append, List.getLast?_eq_some_getLast h]
  rfl

theorem lastKind_append {ts us : List Token} {kind : Kind} (h : lastKind us = some kind) :
    lastKind (ts ++ us) = some kind := by
  have hne : us ≠ [] := by
    rintro rfl
    simp [lastKind] at h
  rw [lastKind_append_of_ne_nil ts hne, h]

end Token

open Token

namespace Nest

/-- The nest stands right behind a token of a kind, or at the start. -/
inductive Placed : Nest → Option Kind → Prop
  | start : Placed start none
  | opened {frame : Frame} {outer : List Frame} :
    Placed ⟨frame :: outer, .empty⟩ (some .openParen)
  | operator {nest : Nest} {kind : Kind} (hk : kind = .and ∨ kind = .or)
    (he : nest.operands.isEmpty = false) (hd : nest.operands.dangling = true) :
    Placed nest (some kind)
  | operand {nest : Nest} {kind : Kind} (hk : kind = .closeParen ∨ kind.isLiteral = true)
    (he : nest.operands.isEmpty = false) (hd : nest.operands.dangling = false) :
    Placed nest (some kind)

variable {nest : Nest} {last : Option Kind}

theorem Placed.takesOperand_iff (h : Placed nest last) : nest.operands.takesOperand = true ↔
    last = none ∨ last = some .openParen ∨ last = some .and ∨ last = some .or := by
  unfold Operands.takesOperand
  cases h with
  | start => simp [Nest.start, Operands.empty, Operands.isEmpty]
  | opened => simp [Operands.empty, Operands.isEmpty]
  | operator hk he hd => rcases hk with rfl | rfl <;> simp [hd]
  | @operand _ kind hk he hd => cases kind <;> simp_all [Kind.isLiteral]

theorem Placed.isEmpty_iff (h : Placed nest last) : nest.operands.isEmpty = true ↔
    last = none ∨ last = some .openParen := by
  cases h with
  | start => simp [Nest.start, Operands.empty, Operands.isEmpty]
  | opened => simp [Operands.empty, Operands.isEmpty]
  | operator hk he hd => rcases hk with rfl | rfl <;> simp [he]
  | @operand _ kind hk he hd => cases kind <;> simp_all [Kind.isLiteral]

theorem Placed.dangling_iff (h : Placed nest last) : nest.operands.dangling = true ↔
    last = some .and ∨ last = some .or := by
  cases h with
  | start => simp [Nest.start, Operands.empty]
  | opened => simp [Operands.empty]
  | operator hk he hd => rcases hk with rfl | rfl <;> simp [hd]
  | @operand _ kind hk he hd => cases kind <;> simp_all [Kind.isLiteral]

theorem Placed.eq_start (h : Placed nest none) : nest = Nest.start := by
  cases h with
  | start => rfl

theorem Placed.waiting_ne_nil (h : Placed nest (some .openParen)) : nest.waiting ≠ [] := by
  cases h with
  | opened => simp
  | operator hk => simp at hk
  | operand hk => simp [Kind.isLiteral] at hk

/-- Neither a `!` nor a `sha1` comes last: their parentheses are read with them. -/
theorem Placed.ne_not_sha1 (h : Placed nest last) : last ≠ some .not ∧ last ≠ some .sha1 := by
  cases h with
  | start => simp
  | opened => simp
  | operator hk he hd => rcases hk with rfl | rfl <;> simp
  | @operand _ kind hk he hd => cases kind <;> simp_all [Kind.isLiteral]

end Nest

/-! ## The last token of a derivation -/

namespace Grammar

variable {Inner : List Token → Rule → Prop} {ts : List Token}

/-- An operand ends in a parenthesis or a literal. -/
theorem Operand.exists_lastKind {r : Rule} (h : Operand Inner ts r) :
    ∃ kind, lastKind ts = some kind ∧ (kind = .closeParen ∨ kind.isLiteral = true) := by
  cases h with
  | value h _ =>
    cases h with
    | value hp he hv => exact ⟨_, rfl, .inr hv⟩
  | regex h _ =>
    cases h with
    | regex hp he hv => exact ⟨_, rfl, .inr hv⟩
  | hash h _ _ =>
    cases h with
    | hash hp he hw ho ht hc hs hr => exact ⟨_, rfl, .inl hr⟩
  | group ho h hc =>
    cases hc with
    | close hc => exact ⟨_, lastKind_concat _ _, .inl hc⟩
  | negation ho h hc =>
    cases hc with
    | close hc => exact ⟨_, lastKind_concat _ _, .inl hc⟩

theorem Joined.exists_lastKind {operator : Kind} {rs : List Rule}
    (h : Joined operator (Operand Inner) ts rs) :
    ∃ kind, lastKind ts = some kind ∧ (kind = .closeParen ∨ kind.isLiteral = true) := by
  cases h with
  | one h => exact h.exists_lastKind
  | @more ts us t _ _ h ht hu =>
    obtain ⟨kind, hl, hk⟩ := hu.exists_lastKind
    refine ⟨kind, ?_, hk⟩
    rw [List.append_cons]
    exact lastKind_append hl

/-- A level of which something has been read stands behind the last token of it. -/
theorem Begun.placed {operands : Operands} (h : Begun Inner ts operands) :
    ts = [] ∧ operands = .empty ∨
      ∃ kind, lastKind ts = some kind ∧ ∀ waiting, Nest.Placed ⟨waiting, operands⟩ (some kind) := by
  cases h with
  | fresh h =>
    cases h with
    | nil => exact .inl ⟨rfl, rfl⟩
    | or h ht =>
      refine .inr ⟨_, lastKind_concat _ _, fun waiting => .operator (.inr ht) ?_ ?_⟩
      · simp [h.ne_nil]
      · simp [h.ne_nil]
  | operand h hu =>
    obtain ⟨kind, hl, hk⟩ := hu.exists_lastKind
    refine .inr ⟨kind, lastKind_append hl, fun waiting => .operand hk ?_ ?_⟩
    · simp [hu.ne_nil]
    · simp
  | and h hu ht =>
    refine .inr ⟨_, lastKind_concat _ _, fun waiting => .operator (.inl ht) ?_ ?_⟩
    · simp [hu.ne_nil]
    · simp

end Grammar

/-! ## The nest behind the tokens -/

namespace Nest

variable {limit : Nat} {ts : List Token} {nest : Nest}

theorem lastKind_opening {us : List Token} {enclosure : Enclosure}
    (h : Phrase.Written us (.operand enclosure.opening)) : lastKind us = some .openParen := by
  cases enclosure with
  | group =>
    cases h with
    | group ho => exact congrArg some ho
  | negation =>
    cases h with
    | negation hn ho => exact congrArg some ho

theorem Begun.placed (h : Begun limit ts nest) : Placed nest (lastKind ts) := by
  cases h with
  | outermost h =>
    rcases h.placed with ⟨rfl, rfl⟩ | ⟨kind, hl, hp⟩
    · exact .start
    · rw [hl]
      exact hp []
  | inside h ho hu hindex hlimit hv =>
    rcases hv.placed with ⟨rfl, rfl⟩ | ⟨kind, hl, hp⟩
    · rw [List.append_nil, lastKind_append (lastKind_opening hu)]
      exact .opened
    · rw [lastKind_append hl]
      exact hp _

theorem Begun.depth_le (h : Begun limit ts nest) (hl : 0 < limit) : nest.depth ≤ limit := by
  cases h with
  | outermost h => exact hl
  | inside h ho hu hindex hlimit hv => exact hlimit

theorem Begun.index_lt (h : Begun limit ts nest) :
    ∀ frame ∈ nest.waiting, frame.index < ts.length := by
  induction h with
  | outermost h => simp
  | inside h ho hu hindex hlimit hv ih =>
    have := hu.length_pos
    simp only [List.length_append]
    intro frame hf
    rcases List.mem_cons.1 hf with rfl | hf
    · omega
    · have := ih frame hf
      omega

/-- The inner of two levels was opened behind the outer. -/
theorem Begun.pairwise_index (h : Begun limit ts nest) :
    nest.waiting.Pairwise fun inner outer => outer.index < inner.index := by
  induction h with
  | outermost h => exact .nil
  | inside h ho hu hindex hlimit hv ih =>
    refine .cons ?_ ih
    intro frame hf
    rw [hindex]
    exact h.index_lt frame hf

/-- Of the phrases only those that open a level end in an opening parenthesis. -/
theorem exists_opening_of_lastKind {us : List Token} {phrase : Phrase}
    (h : Phrase.Written us phrase) (hl : lastKind us = some .openParen) :
    ∃ enclosure : Enclosure, phrase = .operand enclosure.opening := by
  cases h with
  | group ho => exact ⟨.group, rfl⟩
  | negation hn ho => exact ⟨.negation, rfl⟩
  | value hp he hv => exact absurd (Option.some.inj hl) (Phrase.kind_ne_of_isLiteral hv rfl)
  | regex hp he hv => exact absurd (Option.some.inj hl) (Phrase.kind_ne_of_isLiteral hv rfl)
  | hash hp he hw ho ht hc hs hr => simp [lastKind, hr] at hl
  | and ht => simp [lastKind, ht] at hl
  | or ht => simp [lastKind, ht] at hl
  | close ht => simp [lastKind, ht] at hl

/-- No phrase starts inside the call of a hash. -/
theorem Reached.lastKind_ne_sha1 {front : List Token} {opening : Token}
    (h : Reached limit (front ++ [opening]) nest) (ho : opening.kind = .openParen) :
    lastKind front ≠ some .sha1 := by
  generalize hts : front ++ [opening] = ts at h
  have hlast : lastKind ts = some .openParen := by
    rw [← hts, lastKind_concat, ho]
  cases h with
  | start => simp at hts
  | @step ts us nest _ _ h hu _ =>
    rw [lastKind_append_of_ne_nil ts (List.ne_nil_of_length_pos hu.length_pos)] at hlast
    -- before an opening stands its `!` or the end of another phrase
    obtain ⟨enclosure, rfl⟩ := exists_opening_of_lastKind hu hlast
    cases enclosure with
    | group =>
      cases hu with
      | group hparen =>
        obtain ⟨rfl, -⟩ := List.append_inj' hts rfl
        exact h.begun.placed.ne_not_sha1.2
    | negation =>
      cases hu with
      | @negation n u hn hparen =>
        have hsplit : front ++ [opening] = (ts ++ [n]) ++ [u] := by rw [hts, List.append_cons]
        obtain ⟨rfl, -⟩ := List.append_inj' hsplit rfl
        simp [lastKind_concat, hn]

end Nest

end TriggerRule
