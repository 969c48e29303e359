import TriggerRule.Rule.Phrase

/-!
# The tokens of a phrase

`Written tokens phrase` lists, for each phrase, the kinds of the tokens it is written with and where
its texts stand. The reader of phrases agrees with it in both directions: `Written.read?_append`
(whatever follows the tokens) and `exists_written_of_read?`. So tokens are phrases up to where none
starts, which is what proofs about reading go by (`induction_phrases`).
-/

namespace TriggerRule

namespace Phrase

/-- The tokens that a phrase is written with. -/
inductive Written : List Token → Phrase → Prop
  | and {t : Token} (h : t.kind = .and) : Written [t] .and
  | or {t : Token} (h : t.kind = .or) : Written [t] .or
  | close {t : Token} (h : t.kind = .closeParen) : Written [t] .close
  | group {t : Token} (h : t.kind = .openParen) : Written [t] (.operand .group)
  | negation {t u : Token} (ht : t.kind = .not) (hu : u.kind = .openParen) :
    Written [t, u] (.operand .negation)
  | value {p e v : Token} (hp : p.isLiteral = true) (he : e.kind = .equals)
    (hv : v.isLiteral = true) : Written [p, e, v] (.operand (.value p.text v.text))
  | regex {p e v : Token} (hp : p.isLiteral = true) (he : e.kind = .matchesRegex)
    (hv : v.isLiteral = true) : Written [p, e, v] (.operand (.regex p.text v.text))
  | hash {p e w o t c s r : Token} (hp : p.isLiteral = true) (he : e.kind = .equals)
    (hw : w.kind = .sha1) (ho : o.kind = .openParen) (ht : t.isLiteral = true)
    (hc : c.kind = .comma) (hs : s.isLiteral = true) (hr : r.kind = .closeParen) :
    Written [p, e, w, o, t, c, s, r] (.operand (.hash p.text t.text s.text))

theorem isLiteral_iff {token : Token} :
    token.isLiteral = true ↔ token.kind = .singleQuoted ∨ token.kind = .doubleQuoted := by
  unfold Token.isLiteral
  cases token.kind <;> simp [Token.Kind.isLiteral]

theorem kind_ne_of_isLiteral {token : Token} {kind : Token.Kind} (h : token.isLiteral = true)
    (hk : kind.isLiteral = false) : token.kind ≠ kind := by
  rintro rfl
  rw [Token.isLiteral, hk] at h
  cases h

/-- A phrase is recognised by its own tokens, whatever follows. -/
theorem Written.read?_append {ts : List Token} {phrase : Phrase} (h : Written ts phrase)
    (rest : List Token) : read? (ts ++ rest) = some phrase := by
  have hliteral : ∀ {p : Token}, p.isLiteral = true → ∀ us,
      read? (p :: us) = (matchOf? p.text us).map operand := by
    intro p hp us
    rcases isLiteral_iff.1 hp with hk | hk <;> simp [read?, hk]
  cases h with
  | and h => simp [read?, h]
  | or h => simp [read?, h]
  | close h => simp [read?, h]
  | group h => simp [read?, h]
  | negation ht hu => simp [read?, ht, hu]
  | value hp he hv => simp [hliteral hp, matchOf?, he, hv]
  | regex hp he hv => simp [hliteral hp, matchOf?, he, hv]
  | hash hp he hw ho ht hc hs hr =>
    have hsha : ∀ {w : Token}, w.kind = .sha1 → w.isLiteral = false := by
      intro w hw
      simp [Token.isLiteral, hw, Token.Kind.isLiteral]
    simp [hliteral hp, matchOf?, hashOf?, he, hw, hsha hw, ho, ht, hc, hs, hr]

theorem Written.length {ts : List Token} {phrase : Phrase} (h : Written ts phrase) :
    ts.length = phrase.width := by
  cases h <;> rfl

theorem Written.length_pos {ts : List Token} {phrase : Phrase} (h : Written ts phrase) :
    0 < ts.length := by
  rw [h.length]
  exact phrase.width_pos

theorem Written.length_le {ts : List Token} {phrase : Phrase} (h : Written ts phrase) :
    ts.length ≤ 8 := by
  cases h <;> simp

theorem Written.kind_ne_endOfText {ts : List Token} {phrase : Phrase} (h : Written ts phrase) :
    ∀ t ∈ ts, t.kind ≠ .endOfText := by
  have hliteral : ∀ {p : Token}, p.isLiteral = true → p.kind ≠ .endOfText :=
    fun hp => kind_ne_of_isLiteral hp rfl
  cases h <;> simp_all

/-- Only the last token of a phrase closes a parenthesis. -/
theorem Written.kind_ne_closeParen_of_mem_dropLast {ts : List Token} {phrase : Phrase}
    (h : Written ts phrase) : ∀ t ∈ ts.dropLast, t.kind ≠ .closeParen := by
  have hliteral : ∀ {p : Token}, p.isLiteral = true → p.kind ≠ .closeParen :=
    fun hp => kind_ne_of_isLiteral hp rfl
  cases h <;> simp_all

theorem exists_written_of_hashOf? {parameter : String} {tokens : List Token} {start : Operand}
    (h : hashOf? parameter tokens = some start) :
    ∃ o t c s r rest, tokens = o :: t :: c :: s :: r :: rest ∧ o.kind = .openParen ∧
      t.isLiteral = true ∧ c.kind = .comma ∧ s.isLiteral = true ∧ r.kind = .closeParen ∧
      start = .hash parameter t.text s.text := by
  unfold hashOf? at h
  split at h
  · next o t c s r rest =>
    split at h
    · next hk =>
      obtain ⟨ho, ht, hc, hs, hr⟩ := hk
      exact ⟨o, t, c, s, r, rest, rfl, ho, ht, hc, hs, hr, (Option.some.inj h).symm⟩
    · simp at h
  · simp at h

theorem exists_written_of_matchOf? {p : Token} (hp : p.isLiteral = true) {tokens : List Token}
    {start : Operand} (h : matchOf? p.text tokens = some start) :
    ∃ ts rest, p :: tokens = ts ++ rest ∧ Written ts (operand start) := by
  unfold matchOf? at h
  split at h
  · next e v rest =>
    split at h
    · next he =>
      split at h
      · next hv =>
        obtain rfl := Option.some.inj h
        exact ⟨[p, e, v], rest, rfl, .value hp he hv⟩
      · split at h
        · next hw =>
          obtain ⟨o, t, c, s, r, rest, rfl, ho, ht, hc, hs, hr, rfl⟩ :=
            exists_written_of_hashOf? h
          exact ⟨[p, e, v, o, t, c, s, r], rest, rfl, .hash hp he hw ho ht hc hs hr⟩
        · simp at h
    · next he =>
      split at h
      · next hv =>
        obtain rfl := Option.some.inj h
        exact ⟨[p, e, v], rest, rfl, .regex hp he hv⟩
      · simp at h
    · simp at h
  · simp at h

/-- Where a phrase is recognised, its tokens come next. -/
theorem exists_written_of_read? {tokens : List Token} {phrase : Phrase}
    (h : read? tokens = some phrase) : ∃ ts rest, tokens = ts ++ rest ∧ Written ts phrase := by
  unfold read? at h
  split at h
  · simp at h
  · next t rest =>
    have hmatch : t.isLiteral = true → (matchOf? t.text rest).map operand = some phrase →
        ∃ ts rest', t :: rest = ts ++ rest' ∧ Written ts phrase := by
      intro ht hm
      obtain ⟨start, hs, rfl⟩ := Option.map_eq_some_iff.1 hm
      exact exists_written_of_matchOf? ht hs
    split at h
    · next hk =>
      obtain rfl := Option.some.inj h
      exact ⟨[t], rest, rfl, .and hk⟩
    · next hk =>
      obtain rfl := Option.some.inj h
      exact ⟨[t], rest, rfl, .or hk⟩
    · next hk =>
      obtain rfl := Option.some.inj h
      exact ⟨[t], rest, rfl, .close hk⟩
    · next hk =>
      obtain rfl := Option.some.inj h
      exact ⟨[t], rest, rfl, .group hk⟩
    · next hk =>
      split at h
      · next u us =>
        split at h
        · next hu =>
          obtain rfl := Option.some.inj h
          exact ⟨[t, u], us, rfl, .negation hk hu⟩
        · simp at h
      · simp at h
    · next hk => exact hmatch (isLiteral_iff.2 (.inl hk)) h
    · next hk => exact hmatch (isLiteral_iff.2 (.inr hk)) h
    · simp at h

/-- Tokens are phrases, one after the other, and then tokens at which no phrase starts. -/
@[elab_as_elim]
theorem induction_phrases {P : List Token → Prop} (stop : ∀ tokens, read? tokens = none → P tokens)
    (phrase : ∀ us phrase rest, Written us phrase → P rest → P (us ++ rest))
    (tokens : List Token) : P tokens := by
  -- on the length, since a phrase may take any number of them
  induction hn : tokens.length using Nat.strongRecOn generalizing tokens with
  | _ n ih =>
    cases hp : read? tokens with
    | none => exact stop tokens hp
    | some start =>
      obtain ⟨us, rest, rfl, hu⟩ := exists_written_of_read? hp
      have hlt : rest.length < n := by
        have := hu.length_pos
        rw [← hn, List.length_append]
        omega
      exact phrase us start rest hu (ih _ hlt rest rfl)

end Phrase

end TriggerRule
