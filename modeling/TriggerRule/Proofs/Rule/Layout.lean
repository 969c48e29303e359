import TriggerRule.Compile
import TriggerRule.Proofs.Rule.Derivation
import TriggerRule.Proofs.Token.Layout

/-!
# The texts of rules

A derivation closes each parenthesis it opens, so wherever it stands among balanced tokens it can be
taken out (`Neutral`). With that the scanner asks nothing of a text that the grammar does not: main
statement `read_eq_ok_iff_derives`, a text is read as a rule if and only if it is a layout of tokens
that derive the rule.
-/

namespace TriggerRule

namespace Token

/-! ## Tokens that leave the parentheses as they are -/

/-- Whatever is open before the tokens is open after them. -/
def Neutral (ts : List Token) : Prop :=
  ∀ unclosed rest, Balanced unclosed (ts ++ rest) ↔ Balanced unclosed rest

theorem Neutral.append {ts us : List Token} (h : Neutral ts) (hu : Neutral us) :
    Neutral (ts ++ us) := by
  intro unclosed rest
  rw [List.append_assoc, h, hu]

theorem neutral_singleton {t : Token} (ho : t.kind ≠ .openParen) (hc : t.kind ≠ .closeParen) :
    Neutral [t] := by
  intro unclosed rest
  have hr : Cursor.recount t.kind unclosed = unclosed := by
    cases hk : t.kind with
    | openParen => exact absurd hk ho
    | closeParen => exact absurd hk hc
    | _ => rfl
  rw [List.cons_append, List.nil_append, balanced_cons_iff, hr]
  simp [hc]

theorem Neutral.enclosed {o c : Token} {ts : List Token} (ho : o.kind = .openParen)
    (h : Neutral ts) (hc : c.kind = .closeParen) : Neutral (o :: ts ++ [c]) := by
  intro unclosed rest
  have hopen : Cursor.recount o.kind unclosed = unclosed + 1 := by rw [ho]; rfl
  have hclose : Cursor.recount c.kind (unclosed + 1) = unclosed := by rw [hc]; rfl
  rw [List.cons_append, List.cons_append, List.append_assoc, balanced_cons_iff, hopen, h,
    List.cons_append, List.nil_append, balanced_cons_iff, hclose]
  simp [ho]

theorem Neutral.balanced {ts : List Token} (h : Neutral ts) : Balanced 0 ts := by
  have hb := (h 0 []).2 (balanced_nil_iff.2 rfl)
  rw [List.append_nil] at hb
  exact hb

/-- What is balanced closes as many parentheses as it has to, whatever else is open. -/
theorem Balanced.append_iff {unclosed : Nat} {ts : List Token} (h : Balanced unclosed ts)
    (more : Nat) (rest : List Token) :
    Balanced (more + unclosed) (ts ++ rest) ↔ Balanced more rest := by
  induction ts generalizing unclosed with
  | nil => rw [balanced_nil_iff.1 h, Nat.add_zero, List.nil_append]
  | cons t ts ih =>
    obtain ⟨hopen, hts⟩ := balanced_cons_iff.1 h
    have hmore : t.kind = .closeParen → more + unclosed ≠ 0 := by
      intro hk
      have := hopen hk
      omega
    have hr : Cursor.recount t.kind (more + unclosed) =
        more + Cursor.recount t.kind unclosed := by
      have := recount_add hopen
      have := recount_add hmore
      omega
    rw [List.cons_append, balanced_cons_iff, hr, ih hts]
    exact and_iff_right hmore

theorem Balanced.neutral {ts : List Token} (h : Balanced 0 ts) : Neutral ts :=
  h.append_iff

end Token

namespace Grammar

open Token

/-! ## Derivations are neutral -/

section Level

variable {Inner : List Token → Rule → Prop} {ts : List Token} {r : Rule}

theorem Joined.neutral {operator : Token.Kind} {Form : List Token → Rule → Prop} {rs : List Rule}
    (ho : operator ≠ .openParen) (hc : operator ≠ .closeParen)
    (hform : ∀ ts r, Form ts r → Neutral ts) (h : Joined operator Form ts rs) : Neutral ts := by
  induction h with
  | one h => exact hform _ _ h
  | more h ht hu ih =>
    have hoperator : Neutral [_] := neutral_singleton (ht ▸ ho) (ht ▸ hc)
    exact ih.append (hoperator.append (hform _ _ hu))

theorem neutral_of_isLiteral {t : Token} (h : t.isLiteral = true) : Neutral [t] :=
  neutral_singleton (Phrase.kind_ne_of_isLiteral h rfl) (Phrase.kind_ne_of_isLiteral h rfl)

/-- An operand closes the parentheses it opens, that of `sha1` included. -/
theorem Operand.neutral (hinner : ∀ ts r, Inner ts r → Neutral ts) (h : Operand Inner ts r) :
    Neutral ts := by
  have hplain : ∀ {t : Token} {kind : Kind}, t.kind = kind → kind ≠ .openParen →
      kind ≠ .closeParen → Neutral [t] := by
    rintro t _ rfl ho hc
    exact neutral_singleton ho hc
  cases h with
  | value h _ =>
    cases h with
    | value hp he hv =>
      have hequals := hplain he (by decide) (by decide)
      exact (neutral_of_isLiteral hp).append (hequals.append (neutral_of_isLiteral hv))
  | regex h _ =>
    cases h with
    | regex hp he hv =>
      have hmatches := hplain he (by decide) (by decide)
      exact (neutral_of_isLiteral hp).append (hmatches.append (neutral_of_isLiteral hv))
  | hash h _ _ =>
    cases h with
    | hash hp he hw ho ht hc hs hr =>
      have hequals := hplain he (by decide) (by decide)
      have hword := hplain hw (by decide) (by decide)
      have hcomma := hplain hc (by decide) (by decide)
      have harguments := (neutral_of_isLiteral ht).append (hcomma.append (neutral_of_isLiteral hs))
      exact (neutral_of_isLiteral hp).append
        (hequals.append (hword.append (harguments.enclosed ho hr)))
  | group ho h hc =>
    cases ho with
    | group ho =>
      cases hc with
      | close hc => exact (hinner _ _ h).enclosed ho hc
  | negation ho h hc =>
    cases ho with
    | negation hn ho =>
      cases hc with
      | close hc =>
        have hnot := hplain hn (by decide) (by decide)
        exact hnot.append ((hinner _ _ h).enclosed ho hc)

theorem closed_neutral : Closed fun ts _ => Neutral ts where
  operand _ _ h := h.neutral fun _ _ h => h
  all _ _ h _ := h.neutral (by decide) (by decide) fun _ _ h => h
  any _ _ h _ := h.neutral (by decide) (by decide) fun _ _ h => h

theorem Derives.neutral {openings : Nat} (h : Derives openings ts r) : Neutral ts :=
  closed_neutral.derives h

end Level

end Grammar

namespace Rule

/-! ## From text to derivation -/

/-- The tokens before the first that ends the text do not depend on what follows it. -/
theorem eq_of_append_ending {body body' rest rest' : List Token} {ending ending' : Token}
    (h : ∀ t ∈ body, t.kind ≠ .endOfText) (he : ending.kind = .endOfText)
    (h' : ∀ t ∈ body', t.kind ≠ .endOfText) (he' : ending'.kind = .endOfText)
    (heq : body ++ ending :: rest = body' ++ ending' :: rest') : body = body' := by
  have htake : ∀ {us vs : List Token} {e : Token}, (∀ t ∈ us, t.kind ≠ .endOfText) →
      e.kind = .endOfText → (us ++ e :: vs).takeWhile (fun t => t.kind ≠ .endOfText) = us := by
    intro us vs e hu hk
    rw [List.takeWhile_append_of_pos (by simpa using hu)]
    simp [hk]
  rw [← htake h he, heq, htake h' he']

theorem read_eq_ok_iff_exists {text : String} {rule : Rule} :
    read text = .ok rule ↔ ∃ tokens, Token.ofText text = .ok tokens ∧ parse tokens = .ok rule := by
  unfold read readLogged
  rw [value_compileLogged]
  cases Token.ofText text with
  | error error => simp
  | ok tokens => simp [mapError_eq_ok_iff]

theorem read_eq_error_tokens_iff {text : String} {tokens : List Token}
    {refusal : Failure Anchor} (h : Token.ofText text = .ok tokens) :
    read text = .error (.tokens refusal) ↔ parse tokens = .error refusal := by
  unfold read readLogged
  rw [value_compileLogged, h]
  show (parse tokens).mapError CompileError.tokens = _ ↔ _
  cases parse tokens <;> simp

theorem parse_of_derives {body rest : List Token} {ending : Token} {rule : Rule}
    (h : Grammar.Derives 127 body rule) (hkind : ending.kind = .endOfText) :
    parse (body ++ ending :: rest) = .ok rule :=
  parse_eq_ok_iff_parseWithin.2 (parseWithin_of_derives h hkind)

/-- What is read as a rule up to the end of the text is derived. -/
theorem derives_of_parseWithin {limit : Nat} {body : List Token} {rule : Rule}
    (hend : ∀ t ∈ body, t.kind ≠ .endOfText)
    (h : parseWithin limit (body ++ [Token.endToken]) = .ok rule) :
    Grammar.Derives (limit - 1) body rule := by
  obtain ⟨body', ending, rest, heq, hkind, hd⟩ := exists_derives_of_parseWithin h
  rw [eq_of_append_ending hend rfl hd.kind_ne_endOfText hkind heq]
  exact hd

/-- A text is read as a rule if and only if it is a layout of a derivation of the rule. -/
theorem read_eq_ok_iff_derives {text : String} {rule : Rule} :
    read text = .ok rule ↔
      ∃ body, Token.Laid body text.toList ∧ Grammar.Derives 127 body rule := by
  rw [read_eq_ok_iff_exists]
  constructor
  · rintro ⟨tokens, ht, hp⟩
    obtain ⟨body, rfl, hl, -⟩ := Token.exists_laid_of_ofText ht
    exact ⟨body, hl, derives_of_parseWithin hl.kind_ne_endOfText
      (parse_eq_ok_iff_parseWithin.1 hp)⟩
  · rintro ⟨body, hl, hd⟩
    exact ⟨_, Token.ofText_of_laid hl hd.neutral.balanced, parse_of_derives hd rfl⟩

end Rule

end TriggerRule
