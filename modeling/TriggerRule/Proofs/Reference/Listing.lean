import TriggerRule.Proofs.Rule.Diagnosis
import TriggerRule.Reference.Listing

/-!
# What is a list of references, and what keeps tokens from being one

A list is literals with a comma between each two (`Listed`). All that reading keeps in mind is
whether a reference is due, so what has been read is nothing, a list, or a list and a comma
(`Begun`); any of these can be completed to a list (`Begun.begins`). `Objects` gives the tokens that
may not come next and the cause, and none of them depends on what follows: so the failure stands at
the first token with which the tokens no longer begin a list (`Begun.firstRefused`). Main statement:
`listOf_listed_or_firstRefused`.
-/

namespace TriggerRule

open Token

namespace Reference

/-! ## Lists -/

/-- The token is a literal that is read as the reference. -/
structure Denotes (token : Token) (reference : Reference) : Prop where
  isLiteral : token.isLiteral = true
  parse_eq : parse token.text = .ok reference

/-- References as literals, with a comma between each two. -/
inductive Listed : List Token → List Reference → Prop
  | one {t : Token} {r : Reference} (ht : Denotes t r) : Listed [t] [r]
  | more {ts : List Token} {c t : Token} {rs : List Reference} {r : Reference} (h : Listed ts rs)
    (hc : c.kind = .comma) (ht : Denotes t r) : Listed (ts ++ [c, t]) (rs ++ [r])

/-- The tokens may begin a list: the references in them, and whether one more is due. -/
inductive Begun : List Token → List Reference → Bool → Prop
  | start : Begun [] [] true
  | listed {ts : List Token} {rs : List Reference} (h : Listed ts rs) : Begun ts rs false
  | comma {ts : List Token} {c : Token} {rs : List Reference} (h : Listed ts rs)
    (hc : c.kind = .comma) : Begun (ts ++ [c]) rs true

variable {ts rest tokens : List Token} {t : Token} {r : Reference} {rs references : List Reference}
  {due : Bool} {cause : Cause} {index : Nat}

theorem Begun.reference (h : Begun ts rs true) (ht : Denotes t r) :
    Begun (ts ++ [t]) (rs ++ [r]) false := by
  cases h with
  | start => exact .listed (.one ht)
  | comma h hc =>
    rw [List.append_assoc]
    exact .listed (.more h hc ht)

theorem Begun.isListed (h : Begun ts rs false) : Listed ts rs := by
  cases h with
  | listed h => exact h

/-! ## One token at a time -/

/-- The tokens that may not come next, where a reference is due or is not, and why not. -/
inductive Objects : Bool → Option Token → Cause → Prop
  /-- The tokens just end. -/
  | ended {due : Bool} : Objects due none .missingReference
  | endOfText {t : Token} (h : t.kind = .endOfText) : Objects true (some t) .missingReference
  | literal {t : Token} (h : t.isLiteral = true) : Objects false (some t) .missingComma
  | badReference {t : Token} {refusal : Refusal} (h : t.isLiteral = true)
    (hr : parse t.text = .error refusal) : Objects true (some t) (.badReference refusal)
  | comma {t : Token} (h : t.kind = .comma) : Objects true (some t) .unexpectedToken
  | other {due : Bool} {t : Token} (hl : t.isLiteral = false) (hc : t.kind ≠ .comma)
    (he : t.kind ≠ .endOfText) : Objects due (some t) .unexpectedToken

theorem listFrom_denotes (ht : Denotes t r) (index : Nat) (rest : List Token) :
    listFrom index true (t :: rest) = (listFrom (index + 1) false rest).map (r :: ·) := by
  rcases Phrase.isLiteral_iff.1 ht.isLiteral with hk | hk <;> simp [listFrom, hk, ht.parse_eq]

theorem listFrom_comma (ht : t.kind = .comma) (index : Nat) (rest : List Token) :
    listFrom index false (t :: rest) = listFrom (index + 1) true rest := by
  simp [listFrom, ht]

theorem listFrom_endOfText (ht : t.kind = .endOfText) (index : Nat) (rest : List Token) :
    listFrom index false (t :: rest) = .ok [] := by
  simp [listFrom, ht]

/-- A token that may not come next is where reading fails, whatever follows it. -/
theorem Objects.listFrom_eq (h : Objects due rest.head? cause) (index : Nat) :
    listFrom index due rest = .error (.raised cause ⟨index, 1⟩) := by
  cases rest with
  | nil =>
    cases h with
    | ended => rfl
  | cons t rest =>
    rw [List.head?_cons] at h
    cases h with
    | endOfText h => simp [listFrom, h]
    | literal h => rcases Phrase.isLiteral_iff.1 h with hk | hk <;> simp [listFrom, hk]
    | badReference h hr => rcases Phrase.isLiteral_iff.1 h with hk | hk <;> simp [listFrom, hk, hr]
    | comma h => simp [listFrom, h]
    | other hl hc he =>
      rw [listFrom]
      split
      · next hk => simp [isLiteral, hk, Kind.isLiteral] at hl
      · next hk => simp [isLiteral, hk, Kind.isLiteral] at hl
      · next hk => exact absurd hk hc
      · next hk => exact absurd hk he
      · rfl

theorem Objects.unique {other : Cause} (h : Objects due rest.head? cause)
    (ho : Objects due rest.head? other) : cause = other := by
  have heq := (h.listFrom_eq 0).symm.trans (ho.listFrom_eq 0)
  simpa using heq

/-- A token that may come next is a reference or a comma, as is due, or the end of the list. -/
theorem objects_or_goes_on (due : Bool) (t : Token) : (∃ cause, Objects due (some t) cause) ∨
    due = true ∧ (∃ r, Denotes t r) ∨
    due = false ∧ (t.kind = .comma ∨ t.kind = .endOfText) := by
  by_cases hl : t.isLiteral = true
  · cases due with
    | false => exact .inl ⟨_, .literal hl⟩
    | true =>
      cases hp : parse t.text with
      | error refusal => exact .inl ⟨_, .badReference hl hp⟩
      | ok r => exact .inr (.inl ⟨rfl, r, hl, hp⟩)
  · by_cases hc : t.kind = .comma
    · cases due with
      | false => exact .inr (.inr ⟨rfl, .inl hc⟩)
      | true => exact .inl ⟨_, .comma hc⟩
    · by_cases he : t.kind = .endOfText
      · cases due with
        | false => exact .inr (.inr ⟨rfl, .inr he⟩)
        | true => exact .inl ⟨_, .endOfText he⟩
      · exact .inl ⟨_, .other (Bool.eq_false_iff.2 hl) hc he⟩

/-! ## All the tokens -/

theorem Listed.listSites_append (h : Listed ts rs) (rest : List Token) :
    listSites (ts ++ rest) = (listFrom ts.length false rest).map (rs ++ ·) := by
  induction h generalizing rest with
  | one ht => exact listFrom_denotes ht 0 rest
  | more h hc ht ih =>
    rw [List.append_assoc, ih, List.cons_append, List.cons_append, List.nil_append,
      listFrom_comma hc, listFrom_denotes ht, List.length_append]
    cases listFrom _ false rest with
    | error failure => rfl
    | ok others => exact congrArg Except.ok (List.append_cons ..)

/-- Whatever follows the tokens, reading goes on behind them. -/
theorem Begun.listSites_append (h : Begun ts rs due) (rest : List Token) :
    listSites (ts ++ rest) = (listFrom ts.length due rest).map (rs ++ ·) := by
  cases h with
  | start =>
    rw [listSites, List.nil_append, List.length_nil]
    cases listFrom 0 true rest <;> rfl
  | listed h => exact h.listSites_append rest
  | comma h hc =>
    rw [List.append_assoc, h.listSites_append, List.singleton_append, listFrom_comma hc,
      List.length_append]
    rfl

theorem Begun.listSites_of_objects (h : Begun ts rs due) (ho : Objects due rest.head? cause) :
    listSites (ts ++ rest) = .error (.raised cause ⟨ts.length, 1⟩) := by
  rw [h.listSites_append, ho.listFrom_eq]
  rfl

/-- Reading goes on up to a token that may not come next, or to the end of a list. -/
theorem Begun.exists_stop (h : Begun ts rs due) (tokens : List Token) :
    ∃ us rest rs due, tokens = us ++ rest ∧ Begun (ts ++ us) rs due ∧
      ((∃ cause, Objects due rest.head? cause) ∨
        due = false ∧ ∃ last more, rest = last :: more ∧ last.kind = .endOfText) := by
  induction tokens generalizing ts rs due with
  | nil =>
    refine ⟨[], [], rs, due, rfl, ?_, .inl ⟨_, .ended⟩⟩
    rw [List.append_nil]
    exact h
  | cons t tokens ih =>
    have hhere : Begun (ts ++ []) rs due := by rwa [List.append_nil]
    have hnext : ∀ {rs' due'}, Begun (ts ++ [t]) rs' due' →
        ∃ us rest rs due, t :: tokens = us ++ rest ∧ Begun (ts ++ us) rs due ∧
          ((∃ cause, Objects due rest.head? cause) ∨
            due = false ∧ ∃ last more, rest = last :: more ∧ last.kind = .endOfText) := by
      intro rs' due' hb
      obtain ⟨us, rest, rs, due, rfl, hu, hstop⟩ := ih hb
      rw [List.append_assoc] at hu
      exact ⟨t :: us, rest, rs, due, rfl, hu, hstop⟩
    rcases objects_or_goes_on due t with ho | ⟨rfl, r, ht⟩ | ⟨rfl, hc | he⟩
    · exact ⟨[], t :: tokens, rs, due, rfl, hhere, .inl ho⟩
    · exact hnext (h.reference ht)
    · exact hnext (.comma h.isListed hc)
    · exact ⟨[], t :: tokens, rs, false, rfl, hhere, .inr ⟨rfl, t, tokens, rfl, he⟩⟩

/-- Reading ends at a token that may not come next, or else the tokens are a list. -/
theorem exists_objects_or_listed (tokens : List Token) :
    (∃ ts rest rs due cause, tokens = ts ++ rest ∧ Begun ts rs due ∧
        Objects due rest.head? cause) ∨
      ∃ ts last more rs, tokens = ts ++ last :: more ∧ last.kind = .endOfText ∧ Listed ts rs := by
  obtain ⟨ts, rest, rs, due, rfl, h, hstop⟩ := Begun.start.exists_stop tokens
  rw [List.nil_append] at h
  rcases hstop with ⟨cause, ho⟩ | ⟨rfl, last, more, rfl, he⟩
  · exact .inl ⟨ts, rest, rs, due, cause, rfl, h, ho⟩
  · exact .inr ⟨ts, last, more, rs, rfl, he, h.isListed⟩

theorem Listed.listSites_eq (h : Listed ts rs) (ht : t.kind = .endOfText) (more : List Token) :
    listSites (ts ++ t :: more) = .ok rs := by
  rw [h.listSites_append, listFrom_endOfText ht]
  exact congrArg Except.ok (List.append_nil rs)

theorem listSites_eq_ok_iff : listSites tokens = .ok references ↔
    ∃ body last rest, tokens = body ++ last :: rest ∧ last.kind = .endOfText ∧
      Listed body references := by
  constructor
  · intro h
    rcases exists_objects_or_listed tokens with ⟨ts, rest, rs, due, cause, rfl, hb, ho⟩ |
      ⟨ts, last, more, rs, rfl, he, hl⟩
    · rw [hb.listSites_of_objects ho] at h
      cases h
    · rw [hl.listSites_eq he] at h
      obtain rfl := Except.ok.inj h
      exact ⟨ts, last, more, rfl, he, hl⟩
  · rintro ⟨body, last, rest, rfl, he, hl⟩
    exact hl.listSites_eq he rest

/-- Where a list is refused, a token or the end of the tokens may not come next. -/
theorem exists_objects_of_listSites {failure : Failure Site}
    (h : listSites tokens = .error failure) :
    ∃ ts rest rs due cause, tokens = ts ++ rest ∧ Begun ts rs due ∧
      Objects due rest.head? cause ∧ failure = .raised cause ⟨ts.length, 1⟩ := by
  rcases exists_objects_or_listed tokens with ⟨ts, rest, rs, due, cause, rfl, hb, ho⟩ |
    ⟨ts, last, more, rs, rfl, he, hl⟩
  · rw [hb.listSites_of_objects ho] at h
    exact ⟨ts, rest, rs, due, cause, rfl, hb, ho, (Except.error.inj h).symm⟩
  · rw [hl.listSites_eq he] at h
    cases h

/-- A refusal states the sites of a failure by the tokens. -/
theorem exists_listSites_of_listOf {refusal : Failure Anchor} (h : listOf tokens = .error refusal) :
    ∃ failure, listSites tokens = .error failure ∧ failure.anchored tokens = refusal :=
  mapError_eq_error_iff.1 h

/-! ## The first token that is refused -/

/-- The tokens are the beginning of some that are read as a list. -/
def Begins (tokens : List Token) : Prop :=
  ∃ more references, listOf (tokens ++ more) = .ok references

/-- The index is that of the first token with which the tokens no longer begin a list, or the number
of the tokens if there is none. -/
structure FirstRefused (tokens : List Token) (index : Nat) : Prop where
  le_length : index ≤ tokens.length
  begins : ∀ i, i < index → Begins (tokens.take (i + 1))
  not_begins : index < tokens.length → ¬Begins (tokens.take (index + 1))

theorem listOf_eq_ok_iff : listOf tokens = .ok references ↔ listSites tokens = .ok references :=
  mapError_eq_ok_iff

theorem Begins.of_prefix {start : List Token} (h : Begins ts) (hs : start <+: ts) :
    Begins start := by
  obtain ⟨more, references, hl⟩ := h
  obtain ⟨left, rfl⟩ := hs
  refine ⟨left ++ more, references, ?_⟩
  rw [← List.append_assoc]
  exact hl

theorem Listed.begins (h : Listed ts rs) : Begins ts :=
  ⟨[endToken], rs, listOf_eq_ok_iff.2 (h.listSites_eq rfl [])⟩

/-- Tokens that may begin a list can be completed to one. -/
theorem Begun.begins (h : Begun ts rs due) : Begins ts := by
  cases due with
  | false => exact h.isListed.begins
  | true =>
    have ht : Denotes (literal "query.a") ⟨.query, "a"⟩ := ⟨rfl, rfl⟩
    exact (h.reference ht).isListed.begins.of_prefix (List.prefix_append ..)

theorem Begun.firstRefused (h : Begun ts rs due) (ho : Objects due rest.head? cause) :
    FirstRefused (ts ++ rest) ts.length := by
  refine ⟨by simp, ?_, ?_⟩
  · intro i hi
    rw [List.take_append_of_le_length hi]
    exact h.begins.of_prefix (List.take_prefix ..)
  · rintro hlt ⟨more, references, hl⟩
    cases rest with
    | nil => simp at hlt
    | cons t rest =>
      -- the token is refused as well with any others behind it
      have hmore : Objects due (t :: more).head? cause := ho
      rw [List.take_length_add_append, List.append_assoc, listOf_eq_ok_iff,
        List.take_succ_cons, List.take_zero, List.singleton_append,
        h.listSites_of_objects hmore] at hl
      cases hl

/-! ## The cause -/

/-- A reference has its place at the index: at the start, or behind a comma. -/
def ReferenceDue (tokens : List Token) (index : Nat) : Prop :=
  index = 0 ∨ kindBefore tokens index = some .comma

/-- When a list is refused for a cause at an index. That a token is unexpected has no condition of
its own, and the other causes are those of rules. -/
def RefusedFor (tokens : List Token) (index : Nat) : Cause → Prop
  | .missingComma =>
    (kindAt tokens index).any Kind.isLiteral = true ∧
      (kindBefore tokens index).any Kind.isLiteral = true
  | .badReference refusal =>
    ReferenceDue tokens index ∧ ∃ token, tokens[index]? = some token ∧ token.isLiteral = true ∧
      parse token.text = .error refusal
  | .missingReference =>
    ReferenceDue tokens index ∧ kindAt tokens index = some .endOfText ∨ index = tokens.length
  | .unexpectedToken | .emptyLevel | .missingOperand | .badHashTarget | .nestingTooDeep => False

theorem getElem?_append_length (ts rest : List Token) :
    (ts ++ rest)[ts.length]? = rest.head? := by
  rw [List.getElem?_append_right (Nat.le_refl _), Nat.sub_self, List.head?_eq_getElem?]

theorem Listed.exists_lastKind (h : Listed ts rs) :
    ∃ kind, lastKind ts = some kind ∧ kind.isLiteral = true := by
  cases h with
  | one ht => exact ⟨_, rfl, ht.isLiteral⟩
  | @more ts c t _ _ h hc ht => exact ⟨t.kind, lastKind_append rfl, ht.isLiteral⟩

theorem Begun.any_kindBefore (h : Begun ts rs due) (rest : List Token) :
    (kindBefore (ts ++ rest) ts.length).any Kind.isLiteral = !due := by
  rw [kindBefore_append]
  cases h with
  | start => rfl
  | listed h =>
    obtain ⟨kind, hk, hl⟩ := h.exists_lastKind
    rw [hk]
    exact hl
  | comma h hc => rw [lastKind_concat, hc]; rfl

theorem Begun.referenceDue_iff (h : Begun ts rs due) (rest : List Token) :
    ReferenceDue (ts ++ rest) ts.length ↔ due = true := by
  rw [ReferenceDue, kindBefore_append]
  cases h with
  | start => simp
  | listed h =>
    obtain ⟨kind, hk, hl⟩ := h.exists_lastKind
    have hne : ts.length ≠ 0 := by
      intro hnil
      rw [List.length_eq_zero_iff.1 hnil] at hk
      cases hk
    have hcomma : lastKind ts ≠ some .comma := by
      rw [hk]
      rintro ⟨⟩
      cases hl
    simp [hne, hcomma]
  | comma h hc => simp [lastKind_concat, hc]

theorem Begun.refusedFor (hb : Begun ts rs due) (h : Objects due rest.head? cause)
    (hc : cause ≠ .unexpectedToken) : RefusedFor (ts ++ rest) ts.length cause := by
  have hbefore := hb.any_kindBefore rest
  have hdue := hb.referenceDue_iff rest
  have hget := getElem?_append_length ts rest
  generalize hnext : rest.head? = next at h hget
  have hk : kindAt (ts ++ rest) ts.length = next.map kind := congrArg (Option.map kind) hget
  cases h with
  | ended =>
    rw [List.head?_eq_none_iff.1 hnext, List.append_nil]
    exact .inr rfl
  | endOfText he => exact .inl ⟨hdue.2 rfl, by rw [hk, Option.map_some, he]⟩
  | literal hl => exact ⟨by rw [hk]; exact hl, hbefore⟩
  | badReference hl hr => exact ⟨hdue.2 rfl, _, hget, hl, hr⟩
  | comma ht => exact absurd rfl hc
  | other hl ht he => exact absurd rfl hc

theorem Begun.objects (hb : Begun ts rs due) (h : RefusedFor (ts ++ rest) ts.length cause) :
    Objects due rest.head? cause := by
  have hbefore := hb.any_kindBefore rest
  have hdue := hb.referenceDue_iff rest
  have hget := getElem?_append_length ts rest
  cases cause with
  | missingComma =>
    obtain ⟨hk, hliteral⟩ := h
    rw [hliteral] at hbefore
    rw [kindAt, hget, Option.any_map, Option.any_eq_true] at hk
    obtain ⟨t, ht, hl⟩ := hk
    obtain rfl : due = false := by simpa using hbefore
    rw [ht]
    exact .literal hl
  | badReference refusal =>
    obtain ⟨hd, t, ht, hl, hr⟩ := h
    rw [← hget, ht, hdue.1 hd]
    exact .badReference hl hr
  | missingReference =>
    rcases h with ⟨hd, hk⟩ | hlength
    · rw [kindAt, hget] at hk
      obtain ⟨t, ht, he⟩ := Option.map_eq_some_iff.1 hk
      rw [ht, hdue.1 hd]
      exact .endOfText he
    · obtain rfl : rest = [] := by simpa using hlength
      exact .ended
  | unexpectedToken => exact h.elim
  | emptyLevel => exact h.elim
  | missingOperand => exact h.elim
  | badHashTarget => exact h.elim
  | nestingTooDeep => exact h.elim

/-- **A token sequence is read as a list** if and only if it is one, up to the first token that ends
the text. Otherwise it is refused at the first token with which it no longer begins a list, or
behind its last token if there is none such; what is found there gives the cause, and a token is
unexpected just where no other cause applies. -/
theorem listOf_listed_or_firstRefused (tokens : List Token) :
    (∀ references, listOf tokens = .ok references ↔
      ∃ body last rest, tokens = body ++ last :: rest ∧ last.kind = .endOfText ∧
        Listed body references) ∧
    ∀ refusal, listOf tokens = .error refusal →
      ∃ cause index, listSites tokens = .error (.raised cause ⟨index, 1⟩) ∧
        refusal = .raised cause (Site.anchor tokens ⟨index, 1⟩) ∧ FirstRefused tokens index ∧
        (∀ other, other ≠ .unexpectedToken → (cause = other ↔ RefusedFor tokens index other)) ∧
        (cause = .unexpectedToken ↔ ∀ other, ¬RefusedFor tokens index other) := by
  refine ⟨fun references => listOf_eq_ok_iff.trans listSites_eq_ok_iff, ?_⟩
  intro refusal h
  obtain ⟨failure, hs, rfl⟩ := exists_listSites_of_listOf h
  obtain ⟨ts, rest, rs, due, cause, rfl, hb, ho, rfl⟩ := exists_objects_of_listSites hs
  have hcause : ∀ other, other ≠ .unexpectedToken →
      (cause = other ↔ RefusedFor (ts ++ rest) ts.length other) := by
    intro other hother
    constructor
    · rintro rfl
      exact hb.refusedFor ho hother
    · intro hr
      exact ho.unique (hb.objects hr)
  refine ⟨cause, ts.length, hs, rfl, hb.firstRefused ho, hcause, ?_⟩
  constructor
  · rintro rfl other hr
    obtain rfl := ho.unique (hb.objects hr)
    exact hr
  · intro hnone
    by_cases hc : cause = .unexpectedToken
    · exact hc
    · exact absurd ((hcause cause hc).1 rfl) (hnone cause)

/-- A list, and behind it a literal that is no reference. -/
def listAndLiteral : List Token :=
  [literal "query.a", word .comma, literal "header.b", literal "nowhere", endToken]

/-- Behind the list a comma is missed first, and not the source of the literal. -/
theorem listOf_error_listAndLiteral :
    listOf listAndLiteral = .error (.raised .missingComma ⟨"nowhere", 16, 1⟩) ∧
      FirstRefused listAndLiteral 3 ∧ RefusedFor listAndLiteral 3 .missingComma ∧
      ¬RefusedFor listAndLiteral 3 (.badReference .missingDot) := by
  have hsites : listSites listAndLiteral = .error (.raised .missingComma ⟨3, 1⟩) := rfl
  have hlist : listOf listAndLiteral = .error (.raised .missingComma ⟨"nowhere", 16, 1⟩) := rfl
  obtain ⟨cause, index, hs, -, hfirst, hcause, -⟩ :=
    (listOf_listed_or_firstRefused listAndLiteral).2 _ hlist
  obtain ⟨rfl, rfl⟩ : cause = .missingComma ∧ index = 3 := by
    simpa using hs.symm.trans hsites
  refine ⟨hlist, hfirst, (hcause _ (by simp)).1 rfl, fun h => ?_⟩
  have hother := (hcause (.badReference .missingDot) (by simp)).2 h
  cases hother

end Reference

end TriggerRule
