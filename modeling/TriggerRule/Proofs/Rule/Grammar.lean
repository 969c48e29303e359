import TriggerRule.Proofs.Rule.Phrase
import TriggerRule.Rule

/-!
# The grammar of rules

A rule is runs joined by `||`, a run is operands joined by `&&`, and an operand is a match, or a
rule in parentheses with or without a `!` in front. `Derives openings tokens rule` says that the
tokens are written by this grammar with no more than `openings` parentheses of groups nested, and
that `rule` is the tree of the derivation. The grammar is stratified by that number: `Level Inner`
is a rule whose groups have the form `Inner`, and `Inside n` is what may stand in a group that
leaves room for `n` levels. What every production keeps (`Closed`) holds of all derivations
(`Closed.derives`).
-/

namespace TriggerRule

namespace Grammar

/-! ## Derivations -/

/-- Parts of a form, one after the other with an operator between each two. -/
inductive Joined (operator : Token.Kind) (Form : List Token → Rule → Prop) :
    List Token → List Rule → Prop
  | one {ts : List Token} {r : Rule} (h : Form ts r) : Joined operator Form ts [r]
  | more {ts us : List Token} {t : Token} {rs : List Rule} {r : Rule}
    (h : Joined operator Form ts rs) (ht : t.kind = operator) (hu : Form us r) :
    Joined operator Form (ts ++ t :: us) (rs ++ [r])

/-- The target of a hash is the payload: the bare word, or a reference into it. -/
def IsPayload (target : String) : Prop :=
  target = "payload" ∨ ∃ name, Reference.parse target = .ok ⟨.payload, name⟩

/-- An operand whose groups have a form. -/
inductive Operand (Inner : List Token → Rule → Prop) : List Token → Rule → Prop
  | value {ts : List Token} {parameter text : String} {reference : Reference}
    (h : Phrase.Written ts (.operand (.value parameter text)))
    (hp : Reference.parse parameter = .ok reference) :
    Operand Inner ts (.leaf ⟨reference, .value text⟩)
  | regex {ts : List Token} {parameter pattern : String} {reference : Reference}
    (h : Phrase.Written ts (.operand (.regex parameter pattern)))
    (hp : Reference.parse parameter = .ok reference) :
    Operand Inner ts (.leaf ⟨reference, .regex pattern⟩)
  | hash {ts : List Token} {parameter target secret : String} {reference : Reference}
    (h : Phrase.Written ts (.operand (.hash parameter target secret))) (ht : IsPayload target)
    (hp : Reference.parse parameter = .ok reference) :
    Operand Inner ts (.leaf ⟨reference, .sha1 secret⟩)
  | group {opening body closing : List Token} {r : Rule}
    (ho : Phrase.Written opening (.operand .group)) (h : Inner body r)
    (hc : Phrase.Written closing .close) : Operand Inner (opening ++ body ++ closing) r
  | negation {opening body closing : List Token} {r : Rule}
    (ho : Phrase.Written opening (.operand .negation)) (h : Inner body r)
    (hc : Phrase.Written closing .close) : Operand Inner (opening ++ body ++ closing) (.not r)

/-- Operands joined by `&&`; a single one is the run itself. -/
inductive Run (Inner : List Token → Rule → Prop) : List Token → Rule → Prop
  | single {ts : List Token} {r : Rule} (h : Joined .and (Operand Inner) ts [r]) : Run Inner ts r
  | all {ts : List Token} {rs : List Rule} (h : Joined .and (Operand Inner) ts rs)
    (hr : 2 ≤ rs.length) : Run Inner ts (.all rs)

/-- Runs joined by `||`; a single one is the rule itself. -/
inductive Level (Inner : List Token → Rule → Prop) : List Token → Rule → Prop
  | single {ts : List Token} {r : Rule} (h : Joined .or (Run Inner) ts [r]) : Level Inner ts r
  | any {ts : List Token} {rs : List Rule} (h : Joined .or (Run Inner) ts rs)
    (hr : 2 ≤ rs.length) : Level Inner ts (.any rs)

/-- What a group may hold that leaves room for a number of levels, its own included. -/
def Inside : Nat → List Token → Rule → Prop
  | 0 => fun _ _ => False
  | n + 1 => Level (Inside n)

/-- The tokens are a rule in which at most `openings` groups are open at once. -/
def Derives (openings : Nat) : List Token → Rule → Prop := Level (Inside openings)

/-! ## Joined parts -/

section Joined

variable {operator : Token.Kind} {Form Form' : List Token → Rule → Prop} {ts us : List Token}
  {rs : List Rule} {r : Rule}

theorem Joined.ne_nil (h : Joined operator Form ts rs) : rs ≠ [] := by
  cases h <;> simp

theorem Joined.imp (hform : ∀ ts r, Form ts r → Form' ts r) (h : Joined operator Form ts rs) :
    Joined operator Form' ts rs := by
  induction h with
  | one h => exact .one (hform _ _ h)
  | more h ht hu ih => exact .more ih ht (hform _ _ hu)

theorem Joined.of_single (h : Joined operator Form ts [r]) : Form ts r := by
  generalize hrs : [r] = rs at h
  cases h with
  | one h => exact List.singleton_inj.1 hrs ▸ h
  | more h ht hu =>
    have hlength := congrArg List.length hrs
    have hpos := List.length_pos_iff.2 h.ne_nil
    rw [List.length_singleton, List.length_append, List.length_singleton] at hlength
    omega

theorem Joined.cons {t : Token} (h : Form ts r) (ht : t.kind = operator)
    (hu : Joined operator Form us rs) : Joined operator Form (ts ++ t :: us) (r :: rs) := by
  induction hu with
  | one hu => exact .more (.one h) ht hu
  | @more us vs u rs s hu hk hv ih =>
    rw [← List.cons_append, ← List.append_assoc]
    exact .more ih hk hv

/-- Each part has tokens of its own among those of the whole. -/
theorem Joined.exists_of_mem (h : Joined operator Form ts rs) (hr : r ∈ rs) :
    ∃ us, us ⊆ ts ∧ Form us r := by
  induction h with
  | one h =>
    rw [List.mem_singleton.1 hr]
    exact ⟨_, fun _ ht => ht, h⟩
  | more h ht hu ih =>
    rcases List.mem_append.1 hr with hr | hr
    · obtain ⟨vs, hv, hform⟩ := ih hr
      exact ⟨vs, fun _ hm => List.mem_append_left _ (hv hm), hform⟩
    · rw [List.mem_singleton.1 hr]
      exact ⟨_, fun _ hm => List.mem_append_right _ (List.mem_cons_of_mem _ hm), hu⟩

theorem Joined.forall_tokens {P : Token → Prop} (hoperator : ∀ t : Token, t.kind = operator → P t)
    (hform : ∀ ts r, Form ts r → ∀ t ∈ ts, P t) (h : Joined operator Form ts rs) :
    ∀ t ∈ ts, P t := by
  induction h with
  | one h => exact hform _ _ h
  | more h ht hu ih =>
    intro t hmem
    rcases List.mem_append.1 hmem with hmem | hmem
    · exact ih t hmem
    · rcases List.mem_cons.1 hmem with rfl | hmem
      · exact hoperator t ht
      · exact hform _ _ hu t hmem

end Joined

/-! ## Levels -/

section Level

variable {Inner Inner' : List Token → Rule → Prop} {ts : List Token} {r : Rule}

theorem Operand.imp (hinner : ∀ ts r, Inner ts r → Inner' ts r) (h : Operand Inner ts r) :
    Operand Inner' ts r := by
  cases h with
  | value h hp => exact .value h hp
  | regex h hp => exact .regex h hp
  | hash h ht hp => exact .hash h ht hp
  | group ho h hc => exact .group ho (hinner _ _ h) hc
  | negation ho h hc => exact .negation ho (hinner _ _ h) hc

theorem Run.imp (hinner : ∀ ts r, Inner ts r → Inner' ts r) (h : Run Inner ts r) :
    Run Inner' ts r := by
  cases h with
  | single h => exact .single (h.imp fun _ _ => Operand.imp hinner)
  | all h hr => exact .all (h.imp fun _ _ => Operand.imp hinner) hr

theorem Level.imp (hinner : ∀ ts r, Inner ts r → Inner' ts r) (h : Level Inner ts r) :
    Level Inner' ts r := by
  cases h with
  | single h => exact .single (h.imp fun _ _ => Run.imp hinner)
  | any h hr => exact .any (h.imp fun _ _ => Run.imp hinner) hr

theorem Level.of_operand (h : Operand Inner ts r) : Level Inner ts r :=
  .single (.one (.single (.one h)))

/-- A property of tokens and the rule they derive that every production of the grammar keeps. -/
structure Closed (P : List Token → Rule → Prop) : Prop where
  operand : ∀ ts r, Operand P ts r → P ts r
  all : ∀ ts rs, Joined .and P ts rs → 2 ≤ rs.length → P ts (.all rs)
  any : ∀ ts rs, Joined .or P ts rs → 2 ≤ rs.length → P ts (.any rs)

section Closed

variable {P : List Token → Rule → Prop}

/-- What the productions keep holds of a level, if it holds in its groups. -/
theorem Closed.level (hP : Closed P) (hinner : ∀ ts r, Inner ts r → P ts r)
    (h : Level Inner ts r) : P ts r := by
  have hoperand : ∀ ts r, Operand Inner ts r → P ts r :=
    fun ts r h => hP.operand ts r (h.imp hinner)
  have hrun : ∀ ts r, Run Inner ts r → P ts r := by
    intro ts r h
    cases h with
    | single h => exact hoperand _ _ h.of_single
    | all h hr => exact hP.all _ _ (h.imp hoperand) hr
  cases h with
  | single h => exact hrun _ _ h.of_single
  | any h hr => exact hP.any _ _ (h.imp hrun) hr

theorem Closed.derives (hP : Closed P) {openings : Nat} (h : Derives openings ts r) :
    P ts r := by
  induction openings generalizing ts r with
  | zero => exact hP.level (fun _ _ h => h.elim) h
  | succ openings ih => exact hP.level (fun _ _ h => ih h) h

end Closed

/-- More room does no harm. -/
theorem Inside.mono {m n : Nat} (hmn : m ≤ n) (h : Inside m ts r) : Inside n ts r := by
  induction n generalizing m ts r with
  | zero =>
    obtain rfl : m = 0 := Nat.le_zero.1 hmn
    exact h
  | succ n ih =>
    cases m with
    | zero => exact h.elim
    | succ m =>
      refine Level.imp ?_ h
      intro us s hs
      exact ih (Nat.le_of_succ_le_succ hmn) hs

theorem Derives.mono {m n : Nat} (hmn : m ≤ n) (h : Derives m ts r) : Derives n ts r :=
  h.imp fun _ _ hr => hr.mono hmn

/-- No operand has a token that ends the text, unless a group has one. -/
theorem Operand.kind_ne_endOfText (hinner : ∀ ts r, Inner ts r → ∀ t ∈ ts, t.kind ≠ .endOfText)
    (h : Operand Inner ts r) : ∀ t ∈ ts, t.kind ≠ .endOfText := by
  have hgroup : ∀ {opening body closing : List Token} {start : Phrase.Operand} {r : Rule},
      Phrase.Written opening (.operand start) → Inner body r → Phrase.Written closing .close →
      ∀ t ∈ opening ++ body ++ closing, t.kind ≠ .endOfText := by
    intro opening body closing start r ho h hc t hmem
    rcases List.mem_append.1 hmem with hmem | hmem
    · rcases List.mem_append.1 hmem with hmem | hmem
      · exact ho.kind_ne_endOfText t hmem
      · exact hinner _ _ h t hmem
    · exact hc.kind_ne_endOfText t hmem
  cases h with
  | value h _ => exact h.kind_ne_endOfText
  | regex h _ => exact h.kind_ne_endOfText
  | hash h _ _ => exact h.kind_ne_endOfText
  | group ho h hc => exact hgroup ho h hc
  | negation ho h hc => exact hgroup ho h hc

theorem Derives.kind_ne_endOfText {openings : Nat} (h : Derives openings ts r) :
    ∀ t ∈ ts, t.kind ≠ .endOfText := by
  have hoperator : ∀ operator : Token.Kind, operator ≠ .endOfText →
      ∀ t : Token, t.kind = operator → t.kind ≠ .endOfText := by
    rintro _ hk t rfl
    exact hk
  have hclosed : Closed fun ts _ => ∀ t ∈ ts, t.kind ≠ .endOfText := by
    refine ⟨?_, ?_, ?_⟩
    · exact fun ts r h => h.kind_ne_endOfText fun _ _ h => h
    · exact fun ts rs h _ => h.forall_tokens (hoperator _ (by decide)) fun _ _ h => h
    · exact fun ts rs h _ => h.forall_tokens (hoperator _ (by decide)) fun _ _ h => h
  exact hclosed.derives h

end Level

end Grammar

end TriggerRule
