import TriggerRule.Compile
import TriggerRule.Proofs.Rule.Conservation

/-!
# Visiting the matches of a rule

A visitor may keep a state and may fail. To visit a rule is to visit the list of its matches, and
that either passes every match, handing the state on from each to the next (`Match.Passes`), or
stops at the first match that the visitor fails at, with the state it has then. What is behind that
match is not visited. The check of patterns is such a visit without a state, and fails for the
reason that the compiler gives for the first pattern it refuses. Main statement:
`visitLeaves_in_order`.
-/

namespace TriggerRule

namespace Match

/-! ## A visitor with a state -/

section

variable {σ ε : Type} {visit : Match → ExceptT ε (StateM σ) Unit}

/-- The visits succeed one after the other, and take the state of the visitor from the first to the
last. -/
inductive Passes (visit : Match → ExceptT ε (StateM σ) Unit) : List Match → σ → σ → Prop
  | nil (s : σ) : Passes visit [] s s
  | cons {m : Match} {ms : List Match} {s t u : σ} (hm : (visit m).run.run s = (.ok (), t))
    (h : Passes visit ms t u) : Passes visit (m :: ms) s u

theorem run_forM_cons_of_ok {m : Match} {s t : σ} (h : (visit m).run.run s = (.ok (), t))
    (ms : List Match) :
    (forM (m :: ms) visit : ExceptT ε (StateM σ) Unit).run.run s =
      (forM ms visit : ExceptT ε (StateM σ) Unit).run.run t := by
  rw [List.forM_cons, ExceptT.run_bind, StateT.run_bind, h]
  rfl

theorem run_forM_cons_of_error {m : Match} {s t : σ} {e : ε}
    (h : (visit m).run.run s = (.error e, t)) (ms : List Match) :
    (forM (m :: ms) visit : ExceptT ε (StateM σ) Unit).run.run s = (.error e, t) := by
  rw [List.forM_cons, ExceptT.run_bind, StateT.run_bind, h]
  rfl

/-- Matches are passed one after the other, or up to the first that the visitor fails at. -/
theorem run_forM_cases (ms : List Match) (s : σ) :
    (∃ t, Passes visit ms s t ∧
      (forM ms visit : ExceptT ε (StateM σ) Unit).run.run s = (.ok (), t)) ∨
    ∃ before refused after t e u, ms = before ++ refused :: after ∧ Passes visit before s t ∧
      (visit refused).run.run t = (.error e, u) ∧
      (forM ms visit : ExceptT ε (StateM σ) Unit).run.run s = (.error e, u) := by
  induction ms generalizing s with
  | nil => exact .inl ⟨s, .nil s, rfl⟩
  | cons m ms ih =>
    rcases hm : (visit m).run.run s with ⟨e | _, t⟩
    case error =>
      exact .inr ⟨[], m, ms, s, e, t, rfl, .nil s, hm, run_forM_cons_of_error hm ms⟩
    case ok =>
      rw [run_forM_cons_of_ok hm]
      rcases ih t with ⟨u, hp, hr⟩ | ⟨before, refused, after, u, e, v, rfl, hp, hv, hr⟩
      · exact .inl ⟨u, .cons hm hp, hr⟩
      · exact .inr ⟨m :: before, refused, after, u, e, v, rfl, .cons hm hp, hv, hr⟩

end

/-! ## A visitor without a state -/

section

variable {ε : Type} {check : Match → Except ε Unit}

theorem forM_eq_ok_iff {ms : List Match} :
    forM ms check = .ok () ↔ ∀ m ∈ ms, check m = .ok () := by
  induction ms with
  | nil => simp [pure, Except.pure]
  | cons m ms ih =>
    rw [List.forM_cons, List.forall_mem_cons, ← ih]
    cases check m <;> simp [bind, Except.bind]

/-- The first match that fails the check decides, whatever is behind it. -/
theorem forM_eq_error_iff {ms : List Match} {e : ε} :
    forM ms check = .error e ↔ ∃ before refused after, ms = before ++ refused :: after ∧
      (∀ m ∈ before, check m = .ok ()) ∧ check refused = .error e := by
  constructor
  · intro h
    induction ms with
    | nil => cases h
    | cons m ms ih =>
      rw [List.forM_cons] at h
      cases hm : check m with
      | error e' =>
        rw [hm] at h
        obtain rfl : e' = e := by simpa [bind, Except.bind] using h
        exact ⟨[], m, ms, rfl, by simp, hm⟩
      | ok =>
        rw [hm] at h
        obtain ⟨before, refused, after, rfl, hb, hr⟩ := ih h
        exact ⟨m :: before, refused, after, rfl, List.forall_mem_cons.2 ⟨hm, hb⟩, hr⟩
  · rintro ⟨before, refused, after, rfl, hb, hr⟩
    rw [List.forM_append, forM_eq_ok_iff.2 hb, List.forM_cons, hr]
    rfl

end

/-! ## Checking a pattern -/

variable {compile : String → Except String Unit} {condition : Match}

theorem checkPattern_eq_ok_iff : condition.checkPattern compile = .ok () ↔
    ∀ pattern, condition.test = .regex pattern → compile pattern = .ok () := by
  unfold checkPattern
  cases condition.test <;> simp [mapError_eq_ok_iff]

theorem checkPattern_eq_error_iff {error : CompileError} :
    condition.checkPattern compile = .error error ↔
      ∃ pattern reason, condition.test = .regex pattern ∧ compile pattern = .error reason ∧
        error = .pattern condition.parameter.render reason := by
  unfold checkPattern
  cases condition.test with
  | value text => simp
  | regex pattern =>
    rw [mapError_eq_error_iff]
    constructor
    · rintro ⟨reason, hreason, rfl⟩
      exact ⟨pattern, reason, rfl, hreason, rfl⟩
    · rintro ⟨_, reason, ⟨⟩, hreason, rfl⟩
      exact ⟨reason, hreason, rfl⟩
  | sha1 secret => simp

end Match

namespace Rule

variable {compile : String → Except String Unit} {rule : Rule}

theorem checkPatterns_eq_ok_iff : rule.checkPatterns compile = .ok () ↔
    ∀ m ∈ rule.leaves, ∀ pattern, m.test = .regex pattern → compile pattern = .ok () := by
  simp only [checkPatterns, visitLeaves_eq_forM, Match.forM_eq_ok_iff,
    Match.checkPattern_eq_ok_iff]

theorem checkPatterns_eq_error_iff {error : CompileError} :
    rule.checkPatterns compile = .error error ↔
      ∃ before refused after pattern reason, rule.leaves = before ++ refused :: after ∧
        refused.test = .regex pattern ∧ compile pattern = .error reason ∧
        (∀ m ∈ before, ∀ other, m.test = .regex other → compile other = .ok ()) ∧
        error = .pattern refused.parameter.render reason := by
  simp only [checkPatterns, visitLeaves_eq_forM, Match.forM_eq_error_iff,
    Match.checkPattern_eq_ok_iff, Match.checkPattern_eq_error_iff]
  constructor
  · rintro ⟨before, refused, after, hsplit, hb, pattern, reason, ht, hp, he⟩
    exact ⟨before, refused, after, pattern, reason, hsplit, ht, hp, hb, he⟩
  · rintro ⟨before, refused, after, pattern, reason, hsplit, ht, hp, hb, he⟩
    exact ⟨before, refused, after, hsplit, hb, pattern, reason, ht, hp, he⟩

theorem readCheckedWith_eq_ok_iff {text : String} : readCheckedWith compile text = .ok rule ↔
    read text = .ok rule ∧ rule.checkPatterns compile = .ok () := by
  unfold readCheckedWith
  cases read text with
  | error error => simp
  | ok other =>
    constructor
    · intro h
      cases hc : other.checkPatterns compile with
      | error error => simp [hc, Except.map] at h
      | ok =>
        obtain rfl : other = rule := by simpa [hc, Except.map] using h
        exact ⟨rfl, hc⟩
    · rintro ⟨⟨⟩, hc⟩
      simp [hc, Except.map]

/-- **A rule is visited match by match, from left to right, up to the first failure**, whatever the
visitor does to its state and wherever it fails. So the check of patterns, whatever compiles them,
passes if and only if every regular expression in the rule compiles, and otherwise names the
parameter of the first that does not, with the reason; and a rule is read with its patterns checked
if and only if it is read and passes the check. -/
theorem visitLeaves_in_order :
    (∀ (σ ε : Type) (visit : Match → ExceptT ε (StateM σ) Unit) (rule : Rule) (s : σ),
      rule.visitLeaves visit = forM rule.leaves visit ∧
      ((∃ t, Match.Passes visit rule.leaves s t ∧
          (rule.visitLeaves visit).run.run s = (.ok (), t)) ∨
        ∃ before refused after t e u, rule.leaves = before ++ refused :: after ∧
          Match.Passes visit before s t ∧ (visit refused).run.run t = (.error e, u) ∧
          (rule.visitLeaves visit).run.run s = (.error e, u))) ∧
    ∀ (compile : String → Except String Unit) (rule : Rule),
      (rule.checkPatterns compile = .ok () ↔
        ∀ m ∈ rule.leaves, ∀ pattern, m.test = .regex pattern → compile pattern = .ok ()) ∧
      (∀ error, rule.checkPatterns compile = .error error ↔
        ∃ before refused after pattern reason, rule.leaves = before ++ refused :: after ∧
          refused.test = .regex pattern ∧ compile pattern = .error reason ∧
          (∀ m ∈ before, ∀ other, m.test = .regex other → compile other = .ok ()) ∧
          error = .pattern refused.parameter.render reason) ∧
      ∀ text, readCheckedWith compile text = .ok rule ↔
        read text = .ok rule ∧ rule.checkPatterns compile = .ok () := by
  refine ⟨fun σ ε visit rule s => ?_, fun compile rule => ?_⟩
  · rw [visitLeaves_eq_forM]
    exact ⟨rfl, Match.run_forM_cases rule.leaves s⟩
  · exact ⟨checkPatterns_eq_ok_iff, fun _ => checkPatterns_eq_error_iff,
      fun _ => readCheckedWith_eq_ok_iff⟩

end Rule

end TriggerRule
