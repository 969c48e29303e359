import Mathlib.Algebra.Ring.Nat
import TriggerRule.Proofs.Rule.Rendering

/-!
# Every token is accounted for

A rule that is read holds all that was written. Its matches are the comparisons among the tokens in
their order, each with the literals beside it, and its negations, conjunctions and disjunctions take
as many operators as there are. Both are told from the tokens alone: `comparisons` lists what stands
beside `==` and `~=`, and `countKind` counts. Main statement: `parse_conserves`.
-/

namespace TriggerRule

/-! ## The matches in the order of visiting -/

namespace Rule

section Visiting

variable {m : Type → Type} [Monad m] [LawfulMonad m]

mutual

/-- Visiting a rule is visiting its matches one after the other. -/
theorem visitLeaves_eq_forM (visit : Match → m Unit) :
    ∀ rule : Rule, rule.visitLeaves visit = forM rule.leaves visit
  | leaf condition => by simp [visitLeaves, leaves]
  | all parts => visitLeavesList_eq_forM visit parts
  | any parts => visitLeavesList_eq_forM visit parts
  | not part => visitLeaves_eq_forM visit part

theorem visitLeavesList_eq_forM (visit : Match → m Unit) :
    ∀ parts : List Rule, visitLeavesList visit parts = forM (leavesList parts) visit
  | [] => rfl
  | part :: parts => by
    rw [visitLeavesList, leavesList, List.forM_append, visitLeaves_eq_forM visit part,
      visitLeavesList_eq_forM visit parts]

end

end Visiting

/-- Takes down a match behind those that have been seen. -/
def takeDown (condition : Match) : StateM (List Match) Unit := modify (· ++ [condition])

/-- The matches of a rule as a visitor sees them. -/
def visited (rule : Rule) : List Match := ((rule.visitLeaves takeDown).run []).2

theorem run_forM_takeDown (conditions seen : List Match) :
    ((forM conditions takeDown : StateM (List Match) Unit).run seen) =
      ((), seen ++ conditions) := by
  induction conditions generalizing seen with
  | nil => exact Prod.ext rfl (List.append_nil seen).symm
  | cons condition conditions ih =>
    have hrest := ih (seen ++ [condition])
    rw [List.append_assoc] at hrest
    rw [List.forM_cons]
    exact hrest

theorem visited_eq_leaves (rule : Rule) : rule.visited = rule.leaves := by
  rw [visited, visitLeaves_eq_forM, run_forM_takeDown]
  rfl

/-! ## The nodes of a rule -/

mutual

/-- The rule and all its parts, each before its own parts. -/
def nodes : Rule → List Rule
  | leaf condition => [leaf condition]
  | all parts => all parts :: nodesList parts
  | any parts => any parts :: nodesList parts
  | not part => not part :: part.nodes

def nodesList : List Rule → List Rule
  | [] => []
  | part :: parts => part.nodes ++ nodesList parts

end

/-- How many operators of a kind a node is written with: a negation one `!`, and a conjunction or a
disjunction one less than it has parts. -/
def operators (kind : Token.Kind) : Rule → Nat
  | leaf _ => 0
  | all parts => if kind = .and then parts.length - 1 else 0
  | any parts => if kind = .or then parts.length - 1 else 0
  | not _ => if kind = .not then 1 else 0

theorem leavesList_append (parts others : List Rule) :
    leavesList (parts ++ others) = leavesList parts ++ leavesList others := by
  induction parts with
  | nil => rfl
  | cons part parts ih => rw [List.cons_append, leavesList, leavesList, ih, List.append_assoc]

theorem nodesList_append (parts others : List Rule) :
    nodesList (parts ++ others) = nodesList parts ++ nodesList others := by
  induction parts with
  | nil => rfl
  | cons part parts ih => rw [List.cons_append, nodesList, nodesList, ih, List.append_assoc]

theorem leavesList_singleton (part : Rule) : leavesList [part] = part.leaves :=
  List.append_nil part.leaves

theorem nodesList_singleton (part : Rule) : nodesList [part] = part.nodes :=
  List.append_nil part.nodes

end Rule

/-- A match as it is written: the texts of its parameter and of what that is held against. -/
def Match.written (condition : Match) : Option String × Option Test :=
  (some condition.parameter.render, some condition.test)

namespace Token

variable {ts us : List Token} {entries others : List (Option String × Option Test)}

/-! ## The comparisons among tokens -/

/-- The text of a literal. -/
def literalText? : Option Token → Option String
  | some token => if token.isLiteral then some token.text else none
  | none => none

/-- What `==` holds a parameter against: the literal behind it, or the second in the call of a
hash. -/
def testOfEquals (rest : List Token) : Option Test :=
  if rest.head?.map kind = some .sha1 then (literalText? rest[4]?).map .sha1
  else (literalText? rest[0]?).map .value

/-- The comparisons among tokens from left to right, where another token may stand before them: of
each the literal before it, and what it holds that against. -/
def comparisons (previous : Option Token) : List Token → List (Option String × Option Test)
  | [] => []
  | token :: rest =>
    match token.kind with
    | .equals => (literalText? previous, testOfEquals rest) :: comparisons (some token) rest
    | .matchesRegex =>
      (literalText? previous, (literalText? rest[0]?).map .regex) :: comparisons (some token) rest
    | _ => comparisons (some token) rest

/-- The tokens have the comparisons, whatever stands before and behind them. -/
def Compares (ts : List Token) (entries : List (Option String × Option Test)) : Prop :=
  ∀ previous rest, ∃ last, comparisons previous (ts ++ rest) = entries ++ comparisons last rest

theorem Compares.append (h : Compares ts entries) (hu : Compares us others) :
    Compares (ts ++ us) (entries ++ others) := by
  intro previous rest
  obtain ⟨middle, hm⟩ := h previous (us ++ rest)
  obtain ⟨last, hl⟩ := hu middle rest
  refine ⟨last, ?_⟩
  rw [List.append_assoc, hm, hl, List.append_assoc]

theorem comparisons_cons_of_ne {t : Token} (he : t.kind ≠ .equals) (hm : t.kind ≠ .matchesRegex)
    (previous : Option Token) (rest : List Token) :
    comparisons previous (t :: rest) = comparisons (some t) rest := by
  rw [comparisons]
  split
  · next hk => exact absurd hk he
  · next hk => exact absurd hk hm
  · rfl

theorem comparisons_cons_of_isLiteral {t : Token} (h : t.isLiteral = true)
    (previous : Option Token) (rest : List Token) :
    comparisons previous (t :: rest) = comparisons (some t) rest :=
  comparisons_cons_of_ne (Phrase.kind_ne_of_isLiteral h rfl) (Phrase.kind_ne_of_isLiteral h rfl)
    previous rest

theorem compares_singleton {t : Token} (he : t.kind ≠ .equals) (hm : t.kind ≠ .matchesRegex) :
    Compares [t] [] :=
  fun previous rest => ⟨some t, comparisons_cons_of_ne he hm previous rest⟩

theorem Compares.comparisons_eq (h : Compares ts entries) (previous : Option Token) :
    comparisons previous ts = entries := by
  obtain ⟨last, hl⟩ := h previous []
  rw [List.append_nil, comparisons, List.append_nil] at hl
  exact hl

theorem compares_value {p e v : Token} (hp : p.isLiteral = true) (he : e.kind = .equals)
    (hv : v.isLiteral = true) :
    Compares [p, e, v] [(some p.text, some (.value v.text))] := by
  intro previous rest
  have hword : v.kind ≠ .sha1 := Phrase.kind_ne_of_isLiteral hv rfl
  refine ⟨some v, ?_⟩
  show comparisons previous (p :: e :: v :: rest) = _ :: comparisons (some v) rest
  rw [comparisons_cons_of_isLiteral hp, comparisons, he]
  simp only [comparisons_cons_of_isLiteral hv]
  simp [literalText?, testOfEquals, hp, hv, hword]

theorem compares_regex {p e v : Token} (hp : p.isLiteral = true) (he : e.kind = .matchesRegex)
    (hv : v.isLiteral = true) :
    Compares [p, e, v] [(some p.text, some (.regex v.text))] := by
  intro previous rest
  refine ⟨some v, ?_⟩
  show comparisons previous (p :: e :: v :: rest) = _ :: comparisons (some v) rest
  rw [comparisons_cons_of_isLiteral hp, comparisons, he]
  simp only [comparisons_cons_of_isLiteral hv]
  simp [literalText?, hp, hv]

theorem compares_hash {p e w o t c s r : Token} (hp : p.isLiteral = true) (he : e.kind = .equals)
    (hw : w.kind = .sha1) (ho : o.kind = .openParen) (ht : t.isLiteral = true)
    (hc : c.kind = .comma) (hs : s.isLiteral = true) (hr : r.kind = .closeParen) :
    Compares [p, e, w, o, t, c, s, r] [(some p.text, some (.sha1 s.text))] := by
  intro previous rest
  refine ⟨some r, ?_⟩
  show comparisons previous (p :: e :: w :: o :: t :: c :: s :: r :: rest) =
    _ :: comparisons (some r) rest
  rw [comparisons_cons_of_isLiteral hp, comparisons, he]
  simp only [comparisons_cons_of_ne (t := w) (by simp [hw]) (by simp [hw]),
    comparisons_cons_of_ne (t := o) (by simp [ho]) (by simp [ho]),
    comparisons_cons_of_isLiteral ht, comparisons_cons_of_ne (t := c) (by simp [hc]) (by simp [hc]),
    comparisons_cons_of_isLiteral hs, comparisons_cons_of_ne (t := r) (by simp [hr]) (by simp [hr])]
  simp [literalText?, testOfEquals, hp, hs, hw]

/-! ## Counting operators -/

/-- The kinds of the operators that combine rules. -/
def combining : List Kind := [.not, .and, .or]

theorem compares_combining {t : Token} (h : t.kind ∈ combining) : Compares [t] [] := by
  refine compares_singleton ?_ ?_
  · intro hk
    simp [hk, combining] at h
  · intro hk
    simp [hk, combining] at h

theorem countKind_eq_zero {kind : Kind} (hk : kind ∈ combining)
    (h : ∀ t ∈ ts, t.kind ∉ combining) : countKind kind ts = 0 := by
  rw [countKind, List.countP_eq_zero]
  intro t ht heq
  exact h t ht (of_decide_eq_true heq ▸ hk)

theorem kind_notMem_of_isLiteral {t : Token} (h : t.isLiteral = true) : t.kind ∉ combining := by
  rcases Phrase.isLiteral_iff.1 h with hk | hk <;> simp [hk, combining]

end Token

namespace Grammar

open Token

/-! ## Derivations conserve -/

/-- The tokens have the comparisons that the rule has as its matches, and the operators that its
nodes are written with. -/
structure Conserved (ts : List Token) (r : Rule) : Prop where
  compares : Compares ts (r.leaves.map Match.written)
  counts : ∀ kind ∈ combining, countKind kind ts = (r.nodes.map (Rule.operators kind)).sum

/-- The same of rules with an operator between each two. -/
structure ConservedList (operator : Kind) (ts : List Token) (rs : List Rule) : Prop where
  compares : Compares ts ((Rule.leavesList rs).map Match.written)
  counts : ∀ kind ∈ combining, countKind kind ts =
    ((Rule.nodesList rs).map (Rule.operators kind)).sum +
      if kind = operator then rs.length - 1 else 0

section Conserved

variable {Inner : List Token → Rule → Prop} {ts us : List Token} {r : Rule} {rs : List Rule}

theorem conserved_leaf {condition : Match} (hc : Compares ts [condition.written])
    (hk : ∀ t ∈ ts, t.kind ∉ combining) : Conserved ts (.leaf condition) := by
  refine ⟨hc, ?_⟩
  intro kind hkind
  rw [countKind_eq_zero hkind hk]
  rfl

theorem Conserved.enclosed {o c : Token} (ho : o.kind = .openParen) (h : Conserved ts r)
    (hc : c.kind = .closeParen) : Conserved ([o] ++ ts ++ [c]) r := by
  have hopen : Compares [o] [] := compares_singleton (by simp [ho]) (by simp [ho])
  have hclose : Compares [c] [] := compares_singleton (by simp [hc]) (by simp [hc])
  refine ⟨?_, ?_⟩
  · have hall := (hopen.append h.compares).append hclose
    rw [List.append_nil] at hall
    exact hall
  · intro kind hk
    have hzero : countKind kind [o] = 0 := countKind_eq_zero hk (by simp [ho, combining])
    have hzero' : countKind kind [c] = 0 := countKind_eq_zero hk (by simp [hc, combining])
    rw [countKind_append, countKind_append, hzero, hzero', h.counts kind hk]
    omega

theorem Conserved.not {n : Token} (hn : n.kind = .not) (h : Conserved ts r) :
    Conserved (n :: ts) (.not r) := by
  have hnot : Compares [n] [] := compares_combining (by simp [hn, combining])
  refine ⟨?_, ?_⟩
  · rw [Rule.leaves]
    exact hnot.append h.compares
  · intro kind hk
    rw [countKind_cons, h.counts kind hk, hn, Rule.nodes, List.map_cons, List.sum_cons,
      Rule.operators]
    simp only [eq_comm]

theorem Operand.conserved (hinner : ∀ ts r, Inner ts r → Conserved ts r)
    (h : Operand Inner ts r) : Conserved ts r := by
  have hplain : ∀ {t : Token} {kind : Kind}, t.kind = kind → kind ∉ combining →
      t.kind ∉ combining := by
    rintro t _ rfl hk
    exact hk
  cases h with
  | value h hp =>
    cases h with
    | value hl he hv =>
      refine conserved_leaf ?_ ?_
      · rw [Match.written, Reference.render_of_parse hp]
        exact compares_value hl he hv
      · simp [kind_notMem_of_isLiteral hl, kind_notMem_of_isLiteral hv, hplain he (by decide)]
  | regex h hp =>
    cases h with
    | regex hl he hv =>
      refine conserved_leaf ?_ ?_
      · rw [Match.written, Reference.render_of_parse hp]
        exact compares_regex hl he hv
      · simp [kind_notMem_of_isLiteral hl, kind_notMem_of_isLiteral hv, hplain he (by decide)]
  | hash h htarget hp =>
    cases h with
    | hash hl he hw ho ht hc hs hr =>
      refine conserved_leaf ?_ ?_
      · rw [Match.written, Reference.render_of_parse hp]
        exact compares_hash hl he hw ho ht hc hs hr
      · simp [kind_notMem_of_isLiteral hl, kind_notMem_of_isLiteral ht,
          kind_notMem_of_isLiteral hs, hplain he (by decide), hplain hw (by decide),
          hplain ho (by decide), hplain hc (by decide), hplain hr (by decide)]
  | group ho h hc =>
    cases ho with
    | group ho =>
      cases hc with
      | close hc => exact (hinner _ _ h).enclosed ho hc
  | negation ho h hc =>
    cases ho with
    | negation hn ho =>
      cases hc with
      | close hc => exact ((hinner _ _ h).enclosed ho hc).not hn

theorem Joined.conserved {operator : Kind} {Form : List Token → Rule → Prop}
    (ho : operator ∈ combining)
    (hform : ∀ ts r, Form ts r → Conserved ts r) (h : Joined operator Form ts rs) :
    ConservedList operator ts rs := by
  induction h with
  | @one ts r h =>
    obtain ⟨hcompares, hcounts⟩ := hform _ _ h
    refine ⟨?_, ?_⟩
    · rw [Rule.leavesList_singleton]
      exact hcompares
    · intro kind hk
      rw [Rule.nodesList_singleton, hcounts kind hk]
      simp
  | @more ts us t rs r h ht hu ih =>
    obtain ⟨hcompares, hcounts⟩ := hform _ _ hu
    have hoperator : Compares [t] [] := compares_combining (ht ▸ ho)
    refine ⟨?_, ?_⟩
    · rw [Rule.leavesList_append, Rule.leavesList_singleton, List.map_append, List.append_cons]
      have hall := (ih.compares.append hoperator).append hcompares
      rw [List.append_nil] at hall
      exact hall
    · intro kind hk
      have hlength : 0 < rs.length := List.length_pos_iff.2 h.ne_nil
      rw [Rule.nodesList_append, Rule.nodesList_singleton, List.map_append, List.sum_append,
        countKind_append, countKind_cons, ih.counts kind hk, hcounts kind hk, ht,
        List.length_append, List.length_singleton]
      by_cases hkind : kind = operator
      · rw [if_pos hkind, if_pos hkind, if_pos hkind.symm]
        omega
      · rw [if_neg hkind, if_neg hkind, if_neg (Ne.symm hkind)]
        omega

theorem ConservedList.rule {operator : Kind} {whole : Rule} (h : ConservedList operator ts rs)
    (hleaves : whole.leaves = Rule.leavesList rs)
    (hnodes : whole.nodes = whole :: Rule.nodesList rs)
    (hoperators : ∀ kind,
      Rule.operators kind whole = if kind = operator then rs.length - 1 else 0) :
    Conserved ts whole := by
  refine ⟨hleaves ▸ h.compares, ?_⟩
  intro kind hk
  rw [h.counts kind hk, hnodes, List.map_cons, List.sum_cons, hoperators, Nat.add_comm]

theorem Derives.conserved {openings : Nat} (h : Derives openings ts r) : Conserved ts r := by
  have hclosed : Closed Conserved := by
    refine ⟨?_, ?_, ?_⟩
    · exact fun ts r h => h.conserved fun _ _ h => h
    · intro ts rs h _
      exact (h.conserved (by decide) fun _ _ h => h).rule (by rw [Rule.leaves])
        (by rw [Rule.nodes]) fun kind => rfl
    · intro ts rs h _
      exact (h.conserved (by decide) fun _ _ h => h).rule (by rw [Rule.leaves])
        (by rw [Rule.nodes]) fun kind => rfl
  exact hclosed.derives h

end Conserved

end Grammar

namespace Rule

open Token Grammar

/-- **Nothing is lost** of tokens that are read as a rule, nothing comes twice, and nothing moves.
Up to the first token that ends the text, the comparisons from left to right are the matches in the
order in which they are visited, and the operators of each kind are as many as the nodes of the rule
are written with. -/
theorem parse_conserves {tokens : List Token} {rule : Rule} (h : parse tokens = .ok rule) :
    rule.visited.map Match.written =
        comparisons none (tokens.takeWhile fun token => token.kind ≠ .endOfText) ∧
      ∀ kind ∈ combining, (rule.nodes.map (operators kind)).sum =
        countKind kind (tokens.takeWhile fun token => token.kind ≠ .endOfText) := by
  obtain ⟨body, ending, rest, rfl, hkind, hd⟩ :=
    exists_derives_of_parseWithin (parse_eq_ok_iff_parseWithin.1 h)
  have hbody :
      (body ++ ending :: rest).takeWhile (fun token => token.kind ≠ .endOfText) = body := by
    rw [List.takeWhile_append_of_pos (by simpa using hd.kind_ne_endOfText)]
    simp [hkind]
  have hconserved := hd.conserved
  rw [hbody, visited_eq_leaves]
  exact ⟨(hconserved.compares.comparisons_eq none).symm,
    fun kind hk => (hconserved.counts kind hk).symm⟩

/-- Two matches after a negation of a third. -/
def negationAndMatches : List Token :=
  [word .not, word .openParen, literal "query.a", word .equals, literal "1", word .closeParen,
    word .or, literal "query.b", word .matchesRegex, literal "x", word .and, literal "query.c",
    word .equals, word .sha1, word .openParen, literal "payload", word .comma, literal "k",
    word .closeParen, endToken]

theorem parse_negationAndMatches : parse negationAndMatches = .ok (.any
    [.not (.leaf ⟨⟨.query, "a"⟩, .value "1"⟩),
      .all [.leaf ⟨⟨.query, "b"⟩, .regex "x"⟩, .leaf ⟨⟨.query, "c"⟩, .sha1 "k"⟩]]) := by
  have hsplit : Phrase.split negationAndMatches =
      ([.operand .negation, .operand (.value "query.a" "1"), .close, .or,
        .operand (.regex "query.b" "x"), .and, .operand (.hash "query.c" "payload" "k")],
        [endToken]) := by cbv
  rw [parse, parseSites, parseWithin, hsplit]
  rfl

/-- The tokens of the sample have one operator of each kind, and the comparisons of its matches. -/
theorem parse_conserves_negationAndMatches :
    parse negationAndMatches = .ok (.any
      [.not (.leaf ⟨⟨.query, "a"⟩, .value "1"⟩),
        .all [.leaf ⟨⟨.query, "b"⟩, .regex "x"⟩, .leaf ⟨⟨.query, "c"⟩, .sha1 "k"⟩]]) ∧
      comparisons none (negationAndMatches.takeWhile fun token => token.kind ≠ .endOfText) =
        [(some "query.a", some (.value "1")), (some "query.b", some (.regex "x")),
          (some "query.c", some (.sha1 "k"))] ∧
      countKind .and (negationAndMatches.takeWhile fun token => token.kind ≠ .endOfText) = 1 := by
  obtain ⟨hcomparisons, hcounts⟩ := parse_conserves parse_negationAndMatches
  refine ⟨parse_negationAndMatches, ?_, ?_⟩
  · rw [← hcomparisons, visited_eq_leaves]
    rfl
  · rw [← hcounts .and (by decide)]
    rfl

end Rule

end TriggerRule
