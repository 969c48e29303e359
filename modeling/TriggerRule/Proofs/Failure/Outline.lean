import TriggerRule.Proofs.Failure.Position
import TriggerRule.Proofs.Token.Alike

/-!
# What the texts of the tokens do to a failure

Tokens that are alike are refused at the same site, but a failure shows the token at the site and a
position that depends on the texts before it. Its `outline` leaves both out. Nothing is left out
where the tokens differ only from the end of the text on: a failure is anchored no further than
there (`Failure.anchored_append_endOfText`). Main statements: `Failure.outline_eq_of_alike`, the
texts of tokens that are no literals change nothing but what a failure shows, and
`Token.read_up_to_endOfText`, the end of the text is where reading ends.
-/

namespace TriggerRule

open Token

/-! ## What a failure shows -/

namespace Failure

/-- A failure without the texts and the positions of its tokens: the causes, the groups and the
levels that its links are at. -/
def outline (failure : Failure Anchor) : Failure Nat := failure.map Anchor.depth

theorem outline_anchored (tokens : List Token) (failure : Failure Site) :
    (failure.anchored tokens).outline = failure.map Site.depth := map_map ..

theorem mapError_outline_anchored {α : Type} (tokens : List Token)
    (outcome : Except (Failure Site) α) :
    (outcome.mapError (anchored tokens)).mapError outline = outcome.mapError (map Site.depth) := by
  cases outcome with
  | ok a => rfl
  | error failure => exact congrArg Except.error (outline_anchored tokens failure)

/-- **Token sequences that differ in the marks of literals and in the texts of other tokens** are
read as the same rule and the same list, or are refused for the same cause, inside the same groups
and at the same levels: a failure can only show other texts and positions. -/
theorem outline_eq_of_alike {tokens others : List Token} (h : List.Forall₂ Alike tokens others) :
    (Rule.parse tokens).mapError outline = (Rule.parse others).mapError outline ∧
      (Reference.listOf tokens).mapError outline =
        (Reference.listOf others).mapError outline := by
  have hagree := agree_of_forall₂ h
  refine ⟨?_, ?_⟩
  · rw [Rule.parse, Rule.parse, mapError_outline_anchored, mapError_outline_anchored,
      Rule.parseSites_congr hagree]
  · rw [Reference.listOf, Reference.listOf, mapError_outline_anchored, mapError_outline_anchored,
      Reference.listSites_congr hagree]

/-- The hash over the query in other words: with the other mark around two of the literals, and
with other texts of all that is no literal. -/
def hashInOtherWords : List Token :=
  [⟨.openParen, "["⟩, ⟨.singleQuoted, "query.a"⟩, ⟨.equals, "is"⟩, ⟨.sha1, "SHA1"⟩,
    ⟨.openParen, ""⟩, ⟨.singleQuoted, "query.b"⟩, ⟨.comma, "and"⟩, literal "k",
    ⟨.closeParen, "()"⟩, ⟨.closeParen, "]"⟩, ⟨.endOfText, "end"⟩]

/-- The target is refused in both, and at the second level. -/
theorem outline_eq_of_alike_hashInOtherWords :
    List.Forall₂ Alike Rule.hashOfQuery hashInOtherWords ∧
      Rule.parse Rule.hashOfQuery =
        .error (.within .group ⟨"(", 0, 1⟩ (.raised .badHashTarget ⟨"query.b", 15, 2⟩)) ∧
      (Rule.parse hashInOtherWords).mapError outline =
        .error (.within .group 1 (.raised .badHashTarget 2)) ∧
      (Reference.listOf hashInOtherWords).mapError outline =
        .error (.raised .unexpectedToken 1) := by
  have halike : List.Forall₂ Alike Rule.hashOfQuery hashInOtherWords := by decide
  have hparse : Rule.parse Rule.hashOfQuery =
      .error (.within .group ⟨"(", 0, 1⟩ (.raised .badHashTarget ⟨"query.b", 15, 2⟩)) := by
    rw [Rule.parse_of_parseSites Rule.parseSites_hashOfQuery]
    rfl
  obtain ⟨hrule, hlist⟩ := outline_eq_of_alike halike
  rw [hparse] at hrule
  exact ⟨halike, hparse, hrule.symm, hlist.symm⟩

end Failure

/-! ## The end of the text -/

section EndOfText

variable {ending : Token} (he : ending.kind = .endOfText) {ts : List Token}

include he in
theorem Site.anchor_append_endOfText {site : Site} (hle : site.index ≤ ts.length)
    (rest : List Token) : site.anchor (ts ++ ending :: rest) = site.anchor (ts ++ [endToken]) := by
  have hposition : ∀ more, Site.position (ts ++ more) site.index = Site.position ts site.index := by
    intro more
    rw [position, List.take_append_of_le_length hle, position]
  have htoken : Site.token (ts ++ ending :: rest) site.index =
      Site.token (ts ++ [endToken]) site.index := by
    rcases Nat.lt_or_eq_of_le hle with hlt | heq
    · rw [token, token, List.getElem?_append_left hlt, List.getElem?_append_left hlt]
    · simp [heq, token, he, endToken]
  rw [anchor, anchor, htoken, hposition, hposition]

include he in
/-- A failure shows nothing of the token that ends the text, nor of what is behind it. -/
theorem Failure.anchored_append_endOfText {failure : Failure Site}
    (h : ∀ site ∈ failure.anchors, site.index < (ts ++ [endToken]).length) (rest : List Token) :
    failure.anchored (ts ++ ending :: rest) = failure.anchored (ts ++ [endToken]) := by
  apply map_congr
  intro site hs
  have hlt := h site hs
  rw [List.length_append, List.length_singleton] at hlt
  exact Site.anchor_append_endOfText he (Nat.le_of_lt_succ hlt) rest

include he in
theorem Failure.mapError_anchored_append_endOfText {α : Type}
    {outcome : Except (Failure Site) α}
    (h : ∀ failure, outcome = .error failure →
      ∀ site ∈ failure.anchors, site.index < (ts ++ [endToken]).length) (rest : List Token) :
    outcome.mapError (anchored (ts ++ ending :: rest)) =
      outcome.mapError (anchored (ts ++ [endToken])) := by
  cases outcome with
  | ok a => rfl
  | error failure =>
    exact congrArg Except.error (anchored_append_endOfText he (h failure rfl) rest)

include he in
theorem Rule.parse_append_endOfText (ts rest : List Token) :
    parse (ts ++ ending :: rest) = parse (ts ++ [endToken]) := by
  have hagree : Agree (ts ++ ending :: rest) (ts ++ [endToken]) := .append_left ts (.ended he rfl)
  rw [parse, parse, parseSites_congr hagree]
  apply Failure.mapError_anchored_append_endOfText he
  intro failure h
  exact index_lt_of_mem_anchors h ⟨endToken, by simp, rfl⟩

include he in
theorem Reference.listOf_append_endOfText (ts rest : List Token) :
    listOf (ts ++ ending :: rest) = listOf (ts ++ [endToken]) := by
  have hagree : Agree (ts ++ ending :: rest) (ts ++ [endToken]) := .append_left ts (.ended he rfl)
  rw [listOf, listOf, listSites_congr hagree]
  apply Failure.mapError_anchored_append_endOfText he
  intro failure h
  exact index_lt_of_listSites h

end EndOfText

theorem Rule.exists_parse_eq_error_of_endless {tokens : List Token}
    (h : ∀ t ∈ tokens, t.kind ≠ .endOfText) : ∃ refusal, parse tokens = .error refusal := by
  cases hp : parse tokens with
  | error refusal => exact ⟨refusal, rfl⟩
  | ok rule =>
    obtain ⟨body, ending, rest, rfl, hk, -⟩ :=
      exists_derives_of_parseWithin (parse_eq_ok_iff_parseWithin.1 hp)
    exact absurd hk (h ending (by simp))

theorem Reference.exists_listOf_eq_error_of_endless {tokens : List Token}
    (h : ∀ t ∈ tokens, t.kind ≠ .endOfText) : ∃ refusal, listOf tokens = .error refusal := by
  cases hl : listOf tokens with
  | error refusal => exact ⟨refusal, rfl⟩
  | ok references =>
    obtain ⟨body, ending, rest, rfl, hk, -⟩ := listSites_eq_ok_iff.1 (listOf_eq_ok_iff.1 hl)
    exact absurd hk (h ending (by simp))

/-- **Reading ends at the first token that ends the text**: neither its own text nor what is behind
it makes a difference, not even to what a failure shows. Without such a token nothing is read. -/
theorem Token.read_up_to_endOfText :
    (∀ (ts us vs : List Token) (t u : Token), t.kind = .endOfText → u.kind = .endOfText →
      Rule.parse (ts ++ [t] ++ us) = Rule.parse (ts ++ [u] ++ vs) ∧
        Reference.listOf (ts ++ [t] ++ us) = Reference.listOf (ts ++ [u] ++ vs)) ∧
    ∀ tokens : List Token, (∀ t ∈ tokens, t.kind ≠ .endOfText) →
      (∃ refusal, Rule.parse tokens = .error refusal) ∧
        ∃ refusal, Reference.listOf tokens = .error refusal := by
  refine ⟨?_, ?_⟩
  · intro ts us vs t u ht hu
    rw [← List.append_cons, ← List.append_cons]
    refine ⟨?_, ?_⟩
    · rw [Rule.parse_append_endOfText ht, Rule.parse_append_endOfText hu]
    · rw [Reference.listOf_append_endOfText ht, Reference.listOf_append_endOfText hu]
  · intro tokens h
    exact ⟨Rule.exists_parse_eq_error_of_endless h, Reference.exists_listOf_eq_error_of_endless h⟩

/-- A group that is never closed. -/
def Token.openGroup : List Token :=
  [word .openParen, literal "query.a", word .equals, literal "1"]

theorem Rule.parseSites_openGroup : parseSites (openGroup ++ [endToken]) =
    .error (.within .group ⟨0, 1⟩ (.raised .unexpectedToken ⟨4, 2⟩)) := by
  have hsplit : Phrase.split (openGroup ++ [endToken]) =
      ([.operand .group, .operand (.value "query.a" "1")], [endToken]) := by cbv
  rw [parseSites, parseWithin, hsplit]
  rfl

/-- A parenthesis behind the end of the text does not close the group, and without the end of the
text the group is refused as well. -/
theorem Token.read_up_to_endOfText_openGroup :
    Rule.parse (openGroup ++ [⟨.endOfText, "end"⟩] ++ [word .closeParen, endToken]) =
        .error (.within .group ⟨"(", 0, 1⟩ (.raised .unexpectedToken ⟨"<EOF>", 11, 2⟩)) ∧
      (∀ t ∈ openGroup, t.kind ≠ .endOfText) ∧
      ∃ refusal, Rule.parse openGroup = .error refusal := by
  have hparse : Rule.parse (openGroup ++ [endToken] ++ []) =
      .error (.within .group ⟨"(", 0, 1⟩ (.raised .unexpectedToken ⟨"<EOF>", 11, 2⟩)) := by
    rw [List.append_nil, Rule.parse_of_parseSites Rule.parseSites_openGroup]
    rfl
  have hendless : ∀ t ∈ openGroup, t.kind ≠ .endOfText := by decide
  obtain ⟨hcut, hnone⟩ := read_up_to_endOfText
  have hmore := (hcut openGroup [word .closeParen, endToken] [] ⟨.endOfText, "end"⟩ endToken rfl
    rfl).1
  exact ⟨hmore.trans hparse, hendless, (hnone openGroup hendless).1⟩

end TriggerRule
