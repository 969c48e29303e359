import TriggerRule.Proofs.Rule.Limit

/-!
# Rules put together from texts

A text that is read as a rule may stand in parentheses as an operand, whatever else it is put
together with: the scanner finds the tokens of each text between those of the pieces around it
(`Pieced.laid`), and in the grammar they are what a group holds (`Part.Fits.exists_operand`).
Joining such operands by `&&` and the rows by `||` is done once for both operators
(`exists_joined_pieced`). Main statement: `read_of_spaced`.
-/

namespace TriggerRule

open Token Grammar

/-! ## Pieces of a text -/

/-- The pieces one after the other, with blanks anywhere around them. -/
inductive Spaced : List String → List Char → Prop
  | nil {ws : List Char} (hw : Text.AllBlank ws) : Spaced [] ws
  | cons {piece : String} {pieces : List String} {ws rest : List Char} (hw : Text.AllBlank ws)
    (h : Spaced pieces rest) : Spaced (piece :: pieces) (ws ++ piece.toList ++ rest)

/-- The tokens are those of the pieces, one piece after the other. -/
inductive Pieced : List Token → List String → Prop
  | nil : Pieced [] []
  | cons {ts us : List Token} {piece : String} {pieces : List String} (hl : Laid ts piece.toList)
    (h : Pieced us pieces) : Pieced (ts ++ us) (piece :: pieces)

section Pieces

variable {ts us : List Token} {pieces others : List String} {piece : String}

/-- Blanks between the pieces change nothing of their tokens. -/
theorem Pieced.laid {cs : List Char} (h : Pieced ts pieces) (hs : Spaced pieces cs) :
    Laid ts cs := by
  induction h generalizing cs with
  | nil =>
    cases hs with
    | nil hw => exact .blanks hw
  | cons hl h ih =>
    cases hs with
    | cons hw hs => exact (hl.append_blanks hw).append (ih hs)

theorem Pieced.append (h : Pieced ts pieces) (hu : Pieced us others) :
    Pieced (ts ++ us) (pieces ++ others) := by
  induction h with
  | nil => exact hu
  | cons hl h ih =>
    rw [List.append_assoc]
    exact .cons hl ih

theorem pieced_singleton (h : Laid ts piece.toList) : Pieced ts [piece] := by
  have hp := Pieced.cons h .nil
  rwa [List.append_nil] at hp

theorem pieced_word (kind : Kind) (h : kind.spelling ≠ []) :
    Pieced [word kind] [String.ofList kind.spelling] := by
  apply pieced_singleton
  rw [String.toList_ofList]
  exact laid_word h

theorem Spaced.append_blanks {ws cs : List Char} (hw : Text.AllBlank ws) (h : Spaced pieces cs) :
    Spaced pieces (ws ++ cs) := by
  cases h with
  | nil hv => exact .nil (hw.append hv)
  | cons hv h =>
    rw [← List.append_assoc, ← List.append_assoc]
    exact .cons (hw.append hv) h

/-- The pieces with the same blanks between each two. -/
theorem spaced_intercalate {blanks : String} (hw : Text.AllBlank blanks.toList)
    (pieces : List String) : Spaced pieces (blanks.intercalate pieces).toList := by
  induction pieces with
  | nil => exact .nil Text.allBlank_nil
  | cons piece pieces ih =>
    cases pieces with
    | nil =>
      have hs : Spaced [piece] ([] ++ piece.toList ++ []) :=
        .cons Text.allBlank_nil (.nil Text.allBlank_nil)
      simpa using hs
    | cons next pieces =>
      rw [String.intercalate_cons_cons, String.toList_append, String.toList_append,
        List.append_assoc]
      exact Spaced.cons Text.allBlank_nil (ih.append_blanks hw)

end Pieces

/-! ## Parts -/

/-- A text in parentheses, with or without a `!` in front, and the rule that the text stands for. -/
structure Part where
  enclosure : Enclosure
  text : String
  rule : Rule

namespace Part

/-- What the part stands for as an operand. -/
def operand (part : Part) : Rule := part.enclosure.apply part.rule

def pieces (part : Part) : List String :=
  match part.enclosure with
  | .group => ["(", part.text, ")"]
  | .negation => ["!", "(", part.text, ")"]

/-- The text of the part is read as its rule and leaves room for one more parenthesis. -/
structure Fits (part : Part) : Prop where
  reads : Rule.read part.text = .ok part.rule
  opensWithin : ∀ tokens, ofText part.text = .ok tokens → OpensWithin 126 tokens

end Part

theorem Part.Fits.exists_operand {part : Part} (h : part.Fits) :
    ∃ ts, Pieced ts part.pieces ∧ Operand (Inside 127) ts part.operand := by
  obtain ⟨enclosure, text, rule⟩ := part
  obtain ⟨body, hl, hd⟩ := Rule.exists_derives_of_opensWithin (by decide) h.reads h.opensWithin
  have hopen : Pieced [word .openParen] ["("] := pieced_word .openParen (by decide)
  have hclose : Pieced [word .closeParen] [")"] := pieced_word .closeParen (by decide)
  have hnot : Pieced [word .not] ["!"] := pieced_word .not (by decide)
  have hbody := pieced_singleton hl
  have hinside : Inside 127 body rule := hd
  cases enclosure with
  | group => exact ⟨_, (hopen.append hbody).append hclose, Rule.operand_enclosed hinside⟩
  | negation =>
    exact ⟨_, hnot.append ((hopen.append hbody).append hclose), Rule.operand_negation hinside⟩

/-! ## Joining -/

/-- What has tokens for each of its parts has tokens when they are joined by an operator. -/
theorem exists_joined_pieced {α : Type} {kind : Kind} {operator : String}
    {Form : List Token → Rule → Prop} {pieces : α → List String} {rule : α → Rule} {parts : List α}
    (ho : Pieced [word kind] [operator]) (hne : parts ≠ [])
    (h : ∀ part ∈ parts, ∃ ts, Pieced ts (pieces part) ∧ Form ts (rule part)) :
    ∃ ts, Pieced ts ([operator].intercalate (parts.map pieces)) ∧
      Joined kind Form ts (parts.map rule) := by
  induction parts with
  | nil => exact absurd rfl hne
  | cons part parts ih =>
    obtain ⟨ts, hts, hform⟩ := h part (List.mem_cons_self ..)
    cases parts with
    | nil =>
      refine ⟨ts, ?_, .one hform⟩
      simpa using hts
    | cons next parts =>
      obtain ⟨us, hus, hjoined⟩ := ih (List.cons_ne_nil _ _) fun p hp =>
        h p (List.mem_cons_of_mem _ hp)
      refine ⟨ts ++ word kind :: us, ?_, hjoined.cons hform rfl⟩
      have hpieces := hts.append (ho.append hus)
      simpa using hpieces

namespace Rule

/-- The pieces of parts that are joined by `&&` to rows, and the rows by `||`. -/
def pieces (rows : List (List Part)) : List String :=
  ["||"].intercalate (rows.map fun row => ["&&"].intercalate (row.map Part.pieces))

/-- **Texts compose.** Texts that are read as rules stand for these rules when each is put in
parentheses, with or without a `!` in front, and they are joined by `&&` to rows and the rows by
`||`, whatever blanks stand between the pieces. The parentheses of each text have to leave room for
one more around them. -/
theorem read_of_spaced {rows : List (List Part)} {text : String} (hrows : rows ≠ [])
    (hrow : ∀ row ∈ rows, row ≠ []) (hparts : ∀ row ∈ rows, ∀ part ∈ row, part.Fits)
    (htext : Spaced (pieces rows) text.toList) :
    read text = .ok (disjunction (rows.map fun row => conjunction (row.map Part.operand))) := by
  have hand : Pieced [word .and] ["&&"] := pieced_word .and (by decide)
  have hor : Pieced [word .or] ["||"] := pieced_word .or (by decide)
  have hruns : ∀ row ∈ rows, ∃ ts, Pieced ts (["&&"].intercalate (row.map Part.pieces)) ∧
      Run (Inside 127) ts (conjunction (row.map Part.operand)) := by
    intro row hr
    obtain ⟨ts, hts, hjoined⟩ := exists_joined_pieced hand (hrow row hr) fun part hp =>
      (hparts row hr part hp).exists_operand
    exact ⟨ts, hts, run_conjunction hjoined⟩
  obtain ⟨ts, hts, hjoined⟩ := exists_joined_pieced hor hrows hruns
  exact read_eq_ok_iff_derives.2 ⟨ts, hts.laid htext, level_disjunction hjoined⟩

/-- A match that stands alone as a text. -/
def matchText : String := "\"query.a\" == \"1\""

/-- The match in parentheses. -/
def matchPart (enclosure : Enclosure) : Part :=
  ⟨enclosure, matchText, .leaf ⟨⟨.query, "a"⟩, .value "1"⟩⟩

theorem fits_matchPart (enclosure : Enclosure) : (matchPart enclosure).Fits := by
  have htext : ofText matchText =
      .ok [literal "query.a", word .equals, literal "1", endToken] := by cbv
  have hsplit : Phrase.split [literal "query.a", word .equals, literal "1", endToken] =
      ([.operand (.value "query.a" "1")], [endToken]) := by cbv
  refine ⟨?_, ?_⟩
  · refine read_eq_ok_iff_exists.2 ⟨_, htext, ?_⟩
    rw [parse_eq_ok_iff_parseWithin, parseWithin, hsplit]
    rfl
  · intro tokens ht
    obtain rfl := Except.ok.inj (htext.symm.trans ht)
    exact opensWithin_of_countKind_le (by decide)

/-- The match and its negation, or the match. -/
theorem read_of_spaced_matchPart :
    Spaced (pieces [[matchPart .group, matchPart .negation], [matchPart .group]])
        ("( \"query.a\" == \"1\" ) && ! ( \"query.a\" == \"1\" ) || " ++
          "( \"query.a\" == \"1\" )").toList ∧
      read ("( \"query.a\" == \"1\" ) && ! ( \"query.a\" == \"1\" ) || " ++
          "( \"query.a\" == \"1\" )") =
        .ok (.any [.all [(matchPart .group).rule, .not (matchPart .group).rule],
          (matchPart .group).rule]) := by
  have hblank : Text.AllBlank " ".toList := List.all_eq_true.1 rfl
  have hspaced := spaced_intercalate hblank
    (pieces [[matchPart .group, matchPart .negation], [matchPart .group]])
  refine ⟨hspaced, ?_⟩
  refine read_of_spaced (by simp) (by simp) ?_ hspaced
  intro row hr part hp
  have hpart : part = matchPart .group ∨ part = matchPart .negation := by
    simp only [List.mem_cons, List.not_mem_nil, or_false] at hr
    rcases hr with rfl | rfl
    · simpa using hp
    · exact .inl (List.mem_singleton.1 hp)
  rcases hpart with rfl | rfl
  · exact fits_matchPart _
  · exact fits_matchPart _

end Rule

end TriggerRule
