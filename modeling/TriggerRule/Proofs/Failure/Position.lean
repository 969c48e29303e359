import TriggerRule.Proofs.Reference.Listing
import TriggerRule.Proofs.Rule.Wrapping

/-!
# The position that a failure shows

A failure shows where a token stands by the number of characters in the texts of the tokens before
it. What separates the tokens is not among these characters, nor are the marks around a literal and
the backslashes in it. A `Layout` tells where the tokens of a text really stand, and a text has only
one (`Layout.unique`). The difference comes down to the spelling of one token (`length_spelling`).
Main statement: `locates_of_ofText`.
-/

namespace TriggerRule

theorem QuoteMark.length_protect (mark : QuoteMark) (text : List Char) :
    (mark.protect text).length = text.length + text.count mark.char := by
  induction text with
  | nil => rfl
  | cons c cs ih =>
    by_cases hc : c = mark.char
    · rw [hc, protect_char, List.length_cons, List.length_cons, ih, List.length_cons,
        List.count_cons_self]
      omega
    · rw [protect_cons hc, List.length_cons, ih, List.length_cons, List.count_cons_of_ne hc]
      omega

theorem QuoteMark.length_enclose (mark : QuoteMark) (text : String) :
    (mark.enclose text).length = text.length + 2 + text.toList.count mark.char := by
  rw [enclose, String.length_ofList, List.length_append, List.length_cons, List.length_singleton,
    length_protect, String.length_toList]
  omega

namespace Token

/-! ## The characters of a token -/

/-- The characters that a token is written with. -/
def spelling (token : Token) : List Char :=
  match token.kind with
  | .singleQuoted => (QuoteMark.single.enclose token.text).toList
  | .doubleQuoted => (QuoteMark.double.enclose token.text).toList
  | _ => token.text.toList

/-- How often the mark of a literal occurs in its text. There a backslash is written before it. -/
def escapes (token : Token) : Nat :=
  match token.kind with
  | .singleQuoted => token.text.toList.count QuoteMark.single.char
  | .doubleQuoted => token.text.toList.count QuoteMark.double.char
  | _ => 0

def escapesIn : List Token → Nat
  | [] => 0
  | token :: tokens => token.escapes + escapesIn tokens

/-- How many of the tokens are literals. -/
def literalsIn (tokens : List Token) : Nat := tokens.countP isLiteral

theorem literalsIn_cons (token : Token) (tokens : List Token) :
    literalsIn (token :: tokens) = (if token.isLiteral then 1 else 0) + literalsIn tokens := by
  rw [literalsIn, List.countP_cons, Nat.add_comm]
  rfl

theorem spelling_of_not_isLiteral {token : Token} (h : token.isLiteral = false) :
    token.spelling = token.text.toList := by
  unfold spelling
  split
  · next hk => simp [isLiteral, hk, Kind.isLiteral] at h
  · next hk => simp [isLiteral, hk, Kind.isLiteral] at h
  · rfl

theorem Spelled.eq_spelling {token : Token} {cs : List Char} (h : Spelled token cs) :
    cs = token.spelling := by
  cases h with
  | @fixed kind text h =>
    have hfixed : ∀ entry ∈ fixedSpellings, entry.1.isLiteral = false := by decide
    have hl : isLiteral ⟨kind, text⟩ = false := hfixed _ h
    exact (spelling_of_not_isLiteral hl).symm
  | sha1 h => exact String.toList_ofList.symm
  | literal mark h => cases mark <;> simp [spelling, QuoteMark.literalKind, QuoteMark.enclose]

/-- A token is written with the characters of its text, and a literal with two marks and a backslash
for each mark in its text besides. -/
theorem length_spelling (token : Token) : token.spelling.length =
    token.text.length + 2 * (if token.isLiteral then 1 else 0) + token.escapes := by
  obtain ⟨kind, text⟩ := token
  cases kind <;> simp [spelling, escapes, isLiteral, Kind.isLiteral, String.length_toList,
    QuoteMark.length_enclose]

/-! ## Layouts -/

/-- A token in a text, and the blanks before it. -/
@[ext] structure Slot where
  blanks : List Char
  token : Token
  allBlank : Text.AllBlank blanks
  spelled : Spelled token token.spelling

def Slot.chars (slot : Slot) : List Char := slot.blanks ++ slot.token.spelling

/-- The tokens as they stand in the characters, which hold nothing else but blanks. -/
@[ext] structure Layout (tokens : List Token) (cs : List Char) where
  slots : List Slot
  /-- The blanks behind the last token. -/
  trailing : List Char
  allBlank : Text.AllBlank trailing
  map_token : slots.map Slot.token = tokens
  flatMap_chars : slots.flatMap Slot.chars ++ trailing = cs

theorem Laid.nonempty_layout {tokens : List Token} {cs : List Char} (h : Laid tokens cs) :
    Nonempty (Layout tokens cs) := by
  induction h with
  | blanks hw => exact ⟨[], _, hw, rfl, rfl⟩
  | @token token tokens ws cs rest hw hs h ih =>
    obtain ⟨layout⟩ := ih
    obtain rfl := hs.eq_spelling
    refine ⟨⟨ws, token, hw, hs⟩ :: layout.slots, layout.trailing, layout.allBlank, ?_, ?_⟩
    · rw [List.map_cons, layout.map_token]
    · rw [List.flatMap_cons, List.append_assoc, layout.flatMap_chars]
      rfl

/-- Characters in slots are blanks, the texts of the tokens, and what their spellings add. -/
theorem length_flatMap_chars (slots : List Slot) :
    (slots.flatMap Slot.chars).length = (slots.flatMap Slot.blanks).length +
      textLength (slots.map Slot.token) + 2 * literalsIn (slots.map Slot.token) +
      escapesIn (slots.map Slot.token) := by
  induction slots with
  | nil => rfl
  | cons slot slots ih =>
    simp only [List.flatMap_cons, List.map_cons, List.length_append, Slot.chars, ih, textLength,
      literalsIn_cons, escapesIn, length_spelling]
    omega

/-! ## One layout -/

/-- Blanks end where something else comes. -/
theorem eq_of_append_blanks {ws vs cs ds : List Char} (hw : Text.AllBlank ws)
    (hv : Text.AllBlank vs) (hc : cs.head?.any Text.isBlank = false)
    (hd : ds.head?.any Text.isBlank = false) (h : ws ++ cs = vs ++ ds) : ws = vs ∧ cs = ds := by
  -- the blanks are all that can be taken before something else comes
  have htake : ∀ {ws cs : List Char}, Text.AllBlank ws → cs.head?.any Text.isBlank = false →
      (ws ++ cs).takeWhile Text.isBlank = ws := by
    intro ws cs hblank hc
    rw [List.takeWhile_append_of_pos hblank]
    cases cs with
    | nil => simp
    | cons c cs => rw [List.takeWhile_cons_of_neg (by simpa using hc), List.append_nil]
  have hws : ws = vs := by rw [← htake hw hc, h, htake hv hd]
  subst hws
  exact ⟨rfl, List.append_cancel_left h⟩

theorem Slot.any_head?_append (slot : Slot) (rest : List Char) :
    (slot.token.spelling ++ rest).head?.any Text.isBlank = false := by
  obtain ⟨c, cs, hc, hblank⟩ := slot.spelled.exists_head
  rw [hc]
  exact hblank

theorem eq_of_flatMap_chars {slots others : List Slot} {ws vs : List Char}
    (ht : slots.map Slot.token = others.map Slot.token)
    (h : slots.flatMap Slot.chars ++ ws = others.flatMap Slot.chars ++ vs) :
    slots = others ∧ ws = vs := by
  induction slots generalizing others with
  | nil =>
    obtain rfl := List.map_eq_nil_iff.1 ht.symm
    exact ⟨rfl, h⟩
  | cons slot slots ih =>
    obtain ⟨other, others, rfl, hother, hothers⟩ := List.map_eq_cons_iff.1 ht.symm
    -- a spelling starts with no blank, and that of the token is the same in both slots
    simp only [List.flatMap_cons, Slot.chars, List.append_assoc] at h
    obtain ⟨hblanks, hrest⟩ := eq_of_append_blanks slot.allBlank other.allBlank
      (slot.any_head?_append _) (other.any_head?_append _) h
    rw [hother] at hrest
    obtain ⟨rfl, rfl⟩ := ih hothers.symm (List.append_cancel_left hrest)
    exact ⟨congrArg (· :: slots) (Slot.ext hblanks hother.symm), rfl⟩

/-- A text shows how its tokens are laid out in it. -/
theorem Layout.unique {tokens : List Token} {cs : List Char} (layout other : Layout tokens cs) :
    other = layout := by
  obtain ⟨hslots, htrailing⟩ := eq_of_flatMap_chars
    (other.map_token.trans layout.map_token.symm)
    (other.flatMap_chars.trans layout.flatMap_chars.symm)
  exact Layout.ext hslots htrailing

/-! ## Where a token stands -/

/-- The token is written in the characters from the offset on. The end of the text stands behind the
last of them. -/
inductive StandsAt (cs : List Char) : Nat → Token → Prop
  | written {before after : List Char} {token : Token} (h : Spelled token token.spelling)
    (hcs : before ++ token.spelling ++ after = cs) : StandsAt cs before.length token
  | endOfText : StandsAt cs cs.length endToken

namespace Layout

variable {body : List Token} {cs : List Char} (layout : Layout body cs) (index : Nat)

/-- The blanks right before the token at an index, or before the end of the text. -/
def gap : List Char :=
  match layout.slots[index]? with
  | some slot => slot.blanks
  | none => layout.trailing

/-- The number of characters before the token at an index, or before the end of the text. -/
def start : Nat := ((layout.slots.take index).flatMap Slot.chars ++ layout.gap index).length

/-- The number of blanks before the token at an index, or before the end of the text. -/
def blanksBefore : Nat :=
  ((layout.slots.take index).flatMap Slot.blanks ++ layout.gap index).length

variable {index}

theorem length_slots : layout.slots.length = body.length := by
  simpa using congrArg List.length layout.map_token

theorem map_token_take : (layout.slots.take index).map Slot.token = body.take index := by
  rw [List.map_take, layout.map_token]

theorem chars_of_slot {slot : Slot} (h : layout.slots[index]? = some slot) :
    (layout.slots.take index).flatMap Slot.chars ++ layout.gap index ++ slot.token.spelling ++
      ((layout.slots.drop (index + 1)).flatMap Slot.chars ++ layout.trailing) = cs := by
  have hslots : layout.slots.take index ++ slot :: layout.slots.drop (index + 1) =
      layout.slots := by
    obtain ⟨hlt, rfl⟩ := List.getElem?_eq_some_iff.1 h
    rw [← List.drop_eq_getElem_cons hlt, List.take_append_drop]
  calc _ = (layout.slots.take index ++ slot :: layout.slots.drop (index + 1)).flatMap Slot.chars ++
        layout.trailing := by simp [gap, h, Slot.chars]
    _ = layout.slots.flatMap Slot.chars ++ layout.trailing := by rw [hslots]
    _ = cs := layout.flatMap_chars

theorem chars_of_length : (layout.slots.take body.length).flatMap Slot.chars ++
    layout.gap body.length = cs := by
  have hgap : layout.gap layout.slots.length = layout.trailing := by simp [gap]
  rw [← layout.length_slots, List.take_length, hgap, layout.flatMap_chars]

/-- The token at an index stands where it starts. -/
theorem standsAt (h : index ≤ body.length) :
    ∃ token, (body ++ [endToken])[index]? = some token ∧
      StandsAt cs (layout.start index) token := by
  rcases Nat.lt_or_eq_of_le h with hlt | rfl
  · obtain ⟨slot, hs⟩ : ∃ slot, layout.slots[index]? = some slot :=
      ⟨_, List.getElem?_eq_getElem (layout.length_slots.symm ▸ hlt)⟩
    refine ⟨slot.token, ?_, .written slot.spelled (layout.chars_of_slot hs)⟩
    have hmap : body[index]? = (layout.slots[index]?).map Slot.token := by
      rw [← List.getElem?_map, layout.map_token]
    rw [List.getElem?_append_left hlt, hmap, hs]
    rfl
  · refine ⟨endToken, List.getElem?_concat_length .., ?_⟩
    rw [start, layout.chars_of_length]
    exact .endOfText

/-- Before the token at an index are the characters that count for its position, the blanks, and
what the spellings of the literals add. -/
theorem position_add (h : index ≤ body.length) :
    Site.position (body ++ [endToken]) index + layout.blanksBefore index +
      2 * literalsIn (body.take index) + escapesIn (body.take index) = layout.start index := by
  have hlength := length_flatMap_chars (layout.slots.take index)
  rw [layout.map_token_take] at hlength
  rw [Site.position, List.take_append_of_le_length h, start, blanksBefore, List.length_append,
    List.length_append, hlength]
  omega

/-- What the position that a failure shows for a site has to do with the text. -/
structure Locates (site : Site) : Prop where
  /-- The token starts where the layout has it. -/
  standsAt : ∃ token, (body ++ [endToken])[site.index]? = some token ∧
    StandsAt cs (layout.start site.index) token
  position_add : (site.anchor (body ++ [endToken])).position + layout.blanksBefore site.index +
    2 * literalsIn (body.take site.index) + escapesIn (body.take site.index) =
      layout.start site.index
  position_le : (site.anchor (body ++ [endToken])).position ≤ layout.start site.index
  position_eq_iff : (site.anchor (body ++ [endToken])).position = layout.start site.index ↔
    layout.blanksBefore site.index = 0 ∧ literalsIn (body.take site.index) = 0 ∧
      escapesIn (body.take site.index) = 0

theorem locates {site : Site} (h : site.index < (body ++ [endToken]).length) :
    layout.Locates site := by
  rw [List.length_append, List.length_singleton] at h
  have hle : site.index ≤ body.length := by omega
  have hadd : (site.anchor (body ++ [endToken])).position + layout.blanksBefore site.index +
      2 * literalsIn (body.take site.index) + escapesIn (body.take site.index) =
        layout.start site.index := layout.position_add hle
  refine ⟨layout.standsAt hle, hadd, ?_, ?_⟩
  · omega
  · omega

end Layout

end Token

/-! ## Failures -/

namespace Reference

open Token

variable {tokens : List Token} {failure : Failure Site}

theorem Begun.lastKind_ne_endOfText {references : List Reference} {due : Bool}
    (h : Begun tokens references due) : lastKind tokens ≠ some .endOfText := by
  cases h with
  | start => simp [lastKind]
  | listed h =>
    obtain ⟨kind, hk, hl⟩ := h.exists_lastKind
    rw [hk]
    rintro ⟨⟩
    cases hl
  | comma h hc => simp [lastKind_concat, hc]

/-- Where the text ends, a list that is refused is refused at one of its tokens. -/
theorem index_lt_of_listSites {body : List Token}
    (h : listSites (body ++ [endToken]) = .error failure) :
    ∀ site ∈ failure.anchors, site.index < (body ++ [endToken]).length := by
  obtain ⟨ts, rest, references, due, cause, heq, hb, -, rfl⟩ := exists_objects_of_listSites h
  intro site hs
  obtain rfl := List.mem_singleton.1 hs
  rw [heq, List.length_append]
  cases rest with
  | nil =>
    rw [List.append_nil] at heq
    rw [← heq] at hb
    exact absurd (lastKind_concat body endToken) hb.lastKind_ne_endOfText
  | cons token rest => simp

end Reference

namespace Failure

open Token

/-- **The position that a failure shows falls short of the offset** in the text at which its token
starts, by the blanks before the token, by two for each literal before it and by one for each mark
that is escaped in these. -/
theorem locates_of_ofText {text : String} {tokens : List Token} (h : ofText text = .ok tokens) :
    ∃ body, ∃ layout : Layout body text.toList, tokens = body ++ [endToken] ∧
      (∀ other : Layout body text.toList, other = layout) ∧
      (∀ refusal, Rule.parse tokens = .error refusal →
        ∃ failure, Rule.parseSites tokens = .error failure ∧ failure.anchored tokens = refusal ∧
          ∀ site ∈ failure.anchors, layout.Locates site) ∧
      ∀ refusal, Reference.listOf tokens = .error refusal →
        ∃ failure, Reference.listSites tokens = .error failure ∧
          failure.anchored tokens = refusal ∧ ∀ site ∈ failure.anchors, layout.Locates site := by
  obtain ⟨body, rfl, hl, -⟩ := exists_laid_of_ofText h
  obtain ⟨layout⟩ := hl.nonempty_layout
  refine ⟨body, layout, rfl, layout.unique, ?_, ?_⟩
  · intro refusal hr
    obtain ⟨failure, hf, ha⟩ := Rule.exists_parseSites_of_parse hr
    have hindex := Rule.index_lt_of_mem_anchors hf ⟨endToken, by simp, rfl⟩
    exact ⟨failure, hf, ha, fun site hs => layout.locates (hindex site hs)⟩
  · intro refusal hr
    obtain ⟨failure, hf, ha⟩ := Reference.exists_listSites_of_listOf hr
    have hindex := Reference.index_lt_of_listSites hf
    exact ⟨failure, hf, ha, fun site hs => layout.locates (hindex site hs)⟩

/-- A group that ends right after an operator. -/
def unfinishedGroup : List Token :=
  [word .openParen, literal "query.a", word .equals, literal "it\"s", word .and, word .closeParen]

def unfinishedText : String := "(\"query.a\" == \"it\\\"s\" && )"

/-- The group as it is written, with a blank before four of its tokens. -/
def unfinishedLayout : Layout unfinishedGroup unfinishedText.toList where
  slots :=
    have hnone : Text.AllBlank [] := List.all_eq_true.1 rfl
    have hone : Text.AllBlank [' '] := List.all_eq_true.1 rfl
    [⟨[], word .openParen, hnone, .fixed (by decide)⟩,
      ⟨[], literal "query.a", hnone, .literal .double (by decide)⟩,
      ⟨[' '], word .equals, hone, .fixed (by decide)⟩,
      ⟨[' '], literal "it\"s", hone, .literal .double (by decide)⟩,
      ⟨[' '], word .and, hone, .fixed (by decide)⟩,
      ⟨[' '], word .closeParen, hone, .fixed (by decide)⟩]
  trailing := []
  allBlank := List.all_eq_true.1 rfl
  map_token := rfl
  flatMap_chars := rfl

theorem parseSites_unfinishedGroup : Rule.parseSites (unfinishedGroup ++ [endToken]) =
    .error (.within .group ⟨0, 1⟩ (.raised .missingOperand ⟨5, 2⟩)) := by
  have hsplit : Phrase.split (unfinishedGroup ++ [endToken]) =
      ([.operand .group, .operand (.value "query.a" "it\"s"), .and, .close], [endToken]) := by cbv
  rw [Rule.parseSites, Rule.parseWithin, hsplit]
  rfl

/-- The parenthesis that comes too early stands at 25 and not at 16: before it are four blanks, two
literals and one escaped mark. -/
theorem locates_of_ofText_unfinishedGroup :
    ofText unfinishedText = .ok (unfinishedGroup ++ [endToken]) ∧
      Rule.parse (unfinishedGroup ++ [endToken]) =
        .error (.within .group ⟨"(", 0, 1⟩ (.raised .missingOperand ⟨")", 16, 2⟩)) ∧
      unfinishedLayout.Locates ⟨0, 1⟩ ∧ unfinishedLayout.Locates ⟨5, 2⟩ ∧
      unfinishedLayout.start 5 = 25 := by
  have htext : ofText unfinishedText = .ok (unfinishedGroup ++ [endToken]) := by cbv
  have hparse : Rule.parse (unfinishedGroup ++ [endToken]) =
      .error (.within .group ⟨"(", 0, 1⟩ (.raised .missingOperand ⟨")", 16, 2⟩)) := by
    rw [Rule.parse_of_parseSites parseSites_unfinishedGroup]
    rfl
  obtain ⟨body, layout, hbody, hunique, hrule, -⟩ := locates_of_ofText htext
  obtain rfl := List.append_cancel_right hbody
  obtain rfl := hunique unfinishedLayout
  obtain ⟨failure, hs, -, hlocates⟩ := hrule _ hparse
  rw [parseSites_unfinishedGroup] at hs
  obtain rfl := Except.error.inj hs
  exact ⟨htext, hparse, hlocates _ (by simp [Failure.anchors]),
    hlocates _ (by simp [Failure.anchors]), rfl⟩

end Failure

end TriggerRule
