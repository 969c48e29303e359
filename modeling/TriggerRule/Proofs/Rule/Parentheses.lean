import TriggerRule.Proofs.Rule.Diagnosis
import TriggerRule.Proofs.Rule.Enclosing

/-!
# The parentheses of the scanner and the levels of the reader

The scanner counts parentheses, and accepts a text if each of them has its other half. The reader
counts levels, and opens none for the parenthesis of a call. The two counts agree wherever reading
comes to: the tokens that are left have to close one parenthesis for each level that waits
(`Begun.balanced_append_iff`). So in a text that the scanner accepts, no closing parenthesis is
refused at the first level, and the end of the text only there. Main statement:
`parse_error_of_ofText`.
-/

namespace TriggerRule

open Token

namespace Token

variable {ts us body : List Token} {unclosed index : Nat}

/-! ## Counting on -/

theorem balanced_openParen_iff {t : Token} (h : t.kind = .openParen) :
    Balanced unclosed (t :: ts) ↔ Balanced (unclosed + 1) ts := by
  rw [balanced_cons_iff, h]
  simp [Cursor.recount]

/-- The opening of a level leaves one more parenthesis to close. -/
theorem balanced_append_opening {enclosure : Enclosure}
    (h : Phrase.Written us (.operand enclosure.opening)) :
    Balanced unclosed (us ++ ts) ↔ Balanced (unclosed + 1) ts := by
  cases enclosure with
  | group =>
    cases h with
    | group ho => exact balanced_openParen_iff ho
  | negation =>
    cases h with
    | @negation n o hn ho =>
      have hnot : Neutral [n] := neutral_singleton (by simp [hn]) (by simp [hn])
      exact (hnot unclosed (o :: ts)).trans (balanced_openParen_iff ho)

theorem Balanced.append_neutral (h : Balanced unclosed ts) (hu : Neutral us) :
    Balanced unclosed (ts ++ us) := by
  induction ts generalizing unclosed with
  | nil =>
    have hnone := (hu unclosed []).2 h
    rwa [List.append_nil] at hnone
  | cons t ts ih =>
    obtain ⟨hopen, hts⟩ := balanced_cons_iff.1 h
    exact balanced_cons_iff.2 ⟨hopen, ih hts⟩

/-- Of the tokens of a text, only the last is the end of it. -/
theorem kindAt_concat_endToken_iff (h : ∀ t ∈ body, t.kind ≠ .endOfText) :
    kindAt (body ++ [endToken]) index = some .endOfText ↔ index = body.length := by
  constructor
  · intro hk
    obtain ⟨t, ht, hkind⟩ := Option.map_eq_some_iff.1 hk
    obtain ⟨hlt, -⟩ := List.getElem?_eq_some_iff.1 ht
    rw [List.length_append, List.length_singleton] at hlt
    by_cases hindex : index < body.length
    · rw [List.getElem?_append_left hindex] at ht
      exact absurd hkind (h t (List.mem_of_getElem? ht))
    · omega
  · rintro rfl
    rw [kindAt_append]
    rfl

/-- What is not closed begins with a `!` or an opening parenthesis. -/
theorem Unclosed.kindAt {enclosure : Enclosure} (h : Unclosed ts enclosure index)
    (rest : List Token) : Token.kindAt (ts ++ rest) index = some .openParen ∨
      Token.kindAt (ts ++ rest) index = some .not := by
  obtain ⟨before, paren, after, rfl, hk, ho, -⟩ := h
  cases ho with
  | group hn hs =>
    left
    rw [List.append_assoc, kindAt_append]
    exact congrArg some hk
  | @negation front t ht =>
    right
    rw [List.append_assoc, List.append_assoc, kindAt_append]
    exact congrArg some ht

end Token

namespace Nest

variable {limit : Nat} {ts rest body : List Token} {nest : Nest} {cause : Cause} {stop : Nat}

/-! ## The two counts agree -/

/-- What the scanner has counted when the reader comes to a level is how many levels wait. -/
theorem Begun.balanced_append_iff (h : Begun limit ts nest) (rest : List Token) :
    Balanced 0 (ts ++ rest) ↔ Balanced nest.waiting.length rest := by
  induction h generalizing rest with
  | outermost h => exact h.neutral (fun _ _ => Grammar.Inside.neutral) 0 rest
  | @inside ts us vs frame outer operands h ho hu hindex hlimit hv ih =>
    have hlevel : Neutral vs := hv.neutral fun _ _ => Grammar.Inside.neutral
    rw [List.append_assoc, List.append_assoc, ih, balanced_append_opening hu, hlevel]
    rfl

/-- The links of a failure around its last are anchored where a level was opened. -/
theorem Begun.eq_of_mem_anchors (h : Begun limit ts nest) {site : Site} {kind : Kind}
    (hs : site ∈ (nest.fail cause stop).anchors)
    (hk : kindAt (ts ++ rest) site.index = some kind) (ho : kind ≠ .openParen)
    (hn : kind ≠ .not) : site = ⟨stop, nest.depth⟩ := by
  rw [anchors_fail, List.mem_append, List.mem_singleton] at hs
  rcases hs with hs | rfl
  · obtain ⟨⟨enclosure, index, depth⟩, hmem, rfl⟩ := List.mem_map.1 hs
    have hunclosed := h.unclosed_iff.2 (mem_openGroups_iff.1 ⟨depth, hmem⟩)
    rcases hunclosed.kindAt rest with hopening | hopening
    · exact absurd (Option.some.inj (hk.symm.trans hopening)) ho
    · exact absurd (Option.some.inj (hk.symm.trans hopening)) hn
  · rfl

/-- A failure is anchored where reading stops, unless it is anchored at a literal. -/
theorem Blocks.stop_eq_length {kind : Kind} (h : Blocks limit nest ts.length rest cause stop)
    (hk : kindAt (ts ++ rest) stop = some kind) (hl : kind.isLiteral = false) :
    stop = ts.length := by
  rcases h.stop_eq with ⟨rfl, -⟩ | ⟨rfl, -, us, tail, _, _, _, rfl, hu⟩
  · rfl
  · cases hu with
    | @hash p e w o t c s r hp he hw ho ht hc hs hr =>
      have hindex : ts.length + 4 = (ts ++ [p, e, w, o]).length := by simp
      have hsplit : ts ++ ([p, e, w, o, t, c, s, r] ++ tail) =
          (ts ++ [p, e, w, o]) ++ (t :: c :: s :: r :: tail) := by simp
      rw [hindex, hsplit, kindAt_append] at hk
      obtain rfl : t.kind = kind := Option.some.inj hk
      rw [isLiteral, hl] at ht
      cases ht

/-- A closing parenthesis is refused inside a group only. -/
theorem Blocks.one_lt_depth (h : Blocks limit nest ts.length rest cause stop)
    (hr : Reached limit ts nest) (hb : Balanced 0 (ts ++ rest)) {site : Site}
    (hs : site ∈ (nest.fail cause stop).anchors)
    (hk : kindAt (ts ++ rest) site.index = some .closeParen) : 1 < site.depth := by
  obtain rfl := hr.begun.eq_of_mem_anchors hs hk (by simp) (by simp)
  obtain rfl := h.stop_eq_length hk rfl
  rw [kindAt_append] at hk
  obtain ⟨t, ht, hclose⟩ := Option.map_eq_some_iff.1 hk
  obtain ⟨tail, rfl⟩ := List.head?_eq_some_iff.1 ht
  rw [hr.begun.balanced_append_iff, balanced_cons_iff] at hb
  have hopen := hb.1 hclose
  show 1 < nest.waiting.length + 1
  omega

/-- The end of the text is refused at the first level, and only if the rule cannot end there. -/
theorem Blocks.close_of_endToken (h : Blocks limit nest ts.length [endToken] cause stop)
    (hr : Reached limit ts nest) (hb : Balanced 0 ts) :
    nest.waiting = [] ∧ nest.operands.close = .error cause := by
  rw [← List.append_nil ts, hr.begun.balanced_append_iff, balanced_nil_iff,
    List.length_eq_zero_iff] at hb
  refine ⟨hb, ?_⟩
  generalize hrest : [endToken] = rest at h
  cases h with
  | @phrase us _ _ _ hu hf tail =>
    obtain ⟨t, front, rfl⟩ := List.exists_cons_of_length_pos hu.length_pos
    obtain ⟨rfl, -⟩ := List.cons.inj hrest
    exact absurd rfl (hu.kind_ne_endOfText endToken (List.mem_cons_self ..))
  | ending hk hw hc => exact hc
  | nothing hp hn =>
    rw [← hrest] at hn
    exact absurd ⟨rfl, hb⟩ hn

/-- A rule that cannot end at the end of the text is empty, or an operator comes last. -/
theorem Reached.fits_endToken (hr : Reached limit ts nest) (hw : nest.waiting = [])
    (hclose : nest.operands.close = .error cause) :
    cause = .emptyLevel ∧ ts = [] ∨
      cause = .missingOperand ∧ (kindBefore (ts ++ [endToken]) ts.length = some .and ∨
        kindBefore (ts ++ [endToken]) ts.length = some .or) := by
  have hk : kindAt (ts ++ [endToken]) ts.length = some .endOfText := kindAt_append ts [endToken]
  have hdepth : nest.depth = 1 := by rw [depth, hw]; rfl
  have hend : Site.EndsLevel (ts ++ [endToken]) ⟨ts.length, nest.depth⟩ := .inr ⟨hk, hdepth⟩
  have hfits := hr.fits_of_close hend hclose
  rcases hr.begun.cause_of_close hclose with rfl | rfl
  · rcases hfits with ⟨hparen, -⟩ | ⟨hstart, -⟩
    · simp [hk] at hparen
    · exact .inl ⟨rfl, List.length_eq_zero_iff.1 hstart⟩
  · exact .inr ⟨rfl, hfits.1⟩

/-- At the end of the text a failure is a single link. -/
theorem Blocks.fail_endToken {cs : List Char}
    (h : Blocks limit nest ts.length [endToken] cause stop)
    (hr : Reached limit ts nest) (hl : Laid ts cs) (hb : Balanced 0 ts) : nest.depth = 1 ∧
      (nest.fail cause ts.length = .raised .emptyLevel ⟨ts.length, nest.depth⟩ ∧
          Text.AllBlank cs ∨
        nest.fail cause ts.length = .raised .missingOperand ⟨ts.length, nest.depth⟩ ∧
          (kindBefore (ts ++ [endToken]) ts.length = some .and ∨
            kindBefore (ts ++ [endToken]) ts.length = some .or)) := by
  obtain ⟨hwaiting, hclose⟩ := h.close_of_endToken hr hb
  have hfail : nest.fail cause ts.length = .raised cause ⟨ts.length, nest.depth⟩ := by
    rw [fail, hwaiting]
    rfl
  rw [hfail]
  refine ⟨by rw [depth, hwaiting]; rfl, ?_⟩
  rcases hr.fits_endToken hwaiting hclose with ⟨rfl, rfl⟩ | ⟨rfl, hbefore⟩
  · cases hl with
    | blanks hw => exact .inl ⟨rfl, hw⟩
  · exact .inr ⟨rfl, hbefore⟩

end Nest

namespace Rule

open Nest

/-- Blanks have no token but the one that ends the text. -/
theorem ofText_of_allBlank {text : String} (h : Text.AllBlank text.toList) :
    ofText text = .ok [endToken] :=
  ofText_of_laid (.blanks h) (balanced_nil_iff.2 rfl)

theorem parseSites_endToken : parseSites [endToken] = .error (.raised .emptyLevel ⟨0, 1⟩) := by
  have hsplit : Phrase.split [endToken] = ([], [endToken]) := by cbv
  rw [parseSites, parseWithin, hsplit]
  rfl

/-- **Scanner and reader agree on parentheses.** Of the tokens of a text no closing parenthesis is
refused at the first level, and the end of the text at no other. There the failure is a single link:
the text is blank, and every blank text is refused so, or an operator comes last. -/
theorem parse_error_of_ofText (text : String) :
    (∀ tokens refusal, ofText text = .ok tokens → parse tokens = .error refusal →
      ∃ failure, parseSites tokens = .error failure ∧ failure.anchored tokens = refusal ∧
        (∀ site ∈ failure.anchors,
          kindAt tokens site.index = some .closeParen → 1 < site.depth) ∧
        ∀ site ∈ failure.anchors, kindAt tokens site.index = some .endOfText →
          site.depth = 1 ∧
            (failure = .raised .emptyLevel site ∧ Text.AllBlank text.toList ∨
              failure = .raised .missingOperand site ∧
                (kindBefore tokens site.index = some .and ∨
                  kindBefore tokens site.index = some .or))) ∧
      (Text.AllBlank text.toList → ofText text = .ok [endToken] ∧
        parse [endToken] = .error (.raised .emptyLevel ⟨"<EOF>", 0, 1⟩)) := by
  refine ⟨?_, fun h => ⟨ofText_of_allBlank h, parse_of_parseSites parseSites_endToken⟩⟩
  intro tokens refusal htext hparse
  obtain ⟨body, rfl, hl, hb⟩ := exists_laid_of_ofText htext
  obtain ⟨failure, hs, rfl⟩ := exists_parseSites_of_parse hparse
  refine ⟨failure, hs, rfl, ?_⟩
  obtain ⟨ts, rest, nest, htokens, hreached, hstop⟩ := exists_stops_of_parseWithin hs
  obtain ⟨cause, stop, hblocks, rfl⟩ := hstop.exists_blocks
  refine ⟨?_, ?_⟩
  · intro site hsite hk
    have hall : Balanced 0 (body ++ [endToken]) :=
      hb.append_neutral (neutral_singleton (by simp [endToken]) (by simp [endToken]))
    rw [htokens] at hk hall
    exact hblocks.one_lt_depth hreached hall hsite hk
  · intro site hsite hk
    -- the end of the text is the last token, so all the others have been read
    have hindex := (kindAt_concat_endToken_iff hl.kind_ne_endOfText).1 hk
    rw [htokens] at hk
    obtain rfl := hreached.begun.eq_of_mem_anchors hsite hk (by simp) (by simp)
    obtain rfl := hblocks.stop_eq_length hk rfl
    obtain ⟨rfl, rfl⟩ := List.append_inj htokens hindex.symm
    exact hblocks.fail_endToken hreached hl hb

/-- A match, and an operator with nothing behind it. -/
def matchAndNothing : List Token :=
  [literal "query.a", word .equals, literal "1", word .and, endToken]

theorem parseSites_matchAndNothing :
    parseSites matchAndNothing = .error (.raised .missingOperand ⟨4, 1⟩) := by
  have hsplit : Phrase.split matchAndNothing =
      ([.operand (.value "query.a" "1"), .and], [endToken]) := by cbv
  rw [parseSites, parseWithin, hsplit]
  rfl

/-- At the end of the match and the operator an operand is missing, and blanks are an empty rule. -/
theorem parse_error_of_ofText_matchAndNothing :
    ofText "\"query.a\" == \"1\" &&" = .ok matchAndNothing ∧
      parse matchAndNothing = .error (.raised .missingOperand ⟨"<EOF>", 12, 1⟩) ∧
      (kindBefore matchAndNothing 4 = some .and ∨ kindBefore matchAndNothing 4 = some .or) ∧
      ofText " \t\n" = .ok [endToken] := by
  have htext : ofText "\"query.a\" == \"1\" &&" = .ok matchAndNothing := by cbv
  have hparse : parse matchAndNothing = .error (.raised .missingOperand ⟨"<EOF>", 12, 1⟩) := by
    rw [parse_of_parseSites parseSites_matchAndNothing]
    rfl
  obtain ⟨failure, hs, -, -, hend⟩ :=
    (parse_error_of_ofText "\"query.a\" == \"1\" &&").1 _ _ htext hparse
  rw [parseSites_matchAndNothing] at hs
  obtain rfl := Except.error.inj hs
  have hblank : Text.AllBlank " \t\n".toList := List.all_eq_true.1 rfl
  refine ⟨htext, hparse, ?_, ((parse_error_of_ofText " \t\n").2 hblank).1⟩
  rcases (hend ⟨4, 1⟩ (by simp [Failure.anchors]) rfl).2 with ⟨hraised, -⟩ | ⟨-, hbefore⟩
  · simp at hraised
  · exact hbefore

end Rule

end TriggerRule
