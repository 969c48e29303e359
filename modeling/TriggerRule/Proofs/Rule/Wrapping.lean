import TriggerRule.Proofs.Rule.Limit
import TriggerRule.Proofs.Rule.Repair

/-!
# A refused text in parentheses

A text that is refused is refused alike inside a group: reading goes the same way one level deeper
and some tokens further on. `Nest.inGroup` is a nest seen from there; a step in it is the step in
the nest itself (`step_inGroup`), and so is the way to a stop (`Reached.inGroup`, `Stops.inGroup`).
What ends the text outside is a closing parenthesis inside, and it ends no phrase that goes on past
the text, because the parentheses of the text are balanced (`read?_append_closing`). Main statement:
`read_wrapped_of_error`.
-/

namespace TriggerRule

open Token

/-! ## A level deeper and some tokens further on -/

/-- The site of a token in a group that was opened at the start by a number of tokens. -/
def Site.inward (width : Nat) (site : Site) : Site := ⟨site.index + width, site.depth + 1⟩

/-- The failure of a token sequence, in such a group. -/
def Failure.inGroup (enclosure : Enclosure) (width : Nat) (failure : Failure Site) :
    Failure Site :=
  .within enclosure ⟨0, 1⟩ (failure.map (Site.inward width))

def Frame.shift (width : Nat) (frame : Frame) : Frame := { frame with index := frame.index + width }

namespace Nest

variable {limit index width : Nat} {nest next : Nest} {phrase : Phrase} {enclosure : Enclosure}
  {failure : Failure Site} {ts us os : List Token}

/-- The nest in a group that was opened at the start by a number of tokens. -/
def inGroup (enclosure : Enclosure) (width : Nat) (nest : Nest) : Nest :=
  ⟨nest.waiting.map (Frame.shift width) ++ [⟨enclosure, 0, .empty⟩], nest.operands⟩

/-- What a step leads to, in such a group. -/
def outcomeInGroup (enclosure : Enclosure) (width : Nat) :
    Except (Failure Site) Nest → Except (Failure Site) Nest
  | .ok next => .ok (next.inGroup enclosure width)
  | .error failure => .error (failure.inGroup enclosure width)

@[simp] theorem operands_inGroup : (nest.inGroup enclosure width).operands = nest.operands := rfl

theorem depth_inGroup : (nest.inGroup enclosure width).depth = nest.depth + 1 := by
  simp [depth, inGroup]

theorem openGroups_inGroup (waiting : List Frame) :
    openGroups (waiting.map (Frame.shift width) ++ [⟨enclosure, 0, .empty⟩]) =
      (enclosure, ⟨0, 1⟩) :: (openGroups waiting).map (Prod.map id (Site.inward width)) := by
  induction waiting with
  | nil => rfl
  | cons frame outer ih =>
    rw [List.map_cons, List.cons_append, openGroups, ih, openGroups, List.map_append]
    simp [Frame.shift, Site.inward]

theorem fail_inGroup (cause : Cause) :
    (nest.inGroup enclosure width).fail cause (index + width) =
      (nest.fail cause index).inGroup enclosure width := by
  rw [fail, depth_inGroup, inGroup, openGroups_inGroup, Failure.inGroup, fail, Failure.map_wrap]
  rfl

/-! ## A step in a group -/

theorem pushMatch_inGroup (parameter : String) (test : Test) :
    (nest.inGroup enclosure width).pushMatch parameter test (index + width) =
      outcomeInGroup enclosure width (nest.pushMatch parameter test index) := by
  unfold pushMatch
  cases Reference.parse parameter with
  | error refusal => exact congrArg Except.error (fail_inGroup _)
  | ok reference => rfl

theorem openLevel_inGroup (opened : Enclosure) :
    (nest.inGroup enclosure width).openLevel (limit + 1) opened (index + width) =
      outcomeInGroup enclosure width (nest.openLevel limit opened index) := by
  unfold openLevel
  rw [depth_inGroup]
  by_cases hl : limit ≤ nest.depth
  · rw [if_pos hl, if_pos (Nat.succ_le_succ hl)]
    exact congrArg Except.error (fail_inGroup _)
  · rw [if_neg hl, if_neg fun h => hl (Nat.le_of_succ_le_succ h)]
    rfl

/-- Inside the group a level fails to close alike, and so does the outermost level of the text,
which has nothing to close outside. -/
theorem closeLevel_inGroup_of_error {cause : Cause} (hc : nest.operands.close = .error cause) :
    (nest.inGroup enclosure width).closeLevel (index + width) =
      .error ((nest.fail cause index).inGroup enclosure width) := by
  rw [← fail_inGroup]
  obtain ⟨waiting, operands⟩ := nest
  cases waiting with
  | nil => simp only [closeLevel, inGroup, List.map_nil, List.nil_append, hc]
  | cons frame outer => simp only [closeLevel, inGroup, List.map_cons, List.cons_append, hc]

theorem closeLevel_inGroup (hw : nest.waiting ≠ []) :
    (nest.inGroup enclosure width).closeLevel (index + width) =
      outcomeInGroup enclosure width (nest.closeLevel index) := by
  obtain ⟨waiting, operands⟩ := nest
  cases waiting with
  | nil => exact absurd rfl hw
  | cons frame outer =>
    cases hc : operands.close with
    | error cause =>
      rw [closeLevel_inGroup_of_error hc]
      simp only [closeLevel, hc]
      rfl
    | ok rule =>
      simp only [closeLevel, inGroup, List.map_cons, List.cons_append, hc]
      rfl

theorem readOperand_inGroup (start : Phrase.Operand) :
    (nest.inGroup enclosure width).readOperand (limit + 1) (index + width) start =
      outcomeInGroup enclosure width (nest.readOperand limit index start) := by
  cases start with
  | group => exact openLevel_inGroup .group
  | negation => exact openLevel_inGroup .negation
  | value parameter text => exact pushMatch_inGroup parameter _
  | regex parameter pattern => exact pushMatch_inGroup parameter _
  | hash parameter target secret =>
    rw [readOperand, readOperand]
    split
    · exact pushMatch_inGroup parameter _
    · rw [Nat.add_right_comm]
      exact congrArg Except.error (fail_inGroup _)

/-- A step in a group is the step itself, except that the group can be closed. -/
theorem step_inGroup (hclose : phrase = .close → nest.waiting ≠ []) :
    (nest.inGroup enclosure width).step (limit + 1) (index + width) phrase =
      outcomeInGroup enclosure width (nest.step limit index phrase) := by
  have hrefused : (.error ((nest.inGroup enclosure width).fail .unexpectedToken (index + width)) :
      Except (Failure Site) Nest) =
      outcomeInGroup enclosure width (.error (nest.fail .unexpectedToken index)) :=
    congrArg Except.error (fail_inGroup _)
  cases phrase with
  | and =>
    rw [step, step, operands_inGroup]
    split
    · rfl
    · exact hrefused
  | or =>
    rw [step, step, operands_inGroup]
    split
    · rfl
    · exact hrefused
  | close => exact closeLevel_inGroup (hclose rfl)
  | operand start =>
    rw [step, step, operands_inGroup]
    split
    · exact readOperand_inGroup start
    · exact hrefused

/-! ## A way to a stop in a group -/

theorem waiting_ne_nil_of_close (h : nest.step limit index phrase = .ok next) :
    phrase = .close → nest.waiting ≠ [] := by
  rintro rfl hw
  simp [step, closeLevel, hw] at h

/-- What is read of the tokens is read of them in a group. -/
theorem Reached.inGroup (h : Reached limit ts nest) (hl : 0 < limit)
    (ho : Phrase.Written os (.operand enclosure.opening)) :
    Reached (limit + 1) (os ++ ts) (nest.inGroup enclosure os.length) := by
  induction h with
  | start =>
    have hopen : Nest.start.step (limit + 1) 0 (.operand enclosure.opening) =
        .ok (Nest.start.opened enclosure 0) := step_opening_of_lt rfl (Nat.succ_lt_succ hl)
    rw [List.append_nil]
    exact Reached.start.step ho hopen
  | @step ts us nest next phrase h hu hs ih =>
    rw [← List.append_assoc]
    refine ih.step hu ?_
    rw [List.length_append, Nat.add_comm os.length, step_inGroup (waiting_ne_nil_of_close hs), hs]
    rfl

/-- A phrase that ends in a closing parenthesis is just that, or has opened it. -/
theorem countKind_before_closing {left more : List Token} {closing : Token}
    (hu : Phrase.Written (left ++ closing :: more) phrase) (hne : left ≠ [])
    (hc : closing.kind = .closeParen) :
    countKind .openParen left = 1 ∧ countKind .closeParen left = 0 := by
  have hlast := hu.kind_ne_closeParen_of_mem_dropLast
  cases more with
  | cons t more =>
    -- the parenthesis is not the last token of the phrase
    refine absurd hc (hlast closing ?_)
    rw [List.dropLast_append_of_ne_nil (List.cons_ne_nil _ _), List.dropLast_cons_cons]
    exact List.mem_append_right _ (List.mem_cons_self ..)
  | nil =>
    generalize hall : left ++ [closing] = us at hu
    have hsplit : us.dropLast = left ∧ us.getLast? = some closing := by simp [← hall]
    obtain ⟨rfl, hgot⟩ := hsplit
    have hliteral : ∀ {t : Token}, t.isLiteral = true →
        t.kind ≠ .openParen ∧ t.kind ≠ .closeParen :=
      fun h => ⟨Phrase.kind_ne_of_isLiteral h rfl, Phrase.kind_ne_of_isLiteral h rfl⟩
    cases hu with
    | and => simp at hne
    | or => simp at hne
    | close => simp at hne
    | group => simp at hne
    | negation hn ho =>
      obtain rfl := Option.some.inj hgot
      simp [ho] at hc
    | value hp he hv =>
      obtain rfl := Option.some.inj hgot
      exact absurd hc (hliteral hv).2
    | regex hp he hv =>
      obtain rfl := Option.some.inj hgot
      exact absurd hc (hliteral hv).2
    | hash hp he hw ho ht hcomma hs hr =>
      simp [countKind, he, hw, ho, hcomma, hliteral hp, hliteral ht, hliteral hs]

/-- What ends the text outside of the group ends no phrase there: the parentheses of the text are
balanced, so a closing one behind it closes none that a phrase of the text has opened. -/
theorem read?_append_closing {unclosed : Nat} {left : List Token} {closing : Token}
    (hne : left ≠ []) (hb : Balanced unclosed left) (hc : closing.kind = .closeParen)
    (hp : Phrase.read? (left ++ [endToken]) = none) (tail : List Token) :
    Phrase.read? (left ++ closing :: tail) = none := by
  cases hread : Phrase.read? (left ++ closing :: tail) with
  | none => rfl
  | some phrase =>
    exfalso
    obtain ⟨us, rest, heq, hu⟩ := Phrase.exists_written_of_read? hread
    have hwhole : ∀ more, left ≠ us ++ more := by
      rintro more rfl
      rw [List.append_assoc, hu.read?_append] at hp
      simp at hp
    rcases List.append_eq_append_iff.1 heq with ⟨front, rfl, hfront⟩ | ⟨more, hleft, -⟩
    · cases front with
      | nil => exact hwhole [] (by simp)
      | cons c front =>
        obtain ⟨rfl, -⟩ := List.cons.inj hfront
        obtain ⟨hopen, hclosed⟩ := countKind_before_closing hu hne hc
        have := hb.closed_eq
        omega
    · exact hwhole more hleft

/-- Where the rule cannot end, it cannot end at the closing parenthesis either. -/
theorem stops_inGroup_of_finish {left : List Token} {closing : Token}
    (hb : Balanced nest.waiting.length left) (hend : ∀ t ∈ left, t.kind ≠ .endOfText)
    (hc : closing.kind = .closeParen) (hp : Phrase.read? (left ++ [endToken]) = none)
    (hf : nest.finish index (left ++ [endToken]) = .error failure) (tail : List Token) :
    Stops (limit + 1) (nest.inGroup enclosure width) (index + width) (left ++ closing :: tail)
      (failure.inGroup enclosure width) := by
  cases left with
  | nil =>
    -- the text has ended, and so does the group
    have hw : nest.waiting = [] := List.length_eq_zero_iff.1 (balanced_nil_iff.1 hb)
    have hclose : nest.operands.close.mapError (fun cause => nest.fail cause index) =
        .error failure := by
      rw [← hf]
      simp [Nest.finish, hw, endToken]
    obtain ⟨cause, hoperands, rfl⟩ := mapError_eq_error_iff.1 hclose
    exact .phrase (.close hc) (closeLevel_inGroup_of_error hoperands) tail
  | cons t left =>
    have hkind := hend t (List.mem_cons_self ..)
    have hfail : nest.fail .unexpectedToken index = failure := by
      simpa [Nest.finish, hkind] using hf
    refine .finish (read?_append_closing (List.cons_ne_nil _ _) hb hc hp tail) ?_
    rw [← hfail, ← fail_inGroup]
    simp [Nest.finish, hkind]

/-- Reading stops alike in a group that a closing parenthesis ends where the text did. -/
theorem Stops.inGroup {left : List Token} {closing : Token} (hr : Reached limit ts nest)
    (h : Stops limit nest ts.length (left ++ [endToken]) failure) (hb : Balanced 0 (ts ++ left))
    (hend : ∀ t ∈ left, t.kind ≠ .endOfText) (hc : closing.kind = .closeParen)
    (tail : List Token) :
    Stops (limit + 1) (nest.inGroup enclosure width) (ts.length + width)
      (left ++ closing :: tail) (failure.inGroup enclosure width) := by
  rw [hr.begun.balanced_append_iff] at hb
  generalize hrest : left ++ [endToken] = rest at h
  cases h with
  | @phrase us phrase _ hu hs more =>
    have hprefix : us <+: left ++ [endToken] := ⟨more, hrest.symm⟩
    rcases List.prefix_concat_iff.1 hprefix with rfl | ⟨left, rfl⟩
    · exact absurd rfl (hu.kind_ne_endOfText endToken (List.mem_append_right _ (by simp)))
    · have hclose : phrase = .close → nest.waiting ≠ [] := by
        rintro rfl hw
        cases hu with
        | close hk =>
          rw [hw] at hb
          exact (balanced_cons_iff.1 hb).1 hk rfl
      rw [List.append_assoc]
      refine .phrase hu ?_ _
      rw [step_inGroup hclose, hs]
      rfl
  | finish hp hf =>
    subst hrest
    exact stops_inGroup_of_finish hb hend hc hp hf tail

end Nest

/-! ## Anchors in a group -/

theorem Token.textLength_append (ts us : List Token) :
    textLength (ts ++ us) = textLength ts + textLength us := by
  induction ts with
  | nil => exact (Nat.zero_add _).symm
  | cons t ts ih => rw [List.cons_append, textLength, textLength, ih, Nat.add_assoc]

/-- The anchor of a site once the text stands in a group, behind a number of characters: a level
deeper and that much further on, and the end of the text is the parenthesis that closes the
group. -/
def Site.anchorInside (tokens : List Token) (offset : Nat) (site : Site) : Anchor :=
  let anchor := site.anchor tokens
  ⟨if kindAt tokens site.index = some .endOfText then ")" else anchor.token,
    anchor.position + offset, anchor.depth + 1⟩

theorem Site.anchor_inward (os : List Token) {body : List Token} {site : Site}
    (hend : ∀ t ∈ body, t.kind ≠ .endOfText) (hle : site.index ≤ body.length) :
    (site.inward os.length).anchor (os ++ (body ++ [word .closeParen, endToken])) =
      site.anchorInside (body ++ [endToken]) (textLength os) := by
  have hposition : position (os ++ (body ++ [word .closeParen, endToken]))
      (site.index + os.length) = position (body ++ [endToken]) site.index + textLength os := by
    rw [position, position, Nat.add_comm site.index, List.take_length_add_append,
      textLength_append, List.take_append_of_le_length hle, List.take_append_of_le_length hle,
      Nat.add_comm]
  have htoken : Site.token (os ++ (body ++ [word .closeParen, endToken]))
      (site.index + os.length) =
      if kindAt (body ++ [endToken]) site.index = some .endOfText then ")"
        else Site.token (body ++ [endToken]) site.index := by
    rw [Site.token, List.getElem?_append_right (Nat.le_add_left ..), Nat.add_sub_cancel]
    by_cases hindex : site.index = body.length
    · rw [if_pos ((kindAt_concat_endToken_iff hend).2 hindex), hindex,
        List.getElem?_append_right (Nat.le_refl _), Nat.sub_self]
      rfl
    · have hlt : site.index < body.length := Nat.lt_of_le_of_ne hle hindex
      rw [if_neg fun h => hindex ((kindAt_concat_endToken_iff hend).1 h), Site.token,
        List.getElem?_append_left hlt, List.getElem?_append_left hlt]
  simp only [anchor, inward, anchorInside, hposition, htoken]

namespace Rule

open Nest

variable {limit : Nat} {tokens os body : List Token} {enclosure : Enclosure}
  {failure : Failure Site}

/-! ## A refused text in a group -/

/-- A failure is anchored at tokens of the sequence. -/
theorem index_lt_of_mem_anchors (h : parseWithin limit tokens = .error failure)
    (hend : ∃ t ∈ tokens, t.kind = .endOfText) :
    ∀ site ∈ failure.anchors, site.index < tokens.length := by
  obtain ⟨ts, rest, nest, rfl, hr, hs⟩ := exists_stops_of_parseWithin h
  obtain ⟨cause, stop, hblocks, rfl⟩ := hs.exists_blocks
  have hlt := (hblocks.blamed (hr.exists_endOfText hend)).2
  rw [List.length_append]
  exact hr.begun.index_lt_of_mem_anchors_fail (Nat.le_add_right ..) (by omega)

/-- Tokens that are refused are refused alike in a group, where one level more is allowed. -/
theorem parseWithin_inGroup {closing : Token} (hl : 0 < limit)
    (ho : Phrase.Written os (.operand enclosure.opening))
    (hend : ∀ t ∈ body, t.kind ≠ .endOfText) (hb : Balanced 0 body)
    (hc : closing.kind = .closeParen) (h : parseWithin limit (body ++ [endToken]) = .error failure)
    (tail : List Token) : parseWithin (limit + 1) (os ++ (body ++ closing :: tail)) =
      .error (failure.inGroup enclosure os.length) := by
  obtain ⟨ts, rest, nest, heq, hr, hs⟩ := exists_stops_of_parseWithin h
  rcases List.prefix_concat_iff.1 (⟨rest, heq.symm⟩ : ts <+: body ++ [endToken]) with
    rfl | ⟨left, rfl⟩
  · exact absurd rfl (hr.kind_ne_endOfText endToken (by simp))
  · rw [List.append_assoc] at heq
    obtain rfl := List.append_cancel_left heq
    have hstop : Stops (limit + 1) (nest.inGroup enclosure os.length) (ts.length + os.length)
        (left ++ closing :: tail) (failure.inGroup enclosure os.length) :=
      hs.inGroup hr hb (fun t ht => hend t (List.mem_append_right _ ht)) hc tail
    rw [Nat.add_comm ts.length, ← List.length_append] at hstop
    rw [List.append_assoc, ← List.append_assoc]
    exact parseWithin_of_stops (hr.inGroup hl ho) hstop

/-- What is refused in a group is anchored there. -/
theorem parse_inGroup (ho : Phrase.Written os (.operand enclosure.opening))
    (hend : ∀ t ∈ body, t.kind ≠ .endOfText) (hb : Balanced 0 body)
    (hopens : OpensWithin 126 (body ++ [endToken]))
    (h : parseSites (body ++ [endToken]) = .error failure) :
    parse (os ++ (body ++ [word .closeParen, endToken])) =
      .error (.within enclosure (Site.anchor os ⟨0, 1⟩)
        (failure.map (Site.anchorInside (body ++ [endToken]) (textLength os)))) := by
  have hroom : parseSites (body ++ [endToken]) = parseWithin 127 (body ++ [endToken]) :=
    parseWithin_eq_of_opensWithin hopens (by decide)
  have hindex : ∀ site ∈ failure.anchors, site.index ≤ body.length := by
    intro site hsite
    have hlt := index_lt_of_mem_anchors h ⟨endToken, by simp, rfl⟩ site hsite
    rw [List.length_append] at hlt
    exact Nat.le_of_lt_succ hlt
  have hfirst : Site.anchor (os ++ (body ++ [word .closeParen, endToken])) ⟨0, 1⟩ =
      Site.anchor os ⟨0, 1⟩ := by
    have htake : (os ++ (body ++ [word .closeParen, endToken])).take os.length =
        os.take os.length := by simp
    exact Site.anchor_congr htake ho.length_pos
  have hsites : parseSites (os ++ (body ++ [word .closeParen, endToken])) =
      .error (failure.inGroup enclosure os.length) :=
    parseWithin_inGroup (by decide) ho hend hb rfl (hroom ▸ h) [endToken]
  have hinner : ((failure.map (Site.inward os.length)).map
      (Site.anchor (os ++ (body ++ [word .closeParen, endToken])))) =
      failure.map (Site.anchorInside (body ++ [endToken]) (textLength os)) := by
    rw [Failure.map_map]
    exact Failure.map_congr fun site hsite => Site.anchor_inward os hend (hindex site hsite)
  rw [parse_of_parseSites hsites, Failure.inGroup, Failure.anchored, Failure.map, hfirst, hinner]

/-- **A refused text is refused alike in parentheses**, with or without a `!` in front, if that
leaves room below the nesting limit. Each link of the failure is a level deeper and as much further
on as the group takes up before the text, and where one was anchored at the end of the text, it is
anchored at the parenthesis that closes the group. -/
theorem read_wrapped_of_error {text : String} {refusal : Failure Anchor}
    (htext : ofText text = .ok tokens) (hopens : OpensWithin 126 tokens)
    (h : read text = .error (.tokens refusal)) :
    ∃ failure, parseSites tokens = .error failure ∧ failure.anchored tokens = refusal ∧
      read ("(" ++ text ++ ")") =
        .error (.tokens (.within .group ⟨"(", 0, 1⟩ (failure.map (Site.anchorInside tokens 1)))) ∧
      read ("!(" ++ text ++ ")") =
        .error (.tokens
          (.within .negation ⟨"!", 0, 1⟩ (failure.map (Site.anchorInside tokens 2)))) := by
  obtain ⟨failure, hs, hrefusal⟩ :=
    exists_parseSites_of_parse ((read_eq_error_tokens_iff htext).1 h)
  obtain ⟨body, rfl, hl, hb⟩ := exists_laid_of_ofText htext
  have hend := hl.kind_ne_endOfText
  have henclosed : Neutral (enclosed body) := Neutral.enclosed rfl hb.neutral rfl
  have hnot : Neutral [word .not] := neutral_singleton (by decide) (by decide)
  refine ⟨failure, hs, hrefusal, ?_, ?_⟩
  · have hgroup : ofText ("(" ++ text ++ ")") =
        .ok ([word .openParen] ++ (body ++ [word .closeParen, endToken])) := by
      rw [ofText_of_laid (laid_enclosed hl) henclosed.balanced, enclosed]
      simp
    rw [read_eq_error_tokens_iff hgroup]
    exact parse_inGroup (.group rfl) hend hb hopens hs
  · have hnegation : ofText ("!(" ++ text ++ ")") =
        .ok ([word .not, word .openParen] ++ (body ++ [word .closeParen, endToken])) := by
      rw [ofText_of_laid (laid_negation hl) (hnot.append henclosed).balanced, enclosed]
      simp
    rw [read_eq_error_tokens_iff hnegation]
    exact parse_inGroup (.negation rfl rfl) hend hb hopens hs

/-- Where the text of a match and an operator ends, an operand is missing; in a group it is missing
at the closing parenthesis. -/
theorem read_wrapped_of_error_matchAndNothing :
    ofText "\"query.a\" == \"1\" &&" = .ok matchAndNothing ∧ OpensWithin 126 matchAndNothing ∧
      read "\"query.a\" == \"1\" &&" =
        .error (.tokens (.raised .missingOperand ⟨"<EOF>", 12, 1⟩)) ∧
      read ("(" ++ "\"query.a\" == \"1\" &&" ++ ")") =
        .error (.tokens (.within .group ⟨"(", 0, 1⟩ (.raised .missingOperand ⟨")", 13, 2⟩))) ∧
      read ("!(" ++ "\"query.a\" == \"1\" &&" ++ ")") =
        .error (.tokens
          (.within .negation ⟨"!", 0, 1⟩ (.raised .missingOperand ⟨")", 14, 2⟩))) := by
  have htext : ofText "\"query.a\" == \"1\" &&" = .ok matchAndNothing := by cbv
  have hopens : OpensWithin 126 matchAndNothing := opensWithin_of_countKind_le (by decide)
  have hread : read "\"query.a\" == \"1\" &&" =
      .error (.tokens (.raised .missingOperand ⟨"<EOF>", 12, 1⟩)) := by
    rw [read_eq_error_tokens_iff htext, parse_of_parseSites parseSites_matchAndNothing]
    rfl
  obtain ⟨failure, hs, -, hgroup, hnegation⟩ := read_wrapped_of_error htext hopens hread
  rw [parseSites_matchAndNothing] at hs
  obtain rfl := Except.error.inj hs
  exact ⟨htext, hopens, hread, hgroup, hnegation⟩

end Rule

end TriggerRule
