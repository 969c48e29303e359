import TriggerRule.Proofs.Rule.Enclosing
import TriggerRule.Proofs.Rule.Repair

/-!
# The lines of a message

The message of a failure is written from the outside inwards, and each link indents what is inside
it. So the message is a list of lines (`texts`): one for each link, and one for the detail of the
cause if there is one. The first line is not indented, and each of the others by the level of the
link before it (`intercalate_indented`). When tokens are no rule, the links are at the levels from
the first on, and each line has one tab more than the one before. Main statement:
`message_eq_lines`.
-/

namespace TriggerRule

namespace Failure

/-! ## Lines -/

def tabs (count : Nat) : String := String.ofList (List.replicate count '\t')

/-- A line behind so many tabs. -/
def indented (count : Nat) (text : String) : String := tabs count ++ text

/-- What the lines of a failure say: the headers of its links from the outside inwards, and the
detail of the cause. -/
def texts (failure : Failure Anchor) : List String :=
  failure.enclosures.map (fun group => group.2.header group.1.headline) ++
    failure.origin.2.header failure.origin.1.headline :: failure.origin.1.detail.toList

theorem newLine_eq (anchor : Anchor) : anchor.newLine = "\n" ++ tabs anchor.depth := by
  rw [Anchor.newLine, tabs, ← String.toList_inj]
  simp

theorem isSome_detail_iff {cause : Cause} : cause.detail.isSome = true ↔
    (∃ refusal, cause = .badReference refusal) ∨ cause = .badHashTarget ∨
      cause = .nestingTooDeep := by
  cases cause <;> simp [Cause.detail]

/-- The lines are separated by line breaks. The first of them is indented as one likes, and each
other by the level of the link before it. -/
theorem intercalate_indented (indent : Nat) (failure : Failure Anchor) :
    "\n".intercalate
        (List.zipWith indented (indent :: failure.anchors.map Anchor.depth) failure.texts) =
      tabs indent ++ failure.message := by
  induction failure generalizing indent with
  | raised cause anchor =>
    simp only [texts, enclosures, origin, anchors, message, List.map_nil, List.map_cons,
      List.nil_append, List.zipWith_cons_cons]
    cases cause.detail with
    | none => simp [indented]
    | some detail =>
      simp [indented, newLine_eq, String.append_assoc]
  | within enclosure anchor inner ih =>
    have htexts : (within enclosure anchor inner).texts =
        anchor.header enclosure.headline :: inner.texts := rfl
    have hinner := ih anchor.depth
    have hne : List.zipWith indented (anchor.depth :: inner.anchors.map Anchor.depth) inner.texts
        ≠ [] := by simp [texts]
    rw [htexts, anchors, List.map_cons, List.zipWith_cons_cons,
      String.intercalate_cons_of_ne_nil hne, hinner, message, newLine_eq, indented]
    simp only [String.append_assoc]

theorem message_eq_intercalate (failure : Failure Anchor) :
    failure.message = "\n".intercalate
      (List.zipWith indented (0 :: failure.anchors.map Anchor.depth) failure.texts) := by
  rw [intercalate_indented]
  exact (String.empty_append).symm

/-- There is a line for each link, and one more at most. -/
theorem length_texts_le (failure : Failure Anchor) :
    failure.texts.length ≤ failure.anchors.length + 1 := by
  have hdetail := failure.origin.1.detail.length_toList_le
  have hlength : failure.anchors.length = failure.enclosures.length + 1 := by
    rw [← failure.wrap_enclosures, anchors_wrap, enclosures_wrap]
    simp
  simp only [texts, List.length_append, List.length_map, List.length_cons]
  omega

/-- Links at the levels from the first on have their lines indented one by one. -/
theorem message_of_levels {failure : Failure Anchor}
    (h : failure.anchors.map Anchor.depth = List.range' 1 failure.anchors.length) :
    failure.message = "\n".intercalate (failure.texts.mapIdx indented) := by
  have hlength := failure.length_texts_le
  have hrange : 0 :: List.range' 1 failure.anchors.length =
      List.range' 0 (failure.anchors.length + 1) := rfl
  rw [message_eq_intercalate, h, hrange]
  congr 1
  apply List.ext_getElem
  · simp only [List.length_zipWith, List.length_range', List.length_mapIdx]
    omega
  · intro i hi hi'
    rw [List.getElem_zipWith, List.getElem_mapIdx, List.getElem_range']
    simp

end Failure

/-! ## The message of a refusal -/

theorem Rule.map_depth_anchors_of_parse {tokens : List Token} {refusal : Failure Anchor}
    (h : parse tokens = .error refusal) :
    refusal.anchors.map Anchor.depth = List.range' 1 refusal.anchors.length := by
  obtain ⟨failure, hs, rfl⟩ := exists_parseSites_of_parse h
  obtain ⟨ts, rest, nest, rfl, -, hstop⟩ := Nest.exists_stops_of_parseWithin hs
  obtain ⟨cause, stop, -, rfl⟩ := hstop.exists_blocks
  have hlevels : ((nest.fail cause stop).anchored (ts ++ rest)).anchors.map Anchor.depth =
      List.range' 1 nest.depth := by
    rw [Failure.anchored, Failure.anchors_map, List.map_map]
    exact Nest.map_depth_anchors_fail
  have hlength := congrArg List.length hlevels
  rw [List.length_map, List.length_range'] at hlength
  rw [hlevels, hlength]

namespace Failure

/-- **The message of a failure, line by line**, whatever groups its cause lies in and whatever its
anchors are: the headers of the links, each indented by the level of the link before it, and the
detail of the cause, indented by the level of the last link. Of tokens that are no rule, the header
of each link is indented by as many tabs as there are links before it, and the detail by one
more. -/
theorem message_eq_lines :
    (∀ failure : Failure Anchor, ∃ groups cause anchor, failure = wrap groups cause anchor) ∧
    (∀ (groups : List (Enclosure × Anchor)) (cause : Cause) (anchor : Anchor),
      (wrap groups cause anchor).origin = (cause, anchor) ∧
      (wrap groups cause anchor).message = "\n".intercalate
        (List.zipWith indented
          (0 :: (groups.map (fun group => group.2.depth) ++ [anchor.depth]))
          (groups.map (fun group => group.2.header group.1.headline) ++
            anchor.header cause.headline :: cause.detail.toList))) ∧
    (∀ cause : Cause, cause.detail.isSome = true ↔
      (∃ refusal, cause = .badReference refusal) ∨ cause = .badHashTarget ∨
        cause = .nestingTooDeep) ∧
    ∀ (tokens : List Token) (refusal : Failure Anchor), Rule.parse tokens = .error refusal →
      refusal.message = "\n".intercalate (refusal.texts.mapIdx indented) := by
  refine ⟨fun failure => ⟨_, _, _, failure.wrap_enclosures.symm⟩,
    fun groups cause anchor => ⟨origin_wrap groups cause anchor, ?_⟩,
    fun _ => isSome_detail_iff, fun tokens refusal h => ?_⟩
  · rw [message_eq_intercalate, texts, origin_wrap, enclosures_wrap, anchors_wrap,
      List.map_append, List.map_map]
    rfl
  · exact message_of_levels (Rule.map_depth_anchors_of_parse h)

/-- A hash over the query inside a group: two links and a detail. -/
theorem message_eq_lines_hashOfQuery :
    ∃ refusal, Rule.parse Rule.hashOfQuery = .error refusal ∧
      refusal.message = "error parsing expression group (token: (, pos: 0)\n" ++
        "\tsyntax error (token: query.b, pos: 15)\n" ++ "\t\tsha1 target must be payload" := by
  have hparse := Rule.parse_of_parseSites Rule.parseSites_hashOfQuery
  refine ⟨_, hparse, ?_⟩
  rw [message_eq_lines.2.2.2 _ _ hparse]
  rfl

end Failure

end TriggerRule
