import TriggerRule.Reference

/-!
# Reading a reference back

What is read as a reference is its rendering, and its name is not empty: `render_of_parse`,
`name_ne_of_parse`. The text of a reference ends as its name does (`getLast?_render`). A text has no
dot or is what stands before its first dot and behind it (`exists_eq_append_dot`), and these two
settle what it is read as (`parse_append_dot`, `parse_source_append_dot`). Main statement:
`parse_rendered_or_refused`.
-/

namespace TriggerRule

theorem Source.ofName?_eq_none_iff {text : String} :
    ofName? text = none ↔ text ∉ all.map name := by
  simp [ofName?]

namespace Reference

theorem exists_of_parse {text : String} {reference : Reference}
    (h : parse text = .ok reference) :
    ∃ before name, splitAtDot text.toList = some (before, name) ∧
      Source.ofName? (String.ofList before) = some reference.source ∧ name ≠ [] ∧
      reference.name = String.ofList name := by
  unfold parse at h
  split at h
  · simp at h
  · next before name hsplit =>
    split at h
    · simp at h
    · next source hsource =>
      split at h
      · simp at h
      · next hname =>
        obtain rfl := Except.ok.inj h
        have hne : name ≠ [] := by simpa using hname
        exact ⟨before, name, hsplit, hsource, hne, rfl⟩

theorem name_ne_of_parse {text : String} {reference : Reference}
    (h : parse text = .ok reference) : reference.name ≠ "" := by
  obtain ⟨before, name, -, -, hne, hname⟩ := exists_of_parse h
  rw [hname]
  simpa using hne

/-- The text of a reference is the only one that is read as it. -/
theorem render_of_parse {text : String} {reference : Reference}
    (h : parse text = .ok reference) : reference.render = text := by
  obtain ⟨before, name, hsplit, hsource, -, hname⟩ := exists_of_parse h
  obtain ⟨htext, -⟩ := splitAtDot_eq_some_iff.1 hsplit
  rw [render, Source.name_of_ofName? hsource, hname, ← String.toList_inj, htext]
  simp

/-- A reference without a name ends in a dot. -/
theorem getLast?_render {c : Char} (hc : c ≠ '.') (reference : Reference) :
    reference.render.toList.getLast? = some c ↔ reference.name.toList.getLast? = some c := by
  have h : reference.render.toList =
      reference.source.name.toList ++ '.' :: reference.name.toList := by simp [render]
  rw [h, List.getLast?_append, List.getLast?_cons]
  cases hname : reference.name.toList with
  | nil => simpa using hc.symm
  | cons d ds => simp [List.getLast?_cons]

/-! ## What any text is read as -/

variable {text before name : String}

theorem parse_of_notMem (h : '.' ∉ text.toList) : parse text = .error .missingDot := by
  rw [parse, splitAtDot_eq_none_iff.2 h]

theorem splitAtDot_append_dot (h : '.' ∉ before.toList) (name : String) :
    splitAtDot (before ++ "." ++ name).toList = some (before.toList, name.toList) := by
  rw [splitAtDot_eq_some_iff]
  exact ⟨by simp, h⟩

theorem parse_append_dot (hs : Source.ofName? before = none) (h : '.' ∉ before.toList)
    (name : String) : parse (before ++ "." ++ name) = .error (.unknownSource before) := by
  rw [parse, splitAtDot_append_dot h]
  simp [hs]

theorem parse_source_append_dot (source : Source) (name : String) :
    parse (source.name ++ "." ++ name) =
      if name = "" then .error .blankName else .ok ⟨source, name⟩ := by
  rw [parse, splitAtDot_append_dot (dot_notMem_name source)]
  simp [Source.ofName?_name]

theorem exists_eq_append_dot (h : '.' ∈ text.toList) :
    ∃ before name, text = before ++ "." ++ name ∧ '.' ∉ before.toList := by
  cases hs : splitAtDot text.toList with
  | none => exact absurd h (splitAtDot_eq_none_iff.1 hs)
  | some parts =>
    obtain ⟨htext, hbefore⟩ := splitAtDot_eq_some_iff.1 hs
    refine ⟨String.ofList parts.1, String.ofList parts.2, ?_, by simpa using hbefore⟩
    rw [← String.toList_inj, htext]
    simp

/-- Why a text is no reference. -/
theorem exists_of_parse_eq_error {refusal : Refusal} (h : parse text = .error refusal) :
    refusal = .missingDot ∧ '.' ∉ text.toList ∨
      (∃ before name, refusal = .unknownSource before ∧ before ∉ Source.all.map Source.name ∧
        '.' ∉ before.toList ∧ text = before ++ "." ++ name) ∨
      refusal = .blankName ∧ ∃ source : Source, text = source.name ++ "." := by
  by_cases hdot : '.' ∈ text.toList
  · obtain ⟨before, name, rfl, hbefore⟩ := exists_eq_append_dot hdot
    cases hs : Source.ofName? before with
    | none =>
      rw [parse_append_dot hs hbefore] at h
      obtain rfl := Except.error.inj h
      exact .inr (.inl ⟨before, name, rfl, Source.ofName?_eq_none_iff.1 hs, hbefore, rfl⟩)
    | some source =>
      obtain rfl := Source.name_of_ofName? hs
      rw [parse_source_append_dot] at h
      split at h
      · next hname =>
        obtain rfl := Except.error.inj h
        exact .inr (.inr ⟨rfl, source, by rw [hname, String.append_empty]⟩)
      · simp at h
  · rw [parse_of_notMem hdot] at h
    exact .inl ⟨(Except.error.inj h).symm, hdot⟩

theorem parse_eq_missingDot_iff : parse text = .error .missingDot ↔ '.' ∉ text.toList := by
  constructor
  · intro h
    rcases exists_of_parse_eq_error h with ⟨-, hdot⟩ | ⟨_, _, heq, -⟩ | ⟨heq, -⟩
    · exact hdot
    · cases heq
    · cases heq
  · exact parse_of_notMem

theorem parse_eq_unknownSource_iff : parse text = .error (.unknownSource before) ↔
    before ∉ Source.all.map Source.name ∧ '.' ∉ before.toList ∧
      ∃ name, text = before ++ "." ++ name := by
  constructor
  · intro h
    rcases exists_of_parse_eq_error h with ⟨heq, -⟩ | ⟨_, name, heq, hs, hdot, htext⟩ | ⟨heq, -⟩
    · cases heq
    · obtain rfl := Refusal.unknownSource.inj heq
      exact ⟨hs, hdot, name, htext⟩
    · cases heq
  · rintro ⟨hs, hdot, name, rfl⟩
    exact parse_append_dot (Source.ofName?_eq_none_iff.2 hs) hdot name

theorem parse_eq_blankName_iff :
    parse text = .error .blankName ↔ ∃ source : Source, text = source.name ++ "." := by
  constructor
  · intro h
    rcases exists_of_parse_eq_error h with ⟨heq, -⟩ | ⟨_, _, heq, -⟩ | ⟨-, hsource⟩
    · cases heq
    · cases heq
    · exact hsource
  · rintro ⟨source, rfl⟩
    have hparse := parse_source_append_dot source ""
    rw [String.append_empty] at hparse
    exact hparse

/-- **A text is read as a reference** if and only if it is the rendering of the reference and the
name in it is not empty. Of the other texts, those without a dot miss one, those with something else
than the name of a source before the first dot have an unknown source, and the name of a source with
a dot and nothing behind it has a blank name. -/
theorem parse_rendered_or_refused (text : String) :
    (∀ reference, parse text = .ok reference ↔
      reference.name ≠ "" ∧ text = reference.render) ∧
    (parse text = .error .missingDot ↔ '.' ∉ text.toList) ∧
    (∀ before, parse text = .error (.unknownSource before) ↔
      before ∉ Source.all.map Source.name ∧ '.' ∉ before.toList ∧
        ∃ name, text = before ++ "." ++ name) ∧
    (parse text = .error .blankName ↔ ∃ source : Source, text = source.name ++ ".") := by
  refine ⟨?_, parse_eq_missingDot_iff, fun _ => parse_eq_unknownSource_iff,
    parse_eq_blankName_iff⟩
  intro reference
  constructor
  · intro h
    exact ⟨name_ne_of_parse h, (render_of_parse h).symm⟩
  · rintro ⟨hname, rfl⟩
    exact parse_render hname

/-- Of the two faults the source is reported, although nothing stands behind the dot. -/
example : parse "body." = .error (.unknownSource "body") := by rfl

end Reference

end TriggerRule
