import TriggerRule.Source

/-!
# Parameter references

A parameter is written `source.name`. The text is split at its first dot, so that `payload.a.b` is
the field `a.b` of the payload. Main statements: `parse_render` reads back what `render` writes when
the name is not empty, and `splitAtDot_eq_some_iff` says where a text is split.
-/

namespace TriggerRule

/-- A parameter: a source, and a name within it. -/
structure Reference where
  source : Source
  name : String
  deriving DecidableEq, Inhabited

namespace Reference

inductive Refusal where
  /-- There is no dot between source and name. -/
  | missingDot
  /-- What stands before the first dot is the name of no source. -/
  | unknownSource (source : String)
  | blankName
  deriving DecidableEq

def Refusal.message : Refusal → String
  | .missingDot => "argument literal must be in format: source.name"
  | .unknownSource _ =>
    "parameter source must be one of [" ++ ", ".intercalate (Source.all.map Source.name) ++ "]"
  | .blankName => "parameter name cannot be blank"

/-- The text that `parse` reads as the reference. -/
def render (reference : Reference) : String :=
  reference.source.name ++ "." ++ reference.name

/-- What stands before and after the first dot of a text. -/
def splitAtDot : List Char → Option (List Char × List Char)
  | [] => none
  | c :: cs =>
    if c = '.' then some ([], cs)
    else (splitAtDot cs).map fun (before, after) => (c :: before, after)

/-- Reads a reference. A missing dot is reported before an unknown source, and that before a blank
name. -/
def parse (text : String) : Except Refusal Reference :=
  match splitAtDot text.toList with
  | none => .error .missingDot
  | some (before, name) =>
    match Source.ofName? (String.ofList before) with
    | none => .error (.unknownSource (String.ofList before))
    | some source =>
      if name.isEmpty then .error .blankName else .ok ⟨source, String.ofList name⟩

/-! ## Where a text is split -/

theorem splitAtDot_append {before after : List Char} (h : '.' ∉ before) :
    splitAtDot (before ++ '.' :: after) = some (before, after) := by
  induction before with
  | nil => simp [splitAtDot]
  | cons c cs ih =>
    simp only [List.mem_cons, not_or] at h
    simp [splitAtDot, ih h.2, Ne.symm h.1]

theorem splitAtDot_eq_some_iff {text before after : List Char} :
    splitAtDot text = some (before, after) ↔ text = before ++ '.' :: after ∧ '.' ∉ before := by
  refine ⟨fun h => ?_, fun ⟨h, hdot⟩ => h ▸ splitAtDot_append hdot⟩
  induction text generalizing before with
  | nil => simp [splitAtDot] at h
  | cons c cs ih =>
    rw [splitAtDot] at h
    split at h
    · next hc => simp_all
    · next hc =>
      simp only [Option.map_eq_some_iff, Prod.mk.injEq, Prod.exists] at h
      obtain ⟨b, a, hs, rfl, rfl⟩ := h
      obtain ⟨rfl, hb⟩ := ih hs
      exact ⟨rfl, by simp [hb, Ne.symm hc]⟩

theorem splitAtDot_eq_none_iff {text : List Char} : splitAtDot text = none ↔ '.' ∉ text := by
  induction text with
  | nil => simp [splitAtDot]
  | cons c cs ih =>
    rw [splitAtDot]
    split
    · next hc => simp [hc]
    · next hc => simp [ih, Ne.symm hc]

/-! ## Reading what was written -/

theorem dot_notMem_name (source : Source) : '.' ∉ source.name.toList := by
  cases source <;> decide

theorem splitAtDot_render (reference : Reference) :
    splitAtDot reference.render.toList =
      some (reference.source.name.toList, reference.name.toList) := by
  have h : reference.render.toList =
      reference.source.name.toList ++ '.' :: reference.name.toList := by
    simp [render]
  rw [h, splitAtDot_append (dot_notMem_name _)]

theorem parse_render {reference : Reference} (h : reference.name ≠ "") :
    parse reference.render = .ok reference := by
  simp [parse, splitAtDot_render, Source.ofName?_name, h]

end Reference

end TriggerRule
