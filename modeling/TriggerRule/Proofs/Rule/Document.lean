import TriggerRule.Compile
import TriggerRule.Proofs.Json.RoundTrip
import TriggerRule.Proofs.Rule.Shape

/-!
# Loading what was written

The document of a rule or of a list of references is plain, and what is taken from it is what it was
made of (`Rule.ofJson?_toJson`, `Reference.listOfJson?_listToJson`). So rules and lists are loaded
back from their texts; only brackets that nest too deep keep a rule from it. Main statement:
`load?_write`.
-/

namespace TriggerRule

open Json (Plain)

/-! ## References -/

namespace Reference

theorem ofJson?_toJson (isNothing : Json → Bool) (reference : Reference) :
    ofJson? isNothing reference.toJson = some reference := by
  simp [toJson, ofJson?, ofParts?, Json.once?, Source.ofJson?, Json.text?, Source.ofName?_name]

theorem plain_toJson (reference : Reference) : reference.toJson.Plain := by
  simp [toJson, Json.Plain, Json.PlainEntries]

theorem listOfJson?_listToJson (references : List Reference) :
    listOfJson? (listToJson references) = some references := by
  rw [listToJson, listOfJson?]
  induction references with
  | nil => rfl
  | cons reference references ih => simp [List.mapM_cons, ofJson?_toJson, ih]

theorem plain_listToJson (references : List Reference) : (listToJson references).Plain := by
  rw [listToJson, Json.Plain]
  induction references with
  | nil => trivial
  | cons reference references ih => exact ⟨plain_toJson reference, ih⟩

end Reference

/-! ## Matches -/

namespace Match

theorem ofJson?_toJson (condition : Match) : ofJson? condition.toJson = some condition := by
  obtain ⟨parameter, test⟩ := condition
  cases test <;> simp [toJson, ofJson?, ofParts?, Json.once?, Json.text?, Test.tag, Test.key,
    Test.literal, Test.ofTag?, Reference.ofJson?_toJson]

theorem plain_toJson (condition : Match) : condition.toJson.Plain := by
  simp [toJson, Json.Plain, Json.PlainEntries, Reference.plain_toJson]

end Match

/-! ## Rules -/

namespace Rule

mutual

theorem ofJson?_toJson : ∀ rule : Rule, ofJson? rule.toJson = some rule
  | leaf condition => by simp [toJson, ofJson?, Match.ofJson?_toJson]
  | all parts => by simp [toJson, ofJson?, partsOfJson?, listOfJson?_listToJson parts]
  | any parts => by simp [toJson, ofJson?, partsOfJson?, listOfJson?_listToJson parts]
  | not part => by simp [toJson, ofJson?, ofJson?_toJson part]

theorem listOfJson?_listToJson : ∀ parts : List Rule, listOfJson? (listToJson parts) = some parts
  | [] => rfl
  | part :: parts => by
    simp [listToJson, listOfJson?, ofJson?_toJson part, listOfJson?_listToJson parts]

end

mutual

theorem plain_toJson : ∀ rule : Rule, rule.toJson.Plain
  | leaf condition => ⟨condition.plain_toJson, trivial⟩
  | all parts => ⟨plainItems_listToJson parts, trivial⟩
  | any parts => ⟨plainItems_listToJson parts, trivial⟩
  | not part => ⟨plain_toJson part, trivial⟩

theorem plainItems_listToJson : ∀ parts : List Rule, Json.PlainItems (listToJson parts)
  | [] => trivial
  | part :: parts => ⟨plain_toJson part, plainItems_listToJson parts⟩

end

end Rule

/-! ## Texts -/

theorem Json.read?_write {document : Json} (h : document.Plain) (indent : Bool) :
    read? (document.write indent) = some document := by
  cases indent with
  | false => exact read?_compact h
  | true => exact read?_indented h

/-- **What was written is loaded back** in either layout: a rule if and only if fewer than 128
brackets are open at once in its document, and a list of references always. -/
theorem load?_write (indent : Bool) :
    (∀ rule : Rule, Rule.load? (rule.write indent) = some rule ↔ rule.toJson.depth < 128) ∧
      ∀ references : List Reference,
        Reference.loadList? (Reference.writeList indent references) = some references := by
  refine ⟨fun rule => ?_, fun references => ?_⟩
  · have hp := rule.plain_toJson
    rw [Rule.load?, Rule.write, Json.read?_write hp, Option.bind_some, ← Json.isReadable_iff hp]
    by_cases hr : rule.toJson.isReadable = true
    · simp [hr, Rule.ofJson?_toJson]
    · simp [hr]
  · rw [Reference.loadList?, Reference.writeList,
      Json.read?_write (Reference.plain_listToJson references), Option.bind_some,
      Reference.listOfJson?_listToJson]

end TriggerRule
