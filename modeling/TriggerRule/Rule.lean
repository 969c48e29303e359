import TriggerRule.Reference

/-!
# Trigger rules

A rule compares parameters of a request with literals, and combines such matches by conjunction,
disjunction and negation. `leaves` lists the matches from left to right; `visitLeaves` visits them
in that order and stops at the first visit that fails.
-/

namespace TriggerRule

/-- What a parameter is held against. -/
inductive Test where
  /-- The parameter equals the text. -/
  | value (text : String)
  /-- The regular expression matches the parameter; it is kept as text. -/
  | regex (pattern : String)
  /-- The parameter is the signature of the payload under the secret. -/
  | sha1 (secret : String)
  deriving DecidableEq, Inhabited

structure Match where
  parameter : Reference
  test : Test
  deriving DecidableEq, Inhabited

/-- A trigger rule. Rules read from text have two or more parts in every `all` and `any`; a rule
loaded from a document may have any number. -/
inductive Rule where
  | leaf (condition : Match)
  | all (parts : List Rule)
  | any (parts : List Rule)
  | not (part : Rule)

namespace Rule

instance : Inhabited Rule := ⟨.leaf default⟩

/-! ## Equality -/

mutual

def decEq : (a b : Rule) → Decidable (a = b)
  | leaf m, leaf n => if h : m = n then isTrue (h ▸ rfl) else isFalse (by simpa using h)
  | all rs, all ss =>
    match decEqList rs ss with
    | isTrue h => isTrue (h ▸ rfl)
    | isFalse h => isFalse (by simpa using h)
  | any rs, any ss =>
    match decEqList rs ss with
    | isTrue h => isTrue (h ▸ rfl)
    | isFalse h => isFalse (by simpa using h)
  | not r, not s =>
    match decEq r s with
    | isTrue h => isTrue (h ▸ rfl)
    | isFalse h => isFalse (by simpa using h)
  | leaf _, all _ | leaf _, any _ | leaf _, not _ | all _, leaf _ | all _, any _ | all _, not _
  | any _, leaf _ | any _, all _ | any _, not _ | not _, leaf _ | not _, all _ | not _, any _ =>
    isFalse (by simp)

def decEqList : (rs ss : List Rule) → Decidable (rs = ss)
  | [], [] => isTrue rfl
  | r :: rs, s :: ss =>
    match decEq r s, decEqList rs ss with
    | isTrue h, isTrue hs => isTrue (h ▸ hs ▸ rfl)
    | isFalse h, _ => isFalse (by simp [h])
    | _, isFalse h => isFalse (by simp [h])
  | [], _ :: _ | _ :: _, [] => isFalse (by simp)

end

instance : DecidableEq Rule := decEq

/-! ## The matches of a rule -/

mutual

/-- The matches of a rule, from left to right. -/
def leaves : Rule → List Match
  | leaf m => [m]
  | all parts => leavesList parts
  | any parts => leavesList parts
  | not part => part.leaves

def leavesList : List Rule → List Match
  | [] => []
  | part :: parts => part.leaves ++ leavesList parts

end

mutual

/-- Visits the matches of a rule from left to right; a visit that fails is the last. -/
def visitLeaves {m : Type → Type} [Monad m] (visit : Match → m Unit) : Rule → m Unit
  | leaf condition => visit condition
  | all parts => visitLeavesList visit parts
  | any parts => visitLeavesList visit parts
  | not part => part.visitLeaves visit

def visitLeavesList {m : Type → Type} [Monad m] (visit : Match → m Unit) : List Rule → m Unit
  | [] => pure ()
  | part :: parts => do
    part.visitLeaves visit
    visitLeavesList visit parts

end

/-! ## Combining parts -/

/-- The conjunction of a run of parts; one part alone is not wrapped. -/
def conjunction : List Rule → Rule
  | [part] => part
  | parts => all parts

/-- The disjunction of alternatives; one alternative alone is not wrapped. -/
def disjunction : List Rule → Rule
  | [part] => part
  | parts => any parts

end Rule

end TriggerRule
