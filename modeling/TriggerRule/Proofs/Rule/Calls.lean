import Mathlib.Data.List.Induction
import TriggerRule.Proofs.Rule.Operands

/-!
# A level and its calls

A level takes operands and operators by turns, and is closed to the tree in which `&&` binds tighter
than `||`. The tree is stated apart from the level: the calls are split at the `||`, and each part
of them is a run (`tree`). What a level holds depends on the last call (`Stands`), each call that is
taken keeps that (`Stands.perform`), and so do all. Main statement: `close_of_calls`.
-/

namespace TriggerRule

namespace Operands

/-- What is done to a level. -/
inductive Call where
  | add (operand : Rule)
  | and
  | or

namespace Call

def operand? : Call → Option Rule
  | add operand => some operand
  | and | or => none

def isOr : Call → Bool
  | or => true
  | add _ | and => false

/-- Whether the level takes what the call brings. -/
def taken (operands : Operands) : Call → Bool
  | add _ => operands.takesOperand
  | and | or => operands.takesOperator

def perform (operands : Operands) : Call → Operands
  | add operand => operands.add operand
  | and => operands.addAnd
  | or => operands.addOr

end Call

/-- The calls are made one after the other, each where the level takes it, and lead from the empty
level to the operands. -/
inductive Made : List Call → Operands → Prop
  | none : Made [] empty
  | call {calls : List Call} {operands : Operands} {call : Call} (h : Made calls operands)
    (ht : call.taken operands = true) : Made (calls ++ [call]) (call.perform operands)

/-- Operands and operators by turns, an operand first. -/
def Alternates (calls : List Call) : Prop :=
  ∀ index, (h : index < calls.length) →
    ((calls.get ⟨index, h⟩).operand?.isSome = true ↔ index % 2 = 0)

instance : DecidablePred Alternates := fun calls => Nat.decidableBallLT calls.length _

/-- The operands of the runs that the `||` leave. -/
def runs (calls : List Call) : List (List Rule) :=
  (calls.splitOnP Call.isOr).map (List.filterMap Call.operand?)

/-- The runs as conjunctions, and the disjunction of these. -/
def tree (calls : List Call) : Rule := Rule.disjunction ((runs calls).map Rule.conjunction)

variable {calls : List Call} {operands : Operands} {call : Call}

/-! ## The calls that are taken -/

theorem alternates_concat : Alternates (calls ++ [call]) ↔
    Alternates calls ∧ (call.operand?.isSome = true ↔ calls.length % 2 = 0) := by
  have hlength : (calls ++ [call]).length = calls.length + 1 := by simp
  constructor
  · intro h
    refine ⟨fun index hi => ?_, ?_⟩
    · have hindex := h index (by omega)
      rwa [List.get_eq_getElem, List.getElem_append_left hi] at hindex
    · have hlast := h calls.length (by omega)
      rwa [List.get_eq_getElem, List.getElem_concat_length rfl] at hlast
  · rintro ⟨h, hcall⟩ index hi
    rw [hlength] at hi
    rcases Nat.lt_succ_iff_lt_or_eq.1 hi with hi | rfl
    · rw [List.get_eq_getElem, List.getElem_append_left hi]
      exact h index hi
    · rwa [List.get_eq_getElem, List.getElem_concat_length rfl]

theorem Call.taken_iff : call.taken operands = true ↔
    (call.operand?.isSome = true ↔ operands.takesOperand = true) := by
  cases call <;> simp [taken, operand?, takesOperator_eq]

theorem Call.takesOperand_perform (operands : Operands) (call : Call) :
    (call.perform operands).takesOperand = !call.operand?.isSome := by
  cases call <;> simp [perform, operand?]

/-- An operand is due after an even number of calls. -/
theorem Made.takesOperand_iff (h : Made calls operands) :
    operands.takesOperand = true ↔ calls.length % 2 = 0 := by
  induction h with
  | none => decide
  | call h ht ih =>
    rw [Call.taken_iff, ih] at ht
    rw [Call.takesOperand_perform, List.length_append, List.length_singleton, Bool.not_eq_true',
      ← Bool.not_eq_true, ht]
    omega

theorem Made.alternates (h : Made calls operands) : Alternates calls := by
  induction h with
  | none => decide
  | call h ht ih =>
    rw [Call.taken_iff, h.takesOperand_iff] at ht
    exact alternates_concat.2 ⟨ih, ht⟩

theorem Alternates.exists_made (h : Alternates calls) : ∃ operands, Made calls operands := by
  induction calls using List.reverseRecOn with
  | nil => exact ⟨_, .none⟩
  | append_singleton calls call ih =>
    obtain ⟨hcalls, hcall⟩ := alternates_concat.1 h
    obtain ⟨operands, hm⟩ := ih hcalls
    rw [← hm.takesOperand_iff, ← Call.taken_iff] at hcall
    exact ⟨_, hm.call hcall⟩

/-! ## The runs of the calls -/

/-- Whatever is no separator goes on with the last part. -/
theorem exists_splitOnP_append {α : Type} (p : α → Bool) (xs : List α) :
    ∃ front last, ∀ ys, (∀ y ∈ ys, p y = false) →
      (xs ++ ys).splitOnP p = front ++ [last ++ ys] := by
  -- on the front: a separator there ends a part, and anything else goes to the first
  induction xs with
  | nil => exact ⟨[], [], fun ys hys => List.splitOnP_eq_singleton hys⟩
  | cons x xs ih =>
    obtain ⟨front, last, h⟩ := ih
    by_cases hx : p x = true
    · refine ⟨[] :: front, last, fun ys hys => ?_⟩
      rw [List.cons_append, List.splitOnP_cons_eq_if_modifyHead, if_pos hx, h ys hys]
      rfl
    · cases front with
      | nil =>
        refine ⟨[], x :: last, fun ys hys => ?_⟩
        rw [List.cons_append, List.splitOnP_cons_eq_if_modifyHead, if_neg hx, h ys hys]
        rfl
      | cons first front =>
        refine ⟨(x :: first) :: front, last, fun ys hys => ?_⟩
        rw [List.cons_append, List.splitOnP_cons_eq_if_modifyHead, if_neg hx, h ys hys]
        rfl

section Runs

variable {before : List (List Rule)} {run : List Rule}

theorem runs_concat (h : runs calls = before ++ [run]) (hc : call.isOr = false) :
    runs (calls ++ [call]) = before ++ [run ++ call.operand?.toList] := by
  obtain ⟨front, last, hsplit⟩ := exists_splitOnP_append Call.isOr calls
  have hcalls := hsplit [] (by simp)
  rw [List.append_nil, List.append_nil] at hcalls
  rw [runs, hcalls, List.map_append, List.map_singleton] at h
  obtain ⟨rfl, hrun⟩ := List.append_inj' h rfl
  rw [runs, hsplit [call] (by simp [hc]), List.map_append, List.map_singleton,
    List.filterMap_append, List.singleton_inj.1 hrun]
  cases call <;> rfl

theorem runs_concat_add (h : runs calls = before ++ [run]) (operand : Rule) :
    runs (calls ++ [.add operand]) = before ++ [run ++ [operand]] := runs_concat h rfl

theorem runs_concat_and (h : runs calls = before ++ [run]) :
    runs (calls ++ [.and]) = before ++ [run] := by
  rw [runs_concat h rfl, Call.operand?, Option.toList_none, List.append_nil]

theorem runs_concat_or (calls : List Call) : runs (calls ++ [.or]) = runs calls ++ [[]] := by
  rw [runs, List.splitOnP_append_cons calls [] rfl, List.map_append]
  rfl

/-! ## The level behind the calls -/

/-- What the level holds behind the calls, by the last of them. -/
inductive Stands : List Call → Operands → Prop
  | start : Stands [] empty
  | add {calls : List Call} {operand : Rule} {before : List (List Rule)} {run : List Rule}
    (h : runs (calls ++ [.add operand]) = before ++ [run]) (hne : run ≠ []) :
    Stands (calls ++ [.add operand]) (reading (before.map Rule.conjunction) run false)
  | and {calls : List Call} {before : List (List Rule)} {run : List Rule}
    (h : runs calls = before ++ [run]) (hne : run ≠ []) :
    Stands (calls ++ [.and]) (reading (before.map Rule.conjunction) run true)
  | or {calls : List Call} (hne : runs calls ≠ []) :
    Stands (calls ++ [.or]) (reading ((runs calls).map Rule.conjunction) [] true)

theorem Stands.add_operand {operand : Rule} (h : Stands calls operands)
    (ho : operands.takesOperand = true) :
    Stands (calls ++ [.add operand]) (operands.add operand) := by
  cases h with
  | start => exact @Stands.add [] operand [] [operand] rfl (by simp)
  | add h hne => simp [takesOperand, hne] at ho
  | and h hne =>
    rw [add_reading ho]
    exact .add (runs_concat_add (runs_concat_and h) operand) (by simp)
  | or hne =>
    rw [add_reading ho]
    exact .add (runs_concat_add (runs_concat_or _) operand) (by simp)

/-- Operators are taken behind an operand only. -/
theorem Stands.exists_of_takesOperator (h : Stands calls operands)
    (ho : operands.takesOperator = true) : ∃ before run, runs calls = before ++ [run] ∧ run ≠ [] ∧
      operands = reading (before.map Rule.conjunction) run false := by
  cases h with
  | start => cases ho
  | add h hne => exact ⟨_, _, h, hne, rfl⟩
  | and h hne => simp [takesOperator] at ho
  | or hne => simp [takesOperator] at ho

theorem Stands.perform (h : Stands calls operands) (ht : call.taken operands = true) :
    Stands (calls ++ [call]) (call.perform operands) := by
  cases call with
  | add operand => exact h.add_operand ht
  | and =>
    obtain ⟨before, run, hruns, hne, rfl⟩ := h.exists_of_takesOperator ht
    rw [Call.perform, addAnd_reading hne]
    exact .and hruns hne
  | or =>
    obtain ⟨before, run, hruns, hne, rfl⟩ := h.exists_of_takesOperator ht
    -- the run that is ended is one of the runs of all calls so far
    have hstands : Stands (calls ++ [.or]) _ := .or (by simp [hruns])
    rw [hruns, List.map_append] at hstands
    rw [Call.perform, addOr_reading hne]
    exact hstands

theorem Made.stands (h : Made calls operands) : Stands calls operands := by
  induction h with
  | none => exact .start
  | call h ht ih => exact ih.perform ht

theorem tree_eq (h : runs calls = before ++ [run]) :
    tree calls = Rule.disjunction (before.map Rule.conjunction ++ [Rule.conjunction run]) := by
  rw [tree, h, List.map_append, List.map_singleton]

end Runs

/-- **What a level is closed to.** The calls that a level takes are operands and operators by turns.
With no call the level is empty, behind an operator an operand is missing, and behind an operand it
is closed to the tree of its runs; it never ends in an unexpected token. -/
theorem close_of_calls (calls : List Call) :
    ((∃ operands, Made calls operands) ↔ Alternates calls) ∧
      ∀ operands, Made calls operands →
        (operands.close = .error .emptyLevel ↔ calls = []) ∧
        (operands.close = .error .missingOperand ↔
          calls.getLast? = some .and ∨ calls.getLast? = some .or) ∧
        (∀ operand, calls.getLast? = some (.add operand) → operands.close = .ok (tree calls)) ∧
        operands.close ≠ .error .unexpectedToken := by
  refine ⟨⟨fun ⟨operands, h⟩ => h.alternates, Alternates.exists_made⟩, fun operands h => ?_⟩
  cases h.stands with
  | start =>
    have hempty : empty.isEmpty = true := rfl
    simp [close_of_isEmpty hempty]
  | add hruns hne => simp [close_reading hne, ← tree_eq hruns]
  | and hruns hne => simp [close_of_dangling, hne]
  | or hne => simp [close_of_dangling, hne]

/-- A match of a query parameter. -/
def queried (name : String) : Rule := .leaf ⟨⟨.query, name⟩, .value "1"⟩

/-- `a || b && c || d`, as calls. -/
def runAmongOthers : List Call :=
  [.add (queried "a"), .or, .add (queried "b"), .and, .add (queried "c"), .or, .add (queried "d")]

/-- The run in the middle is one part of the disjunction. -/
theorem close_of_calls_runAmongOthers : ∃ operands, Made runAmongOthers operands ∧
    operands.close =
      .ok (.any [queried "a", .all [queried "b", queried "c"], queried "d"]) := by
  obtain ⟨hturns, hclose⟩ := close_of_calls runAmongOthers
  obtain ⟨operands, h⟩ := hturns.2 (by decide)
  exact ⟨operands, h, (hclose operands h).2.2.1 (queried "d") rfl⟩

end Operands

end TriggerRule
