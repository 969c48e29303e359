import TriggerRule.Rule.Operands

/-!
# The operands of a level as runs

A level keeps its operands under the last operator, so what it keeps changes its form whenever `&&`
follows `||` or the other way round. `Operands.reading` gives the form for the runs that have been
ended and the one that is being read, and there is a lemma for each thing that is done to a level:
an operand goes on with the run, `&&` leaves it, `||` ends it, and the level is closed to the
disjunction of the runs (`close_reading`).
-/

namespace TriggerRule

namespace Operands

/-! ## Any level -/

section Any

variable {operands : Operands}

theorem takesOperator_eq (operands : Operands) :
    operands.takesOperator = !operands.takesOperand := by
  simp [takesOperator, takesOperand]

@[simp] theorem takesOperand_add (operands : Operands) (part : Rule) :
    (operands.add part).takesOperand = false := by
  simp [add, takesOperand, isEmpty]

@[simp] theorem takesOperand_addAnd (operands : Operands) :
    operands.addAnd.takesOperand = true := by
  unfold addAnd
  split <;> simp [takesOperand]

@[simp] theorem takesOperand_addOr (operands : Operands) :
    operands.addOr.takesOperand = true := by
  unfold addOr
  split <;> simp [takesOperand]

theorem close_of_isEmpty (h : operands.isEmpty = true) : operands.close = .error .emptyLevel :=
  if_pos h

theorem close_of_dangling (he : operands.isEmpty = false) (hd : operands.dangling = true) :
    operands.close = .error .missingOperand := by
  simp [close, he, hd]

/-- Whatever the operands are, they fail to close for one of three causes; operands that have been
read by turns fail for the first two only. -/
theorem cause_of_close {cause : Cause} (h : operands.close = .error cause) :
    cause = .emptyLevel ∨ cause = .missingOperand ∨ cause = .unexpectedToken := by
  unfold close at h
  split at h
  · exact .inl (Except.error.inj h).symm
  · split at h
    · exact .inr (.inl (Except.error.inj h).symm)
    · refine .inr (.inr ?_)
      split at h
      · exact (Except.error.inj h).symm
      · split at h <;> cases h
      · cases h
      · cases h
      · exact (Except.error.inj h).symm

end Any

/-! ## The level behind runs -/

/-- The level at which the runs before the last `||` are the alternatives and a run has been read
behind it. One operand with no `&&` behind it is still a sibling of the alternatives. -/
def reading (alternatives : List Rule) : List Rule → Bool → Operands
  | [], dangling => ⟨alternatives, [], if alternatives.isEmpty then none else some .or, dangling⟩
  | [part], false =>
    ⟨alternatives ++ [part], [], if alternatives.isEmpty then none else some .or, false⟩
  | run, dangling => ⟨run, alternatives, some .and, dangling⟩

variable {alternatives run : List Rule} {dangling : Bool}

@[simp] theorem dangling_reading : (reading alternatives run dangling).dangling = dangling := by
  unfold reading
  split <;> rfl

@[simp] theorem isEmpty_reading :
    (reading alternatives run dangling).isEmpty = (alternatives.isEmpty && run.isEmpty) := by
  unfold reading
  split
  · simp [isEmpty]
  · simp [isEmpty]
  · next hnil hsingle =>
    cases run with
    | nil => exact absurd rfl hnil
    | cons part parts => simp [isEmpty]

theorem takesOperator_reading (h : run ≠ []) :
    (reading alternatives run false).takesOperator = true := by
  simp [takesOperator, h]

theorem add_reading (h : (reading alternatives run dangling).takesOperand = true)
    (operand : Rule) : (reading alternatives run dangling).add operand =
      reading alternatives (run ++ [operand]) false := by
  match run, dangling with
  | [], _ => simp [add, reading]
  | [part], true => rfl
  | [part], false => simp [takesOperand] at h
  | _ :: _ :: _, true => rfl
  | _ :: _ :: _, false => simp [takesOperand] at h

theorem addAnd_reading (h : run ≠ []) :
    (reading alternatives run dangling).addAnd = reading alternatives run true := by
  match run, dangling with
  | [], _ => exact absurd rfl h
  | [part], false =>
    match alternatives with
    | [] => rfl
    | first :: others =>
      -- the operand is taken away from the alternatives that it stood with
      have hlast : (first :: others ++ [part]).getLast? = some part := List.getLast?_concat
      have hinit : (first :: others ++ [part]).dropLast = first :: others := List.dropLast_concat
      simp only [reading, addAnd, hlast, hinit, List.isEmpty_cons]
      rfl
  | [part], true => rfl
  | _ :: _ :: _, _ => rfl

theorem addOr_reading (h : run ≠ []) :
    (reading alternatives run false).addOr =
      reading (alternatives ++ [Rule.conjunction run]) [] true := by
  match run with
  | [] => exact absurd rfl h
  | [part] => cases alternatives <;> simp [reading, addOr, Rule.conjunction]
  | _ :: _ :: _ => simp [reading, addOr, Rule.conjunction]

/-- A level that ends behind an operand is the disjunction of its runs. -/
theorem close_reading (h : run ≠ []) :
    (reading alternatives run false).close =
      .ok (Rule.disjunction (alternatives ++ [Rule.conjunction run])) := by
  match run with
  | [] => exact absurd rfl h
  | [_] => match alternatives with
    | [] | [_] | _ :: _ :: _ => rfl
  | _ :: _ :: _ => match alternatives with
    | [] | [_] | _ :: _ :: _ => rfl

end Operands

end TriggerRule
