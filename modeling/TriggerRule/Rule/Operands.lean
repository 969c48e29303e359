import TriggerRule.Failure
import TriggerRule.Rule

/-!
# One nesting level of a rule

At one level, operands alternate with `&&` and `||`, and `&&` binds tighter. So the operands that
have been read are siblings under the last operator. When `&&` follows `||`, the last sibling begins
a run of its own, and those before it are held until the run is ended by `||` or by the end of the
level; then the run is one part among them.
-/

namespace TriggerRule

/-- An operator between the operands of a level. -/
inductive Operator where
  | and
  | or
  deriving DecidableEq

/-- The operands that have been read at one level. -/
structure Operands where
  /-- The parts under the operator. -/
  siblings : List Rule
  /-- The parts of the disjunction in which the siblings are a run. -/
  held : List Rule
  /-- The last operator. -/
  operator : Option Operator
  /-- The last thing read is an operator. -/
  dangling : Bool

namespace Operands

/-- A level of which nothing has been read. -/
def empty : Operands := ⟨[], [], none, false⟩

def isEmpty (operands : Operands) : Bool := operands.siblings.isEmpty

def takesOperator (operands : Operands) : Bool := !operands.isEmpty && !operands.dangling

def takesOperand (operands : Operands) : Bool := operands.isEmpty || operands.dangling

def add (operands : Operands) (operand : Rule) : Operands :=
  { operands with siblings := operands.siblings ++ [operand], dangling := false }

/-- The level after `&&`, which takes the last sibling away from an `||`. -/
def addAnd (operands : Operands) : Operands :=
  match operands.operator, operands.siblings.getLast? with
  | some .or, some last => ⟨[last], operands.siblings.dropLast, some .and, true⟩
  | _, _ => { operands with operator := some .and, dangling := true }

/-- The level after `||`, which ends a run of `&&`. -/
def addOr (operands : Operands) : Operands :=
  match operands.operator with
  | some .and => ⟨operands.held ++ [.all operands.siblings], [], some .or, true⟩
  | _ => { operands with operator := some .or, dangling := true }

/-- The rule of a level that ends here. -/
def close (operands : Operands) : Except Cause Rule :=
  if operands.isEmpty then .error .emptyLevel
  else if operands.dangling then .error .missingOperand
  else match operands.operator, operands.siblings with
    | some _, [_] => .error .unexpectedToken
    | some .and, run =>
      if operands.held.isEmpty then .ok (.all run) else .ok (.any (operands.held ++ [.all run]))
    | some .or, parts => .ok (.any parts)
    | none, [part] => .ok part
    | none, _ => .error .unexpectedToken

end Operands

end TriggerRule
