/-!
# Decimal numbers

A number is kept as a coefficient of at most 64 binary digits and a power of ten. Decimal digits are
taken up into the coefficient while there is room, and after that dropped; dropped digits before the
point still count as places. Only the size of a number is ever asked for: `isFinite` says whether
the coefficient times the power, each of them rounded to a double first, rounds to a finite double.
Main statement: `roundToDouble_near`, rounding moves a number by half a unit of its last place at
most.
-/

namespace TriggerRule

/-- The bound that coefficients stay below. -/
def Decimal.coefficientLimit : Nat := Nat.pow 2 64

/-- A decimal number: a coefficient times a power of ten. -/
structure Decimal where
  negative : Bool
  coefficient : Nat
  exponent : Int
  coefficient_lt : coefficient < Decimal.coefficientLimit
  deriving DecidableEq

namespace Decimal

/-! ## Taking up digits -/

/-- Takes up digits behind a coefficient until one has no room, and gives the digits left over. -/
def takeUp (coefficient : Nat) : List Char → Nat × List Char
  | [] => (coefficient, [])
  | c :: cs =>
    let next := coefficient * 10 + (c.toNat - '0'.toNat)
    if next < coefficientLimit then takeUp next cs else (coefficient, c :: cs)

theorem takeUp_lt {coefficient : Nat} (h : coefficient < coefficientLimit) (digits : List Char) :
    (takeUp coefficient digits).1 < coefficientLimit := by
  induction digits generalizing coefficient with
  | nil => exact h
  | cons c cs ih =>
    simp only [takeUp]
    split
    · next hn => exact ih hn
    · exact h

/-- The number with these digits before and after the point, times a power of ten. -/
def ofDigits (negative : Bool) (whole fraction : List Char) (exponent : Int) : Decimal :=
  let before := takeUp 0 whole
  let after := takeUp before.1 fraction
  { negative
    coefficient := after.1
    exponent := exponent + before.2.length - (fraction.length - after.2.length)
    coefficient_lt := takeUp_lt (takeUp_lt (by decide) whole) fraction }

/-! ## The range of doubles -/

/-- The last place of a number of 53 binary digits or more; a shorter one has none after the
unit. -/
def lastPlace (n : Nat) : Nat := Nat.pow 2 (n.log2 - 52)

/-- A number rounded to 53 binary digits; a tie goes to the even neighbour. -/
def roundToDouble (n : Nat) : Nat :=
  let unit := lastPlace n
  let excess := n % unit
  if 2 * excess < unit ∨ (2 * excess = unit ∧ n / unit % 2 = 0) then n / unit * unit
  else (n / unit + 1) * unit

theorem roundToDouble_near (n : Nat) :
    2 * n ≤ 2 * roundToDouble n + lastPlace n ∧ 2 * roundToDouble n ≤ 2 * n + lastPlace n := by
  have hd := Nat.div_add_mod' n (lastPlace n)
  have hm := Nat.mod_lt n (show 0 < lastPlace n from Nat.pow_pos (by decide))
  simp only [roundToDouble]
  split
  · omega
  · rw [Nat.add_mul]
    omega

/-- From here on a number rounds to infinity: half a unit above the greatest double. -/
def overflow : Nat := Nat.pow 2 1024 - Nat.pow 2 970

/-- The greatest power of ten that is a finite double. -/
def maxPower : Nat := 308

/-- Whether the coefficient times the power, each rounded to a double, rounds to a finite double.
Without a positive power the coefficient bounds the number. -/
def isFinite (value : Decimal) : Bool :=
  match value.exponent with
  | .negSucc _ => true
  | .ofNat power =>
    value.coefficient == 0 ||
      (power ≤ maxPower &&
        roundToDouble value.coefficient * roundToDouble (Nat.pow 10 power) < overflow)

end Decimal

end TriggerRule
