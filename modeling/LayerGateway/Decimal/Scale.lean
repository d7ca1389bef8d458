import LayerGateway.Decimal.Binary64

/-!
# From decimal digits to a binary number

A decimal `significand · 10 ^ exponent` is read by rounding the significand and
then multiplying or dividing by a rounded power of ten, at most `10 ^ 308` at a
time, with a rounding after each step.  The result can differ from the nearest
number in its last digit; that is the rule of the format, not an accident of
this module.
-/

namespace LayerGateway.Decimal

namespace Binary64

/-- The largest power of ten that is used in one step. -/
def maxPower : Nat := 308

/-- The number nearest to `10 ^ power`. -/
def powerOfTen? (power : Nat) : Option Binary64 :=
  round? false (Nat.pow 10 power) 1 0

/-- Divides by `10 ^ maxPower` the given number of times, stopping at zero. -/
def divideRepeatedly : Nat → Binary64 → Option Binary64
  | 0, x => some x
  | steps + 1, x =>
      if x.mantissa = 0 then some x
      else do
        let y ← x.div? (← powerOfTen? maxPower)
        divideRepeatedly steps y

/-- How many whole divisions by `10 ^ maxPower` come before the last, smaller one. -/
def wholeSteps (power : Nat) : Nat :=
  (power - 1) / maxPower

/-- The number read for `significand · 10 ^ exponent`, or nothing when it is too large. -/
def ofDecimal? (significand : Nat) (exponent : Int) : Option Binary64 := do
  let start ← round? false significand 1 0
  if 0 ≤ exponent then
    if exponent.toNat ≤ maxPower then
      start.mul? (← powerOfTen? exponent.toNat)
    else if start.mantissa = 0 then some start
    else none
  else
    let power := (-exponent).toNat
    let steps := wholeSteps power
    let reduced ← divideRepeatedly steps start
    if reduced.mantissa = 0 then some reduced
    else reduced.div? (← powerOfTen? (power - steps * maxPower))

end Binary64

end LayerGateway.Decimal
