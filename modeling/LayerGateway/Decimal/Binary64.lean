/-!
# Finite binary floating-point numbers

The numbers of the 64-bit binary format, zero included and infinities left out,
as sign, mantissa and exponent.  Arithmetic is exact on natural numbers followed
by one rounding to nearest, ties to even (`Binary64.round?`), so every operation
here can be computed in a proof.
-/

namespace LayerGateway.Decimal

/-- The number `± mantissa · 2 ^ exponent`.  `round?` only builds mantissas below
`2 ^ 53`, and keeps smaller mantissas than `2 ^ 52` for the least exponent. -/
structure Binary64 where
  negative : Bool
  mantissa : Nat
  exponent : Int
  deriving DecidableEq, Repr

namespace Binary64

/-- The exponent of the subnormal numbers and of zero. -/
def minExponent : Int := -1074

def maxExponent : Int := 971

def zero (negative : Bool) : Binary64 :=
  ⟨negative, 0, minExponent⟩

/-- The same number with the sign flipped. -/
def neg (x : Binary64) : Binary64 :=
  { x with negative := !x.negative }

/-- A quotient of natural numbers with a power of two moved into it. -/
def scaled (num den : Nat) (shift : Int) : Nat × Nat :=
  if 0 ≤ shift then (num * Nat.pow 2 shift.toNat, den)
  else (num, den * Nat.pow 2 (-shift).toNat)

/-- The quotient rounded to the nearest natural number, a half to the even one. -/
def nearest (num den : Nat) : Nat :=
  let quotient := num / den
  let rest := num % den
  if den < 2 * rest ∨ (den = 2 * rest ∧ quotient % 2 = 1) then quotient + 1 else quotient

/-- The exponent at which `num / den · 2 ^ shift` has 53 binary digits, or the least one. -/
def exponentFor (num den : Nat) (shift : Int) : Int :=
  let guess := max minExponent ((num.log2 : Int) - den.log2 + shift - 53)
  let (n, d) := scaled num den (shift - guess)
  if n / d < Nat.pow 2 53 then guess else guess + 1

/-- The number nearest to `± num / den · 2 ^ shift`, or nothing when that is too large. -/
def round? (negative : Bool) (num den : Nat) (shift : Int) : Option Binary64 :=
  if num = 0 then some (zero negative)
  else
    let exponent := exponentFor num den shift
    let (n, d) := scaled num den (shift - exponent)
    let mantissa := nearest n d
    let result : Binary64 :=
      if mantissa = Nat.pow 2 53 then ⟨negative, Nat.pow 2 52, exponent + 1⟩
      else ⟨negative, mantissa, exponent⟩
    if result.exponent ≤ maxExponent then some result else none

/-- The product, rounded. -/
def mul? (x y : Binary64) : Option Binary64 :=
  round? (x.negative != y.negative) (x.mantissa * y.mantissa) 1 (x.exponent + y.exponent)

/-- The quotient by a number that is not zero, rounded. -/
def div? (x y : Binary64) : Option Binary64 :=
  round? (x.negative != y.negative) x.mantissa y.mantissa (x.exponent - y.exponent)

end Binary64

end LayerGateway.Decimal
