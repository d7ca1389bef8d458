import LayerGateway.Decimal.Binary64

/-!
# The fewest digits that read back

Every positive number of the binary format is the nearest one to an interval of
reals around it.  `Binary64.shortest` gives the decimal of fewest digits in that
interval and, among those, the one nearest to the number.  It tries one digit,
two digits, and so on up to seventeen, and at each length looks only at the two
neighbours of the number on the decimal grid: if any grid point lies in the
interval, one of these does.
-/

namespace LayerGateway.Decimal

/-- The decimal `digits · 10 ^ exponent`. -/
structure Digits where
  digits : Nat
  exponent : Int
  deriving DecidableEq, Repr

namespace Binary64

/-- The interval that rounds to a number, in units of a quarter of its last binary
digit, with whether the ends belong to it. -/
structure Interval where
  lower : Nat
  centre : Nat
  upper : Nat
  closed : Bool
  deriving DecidableEq, Repr

/-- The interval around a positive number.  Below a power of two the next number is
only half as far. -/
def interval (x : Binary64) : Interval :=
  let centre := 4 * x.mantissa
  let narrow := x.mantissa = Nat.pow 2 52 ∧ minExponent < x.exponent
  ⟨if narrow then centre - 1 else centre - 2, centre, centre + 2, x.mantissa % 2 = 0⟩

def decimalLength (n : Nat) : Nat :=
  (Nat.toDigits 10 n).length

/-- The power of ten of the leading digit of `num / den`. -/
def leadingPower (num den : Nat) : Int :=
  if den ≤ num then (decimalLength (num / den) : Int) - 1
  else -(decimalLength ((den + num - 1) / num - 1) : Int)

/-- The quotient `units / 4 · 2 ^ exponent` with the power of ten `grid` divided out. -/
def onGrid (units : Nat) (exponent grid : Int) : Nat × Nat :=
  let (num, den) := scaled units 4 exponent
  if 0 ≤ grid then (num, den * Nat.pow 10 grid.toNat) else (num * Nat.pow 10 (-grid).toNat, den)

/-- Whether the grid point `point · 10 ^ grid` lies in the interval of `x`. -/
def admits (x : Binary64) (grid : Int) (point : Nat) : Bool :=
  let i := x.interval
  let (low, lowDen) := onGrid i.lower x.exponent grid
  let (high, highDen) := onGrid i.upper x.exponent grid
  if i.closed then low ≤ point * lowDen && point * highDen ≤ high
  else low < point * lowDen && point * highDen < high

/-- The better grid neighbour of `x` that reads back as `x`, if one does: the nearer
one, and the even one of two equally near. -/
def neighbour? (x : Binary64) (grid : Int) : Option Nat :=
  let (num, den) := onGrid x.interval.centre x.exponent grid
  let below := num / den
  let rest := num % den
  let above := below + 1
  let first := if 2 * rest < den ∨ (2 * rest = den ∧ below % 2 = 0) then below else above
  let second := if first = below then above else below
  if admits x grid first && first != 0 then some first
  else if admits x grid second && second != 0 then some second
  else none

/-- The shortest decimal among the lengths that are left to try. -/
def shortestFrom (x : Binary64) (lead : Int) (length : Nat) : Nat → Digits
  | 0 => ⟨x.mantissa, 0⟩
  | left + 1 =>
      let grid := lead + 1 - length
      match neighbour? x grid with
      | some digits => ⟨digits, grid⟩
      | none => shortestFrom x lead (length + 1) left

/-- The fewest digits that read back as the positive number `x`. -/
def shortest (x : Binary64) : Digits :=
  let (num, den) := scaled x.mantissa 1 x.exponent
  shortestFrom x (leadingPower num den) 1 17

end Binary64

/-- Drops the zeros at the end of a decimal, at most `limit` of them. -/
def Digits.trimZeros (d : Digits) : Nat → Digits
  | 0 => d
  | limit + 1 =>
      if d.digits ≠ 0 ∧ d.digits % 10 = 0 then
        Digits.trimZeros ⟨d.digits / 10, d.exponent + 1⟩ limit
      else d

end LayerGateway.Decimal
