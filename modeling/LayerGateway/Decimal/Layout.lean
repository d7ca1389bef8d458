import LayerGateway.Decimal.Shortest

/-!
# How a number is laid out

The digits of a number say nothing about where the point goes.  A `Layout` fixes
it: in which range numbers are written with a plain point, and that an exponent
carries its sign.  `Layout.render` writes a number, its digits being the fewest
that read back.
-/

namespace LayerGateway.Decimal

/-- The range of numbers written without an exponent, by the power of ten that the
point stands before: `0.d₁d₂… · 10 ^ point` is plain when `above < point ≤ upTo`. -/
structure Layout where
  above : Int
  upTo : Int
  deriving DecidableEq, Repr

def digitsOf (n : Nat) : List Char :=
  Nat.toDigits 10 n

/-- `count` zeros. -/
def zeros (count : Nat) : List Char :=
  List.replicate count '0'

/-- An integer with a sign only when it is negative. -/
def signed (n : Int) : List Char :=
  if n < 0 then '-' :: digitsOf n.natAbs else digitsOf n.natAbs

/-- Digits with a plain point before the power of ten `point`.  At least one digit
stands on each side of it. -/
def plain (digits : List Char) (point : Int) : List Char :=
  if point ≤ 0 then ['0', '.'] ++ zeros (-point).toNat ++ digits
  else if digits.length ≤ point.toNat then
    digits ++ zeros (point.toNat - digits.length) ++ ['.', '0']
  else digits.take point.toNat ++ ['.'] ++ digits.drop point.toNat

/-- Digits with the point after the first one and an explicit power of ten. -/
def scientific (digits : List Char) (point : Int) : List Char :=
  let power := point - 1
  let mantissa :=
    match digits with
    | first :: second :: rest => first :: '.' :: second :: rest
    | few => few
  let sign := if power < 0 then '-' else '+'
  mantissa ++ ['e', sign] ++ digitsOf power.natAbs

def Layout.renderDigits (layout : Layout) (decimal : Digits) : List Char :=
  let digits := digitsOf decimal.digits
  let point := (digits.length : Int) + decimal.exponent
  if layout.above < point ∧ point ≤ layout.upTo then plain digits point
  else scientific digits point

/-- A number in a layout.  Zero keeps its sign. -/
def Layout.render (layout : Layout) (x : Binary64) : List Char :=
  let body :=
    if x.mantissa = 0 then ['0', '.', '0']
    else layout.renderDigits (x.shortest.trimZeros 17)
  if x.negative then '-' :: body else body

end LayerGateway.Decimal
