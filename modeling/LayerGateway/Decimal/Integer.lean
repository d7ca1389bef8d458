/-!
# Integers of 64 bits

The bounds of integers that fit 64 bits, and how a text is read as such an integer: an
optional sign, then decimal digits and nothing else.  Powers are written out or taken by
`Nat.pow`, so that a power has the same meaning wherever the library is used.
-/

namespace LayerGateway.Decimal

/-! ## Words -/

/-- Unsigned words lie below this. -/
def wordBound : Nat := 18446744073709551616

/-- Signed words lie below this, and from its negative on. -/
def signedBound : Nat := 9223372036854775808

def isSigned (value : Int) : Bool :=
  -signedBound ≤ value && value < signedBound

/-! ## Reading -/

/-- The number that digits stand for; none when there is no digit or something else. -/
def natural? (digits : List Char) : Option Nat :=
  if digits.isEmpty || !digits.all Char.isDigit then none
  else some (Nat.ofDigitChars 10 digits 0)

def integer? : List Char → Option Int
  | '-' :: digits => (natural? digits).map fun n => -(n : Int)
  | '+' :: digits => (natural? digits).map fun n => (n : Int)
  | digits => (natural? digits).map fun n => (n : Int)

/-- A signed integer of 64 bits. -/
def int64? (text : String) : Option Int :=
  (integer? text.toList).filter isSigned

/-- An unsigned integer below a limit; a minus sign is refused. -/
def unsigned? (limit : Nat) (text : String) : Option Nat :=
  let digits :=
    match text.toList with
    | '+' :: digits => digits
    | digits => digits
  (natural? digits).filter (· < limit)

end LayerGateway.Decimal
