import LayerGateway.Decimal.Scale
import LayerGateway.Decimal.Integer
import LayerGateway.Json.Error
import LayerGateway.Text.Utf8

/-!
# Scanning a JSON number

A number is scanned one symbol at a time.  The scan remembers its digits; their
value is taken at the end (`NumberScan.value?`), because a number that is skipped
may be too large to have one.
-/

namespace LayerGateway.Json

inductive NumberSite where
  | minus
  | leadingZero
  | whole
  | point
  | fraction
  | exponentMark
  | exponentSign
  | exponent
  deriving DecidableEq, Repr

/-- A number as far as it has been read, its digits newest first. -/
structure NumberScan where
  site : NumberSite
  negative : Bool
  whole : List Nat
  fraction : List Nat
  exponentNegative : Bool
  exponent : Nat
  deriving DecidableEq, Repr

/-- What a symbol does to a scan: it belongs to the number, it comes after the number,
or it breaks it. -/
inductive NumberStep where
  | more (scan : NumberScan)
  | over
  | broken
  deriving DecidableEq, Repr

def digit? (c : Char) : Option Nat :=
  if '0' ≤ c ∧ c ≤ '9' then some (c.toNat - '0'.toNat) else none

namespace NumberScan

def blank : NumberScan :=
  ⟨.minus, false, [], [], false, 0⟩

/-- The scan after the first symbol of a number. -/
def start? (c : Char) : Option NumberScan :=
  if c = '-' then some { blank with negative := true }
  else
    match digit? c with
    | some 0 => some { blank with site := .leadingZero }
    | some d => some { blank with site := .whole, whole := [d] }
    | none => none

/-- A symbol that may follow the whole digits: a point, an exponent, or the end. -/
def afterWhole (scan : NumberScan) (c : Char) : NumberStep :=
  if c = '.' then .more { scan with site := .point }
  else if c = 'e' ∨ c = 'E' then .more { scan with site := .exponentMark }
  else .over

def exponentDigit (scan : NumberScan) (d : Nat) : NumberScan :=
  { scan with site := .exponent, exponent := scan.exponent * 10 + d }

def step (scan : NumberScan) (c : Char) : NumberStep :=
  match scan.site, digit? c with
  | .minus, some 0 => .more { scan with site := .leadingZero }
  | .minus, some d => .more { scan with site := .whole, whole := [d] }
  | .minus, none => .broken
  | .leadingZero, some _ => .broken
  | .leadingZero, none => scan.afterWhole c
  | .whole, some d => .more { scan with whole := d :: scan.whole }
  | .whole, none => scan.afterWhole c
  | .point, some d => .more { scan with site := .fraction, fraction := [d] }
  | .point, none => .broken
  | .fraction, some d => .more { scan with fraction := d :: scan.fraction }
  | .fraction, none =>
      if c = 'e' ∨ c = 'E' then .more { scan with site := .exponentMark } else .over
  | .exponentMark, some d => .more (scan.exponentDigit d)
  | .exponentMark, none =>
      if c = '+' ∨ c = '-' then
        .more { scan with site := .exponentSign, exponentNegative := c = '-' }
      else .broken
  | .exponentSign, some d => .more (scan.exponentDigit d)
  | .exponentSign, none => .broken
  | .exponent, some d => .more (scan.exponentDigit d)
  | .exponent, none => .over

/-- Whether the number is complete where the scan stands. -/
def isComplete (scan : NumberScan) : Bool :=
  match scan.site with
  | .leadingZero | .whole | .fraction | .exponent => true
  | .minus | .point | .exponentMark | .exponentSign => false

/-- Whether the number is written without a point and without an exponent. -/
def isWhole (scan : NumberScan) : Bool :=
  match scan.site with
  | .leadingZero | .whole => true
  | _ => false

/-- The largest unsigned number of 64 bits. -/
def maxWord : Nat := Decimal.wordBound - 1

/-- Appends digits to a significand while it fits 64 bits; the digits left over are
the first that does not fit and all after it. -/
def accumulate (significand : Nat) : List Nat → Nat × List Nat
  | [] => (significand, [])
  | d :: rest =>
      if significand * 10 + d ≤ maxWord then accumulate (significand * 10 + d) rest
      else (significand, d :: rest)

/-- The integer that a number without point and exponent stands for, if it fits. -/
def integer? (negative : Bool) (significand : Nat) : Option Int :=
  if negative then
    if significand ≠ 0 ∧ significand ≤ Decimal.signedBound then some (-(significand : Int)) else none
  else some significand

/-- The value of a complete number, or nothing when it is out of range.  Whole digits
beyond 64 bits count only as powers of ten, and decimals beyond them not at all. -/
def value? (scan : NumberScan) : Option Number :=
  let (whole, dropped) := accumulate 0 scan.whole.reverse
  let sign (x : Decimal.Binary64) := if scan.negative then x.neg else x
  let real (significand : Nat) (exponent : Int) : Option Number :=
    (Decimal.Binary64.ofDecimal? significand exponent).map fun x => .real (sign x)
  if scan.isWhole && dropped.isEmpty then
    match integer? scan.negative whole with
    | some value => some (.integer value)
    | none => real whole 0
  else
    let (significand, ignored) := accumulate whole scan.fraction.reverse
    let decimals := scan.fraction.length - ignored.length
    let shift : Int := if scan.exponentNegative then -(scan.exponent : Int) else scan.exponent
    real significand ((dropped.length : Int) - decimals + shift)

end NumberScan

end LayerGateway.Json
