import LayerGateway.Decimal.Integer
import LayerGateway.Text.Utf8
import LayerGateway.Text.Pieces
import LayerGateway.Toml.Basic

/-!
# Words of TOML

A value that is neither a text nor in brackets is one word: `true` or `false`, an
integer, a floating-point number or a moment.  `Toml.ofWord?` tells which.
-/

namespace LayerGateway.Toml

/-! ## Numbers -/

/-- The digits of a number in which single underscores may stand between digits. -/
def digits? (isDigit : Char → Bool) (word : List Char) : Option (List Char) :=
  let groups := Text.pieces '_' word
  if groups.all fun group => group != [] && group.all isDigit then some groups.flatten else none

def decimal? (word : List Char) : Option (List Char) :=
  if word.head? = some '0' && word != ['0'] then none else digits? Char.isDigit word

/-- Splits off a sign; the first part says whether it is a minus. -/
def splitSign : List Char → Bool × List Char
  | '-' :: rest => (true, rest)
  | '+' :: rest => (false, rest)
  | word => (false, word)

/-- An integer that fits 64 bits. -/
def bounded (value : Int) : Option Toml :=
  if Decimal.isSigned value then some (.integer value) else none

/-- The value of a digit in a base of at most sixteen. -/
def digitValue? (base : Nat) (c : Char) : Option Nat :=
  (Text.hexDigit? c).filter (· < base)

/-- The number that digits of a base stand for. -/
def valueOf (base : Nat) (digits : List Char) : Nat :=
  (digits.filterMap (digitValue? base)).foldl (fun value d => value * base + d) 0

/-- An integer in a base that a letter announces. -/
def based? (base : Nat) (word : List Char) : Option Toml :=
  (digits? (fun c => (digitValue? base c).isSome) word).bind fun digits =>
    bounded (valueOf base digits)

def integer? : List Char → Option Toml
  | '0' :: 'x' :: word => based? 16 word
  | '0' :: 'o' :: word => based? 8 word
  | '0' :: 'b' :: word => based? 2 word
  | word =>
      let (negative, word) := splitSign word
      (decimal? word).bind fun digits =>
        let value : Int := Nat.ofDigitChars 10 digits 0
        bounded (if negative then -value else value)

/-- Whether `significand · 10 ^ (up - down)` is too large for a binary number of 64 bits,
to the nearest. -/
def overflows (significand : Nat) (up down : Nat) : Bool :=
  let limit := Nat.pow 2 1024 - Nat.pow 2 970
  let length := (Nat.toDigits 10 significand).length
  if significand = 0 || length + up < down then false
  else if 400 + down < length + up then true
  else limit * Nat.pow 10 down ≤ significand * Nat.pow 10 up

/-- The exponent of a floating-point number, with whether it is negative; there may be
none. -/
def exponent? : List Char → Option (Bool × Nat)
  | [] => some (false, 0)
  | _ :: word =>
      let (negative, word) := splitSign word
      (digits? Char.isDigit word).map fun digits => (negative, Nat.ofDigitChars 10 digits 0)

/-- A floating-point number with a point or an exponent.  One that is too large is refused,
unless it is negative. -/
def decimalReal? (written : List Char) : Option Toml := do
  let (negative, word) := splitSign written
  let whole := word.takeWhile fun c => c != '.' && c != 'e' && c != 'E'
  let rest := word.drop whole.length
  let behind := rest.dropWhile fun c => c != 'e' && c != 'E'
  let point := rest.take (rest.length - behind.length)
  if rest.isEmpty then none
  else
    let whole ← decimal? whole
    let fraction ← if point.isEmpty then some [] else digits? Char.isDigit (point.drop 1)
    let (down, exponent) ← exponent? behind
    let significand := Nat.ofDigitChars 10 (whole ++ fraction) 0
    let tooLarge :=
      if down then overflows significand 0 (fraction.length + exponent)
      else overflows significand exponent fraction.length
    if tooLarge && !negative then none else return .real (String.ofList written)

def real? (word : List Char) : Option Toml :=
  let (_, unsigned) := splitSign word
  if unsigned = "inf".toList ∨ unsigned = "nan".toList then some (.real (String.ofList word))
  else decimalReal? word

/-! ## Moments -/

def twoDigits? (c d : Char) : Option Nat :=
  if c.isDigit && d.isDigit then some (Nat.ofDigitChars 10 [c, d] 0) else none

def monthLength (year month : Nat) : Nat :=
  if month = 2 then
    if year % 4 = 0 ∧ (year % 100 ≠ 0 ∨ year % 400 = 0) then 29 else 28
  else if month = 4 ∨ month = 6 ∨ month = 9 ∨ month = 11 then 30
  else 31

/-- What follows a date at the start of a word. -/
def afterDate? : List Char → Option (List Char)
  | a :: b :: c :: d :: '-' :: m :: n :: '-' :: x :: y :: rest => do
      let century ← twoDigits? a b
      let year ← twoDigits? c d
      let month ← twoDigits? m n
      let day ← twoDigits? x y
      if 1 ≤ month ∧ month ≤ 12 ∧ 1 ≤ day ∧ day ≤ monthLength (century * 100 + year) month then
        some rest
      else none
  | _ => none

/-- What follows the fraction of a second, if there is one. -/
def afterFraction? : List Char → Option (List Char)
  | '.' :: rest =>
      match rest.takeWhile Char.isDigit with
      | [] => none
      | digits => some (rest.drop digits.length)
  | rest => some rest

/-- What follows a time of day at the start of a word. -/
def afterTime? : List Char → Option (List Char)
  | g :: h :: ':' :: m :: n :: ':' :: s :: t :: rest => do
      let hour ← twoDigits? g h
      let minute ← twoDigits? m n
      let second ← twoDigits? s t
      if hour ≤ 23 ∧ minute ≤ 59 ∧ second ≤ 60 then afterFraction? rest else none
  | _ => none

/-- Whether a word is nothing or the offset of a time zone. -/
def isOffset : List Char → Bool
  | [] | ['Z'] | ['z'] => true
  | [sign, g, h, ':', m, n] =>
      (sign == '+' || sign == '-') && (twoDigits? g h).any (· ≤ 23) && (twoDigits? m n).any (· ≤ 59)
  | _ => false

/-- Whether a word is a moment: a date, a time of day, or both with or without an offset. -/
def isMoment (word : List Char) : Bool :=
  match afterDate? word with
  | some [] => true
  | some (mark :: rest) =>
      (mark == 'T' || mark == 't' || mark == ' ') && (afterTime? rest).any isOffset
  | none => afterTime? word == some []

/-! ## Words -/

def ofWord? (word : List Char) : Option Toml :=
  if word = "true".toList then some (.bool true)
  else if word = "false".toList then some (.bool false)
  else if isMoment word then some (.moment (String.ofList word))
  else real? word <|> integer? word

end LayerGateway.Toml
