import LayerGateway.Json.Basic

/-!
# JSON text

Values are printed without blanks.  Quotes, backslashes and control characters are
escaped and everything else stands for itself; numbers that are not integers have
the fewest digits that read back and always show a point or an exponent.
-/

namespace LayerGateway

namespace Json

/-- Numbers from `1e-5` up to below `1e16` have a plain point. -/
def layout : Decimal.Layout := ⟨-5, 16⟩

/-- The two lower-case hexadecimal digits of a number below 256. -/
def hexPair (n : Nat) : List Char :=
  [Nat.digitChar (n / 16), Nat.digitChar (n % 16)]

def escapeChar (c : Char) : List Char :=
  if c = '"' then ['\\', '"']
  else if c = '\\' then ['\\', '\\']
  else if c.toNat = 0x08 then ['\\', 'b']
  else if c.toNat = 0x0C then ['\\', 'f']
  else if c = '\n' then ['\\', 'n']
  else if c = '\r' then ['\\', 'r']
  else if c = '\t' then ['\\', 't']
  else if c.toNat < 0x20 then ['\\', 'u', '0', '0'] ++ hexPair c.toNat
  else [c]

def stringText (text : String) : List Char :=
  '"' :: text.toList.flatMap escapeChar ++ ['"']

/-- Texts with a comma between any two. -/
def commaSeparated : List (List Char) → List Char
  | [] => []
  | [text] => text
  | text :: next :: rest => text ++ ',' :: commaSeparated (next :: rest)

def arrayText (items : List (List Char)) : List Char :=
  '[' :: commaSeparated items ++ [']']

/-- A JSON object of printed members, in the order given. -/
def objectText (members : List (String × List Char)) : List Char :=
  '\x7b' :: commaSeparated (members.map fun member => stringText member.1 ++ ':' :: member.2)
    ++ ['\x7d']

end Json

def Number.text : Number → List Char
  | .integer value => Decimal.signed value
  | .real value => Json.layout.render value

namespace Json

mutual

def print : Json → List Char
  | .null => ['n', 'u', 'l', 'l']
  | .bool true => ['t', 'r', 'u', 'e']
  | .bool false => ['f', 'a', 'l', 's', 'e']
  | .number value => value.text
  | .string value => stringText value
  | .array items => arrayText (printItems items)
  | .object members => objectText (printMembers members)

def printItems : List Json → List (List Char)
  | [] => []
  | item :: rest => print item :: printItems rest

def printMembers : List (String × Json) → List (String × List Char)
  | [] => []
  | (key, value) :: rest => (key, print value) :: printMembers rest

end

def text (value : Json) : String :=
  String.ofList value.print

end Json

end LayerGateway
