import LayerGateway.Files.Tree
import LayerGateway.OrderedMap
import LayerGateway.Text.Utf8
import LayerGateway.Text.Pieces

/-!
# Tables in files

A table of bytes is kept in a file with one row a line: the key, a blank and the value,
both in hexadecimal digits.  A table of which there is no file is empty.
-/

namespace LayerGateway

abbrev Table := OrderedMap Bytes Bytes

inductive TableError where
  | file (cause : FileError)
  /-- A line, counted from one, that is no row. -/
  | badRow (line : Nat)
  deriving DecidableEq, Repr

def TableError.message : TableError → String
  | .file cause => s!"io error: {cause.message}"
  | .badRow line => s!"bad row at line {line}"

namespace Table

def mode : Nat := 0o600

def line (row : Bytes × Bytes) : List Char :=
  Text.hexOf row.1 ++ ' ' :: Text.hexOf row.2 ++ ['\n']

def textOf (table : Table) : List Char :=
  table.rows.flatMap line

def row? (line : List Char) : Option (Bytes × Bytes) := do
  let key := line.takeWhile (· ≠ ' ')
  if key.length = line.length then none
  else return (← Text.ofHex? key, ← Text.ofHex? (line.drop (key.length + 1)))

def readLines (number : Nat) : List (List Char) → Except TableError (List (Bytes × Bytes))
  | [] => .ok []
  | line :: rest =>
      match row? line with
      | some row => do return row :: (← readLines (number + 1) rest)
      | none => .error (.badRow number)

def load (files : Files) (path : String) : Except TableError Table := do
  if ← (files.contains path).mapError .file then
    let text ← (files.readText path).mapError .file
    return .ofRows (← readLines 1 (Text.lines text.toList))
  else return .empty

def save (table : Table) (files : Files) (path : String) : Except TableError Files :=
  (files.update path mode fun _ => Text.encodeChars table.textOf).mapError .file

end Table

end LayerGateway
