/-!
# Pieces, lines and blanks

Cutting a text, or any other list, at a separator, and cutting a text into lines.  Two
classes of blanks are in use: the Unicode `White_Space` property, by which lines of a log
or a connection count as empty and texts are trimmed, and the five ASCII blanks, by which
a request body counts as absent.
-/

namespace LayerGateway.Text

/-! ## Pieces -/

/-- The pieces of a list between separators; there is always one more than separators. -/
def pieces {α : Type} [DecidableEq α] (separator : α) : List α → List (List α)
  | [] => [[]]
  | c :: rest =>
      if c = separator then [] :: pieces separator rest
      else
        match pieces separator rest with
        | [] => [[c]]
        | piece :: others => (c :: piece) :: others

/-- A line without the carriage return at its end. -/
def dropReturn (line : List Char) : List Char :=
  if line.getLast? = some '\r' then line.dropLast else line

/-- The lines of a text without their line ends, which are a line feed or a carriage
return and a line feed.  What follows the last line end is a line if it is not empty. -/
def lines (text : List Char) : List (List Char) :=
  let cut := pieces '\n' text
  cut.dropLast.map dropReturn ++ cut.getLast?.toList.filter (· ≠ [])

/-! ## Blanks -/

/-- The characters with the Unicode property `White_Space`. -/
def isBlank (c : Char) : Bool :=
  let n := c.toNat
  (0x09 ≤ n && n ≤ 0x0D) || n == 0x20 || n == 0x85 || n == 0xA0 || n == 0x1680 ||
    (0x2000 ≤ n && n ≤ 0x200A) || n == 0x2028 || n == 0x2029 || n == 0x202F ||
    n == 0x205F || n == 0x3000

/-- Space, tab, line feed, form feed and carriage return. -/
def isAsciiBlank (byte : UInt8) : Bool :=
  byte == 0x20 || byte == 0x09 || byte == 0x0A || byte == 0x0C || byte == 0x0D

def trim (text : List Char) : List Char :=
  ((text.dropWhile isBlank).reverse.dropWhile isBlank).reverse

def isBlankLine (line : List Char) : Bool :=
  line.all isBlank

end LayerGateway.Text
