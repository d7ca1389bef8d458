import LayerGateway.Text.Utf8

/-!
# Texts of TOML

A text stands in double quotes, where a backslash starts an escape, or in single quotes,
where it does not.  Either quote may be written three times; then the text may go over
several lines, and a line end directly behind the opening quotes does not belong to it.
A text is scanned one character at a time.
-/

namespace LayerGateway.Toml

inductive TextSite where
  /-- Behind the first quote, or behind the second one directly after it. -/
  | opened
  | openedTwice
  /-- Behind three quotes; `afterReturn` when a carriage return followed. -/
  | first (afterReturn : Bool)
  | plain
  /-- Behind quotes that may be the end. -/
  | quotes (count : Nat)
  | carriageReturn
  | escape
  /-- Inside an escape by number, of which so many digits are missing. -/
  | number (missing value : Nat)
  /-- Behind a backslash at the end of a line: blanks up to the line end, a carriage
  return before a line feed, and blanks and line ends after it. -/
  | foldBlank
  | foldReturn
  | folding
  deriving DecidableEq, Repr

/-- A text as far as it has been read, its characters newest first. -/
structure TextScan where
  quote : Char
  many : Bool := false
  site : TextSite := .opened
  content : List Char := []
  deriving DecidableEq, Repr

/-- What a character does to a text: it belongs to it, it is its last quote, it comes
after it, or it breaks it. -/
inductive TextStep where
  | more (scan : TextScan)
  | closed (content : List Char)
  | over (content : List Char)
  | broken

def isPlain (c : Char) : Bool :=
  c == '\t' || (0x20 ≤ c.toNat && c.toNat != 0x7F)

/-- The character that an escape of one letter stands for. -/
def unescape? (c : Char) : Option Char :=
  if c = '"' ∨ c = '\\' then some c
  else if c = 'b' then some '\x08'
  else if c = 'f' then some '\x0c'
  else if c = 'n' then some '\n'
  else if c = 'r' then some '\r'
  else if c = 't' then some '\t'
  else none

namespace TextScan

def goTo (scan : TextScan) (site : TextSite) : TextStep :=
  .more { scan with site }

def push (scan : TextScan) (c : Char) : TextStep :=
  .more { scan with site := .plain, content := c :: scan.content }

/-- The text that has been read, without so many of the quotes at its end. -/
def finished (scan : TextScan) : List Char :=
  scan.content.reverse

/-- A character that is not part of a longer sign. -/
def stepPlain (scan : TextScan) (c : Char) : TextStep :=
  if c = scan.quote then
    if scan.many then scan.goTo (.quotes 1) else .closed scan.finished
  else if c = '\\' ∧ scan.quote = '"' then scan.goTo .escape
  else if c = '\n' ∧ scan.many then scan.push c
  else if c = '\r' ∧ scan.many then scan.goTo .carriageReturn
  else if isPlain c then scan.push c
  else .broken

/-- A character behind quotes that may be the end.  Three of them are; up to two more
belong to the text. -/
def stepQuotes (scan : TextScan) (count : Nat) (c : Char) : TextStep :=
  if c = scan.quote ∧ count < 5 then scan.goTo (.quotes (count + 1))
  else if count < 3 then
    stepPlain { scan with content := List.replicate count scan.quote ++ scan.content } c
  else .over (scan.finished ++ List.replicate (count - 3) scan.quote)

def stepEscape (scan : TextScan) (c : Char) : TextStep :=
  match unescape? c with
  | some plain => scan.push plain
  | none =>
      if c = 'u' then scan.goTo (.number 4 0)
      else if c = 'U' then scan.goTo (.number 8 0)
      else if !scan.many then .broken
      else if c = ' ' ∨ c = '\t' then scan.goTo .foldBlank
      else if c = '\n' then scan.goTo .folding
      else if c = '\r' then scan.goTo .foldReturn
      else .broken

def stepNumber (scan : TextScan) (missing value : Nat) (c : Char) : TextStep :=
  match Text.hexDigit? c with
  | none => .broken
  | some digit =>
      let value := value * 16 + digit
      if 1 < missing then scan.goTo (.number (missing - 1) value)
      else if value.isValidChar then scan.push (Char.ofNat value)
      else .broken

def step (scan : TextScan) (c : Char) : TextStep :=
  match scan.site with
  | .opened => if c = scan.quote then scan.goTo .openedTwice else scan.stepPlain c
  | .openedTwice =>
      if c = scan.quote then .more { scan with many := true, site := .first false } else .over []
  | .first false =>
      if c = '\n' then scan.goTo .plain
      else if c = '\r' then scan.goTo (.first true)
      else scan.stepPlain c
  | .first true => if c = '\n' then scan.goTo .plain else .broken
  | .plain => scan.stepPlain c
  | .quotes count => scan.stepQuotes count c
  | .carriageReturn => if c = '\n' then scan.push c else .broken
  | .escape => scan.stepEscape c
  | .number missing value => scan.stepNumber missing value c
  | .foldBlank =>
      if c = ' ' ∨ c = '\t' then scan.goTo .foldBlank
      else if c = '\n' then scan.goTo .folding
      else if c = '\r' then scan.goTo .foldReturn
      else .broken
  | .foldReturn => if c = '\n' then scan.goTo .folding else .broken
  | .folding =>
      if c = ' ' ∨ c = '\t' ∨ c = '\n' then scan.goTo .folding
      else if c = '\r' then scan.goTo .foldReturn
      else scan.stepPlain c

/-- The text, if it is complete where the document ends. -/
def finish? (scan : TextScan) : Option (List Char) :=
  match scan.site with
  | .openedTwice => some []
  | .quotes count =>
      if count < 3 then none
      else some (scan.finished ++ List.replicate (count - 3) scan.quote)
  | _ => none

end TextScan

end LayerGateway.Toml
