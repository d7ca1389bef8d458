import LayerGateway.Toml.Text

/-!
# Tokens of TOML

A document is cut into tokens: words, texts, signs, blanks and line ends.  Blanks are
tokens of their own because some things must stand directly side by side.  Comments
disappear.  Any character that can begin nothing makes the whole document no TOML.
-/

namespace LayerGateway.Toml

/-- A token.  A blank is one space or more than that; of a text it is known whether it
may go over several lines. -/
inductive Token where
  | blank (single : Bool)
  | lineEnd
  | word (characters : List Char)
  | text (content : String) (many : Bool)
  | point
  | equals
  | comma
  | openBracket
  | closeBracket
  | openBrace
  | closeBrace
  deriving DecidableEq, Repr

def sign? (c : Char) : Option Token :=
  if c = '.' then some .point
  else if c = '=' then some .equals
  else if c = ',' then some .comma
  else if c = '[' then some .openBracket
  else if c = ']' then some .closeBracket
  else if c = '\x7b' then some .openBrace
  else if c = '\x7d' then some .closeBrace
  else none

def isWordChar (c : Char) : Bool :=
  c.isAlphanum || c == '_' || c == '-' || c == '+' || c == ':'

inductive TokenSite where
  | between
  | blank (single : Bool)
  | comment
  | carriageReturn
  /-- Inside a word, its characters newest first. -/
  | word (characters : List Char)
  | text (scan : TextScan)
  deriving DecidableEq, Repr

/-- The scanner: the tokens that are complete, newest first, and where it stands. -/
structure Scanner where
  tokens : List Token := []
  site : TokenSite := .between
  deriving DecidableEq, Repr

namespace Scanner

def emit (scanner : Scanner) (token : Token) : Scanner :=
  ⟨token :: scanner.tokens, .between⟩

def begin (scanner : Scanner) (c : Char) : Option Scanner :=
  if c = ' ' then some { scanner with site := .blank true }
  else if c = '\t' then some { scanner with site := .blank false }
  else if c = '\n' then some (scanner.emit .lineEnd)
  else if c = '\r' then some { scanner with site := .carriageReturn }
  else if c = '#' then some { scanner with site := .comment }
  else if c = '"' ∨ c = '\'' then some { scanner with site := .text { quote := c } }
  else if isWordChar c then some { scanner with site := .word [c] }
  else (sign? c).map scanner.emit

def step (scanner : Scanner) (c : Char) : Option Scanner :=
  match scanner.site with
  | .between => scanner.begin c
  | .blank single =>
      if c = ' ' ∨ c = '\t' then some { scanner with site := .blank false }
      else (scanner.emit (.blank single)).begin c
  | .comment =>
      if c = '\n' ∨ c = '\r' then (scanner.begin c)
      else if isPlain c then some scanner
      else none
  | .carriageReturn => if c = '\n' then some (scanner.emit .lineEnd) else none
  | .word characters =>
      if isWordChar c then some { scanner with site := .word (c :: characters) }
      else (scanner.emit (.word characters.reverse)).begin c
  | .text scan =>
      match scan.step c with
      | .more scan => some { scanner with site := .text scan }
      | .closed content => some (scanner.emit (.text (String.ofList content) scan.many))
      | .over content => (scanner.emit (.text (String.ofList content) scan.many)).begin c
      | .broken => none

def finish (scanner : Scanner) : Option (List Token) :=
  match scanner.site with
  | .between | .comment | .blank _ => some scanner.tokens.reverse
  | .carriageReturn => none
  | .word characters => some (scanner.emit (.word characters.reverse)).tokens.reverse
  | .text scan =>
      scan.finish?.map fun content =>
        (scanner.emit (.text (String.ofList content) scan.many)).tokens.reverse

end Scanner

/-- A text without the mark of the byte order in front. -/
def withoutMark : List Char → List Char
  | '\uFEFF' :: rest => rest
  | whole => whole

def tokens? (text : String) : Option (List Token) :=
  ((withoutMark text.toList).foldlM Scanner.step {}).bind Scanner.finish

end LayerGateway.Toml
