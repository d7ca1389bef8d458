import LayerGateway.Text.Pieces
import LayerGateway.Text.Utf8

/-!
# Request targets

The target of a request is a path with a query, a whole address with scheme and host, or
a host alone.  Only path and query matter here; the rest is checked and forgotten.

In a path a byte may be written as `%` and two hexadecimal digits.  The query of a
target is a form: pairs joined by `&`, name and value joined by the first `=`, where a
`+` stands for a space too.  A `%` without two digits behind it stands for itself.
-/

namespace LayerGateway.Http

/-- The path and the query of a target, as they were written.  A target without a path
has the empty one. -/
structure Target where
  path : List Char
  query : List Char
  deriving DecidableEq, Repr

namespace Target

/-- The longest target, in bytes. -/
def lengthLimit : Nat := 65534

def schemeLimit : Nat := 64

def isPathChar (c : Char) : Bool :=
  c.toNat > 0x20 && c != '<' && c != '>' && c != '`' && c != '#' && c != '?'

def isQueryChar (c : Char) : Bool :=
  c.toNat > 0x20 && c != '"' && c != '<' && c != '>' && c != '#'

def isSchemeChar (c : Char) : Bool :=
  c.isAlphanum || c == '+' || c == '-' || c == '.'

/-- Characters of a host with its user and its number. -/
def isHostChar (c : Char) : Bool :=
  c.isAlphanum || "!$&'()*+,-.:;=@[]_~".toList.contains c

/-- Reads a path with a query; what follows a `#` is forgotten. -/
def ofPath? (text : List Char) : Option Target :=
  let path := text.takeWhile fun c => c != '?' && c != '#'
  let query := ((text.drop path.length).takeWhile (· != '#')).drop 1
  if path.all isPathChar && query.all isQueryChar then some ⟨path, query⟩ else none

/-- Whether a text is a host: brackets come in pairs, a user is followed by something,
and there is at most one colon, outside brackets and behind the user. -/
def isHost (text : List Char) : Bool :=
  let behindUser := (Text.pieces '@' text).getLast?.getD []
  let behindBracket := (Text.pieces ']' behindUser).getLast?.getD []
  text.all (fun c => isHostChar c || c == '%')
    && text.count '[' == text.count ']' && text.count '[' ≤ 1
    && (behindUser != [] || text == [])
    && behindBracket.count ':' ≤ 1
    && !behindBracket.contains '%'

def afterScheme? (text : List Char) : Option (List Char) :=
  let scheme := text.takeWhile isSchemeChar
  match text.drop scheme.length with
  | ':' :: '/' :: '/' :: rest => if scheme.length ≤ schemeLimit then some rest else none
  | _ => none

def ofText? (text : List Char) : Option Target :=
  if lengthLimit < (Text.encodeChars text).length then none
  else if text = ['*'] then some ⟨['*'], []⟩
  else if text.head? = some '/' then ofPath? text
  else
    match afterScheme? text with
    | some rest =>
        let host := rest.takeWhile fun c => c != '/' && c != '?' && c != '#'
        if host = [] || !isHost host then none
        else
          (ofPath? (rest.drop host.length)).map fun target =>
            { target with path := if target.path = [] then ['/'] else target.path }
    | none => if text = [] || !isHost text then none else some ⟨[], []⟩

end Target

/-! ## What is encoded in a target -/

def percentDecode : List Char → Bytes
  | [] => []
  | [c] => String.utf8EncodeChar c
  | [c, d] => String.utf8EncodeChar c ++ String.utf8EncodeChar d
  | c :: high :: low :: rest =>
      match if c = '%' then (Text.hexDigit? high, Text.hexDigit? low) else (none, none) with
      | (some h, some l) => UInt8.ofNat (h * 16 + l) :: percentDecode rest
      | _ => String.utf8EncodeChar c ++ percentDecode (high :: low :: rest)

def formText (text : List Char) : String :=
  Text.lossy (percentDecode (text.map fun c => if c = '+' then ' ' else c))

def formPairs (query : List Char) : List (String × String) :=
  ((Text.pieces '&' query).filter (· ≠ [])).map fun piece =>
    let name := piece.takeWhile (· ≠ '=')
    (formText name, formText (piece.drop (name.length + 1)))

/-- Why a field of a form cannot be told: it is there more than once. -/
structure RepeatedField where
  name : String
  deriving DecidableEq, Repr

def formField (name : String) (query : List Char) : Except RepeatedField (Option String) :=
  match (formPairs query).filter (·.1 == name) with
  | [] => .ok none
  | [pair] => .ok (some pair.2)
  | _ => .error ⟨name⟩

end LayerGateway.Http
