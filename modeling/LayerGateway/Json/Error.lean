import LayerGateway.Json.Printer
import LayerGateway.Text.Quoted

/-!
# Why JSON text is refused

A text can break the grammar (`GrammarError`), or be well formed and yet not be
what the reader expects (`ReadError`).  Each error is a cause; the wording is in
`GrammarError.message` and `ReadError.message` alone.
-/

namespace LayerGateway.Json

/-- The ways in which a text breaks the grammar of JSON or a limit of the reader. -/
inductive GrammarError where
  | endInValue
  | endInArray
  | endInObject
  | endInString
  | colonExpected
  | arraySeparatorExpected
  | objectSeparatorExpected
  | wordExpected
  | valueExpected
  | badEscape
  | badNumber
  | numberTooLarge
  | badUnicode
  | controlCharacter
  | keyNotString
  | loneSurrogate
  | surrogateCutShort
  | trailingComma
  | trailingText
  | tooDeep
  deriving DecidableEq, Repr

def GrammarError.message : GrammarError → String
  | .endInValue => "EOF while parsing a value"
  | .endInArray => "EOF while parsing a list"
  | .endInObject => "EOF while parsing an object"
  | .endInString => "EOF while parsing a string"
  | .colonExpected => "expected `:`"
  | .arraySeparatorExpected => "expected `,` or `]`"
  | .objectSeparatorExpected => "expected `,` or `\x7d`"
  | .wordExpected => "expected ident"
  | .valueExpected => "expected value"
  | .badEscape => "invalid escape"
  | .badNumber => "invalid number"
  | .numberTooLarge => "number out of range"
  | .badUnicode => "invalid unicode code point"
  | .controlCharacter => "control character (\\u0000-\\u001F) found while parsing a string"
  | .keyNotString => "key must be a string"
  | .loneSurrogate => "lone leading surrogate in hex escape"
  | .surrogateCutShort => "unexpected end of hex escape"
  | .trailingComma => "trailing comma"
  | .trailingText => "trailing characters"
  | .tooDeep => "recursion limit exceeded"

/-- What stood in a place where something else was expected. -/
inductive Found where
  | null
  | bool (value : Bool)
  | number (value : Number)
  | string (value : String)
  | array
  | object
  deriving DecidableEq, Repr

def Found.message : Found → String
  | .null => "null"
  | .bool value => s!"boolean `{value}`"
  | .number (.integer value) => s!"integer `{String.ofList (Decimal.signed value)}`"
  | .number (.real value) => s!"floating point `{String.ofList (layout.render value)}`"
  | .string value => "string " ++ Text.quoted value
  | .array => "sequence"
  | .object => "map"

/-- Why a text is not read as what the reader expects. -/
inductive ReadError where
  | grammar (cause : GrammarError)
  | wrongType (found : Found) (expected : String)
  | wrongValue (found : Found) (expected : String)
  | wrongLength (length : Nat) (expected : String)
  | unknownVariant (name : String) (expected : String)
  | missingField (name : String)
  | duplicateField (name : String)
  deriving DecidableEq, Repr

def ReadError.message : ReadError → String
  | .grammar cause => cause.message
  | .wrongType found expected => s!"invalid type: {found.message}, expected {expected}"
  | .wrongValue found expected => s!"invalid value: {found.message}, expected {expected}"
  | .wrongLength length expected => s!"invalid length {length}, expected {expected}"
  | .unknownVariant name expected => s!"unknown variant `{name}`, expected `{expected}`"
  | .missingField name => s!"missing field `{name}`"
  | .duplicateField name => s!"duplicate field `{name}`"

end LayerGateway.Json
