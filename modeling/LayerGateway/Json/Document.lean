import LayerGateway.Json.Error

/-!
# JSON text as it was written

A `Document` is what a text says, member order and repeated keys included, together
with the place where it stops making sense, if it does.  A text is read into a
document before anyone knows what it should hold; whoever walks the document in
the order of the text then meets its faults and those of its content in the order
in which they were written.

A value can be read or merely skipped.  The two are not equally strict, so a fault
has one cause for each.
-/

namespace LayerGateway.Json

/-- How an array ends: closed, at something that is no comma, at the end of the text,
with a comma before the bracket, or inside its last item. -/
inductive ArrayEnd where
  | closed
  | unseparated
  | cutOff
  | trailingComma
  | inItem
  deriving DecidableEq, Repr

/-- What stands where a token is broken: nothing, a string, or something else. -/
inductive BrokenToken where
  | absent
  | text
  | other
  deriving DecidableEq, Repr

mutual

/-- A value as it was written.  A number without value is out of range, a string may
be unreadable, and a broken token has a cause on reading and one on skipping. -/
inductive Document where
  | null
  | bool (value : Bool)
  | number (value : Option Number)
  | string (value : Except GrammarError String)
  | array (items : List Document) (ending : ArrayEnd)
  | object (members : List (Except GrammarError String × Document)) (ending : ObjectEnd)
  | broken (token : BrokenToken) (onRead onSkip : GrammarError)

/-- How an object ends: closed, at something that is no comma, at the end of the text,
with a comma before the brace, with a comma and nothing after it, at a key that is
no string, inside a key, before the colon of a key, or inside the last value. -/
inductive ObjectEnd where
  | closed
  | unseparated
  | cutOff
  | trailingComma
  | cutAfterComma
  | badKey (key : Document)
  | brokenKey (onRead onSkip : GrammarError)
  | noColon (key : Except GrammarError String) (cut : Bool)
  | inValue

end

abbrev DocumentMember := Except GrammarError String × Document

/-- Why an array cannot be read to its end. -/
def ArrayEnd.readCause? : ArrayEnd → Option GrammarError
  | .closed | .inItem => none
  | .unseparated => some .arraySeparatorExpected
  | .cutOff => some .endInArray
  | .trailingComma => some .trailingComma

def ArrayEnd.skipCause? : ArrayEnd → Option GrammarError
  | .trailingComma => some .valueExpected
  | ending => ending.readCause?

/-- Why an array of which all wanted items were read does not end there. -/
def ArrayEnd.overrunCause? : ArrayEnd → Option GrammarError
  | .closed | .inItem => none
  | .unseparated => some .trailingText
  | .cutOff => some .endInArray
  | .trailingComma => some .trailingComma

/-- Why an object cannot be read to its end. -/
def ObjectEnd.readCause? : ObjectEnd → Option GrammarError
  | .closed | .inValue => none
  | .unseparated => some .objectSeparatorExpected
  | .cutOff => some .endInObject
  | .trailingComma => some .trailingComma
  | .cutAfterComma => some .endInValue
  | .badKey _ => some .keyNotString
  | .brokenKey onRead _ => some onRead
  | .noColon (.error cause) _ => some cause
  | .noColon (.ok _) cut => some (if cut then .endInObject else .colonExpected)

def ObjectEnd.skipCause? : ObjectEnd → Option GrammarError
  | .trailingComma => some .keyNotString
  | .cutAfterComma => some .endInObject
  | .brokenKey _ onSkip => some onSkip
  | .noColon _ cut => some (if cut then .endInObject else .colonExpected)
  | ending => ending.readCause?

namespace Document

mutual

/-- Why a document cannot be skipped; it is well formed up to that place. -/
def skipCause? : Document → Option GrammarError
  | .null | .bool _ | .number _ | .string _ => none
  | .array items ending => skipItems items <|> ending.skipCause?
  | .object members ending => skipMembers members <|> ending.skipCause?
  | .broken _ _ onSkip => some onSkip

def skipItems : List Document → Option GrammarError
  | [] => none
  | item :: rest => skipCause? item <|> skipItems rest

def skipMembers : List (Except GrammarError String × Document) → Option GrammarError
  | [] => none
  | (_, value) :: rest => skipCause? value <|> skipMembers rest

end

mutual

def ofJson : Json → Document
  | .null => .null
  | .bool value => .bool value
  | .number value => .number (some value)
  | .string value => .string (.ok value)
  | .array items => .array (ofJsonItems items) .closed
  | .object members => .object (ofJsonMembers members) .closed

def ofJsonItems : List Json → List Document
  | [] => []
  | item :: rest => ofJson item :: ofJsonItems rest

def ofJsonMembers : List (String × Json) → List (Except GrammarError String × Document)
  | [] => []
  | (key, value) :: rest => (.ok key, ofJson value) :: ofJsonMembers rest

end

end Document

end LayerGateway.Json
