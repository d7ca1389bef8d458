import LayerGateway.Decimal.Integer
import LayerGateway.Json.Reader

/-!
# From documents to values

A decoder walks a document in the order of the text and answers with a value or
with the first thing that is wrong.  The same decoders serve three origins: text,
where nesting is limited and unknown members are skipped without being read;
members that were read beforehand; and values that are already JSON.  The origins
differ only in a few wordings.
-/

namespace LayerGateway.Json

/-- Where a document comes from; in text, how many more arrays and objects may be
opened. -/
inductive Origin where
  | text (depth : Nat)
  | member
  | value
  deriving DecidableEq, Repr

abbrev Read := Except ReadError

abbrev Decoder (α : Type) := Origin → Document → Read α

/-- How many arrays and objects may be open at once in a text. -/
def maxDepth : Nat := 127

/-- The origin of what is inside an array or object. -/
def Origin.enter : Origin → Read Origin
  | .text 0 => .error (.grammar .tooDeep)
  | .text (depth + 1) => .ok (.text depth)
  | origin => .ok origin

def readable (text : Except GrammarError String) : Read String :=
  text.mapError .grammar

/-- Fails when there is a cause. -/
def check (cause : Option GrammarError) : Read Unit :=
  match cause with
  | some cause => .error (.grammar cause)
  | none => .ok ()

namespace Document

mutual

def toJson (origin : Origin) : Document → Read Json
  | .null => .ok .null
  | .bool value => .ok (.bool value)
  | .number (some value) => .ok (.number value)
  | .number none => .error (.grammar .numberTooLarge)
  | .string text => (readable text).map .string
  | .array items ending => do
      let inner ← origin.enter
      let items ← toItems inner items
      check ending.readCause?
      return .array items
  | .object members ending => do
      let inner ← origin.enter
      let members ← toMembers inner members
      check ending.readCause?
      return ofMembers members
  | .broken _ onRead _ => .error (.grammar onRead)

def toItems (origin : Origin) : List Document → Read (List Json)
  | [] => .ok []
  | item :: rest => do
      let item ← toJson origin item
      return item :: (← toItems origin rest)

/-- The members of an object, as they were written. -/
def toMembers (origin : Origin) :
    List (Except GrammarError String × Document) → Read (List (String × Json))
  | [] => .ok []
  | (key, value) :: rest => do
      let key ← readable key
      let value ← toJson origin value
      return (key, value) :: (← toMembers origin rest)

end

/-- What a document is, for a message.  Arrays and objects are not read for it. -/
def found : Document → Read Found
  | .null => .ok .null
  | .bool value => .ok (.bool value)
  | .number (some value) => .ok (.number value)
  | .number none => .error (.grammar .numberTooLarge)
  | .string text => (readable text).map .string
  | .array _ _ => .ok .array
  | .object _ _ => .ok .object
  | .broken _ onRead _ => .error (.grammar onRead)

def mismatch {α : Type} (document : Document) (expected : String) : Read α := do
  throw (.wrongType (← document.found) expected)

end Document

def anyValue : Decoder Json :=
  fun origin document => document.toJson origin

/-- A text, called `expected` in messages. -/
def textCalled (expected : String) : Decoder String := fun _ document =>
  match document with
  | .string text => readable text
  | document => document.mismatch expected

def anyText : Decoder String :=
  textCalled "a string"

/-- A value that may be `null`. -/
def optional {α : Type} (decoder : Decoder α) : Decoder (Option α) := fun origin document =>
  match document with
  | .null => .ok none
  | document => (decoder origin document).map some

def listOf {α : Type} (decoder : Decoder α) : Decoder (List α) := fun origin document =>
  match document with
  | .array items ending => do
      let inner ← origin.enter
      let values ← items.mapM (decoder inner)
      check ending.readCause?
      return values
  | document => document.mismatch "a sequence"

def anyObject : Decoder Members := fun origin document =>
  match document with
  | .object members ending => do
      let inner ← origin.enter
      let members ← Document.toMembers inner members
      check ending.readCause?
      return .ofRows members
  | document => document.mismatch "a map"

/-- A signed integer of 64 bits. -/
def int64 : Decoder Int := fun _ document =>
  match document with
  | .number (some (.integer value)) =>
      if value < Decimal.signedBound then .ok value
      else .error (.wrongValue (.number (.integer value)) "i64")
  | document => document.mismatch "i64"

/-- The constant `name`, written as a text or as an object with that one key and no
value. -/
def constant (name : String) : Decoder Unit := fun origin document =>
  let named (key : Except GrammarError String) : Read Unit := do
    let key ← readable key
    if key = name then return () else throw (.unknownVariant key name)
  let unit (value : Document) : Read Unit :=
    match value with
    | .null => .ok ()
    | value => value.mismatch "unit"
  match origin, document with
  | _, .string text => named text
  | .text _, .object members ending => do
      let _ ← origin.enter
      match members, ending with
      | (key, value) :: rest, ending =>
          named key
          unit value
          match rest, ending with
          | [], .closed => return ()
          | [], .cutOff => throw (.grammar .endInObject)
          | _, _ => throw (.grammar .valueExpected)
      | [], .cutOff => throw (.grammar .endInValue)
      | [], .badKey key => key.mismatch "variant identifier"
      | [], .brokenKey onRead _ => throw (.grammar onRead)
      | [], .noColon key cut =>
          named key
          throw (.grammar (if cut then .endInObject else .colonExpected))
      | [], _ => throw (.grammar .valueExpected)
  | _, .object [(key, value)] _ => do
      named key
      unit value
  | _, .object _ _ => .error (.wrongValue .object "map with a single key")
  | .text _, .broken .text onRead _ => .error (.grammar onRead)
  | .text _, .broken .absent onRead _ => .error (.grammar onRead)
  | .text _, _ => .error (.grammar .valueExpected)
  | _, document => document.mismatch "string or map"

/-- One field of a record that is collected in a draft of type `σ`.  `defaulted` says
that a sequence may end before it. -/
structure Field (σ : Type) where
  name : String
  set : Origin → Document → σ → Read σ
  defaulted : Bool

def Field.of {σ α : Type} (name : String) (decoder : Decoder α) (put : α → σ → σ) : Field σ :=
  ⟨name, fun origin document draft => (decoder origin document).map (put · draft), false⟩

/-- The same field, one that a sequence may lack. -/
def Field.orDefault {σ : Type} (field : Field σ) : Field σ :=
  { field with defaulted := true }

/-- A record type: its name in messages and its fields in order. -/
structure Shape (σ : Type) where
  name : String
  fields : List (Field σ)

namespace Shape

variable {σ : Type}

def field? (shape : Shape σ) (key : String) : Option (Field σ) :=
  shape.fields.find? (·.name == key)

/-- Fills a draft from the members of an object.  `other` says what to do with a member
that is no field; no field may come twice. -/
def fill {ε : Type} (shape : Shape σ) (origin : Origin)
    (other : String → Document → Read (List ε)) :
    List String → σ → List DocumentMember → Read (σ × List ε)
  | _, draft, [] => .ok (draft, [])
  | seen, draft, (key, value) :: rest => do
      let key ← readable key
      match shape.field? key with
      | some field =>
          if key ∈ seen then throw (.duplicateField key)
          let draft ← field.set origin value draft
          fill shape origin other (key :: seen) draft rest
      | none =>
          let extra ← other key value
          let (draft, extras) ← fill shape origin other seen draft rest
          return (draft, extra ++ extras)

def skip (_ : String) (value : Document) : Read (List Unit) := do
  check value.skipCause?
  return []

/-- The wording for the number of fields of a record. -/
def arity (shape : Shape σ) : String :=
  match shape.fields.length with
  | 1 => s!"{shape.name} with 1 element"
  | count => s!"{shape.name} with {count} elements"

/-- Fails when a sequence goes on after the last field; `count` items were read. -/
def overrun (origin : Origin) (count : Nat) (items : List Document) (ending : ArrayEnd) :
    Read Unit :=
  match origin, items with
  | .text _, [] => check ending.overrunCause?
  | .text _, _ :: _ => .error (.grammar .trailingText)
  | _, [] => .ok ()
  | .member, _ :: _ =>
      let wanted := if count = 1 then "1 element" else s!"{count} elements"
      .error (.wrongLength (count + items.length) s!"{wanted} in sequence")
  | .value, _ :: _ => .error (.wrongLength (count + items.length) "fewer elements in array")

/-- Fills a draft from the items of a sequence, the fields in order. -/
def fillInOrder (shape : Shape σ) (origin : Origin) (ending : ArrayEnd) (count : Nat) :
    List (Field σ) → List Document → σ → Read σ
  | [], items, draft => do
      overrun origin count items ending
      return draft
  | field :: fields, [], draft => do
      check ending.readCause?
      if field.defaulted then fillInOrder shape origin ending count fields [] draft
      else throw (.wrongLength count shape.arity)
  | field :: fields, item :: items, draft => do
      let draft ← field.set origin item draft
      fillInOrder shape origin ending (count + 1) fields items draft

/-- A record, written as an object with any further members or as a sequence of its
fields. -/
def closed (shape : Shape σ) (blank : σ) : Decoder σ := fun origin document =>
  match document with
  | .object members ending => do
      let inner ← origin.enter
      let (draft, _) ← shape.fill inner skip [] blank members
      check ending.readCause?
      return draft
  | .array items ending => do
      let inner ← origin.enter
      shape.fillInOrder inner ending 0 shape.fields items blank
  | document => document.mismatch shape.name

/-- A record, written as an object, together with its further members, which `extra`
reads. -/
def opened {ε : Type} (shape : Shape σ) (blank : σ) (extra : Decoder ε) :
    Decoder (σ × List (String × ε)) := fun origin document =>
  match document with
  | .object members ending => do
      let inner ← origin.enter
      let keep (key : String) (value : Document) : Read (List (String × ε)) := do
        return [(key, ← extra inner value)]
      let result ← shape.fill inner keep [] blank members
      check ending.readCause?
      return result
  | document => document.mismatch shape.name

end Shape

/-- The value of a field that must be there. -/
def required {α : Type} (name : String) (value : Option α) : Read α :=
  match value with
  | some value => .ok value
  | none => .error (.missingField name)

def decode {α : Type} (decoder : Decoder α) (source : Source) : Read α := do
  let value ← decoder (.text maxDepth) source.document
  if source.trailing then throw (.grammar .trailingText)
  return value

def decodeValue {α : Type} (decoder : Decoder α) (value : Json) : Read α :=
  decoder .value (.ofJson value)

end LayerGateway.Json
