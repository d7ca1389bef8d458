import LayerGateway.Json.Document
import LayerGateway.Json.Token.Number
import LayerGateway.Json.Token.Text

/-!
# Reading JSON text

The reader is a machine with a stack of the arrays and objects that are open.  It
takes one step per symbol, so it always ends, and nothing is read twice.  Where
the text breaks the grammar the machine closes everything that is open around the
fault and ignores the rest.
-/

namespace LayerGateway.Json

open Text (Symbol)

/-- An array or object that is open, its content newest first.  An object without a
key waits for one. -/
inductive Frame where
  | array (items : List Document)
  | object (members : List DocumentMember) (key : Option (Except GrammarError String))

inductive Site where
  /-- Before a value; `first` directly after a bracket. -/
  | value (first : Bool)
  /-- Inside a word such as `true`, of which `rest` is missing. -/
  | word (rest : List Char) (value : Document)
  | number (scan : NumberScan)
  | text (scan : TextScan)
  /-- Inside a key. -/
  | key (scan : TextScan)
  /-- Before a key; `first` directly after a brace. -/
  | beforeKey (first : Bool)
  | beforeColon (key : Except GrammarError String)
  | afterValue
  /-- After the whole value; `trailing` when more than blanks follow. -/
  | done (document : Document) (trailing : Bool)

/-- The machine: what is open, innermost first, and where it stands. -/
structure Machine where
  stack : List Frame
  site : Site

/-- What was read: a document, and whether something else follows it. -/
structure Source where
  document : Document
  trailing : Bool

def isSpace (symbol : Symbol) : Bool :=
  symbol == .char ' ' || symbol == .char '\n' || symbol == .char '\t' || symbol == .char '\r'

namespace Machine

def start : Machine :=
  ⟨[], .value false⟩

/-- Closes all that is open around a document in which the text broke. -/
def unwind (document : Document) : List Frame → Document
  | [] => document
  | .array items :: rest =>
      unwind (.array (document :: items).reverse .inItem) rest
  | .object members (some key) :: rest =>
      unwind (.object ((key, document) :: members).reverse .inValue) rest
  | .object members none :: rest =>
      unwind (.object members.reverse (.badKey document)) rest

def stop (machine : Machine) (document : Document) : Machine :=
  ⟨[], .done (unwind document machine.stack) false⟩

def stopAt (machine : Machine) (cause : GrammarError) : Machine :=
  machine.stop (.broken .other cause cause)

/-- Takes a whole value into what is open around it. -/
def deliver (machine : Machine) (document : Document) : Machine :=
  match machine.stack with
  | [] => ⟨[], .done document false⟩
  | .array items :: rest => ⟨.array (document :: items) :: rest, .afterValue⟩
  | .object members (some key) :: rest =>
      ⟨.object ((key, document) :: members) none :: rest, .afterValue⟩
  | .object members none :: rest =>
      stop ⟨rest, .afterValue⟩ (.object members.reverse (.badKey document))

def endArray (machine : Machine) (ending : ArrayEnd) : Machine :=
  match machine.stack with
  | .array items :: rest =>
      let document := .array items.reverse ending
      if ending = .closed then deliver ⟨rest, .afterValue⟩ document
      else stop ⟨rest, .afterValue⟩ document
  | _ => machine

def closeObject (machine : Machine) : Machine :=
  match machine.stack with
  | .object members _ :: rest =>
      deliver ⟨rest, .afterValue⟩ (.object members.reverse .closed)
  | _ => machine

def breakObject (machine : Machine) (ending : ObjectEnd) : Machine :=
  match machine.stack with
  | .object members _ :: rest =>
      stop ⟨rest, .afterValue⟩ (.object members.reverse ending)
  | _ => machine

def inArray (machine : Machine) : Bool :=
  match machine.stack with
  | .array _ :: _ => true
  | _ => false

def enter (machine : Machine) (frame : Frame) (site : Site) : Machine :=
  ⟨frame :: machine.stack, site⟩

def stepValue (machine : Machine) (first : Bool) (c : Char) : Machine :=
  if c = '"' then { machine with site := .text .start }
  else if c = '[' then machine.enter (.array []) (.value true)
  else if c = '\x7b' then machine.enter (.object [] none) (.beforeKey true)
  else if c = 'n' then { machine with site := .word ['u', 'l', 'l'] .null }
  else if c = 't' then { machine with site := .word ['r', 'u', 'e'] (.bool true) }
  else if c = 'f' then { machine with site := .word ['a', 'l', 's', 'e'] (.bool false) }
  else if c = ']' ∧ machine.inArray then
    machine.endArray (if first then .closed else .trailingComma)
  else
    match NumberScan.start? c with
    | some scan => { machine with site := .number scan }
    | none => machine.stopAt .valueExpected

/-- The symbol after a value: a comma, or the end of what is open. -/
def stepAfter (machine : Machine) (symbol : Symbol) : Machine :=
  if machine.inArray then
    if symbol = .char ',' then { machine with site := .value false }
    else if symbol = .char ']' then machine.endArray .closed
    else machine.endArray .unseparated
  else
    if symbol = .char ',' then { machine with site := .beforeKey false }
    else if symbol = .char '\x7d' then machine.closeObject
    else machine.breakObject .unseparated

/-- The symbol before a key: its quote, or the end of the object. -/
def stepKey (machine : Machine) (first : Bool) (symbol : Symbol) : Machine :=
  match symbol with
  | .char '"' => { machine with site := .key .start }
  | .char '\x7d' => if first then machine.closeObject else machine.breakObject .trailingComma
  | .char c => machine.stepValue false c
  | .stray _ _ => machine.stopAt .valueExpected

def setKey (machine : Machine) (key : Except GrammarError String) : Machine :=
  match machine.stack with
  | .object members _ :: rest => ⟨.object members (some key) :: rest, .value false⟩
  | _ => machine

/-- A symbol after a complete value that did not belong to it: a blank, or what the
sites after a value make of it. -/
def stepOutside (machine : Machine) (symbol : Symbol) : Machine :=
  match machine.site with
  | .done document trailing => { machine with site := .done document (trailing || !isSpace symbol) }
  | .afterValue => if isSpace symbol then machine else machine.stepAfter symbol
  | _ => machine

def stepNumber (machine : Machine) (scan : NumberScan) (symbol : Symbol) : Machine :=
  let unknown := if scan.isComplete then NumberStep.over else .broken
  match (symbol.char?.map scan.step).getD unknown with
  | .more scan => { machine with site := .number scan }
  | .over => (machine.deliver (.number scan.value?)).stepOutside symbol
  | .broken => machine.stopAt .badNumber

def step (machine : Machine) (symbol : Symbol) : Machine :=
  match machine.site with
  | .value first =>
      if isSpace symbol then machine
      else
        match symbol with
        | .char c => machine.stepValue first c
        | .stray _ _ => machine.stopAt .valueExpected
  | .word [] value => machine.deliver value
  | .word (expected :: rest) value =>
      if symbol = .char expected then
        match rest with
        | [] => machine.deliver value
        | _ => { machine with site := .word rest value }
      else machine.stopAt .wordExpected
  | .number scan => machine.stepNumber scan symbol
  | .text scan =>
      match scan.step symbol with
      | .more scan => { machine with site := .text scan }
      | .closed text => machine.deliver (.string text)
      | .broken cause => machine.stop (.broken .text (scan.readCause cause) cause)
  | .key scan =>
      match scan.step symbol with
      | .more scan => { machine with site := .key scan }
      | .closed text => { machine with site := .beforeColon text }
      | .broken cause => machine.breakObject (.brokenKey (scan.readCause cause) cause)
  | .beforeKey first => if isSpace symbol then machine else machine.stepKey first symbol
  | .beforeColon key =>
      if isSpace symbol then machine
      else if symbol = .char ':' then machine.setKey key
      else machine.breakObject (.noColon key false)
  | .afterValue | .done _ _ => machine.stepOutside symbol

/-- What the machine has read when the text ends where it stands. -/
def finish (machine : Machine) : Source :=
  let ended : Machine :=
    match machine.site with
    | .value true => machine.endArray .cutOff
    | .value false => machine.stop (.broken .absent .endInValue .endInValue)
    | .word _ _ => machine.stopAt .endInValue
    | .number scan =>
        if scan.isComplete then machine.deliver (.number scan.value?)
        else machine.stop (.broken .other .endInValue .badNumber)
    | .text scan => machine.stop (.broken .text (scan.readCause .endInString) .endInString)
    | .key scan => machine.breakObject (.brokenKey (scan.readCause .endInString) .endInString)
    | .beforeKey first => machine.breakObject (if first then .cutOff else .cutAfterComma)
    | .beforeColon key => machine.breakObject (.noColon key true)
    | .afterValue | .done _ _ => machine
  let closed : Machine :=
    match ended.site with
    | .afterValue => if ended.inArray then ended.endArray .cutOff else ended.breakObject .cutOff
    | _ => ended
  match closed.site with
  | .done document trailing => ⟨document, trailing⟩
  | _ => ⟨.broken .absent .endInValue .endInValue, false⟩

end Machine

namespace Source

def ofSymbols (symbols : List Symbol) : Source :=
  (symbols.foldl Machine.step Machine.start).finish

def ofText (text : String) : Source :=
  ofSymbols (Text.symbolsOf text)

def ofBytes (bytes : Bytes) : Source :=
  ofSymbols (Text.symbols bytes)

end Source

end LayerGateway.Json
