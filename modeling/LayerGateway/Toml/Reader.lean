import LayerGateway.Toml.Scalar
import LayerGateway.Toml.Token

/-!
# Reading TOML

The reader is a machine that takes one token a step.  It holds the tables read so far,
the path of the header in force, and a stack of the arrays and tables in braces that are
open.  A document is refused as a whole, wherever its fault is.
-/

namespace LayerGateway.Toml

/-- A key as far as it has been read, its parts newest first.  When it is `ready` a point
or the end of the key may follow, otherwise a part must. -/
structure KeyScan where
  parts : List String := []
  ready : Bool := false
  deriving DecidableEq, Repr

def keyLimit : Nat := 79

def isBareKey (word : List Char) : Bool :=
  word.all fun c => c.isAlphanum || c == '_' || c == '-'

def KeyScan.step (key : KeyScan) (token : Token) : Option KeyScan :=
  match token, key.ready with
  | .blank _, _ => some key
  | .word word, false =>
      if isBareKey word then some ⟨String.ofList word :: key.parts, true⟩ else none
  | .text content false, false => some ⟨content :: key.parts, true⟩
  | .point, true => some { key with ready := false }
  | _, _ => none

/-- A key in parts: those before the last one, and the last one. -/
abbrev Key := List String × String

/-- The key, if it is whole. -/
def KeyScan.key? (key : KeyScan) : Option Key :=
  match key.ready, key.parts with
  | true, last :: before =>
      if key.parts.length ≤ keyLimit then some (before.reverse, last) else none
  | _, _ => none

/-- What is open: an array with its items newest first, or a table in braces with the key
whose value is being read. -/
inductive Frame where
  | array (items : List Toml)
  | braces (members : Members) (key : Option Key)

def depthLimit : Nat := 79

inductive Site where
  | lineStart
  /-- Behind the first bracket of a header. -/
  | bracket
  /-- Inside a header; `double` for one in double brackets. -/
  | header (double : Bool) (key : KeyScan)
  /-- Behind the first closing bracket of a header in double brackets. -/
  | headerEnd (key : Key)
  | key (scan : KeyScan)
  /-- Behind an opening brace. -/
  | braceStart
  | value
  /-- Inside a word; `gap` when one space followed that may belong to a moment. -/
  | word (characters : List Char) (gap : Bool)
  | afterValue
  | lineEnd

/-- The machine; `key` is the key of the line whose value is being read. -/
structure Machine where
  root : Members := []
  header : List String := []
  key : Key := ([], "")
  stack : List Frame := []
  site : Site := .lineStart

namespace Machine

def goTo (machine : Machine) (site : Site) : Option Machine :=
  some { machine with site }

def enter (machine : Machine) (frame : Frame) (site : Site) : Option Machine :=
  if machine.stack.length < depthLimit then
    some { machine with stack := frame :: machine.stack, site }
  else none

/-- Takes a whole value into what is open around it, or into the table in force. -/
def deliver (machine : Machine) (value : Toml) : Option Machine :=
  match machine.stack with
  | [] => do
      let (path, name) := machine.key
      let root ← machine.root.changeAt (Members.define name value path) machine.header
      return { machine with root, site := .lineEnd }
  | .array items :: rest =>
      some { machine with stack := .array (value :: items) :: rest, site := .afterValue }
  | .braces members (some (path, name)) :: rest => do
      let members ← Members.define name value path members
      return { machine with stack := .braces members none :: rest, site := .afterValue }
  | .braces _ none :: _ => none

def closeArray (machine : Machine) : Option Machine :=
  match machine.stack with
  | .array items :: rest => deliver { machine with stack := rest } (.array items.reverse)
  | _ => none

def closeBraces (machine : Machine) : Option Machine :=
  match machine.stack with
  | .braces members none :: rest =>
      deliver { machine with stack := rest } (.table .braces members)
  | _ => none

def inArray (machine : Machine) : Bool :=
  match machine.stack with
  | .array _ :: _ => true
  | _ => false

def openHeader (machine : Machine) (double : Bool) (key : Key) : Option Machine := do
  let (path, name) := key
  let change := if double then Members.openFurther name else Members.openTable name
  let root ← machine.root.changeAt change path
  return { machine with root, header := path ++ [name], site := .lineEnd }

def setKey (machine : Machine) (key : Key) : Option Machine :=
  match machine.stack with
  | .braces members none :: rest =>
      some { machine with stack := .braces members (some key) :: rest, site := .value }
  | _ => some { machine with key, site := .value }

def stepHeader (machine : Machine) (double : Bool) (key : KeyScan) (token : Token) :
    Option Machine :=
  match token with
  | .closeBracket => do
      let key ← key.key?
      if double then machine.goTo (.headerEnd key) else machine.openHeader false key
  | token => do machine.goTo (.header double (← key.step token))

def stepKey (machine : Machine) (key : KeyScan) (token : Token) : Option Machine :=
  match token with
  | .equals => do machine.setKey (← key.key?)
  | token => do machine.goTo (.key (← key.step token))

def stepValue (machine : Machine) (token : Token) : Option Machine :=
  match token with
  | .blank _ => some machine
  | .lineEnd => if machine.inArray then some machine else none
  | .text content _ => machine.deliver (.text content)
  | .openBracket => machine.enter (.array []) .value
  | .openBrace => machine.enter (.braces [] none) .braceStart
  | .closeBracket => machine.closeArray
  | .word characters => machine.goTo (.word characters false)
  | _ => none

def stepAfter (machine : Machine) (token : Token) : Option Machine :=
  match machine.site, token with
  | .lineEnd, .blank _ => some machine
  | .lineEnd, .lineEnd => machine.goTo .lineStart
  | .afterValue, .blank _ => some machine
  | .afterValue, .lineEnd => if machine.inArray then some machine else none
  | .afterValue, .comma => machine.goTo (if machine.inArray then .value else .key {})
  | .afterValue, .closeBracket => machine.closeArray
  | .afterValue, .closeBrace => machine.closeBraces
  | _, _ => none

/-- A token behind a word that does not belong to it. -/
def stepBehind (machine : Machine) (word : List Char) (tokens : List Token) : Option Machine := do
  tokens.foldlM stepAfter (← machine.deliver (← ofWord? word))

/-- A token inside a word, or behind it.  A date and a time of day may have one space
between them. -/
def stepWord (machine : Machine) (word : List Char) (gap : Bool) (token : Token) :
    Option Machine :=
  match token, gap with
  | .word more, false => machine.goTo (.word (word ++ more) false)
  | .point, false => machine.goTo (.word (word ++ ['.']) false)
  | .blank true, false =>
      if afterDate? word = some [] then machine.goTo (.word word true)
      else machine.stepBehind word [token]
  | .word more, true => machine.goTo (.word (word ++ ' ' :: more) false)
  | token, true => machine.stepBehind word [.blank true, token]
  | token, false => machine.stepBehind word [token]

def step (machine : Machine) (token : Token) : Option Machine :=
  match machine.site with
  | .lineStart =>
      match token with
      | .blank _ | .lineEnd => some machine
      | .openBracket => machine.goTo .bracket
      | token => machine.stepKey {} token
  | .bracket =>
      if token = .openBracket then machine.goTo (.header true {})
      else machine.stepHeader false {} token
  | .header double key => machine.stepHeader double key token
  | .headerEnd key => if token = .closeBracket then machine.openHeader true key else none
  | .key scan => machine.stepKey scan token
  | .braceStart =>
      match token with
      | .blank _ => some machine
      | .closeBrace => machine.closeBraces
      | token => machine.stepKey {} token
  | .value => machine.stepValue token
  | .word characters gap => machine.stepWord characters gap token
  | .afterValue | .lineEnd => machine.stepAfter token

def finish (machine : Machine) : Option Members :=
  match machine.site with
  | .word characters _ =>
      if machine.stack.isEmpty then (machine.stepBehind characters []).map (·.root) else none
  | .lineStart | .lineEnd => some machine.root
  | _ => none

end Machine

def read? (text : String) : Option Members :=
  (tokens? text).bind fun tokens => (tokens.foldlM Machine.step {}).bind Machine.finish

end LayerGateway.Toml
