/-!
# TOML values

A TOML document is a table of tables.  Where a table came from decides what may still be
added to it: a table with a header of its own is complete when the next header comes, a
table that a dotted key made can be extended by dotted keys only, and what is written as
one value is closed.
-/

namespace LayerGateway

namespace Toml

/-- Where a table comes from: its own header, the header of a table below it, a dotted
key, or a value in braces. -/
inductive Origin where
  | header
  | path
  | dotted
  | braces
  deriving DecidableEq, Repr

end Toml

/-- A TOML value.  Floating-point numbers and moments are kept as they were written. -/
inductive Toml where
  | text (value : String)
  | integer (value : Int)
  | real (written : String)
  | bool (value : Bool)
  | moment (written : String)
  | array (items : List Toml)
  /-- The tables under a header in double brackets. -/
  | tables (items : List Toml)
  | table (origin : Toml.Origin) (members : List (String × Toml))
  deriving Repr, Inhabited

namespace Toml

abbrev Members := List (String × Toml)

namespace Members

def get? (members : Members) (name : String) : Option Toml :=
  (members.find? (·.1 == name)).map (·.2)

def set (members : Members) (name : String) (value : Toml) : Members :=
  if (members.get? name).isSome then
    members.map fun member => if member.1 = name then (name, value) else member
  else members ++ [(name, value)]

def changeLast (change : Members → Option Members) (items : List Toml) : Option (List Toml) :=
  match items.getLast? with
  | some (.table origin members) => do
      return items.dropLast ++ [.table origin (← change members)]
  | _ => none

/-- Adds a value under a dotted key, whose last part is `name`.  The tables on the way are
made if they are not there; a table that has a header, or was written in braces, is not
entered. -/
def define (name : String) (value : Toml) : List String → Members → Option Members
  | [], members =>
      if (members.get? name).isSome then none else some (members ++ [(name, value)])
  | part :: path, members =>
      match members.get? part with
      | none => do
          return members.set part (.table .dotted (← define name value path []))
      | some (.table .dotted inner) => do
          return members.set part (.table .dotted (← define name value path inner))
      | some (.table .path inner) => do
          if path.isEmpty then none
          else return members.set part (.table .path (← define name value path inner))
      | some (.tables items) => do
          if path.isEmpty then none
          else return members.set part (.tables (← changeLast (define name value path) items))
      | some _ => none

/-- Changes the table at the end of a header's path.  Tables on the way are made if they
are not there; of tables in double brackets the last one is meant. -/
def changeAt (change : Members → Option Members) : List String → Members → Option Members
  | [], members => change members
  | part :: path, members =>
      match members.get? part with
      | none => do
          return members.set part (.table .path (← changeAt change path []))
      | some (.table .braces _) => none
      | some (.table origin inner) => do
          return members.set part (.table origin (← changeAt change path inner))
      | some (.tables items) => do
          return members.set part (.tables (← changeLast (changeAt change path) items))
      | some _ => none

def openTable (name : String) (members : Members) : Option Members :=
  match members.get? name with
  | none => some (members.set name (.table .header []))
  | some (.table .path inner) => some (members.set name (.table .header inner))
  | some _ => none

/-- Opens a further table of those under a header in double brackets. -/
def openFurther (name : String) (members : Members) : Option Members :=
  match members.get? name with
  | none => some (members.set name (.tables [.table .header []]))
  | some (.tables items) => some (members.set name (.tables (items ++ [.table .header []])))
  | some _ => none

end Members

end Toml

end LayerGateway
