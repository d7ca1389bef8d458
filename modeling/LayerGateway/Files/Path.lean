import LayerGateway.Text.Pieces

/-!
# Paths

A path is a text in which slashes separate names.  Empty names and `.` mean nothing,
`..` is the folder above.
-/

namespace LayerGateway.Path

open Text (pieces)

def isAbsolute (path : String) : Bool :=
  path.startsWith "/"

def names (path : String) : List String :=
  (pieces '/' path.toList).filterMap fun piece =>
    if piece = [] ∨ piece = ['.'] then none else some (String.ofList piece)

/-- Whether a path says that it names a folder, by its last slash or dot. -/
def namesFolder (path : String) : Bool :=
  match (pieces '/' path.toList).getLast? with
  | some last => last = [] || last = ['.']
  | none => false

/-- A path below another one, or the second path alone if it is absolute. -/
def join (base path : String) : String :=
  if isAbsolute path || base = "" then path
  else if base.endsWith "/" then base ++ path
  else base ++ "/" ++ path

/-- The last name of a path; none if the path ends at the root or with `..`. -/
def lastName? (path : String) : Option String :=
  (names path).getLast?.filter (· != "..")

/-- The folder of a path; none for a root and for no path at all. -/
def parent? (path : String) : Option String :=
  match (names path).dropLast with
  | [] =>
      if (names path).isEmpty then none else some (if isAbsolute path then "/" else "")
  | above => some ((if isAbsolute path then "/" else "") ++ "/".intercalate above)

/-- The part of the last name behind its last dot; none without a dot and for a name that
only starts with one. -/
def extension? (path : String) : Option String :=
  (lastName? path).bind fun name =>
    match (pieces '.' name.toList).reverse with
    | extension :: before =>
        if before = [] ∨ before = [[]] then none else some (String.ofList extension)
    | [] => none

end LayerGateway.Path
