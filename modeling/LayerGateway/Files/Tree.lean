import LayerGateway.Files.Path
import LayerGateway.Text.Utf8

/-!
# A tree of files

Files and folders as far as the gateway deals with them: paths are followed name by
name, a file can be read, written and appended to, and folders can be made.  What can
go wrong is what the operating system would say.
-/

namespace LayerGateway

inductive FileError where
  | missing
  | exists
  | notFolder
  | isFolder
  | nameTooLong
  | denied
  | nulInPath
  | notText
  deriving DecidableEq, Repr

def FileError.reason : FileError → String
  | .missing => "No such file or directory"
  | .denied => "Permission denied"
  | .exists => "File exists"
  | .notFolder => "Not a directory"
  | .isFolder => "Is a directory"
  | .nameTooLong => "File name too long"
  | .nulInPath => "file name contained an unexpected NUL byte"
  | .notText => "stream did not contain valid UTF-8"

/-- The number of an error that comes from the operating system. -/
def FileError.number? : FileError → Option Nat
  | .missing => some 2
  | .denied => some 13
  | .exists => some 17
  | .notFolder => some 20
  | .isFolder => some 21
  | .nameTooLong => some 36
  | .nulInPath | .notText => none

def FileError.message (error : FileError) : String :=
  match error.number? with
  | some number => s!"{error.reason} (os error {number})"
  | none => error.reason

/-- What a name in a folder stands for.  `mode` is the permissions of a file. -/
inductive FileEntry where
  | folder
  | file (content : Bytes) (mode : Nat)
  deriving DecidableEq, Repr

/-- A place in the tree: the names on the way from the root. -/
abbrev Location := List String

/-- A tree of files: the entries below the root, each folder before what it holds, and
the folder in which relative paths start. -/
structure Files where
  entries : List (Location × FileEntry) := []
  current : Location := []
  deriving DecidableEq, Repr

namespace Files

/-- The longest name, in bytes. -/
def nameLimit : Nat := 255

/-- The longest path, in bytes. -/
def pathLimit : Nat := 4095

def entry? (files : Files) (location : Location) : Option FileEntry :=
  if location = [] then some .folder
  else (files.entries.find? (·.1 == location)).map (·.2)

def put (files : Files) (location : Location) (entry : FileEntry) : Files :=
  if (files.entries.find? (·.1 == location)).isSome then
    { files with entries := files.entries.map fun row =>
        if row.1 = location then (location, entry) else row }
  else { files with entries := files.entries ++ [(location, entry)] }

def walk (files : Files) : Location → List String → Except FileError Location
  | location, [] => .ok location
  | location, name :: names =>
      match files.entry? location with
      | some .folder =>
          if name = ".." then walk files location.dropLast names
          else if nameLimit < name.utf8ByteSize then .error .nameTooLong
          else if (files.entry? (location ++ [name])).isSome then
            walk files (location ++ [name]) names
          else .error .missing
      | some (.file _ _) => .error .notFolder
      | none => .error .missing

def start (files : Files) (path : String) : Location :=
  if Path.isAbsolute path then [] else files.current

def demandPath (path : String) : Except FileError Unit :=
  if path.toList.contains '\x00' then .error .nulInPath
  else if pathLimit < path.utf8ByteSize then .error .nameTooLong
  else if path = "" then .error .missing
  else .ok ()

/-- The place that a path leads to, where something must be. -/
def locate (files : Files) (path : String) : Except FileError Location := do
  demandPath path
  let location ← files.walk (files.start path) (Path.names path)
  if Path.namesFolder path && files.entry? location != some .folder then throw .notFolder
  return location

def contains (files : Files) (path : String) : Except FileError Bool :=
  match files.locate path with
  | .ok _ => .ok true
  | .error .missing => .ok false
  | .error cause => .error cause

def isFile (files : Files) (path : String) : Bool :=
  match files.locate path with
  | .ok location => match files.entry? location with
      | some (.file _ _) => true
      | _ => false
  | .error _ => false

def isFolder (files : Files) (path : String) : Bool :=
  match files.locate path with
  | .ok location => files.entry? location == some .folder
  | .error _ => false

def read (files : Files) (path : String) : Except FileError Bytes := do
  match files.entry? (← files.locate path) with
  | some (.file content _) => return content
  | _ => throw .isFolder

def readText (files : Files) (path : String) : Except FileError String := do
  match Text.decode? (← files.read path) with
  | some text => return text
  | none => throw .notText

def mode? (files : Files) (path : String) : Option Nat :=
  match files.locate path with
  | .ok location => match files.entry? location with
      | some (.file _ mode) => some mode
      | _ => none
  | .error _ => none

/-- The place for a new entry: its folder must be there and its name must be possible. -/
def place (files : Files) (path : String) : Except FileError Location := do
  demandPath path
  match (Path.names path).reverse with
  | [] => return files.start path
  | name :: above =>
      let folder ← files.walk (files.start path) above.reverse
      match files.entry? folder with
      | some .folder =>
          if name = ".." then return folder.dropLast
          if nameLimit < name.utf8ByteSize then throw .nameTooLong
          return folder ++ [name]
      | _ => throw .notFolder

/-- Opens a file for writing, makes it if it is not there, and changes its content. -/
def update (files : Files) (path : String) (mode : Nat) (change : Bytes → Bytes) :
    Except FileError Files := do
  let location ← files.place path
  match files.entry? location with
  | some .folder => throw .isFolder
  | some (.file content mode) =>
      if Path.namesFolder path then throw .notFolder
      return files.put location (.file (change content) mode)
  | none =>
      if Path.namesFolder path then throw .isFolder
      return files.put location (.file (change []) mode)

def makeFolder (files : Files) (path : String) : Except FileError Files := do
  let location ← files.place path
  match files.entry? location with
  | some _ => throw .exists
  | none => return files.put location .folder

/-- Makes a folder and the folders above it, as far as they are not there. -/
def makeFolders (files : Files) (path : String) : Except FileError Files :=
  go (Path.names path).length path
where
  /-- Makes at most `depth` folders above the last one. -/
  go (depth : Nat) (path : String) : Except FileError Files :=
    if path = "" then .ok files
    else
      match files.makeFolder path with
      | .ok files => .ok files
      | .error .missing =>
          match depth, Path.parent? path with
          | depth + 1, some above => do
              let files ← go depth above
              match files.makeFolder path with
              | .ok files => return files
              | .error cause => if files.isFolder path then return files else throw cause
          | _, _ => .error .missing
      | .error cause => if files.isFolder path then .ok files else .error cause

end Files

end LayerGateway
