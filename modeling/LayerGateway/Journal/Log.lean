import LayerGateway.Files.Tree
import LayerGateway.Journal.Entry
import LayerGateway.Text.Pieces

/-!
# The commit log

The commit log is a file with one entry a line.  Writing appends; reading skips blank
lines and stops at the first line that is no entry.
-/

namespace LayerGateway

/-- Why the commit log cannot be written or read. -/
inductive LogError where
  | file (path : String) (cause : FileError)
  /-- A line, counted from one, that is no entry. -/
  | corrupt (line : Nat) (cause : Json.ReadError)
  deriving DecidableEq, Repr

def LogError.message : LogError → String
  | .file path cause => s!"commit log io error on {path}: {cause.message}"
  | .corrupt line cause => s!"corrupt commit log entry at line {line}: {cause.message}"

def LogError.causes : LogError → List String
  | .file _ cause => [cause.message]
  | .corrupt _ cause => [cause.message]

namespace CommitLog

/-- The permissions of a log: it is nobody else's business. -/
def mode : Nat := 0o600

/-! ## Text -/

/-- The line of an entry, with its line end. -/
def line (entry : JournalEntry) : List Char :=
  entry.print ++ ['\n']

def textOf (entries : List JournalEntry) : List Char :=
  entries.flatMap line

def readLines (number : Nat) : List (List Char) → Except LogError (List JournalEntry)
  | [] => .ok []
  | line :: rest =>
      if Text.isBlankLine line then readLines (number + 1) rest
      else
        match Json.decode JournalEntry.decoder (.ofText (String.ofList line)) with
        | .error cause => .error (.corrupt number cause)
        | .ok entry => do
            return entry :: (← readLines (number + 1) rest)

def readText (text : String) : Except LogError (List JournalEntry) :=
  readLines 1 (Text.lines text.toList)

/-! ## Files -/

/-- Makes sure that a log and the folders above it are there. -/
def openAt (files : Files) (path : String) : Except LogError Files := do
  let above := (Path.parent? path).getD ""
  let files ← (files.makeFolders above).mapError (.file above)
  (files.update path mode id).mapError (.file path)

def append (files : Files) (path : String) (entries : List JournalEntry) :
    Except LogError Files :=
  (files.update path mode (· ++ Text.encodeChars (textOf entries))).mapError (.file path)

def read (files : Files) (path : String) : Except LogError (List JournalEntry) := do
  readText (← (files.readText path).mapError (.file path))

end CommitLog

end LayerGateway
