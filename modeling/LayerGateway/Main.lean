import LayerGateway.Program.Basic
import Std.Time.DateTime.Timestamp

/-!
# The executable

The files that a run looks at are read before it, and those that it has changed are
written after it.  Everything in between is `Program.run`.
-/

namespace LayerGateway.Host

def entryAt (path : String) : IO (Option FileEntry) := do
  try
    let content ← IO.FS.readBinFile path
    return some (.file content.toList 0o644)
  catch
    | .noFileOrDirectory .. => return none
    | .inappropriateType .. => return some .folder
    | _ => return some (.file [] 0)

/-- Takes what is at a place into the files, from the root on, up to the first name that
is not there or is a file. -/
def loadPlace (files : Files) (above : Location) : List String → IO Files
  | [] => return files
  | name :: rest => do
      let place := above ++ [name]
      match ← entryAt ("/" ++ "/".intercalate place) with
      | some .folder => loadPlace (files.put place .folder) place rest
      | some (.file content mode) => return files.put place (.file content mode)
      | none => return files

def load (files : Files) (paths : List String) : IO Files :=
  paths.foldlM (fun files path => loadPlace files [] (files.start path ++ Path.names path)) files

/-- The rights on a file that is nobody else's business. -/
def ownerOnly : IO.FileRight where
  user := { read := true, write := true }

def storeEntry (place : Location) (entry : FileEntry) : IO Unit := do
  let path := "/" ++ "/".intercalate place
  match entry with
  | .folder => IO.FS.createDirAll path
  | .file content mode => do
      IO.FS.writeBinFile path ⟨content.toArray⟩
      if mode = CommitLog.mode then IO.setAccessRights path ownerOnly

def store (before after : Files) : IO Unit := do
  for (place, entry) in after.entries do
    unless before.entry? place == some entry do storeEntry place entry

def letters (bytes : List UInt8) : List Char :=
  bytes.map fun byte => Char.ofNat ('a'.toNat + byte.toNat % 26)

def freshNames : IO Names := do
  let random := (← IO.getRandomBytes 16).toList
  return .behind (letters (random.take 5)) (Text.hexOf ((random.drop 5).take 4))
    (Text.hexOf ((random.drop 9).take 4))

def environment : IO Environment := do
  let names := ["HOME", "XDG_CONFIG_HOME", "ATLAS_SUPERUSER_KEY"]
  let values ← names.mapM fun name => do return (name, ← IO.getEnv name)
  return .ofVariables fun name => (values.find? (·.1 == name)).bind (·.2)

/-- What stands on the standard input, if the task needs it. -/
def input (line : Except Stop CommandLine) : IO Bytes := do
  match line with
  | .ok ⟨_, .start _⟩ => return (← (← IO.getStdin).readBinToEnd).toList
  | _ => return []

def filesFor (environment : Environment) (line : Except Stop CommandLine) : IO Files := do
  let current := Path.names (← IO.currentDir).toString
  let here ← loadPlace {} [] current
  let here := { here with current }
  match line with
  | .ok line => do
      let files ← load here (Program.settingsPaths environment line)
      load files (Program.dataPaths files environment line)
  | .error _ => return here

end LayerGateway.Host

open LayerGateway in
def main (words : List String) : IO UInt32 := do
  let environment ← Host.environment
  let line := CommandLine.ofWords words
  let files ← Host.filesFor environment line
  let clock := (← Std.Time.Timestamp.now).toMillisecondsSinceUnixEpoch.val
  let world : World := { files, names := ← Host.freshNames, clock, environment }
  let (report, after) := Program.run world words (← Host.input line)
  Host.store files after.files
  IO.print report.output
  IO.eprint report.errors
  return UInt32.ofNat report.code
