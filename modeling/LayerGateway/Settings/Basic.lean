import LayerGateway.Import.Converter
import LayerGateway.Journal.Queue
import LayerGateway.Toml.Basic

/-!
# Settings

What can be set about a gateway, what holds if nothing is set, and how settings are read
from a TOML document.  Sections and names that are not known are ignored, and so is the
order; a value of the wrong kind is refused.
-/

namespace LayerGateway

/-- The settings of a gateway. -/
structure Settings where
  dataFolder : String
  httpAddress : String := "0.0.0.0:8080"
  socketAddress : String := "127.0.0.1:3333"
  /-- The key that opens the management; without one a key is made up. -/
  superuserKey : String := ""
  journalFile : Option String := none
  journalCapacity : Nat := JournalQueue.defaultCapacity
  backend : String := "file"
  converter : String := Converter.defaultProgram
  shutdownSeconds : Nat := 10
  logLevel : String := "info"
  deriving DecidableEq, Repr

namespace Settings

/-- The backend that keeps nothing but the commit log. -/
def memoryBackend : String := "memory"

def inMemory (settings : Settings) : Bool :=
  settings.backend == memoryBackend

def journalPath (settings : Settings) : String :=
  settings.journalFile.getD (Path.join settings.dataFolder "commit.log")

def registryFolder (settings : Settings) : String :=
  Path.join settings.dataFolder "meta"

def layersFolder (settings : Settings) : String :=
  Path.join settings.dataFolder "layers"

/-- The folder for data below a home, or below the current folder. -/
def defaultFolder : Option String → String
  | some home => Path.join home ".atlas"
  | none => ".atlas"

/-! ## Sections -/

/-- A setting in a section: its name, and what a value does to the settings. -/
structure Field where
  name : String
  apply : Toml → Settings → Option Settings

def textField (name : String) (set : String → Settings → Settings) : Field :=
  ⟨name, fun value settings =>
    match value with
    | .text text => some (set text settings)
    | _ => none⟩

/-- A setting that is a number from zero on. -/
def countField (name : String) (set : Nat → Settings → Settings) : Field :=
  ⟨name, fun value settings =>
    match value with
    | .integer count => if 0 ≤ count then some (set count.toNat settings) else none
    | _ => none⟩

/-- The sections with their fields, in order. -/
def sections : List (String × List Field) :=
  [("node",
     [textField "data_dir" fun text settings => { settings with dataFolder := text },
      textField "http_listen_addr" fun text settings => { settings with httpAddress := text },
      textField "socket_listen_addr" fun text settings => { settings with socketAddress := text }]),
   ("auth",
     [textField "superuser_key" fun text settings => { settings with superuserKey := text }]),
   ("journal",
     [textField "path" fun text settings => { settings with journalFile := some text },
      countField "capacity" fun count settings => { settings with journalCapacity := count }]),
   ("storage",
     [textField "backend" fun text settings => { settings with backend := text }]),
   ("import",
     [textField "converter" fun text settings => { settings with converter := text }]),
   ("shutdown",
     [countField "timeout_secs" fun count settings => { settings with shutdownSeconds := count }]),
   ("log",
     [textField "level" fun text settings => { settings with logLevel := text }])]

/-- Applies a section.  It is a table, or an array with the values in the order of the
fields; a moment counts as a table of nothing. -/
def applySection (fields : List Field) (value : Toml) (settings : Settings) : Option Settings :=
  match value with
  | .table _ members =>
      fields.foldlM (fun settings field =>
        match Toml.Members.get? members field.name with
        | some value => field.apply value settings
        | none => some settings) settings
  | .array items | .tables items =>
      (fields.zip items).foldlM (fun settings (field, value) => field.apply value settings) settings
  | .moment _ => some settings
  | _ => none

def applyDocument (document : Toml.Members) (settings : Settings) : Option Settings :=
  sections.foldlM (fun settings (name, fields) =>
    match document.get? name with
    | some value => applySection fields value settings
    | none => some settings) settings

end Settings

end LayerGateway
