import LayerGateway.Http.Handler
import LayerGateway.Listen
import LayerGateway.Settings.Load
import LayerGateway.Socket.Session
import LayerGateway.Store.TableFile

/-!
# A gateway on its files

A node is a gateway together with the files in which its customers, its layers and its
journal are kept.  It is opened from the files, answers sessions and requests, and is
closed by writing everything back.

A program that cannot do its task says what it could not do, and beneath that, one below
the other, why.
-/

namespace LayerGateway

/-! ## Failures -/

/-- What could not be done, with the causes, the nearest first. -/
structure Failure where
  message : String
  causes : List String := []
  deriving DecidableEq, Repr

namespace Failure

/-- A text in which every line but the first is indented. -/
def indented (width : Nat) (text : String) : List Char :=
  text.toList.flatMap fun c =>
    if c = '\n' then '\n' :: List.replicate width ' ' else [c]

def numberedCause (number : Nat) (cause : String) : List Char :=
  let digits := Nat.toDigits 10 number
  '\n' :: List.replicate (5 - digits.length) ' ' ++ digits ++ ": ".toList ++ indented 7 cause

/-- The lines of the causes; a single cause has no number. -/
def causeLines : List String → List Char
  | [] => []
  | [cause] => "\n\nCaused by:\n    ".toList ++ indented 4 cause
  | causes =>
      "\n\nCaused by:".toList
        ++ (causes.zipIdx.flatMap fun (cause, number) => numberedCause number cause)

def report (failure : Failure) : String :=
  String.ofList (s!"Error: {failure.message}".toList ++ causeLines failure.causes ++ ['\n'])

end Failure

/-! ## Nodes -/

/-- What a program finds: the files, the names that are given next, the time in
milliseconds since 1970, and the variables it was started with. -/
structure World where
  files : Files
  names : Names
  clock : Int
  environment : Environment := {}

structure Node where
  settings : Settings
  gateway : Gateway

namespace Node

/-- The file of the customers in the folder of the registry. -/
def customersPath (settings : Settings) : String :=
  Path.join settings.registryFolder "customers"

def layersPath (settings : Settings) : String :=
  Path.join settings.layersFolder "layers"

def versionsPath (settings : Settings) : String :=
  Path.join settings.layersFolder "versions"

def paths (settings : Settings) : List String :=
  [customersPath settings, layersPath settings, versionsPath settings]

def openRegistry (files : Files) (settings : Settings) : Except TableError (Registry × Files) := do
  let files ← (files.makeFolders settings.registryFolder).mapError .file
  return (⟨← Table.load files (customersPath settings)⟩, files)

def openLayers (files : Files) (settings : Settings) : Except TableError (Disk × Files) := do
  let files ← (files.makeFolders settings.layersFolder).mapError .file
  let layers ← Table.load files (layersPath settings)
  return (⟨layers, ← Table.load files (versionsPath settings)⟩, files)

/-- The gateway over a registry and a layer store. -/
def assemble (world : World) (settings : Settings) (files : Files) (registry : Registry)
    (layers : LayerStore) : Node :=
  { settings
    gateway :=
      { registry, store := { layers }
        journal := { capacity := settings.journalCapacity }
        hub := { buffer := Hub.defaultBuffer }
        names := world.names, clock := world.clock, uptime := 0
        files, converter := .ofProgram settings.converter } }

def start (world : World) (settings : Settings) : Except Failure Node := do
  if settings.inMemory then return assemble world settings world.files {} .inMemory
  let files ← (world.files.makeFolders settings.dataFolder).mapError fun cause =>
    (⟨"failed to create data directory", [cause.message]⟩ : Failure)
  let (registry, files) ← (openRegistry files settings).mapError fun cause =>
    (⟨s!"cannot open registry at {settings.registryFolder}. Is another atlasd running?",
      [cause.message]⟩ : Failure)
  let (disk, files) ← (openLayers files settings).mapError fun cause =>
    (⟨"failed to open layer store", [s!"storage error: {cause.message}"]⟩ : Failure)
  return assemble world settings files registry (.onDisk disk)

def act {α : Type} (action : StateM Gateway α) (node : Node) : α × Node :=
  let (value, gateway) := action node.gateway
  (value, { node with gateway })

/-- What a connection to the command socket receives for what it sends. -/
def session (sent : Bytes) : Node → String × Node :=
  act (Socket.converse sent)

def request (request : Http.Request) (node : Node) : Http.Response × Node :=
  node.act (Http.respond node.settings.superuserKey request)

/-- Writes the tables of a node; a table that cannot be written stays as it was. -/
def saveTables (node : Node) : Files :=
  let files := node.gateway.files
  match node.gateway.store.layers.backend with
  | .memory _ => files
  | .disk disk =>
      let save (files : Files) (table : Table) (path : String) : Files :=
        (table.save files path).toOption.getD files
      let files := save files node.gateway.registry.rows (customersPath node.settings)
      let files := save files disk.layers (layersPath node.settings)
      save files disk.snapshots (versionsPath node.settings)

/-- Closes a node: views end, the journal and the tables are written.  Answers how many
entries went to the commit log. -/
def stop (node : Node) : Except Failure Nat × Files :=
  let node := { node with gateway := { node.gateway with hub := node.gateway.hub.closeAll.2 } }
  let (written, gateway) := node.gateway.writeJournal node.settings.journalPath
  let files := saveTables { node with gateway }
  (written.mapError fun cause => ⟨"commit log write failed", cause.message :: cause.causes⟩, files)

/-- Why a node cannot serve: nothing can listen at one of its addresses, or the commit log
cannot be opened. -/
def serviceFault? (node : Node) : Option Failure :=
  let unbound (what address : String) : Option Failure :=
    (listenFault? address).map fun fault =>
      ⟨s!"failed to bind {what} on {address}", [fault.message]⟩
  let unlogged : Option Failure :=
    match CommitLog.openAt node.gateway.files node.settings.journalPath with
    | .ok _ => none
    | .error _ => some ⟨"commit log is unavailable", []⟩
  unbound "HTTP" node.settings.httpAddress
    <|> unbound "socket" node.settings.socketAddress
    <|> unlogged

end Node

end LayerGateway
