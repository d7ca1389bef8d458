import LayerGateway.Program.Arguments
import LayerGateway.Program.Node

/-!
# The program

What the program does with a command line in a world of files: it starts a gateway, lists
the customers or imports a file.  A started gateway serves one session, the one on
standard input, and stops when that is over.
-/

namespace LayerGateway

/-- How a program ends: its exit code, and what it has written. -/
structure Report where
  code : Nat := 0
  output : String := ""
  errors : String := ""
  deriving DecidableEq, Repr

namespace Program

def versionLine : String := s!"atlasd {version}\n"

def usage : String :=
  "Usage: atlasd [--config FILE] start|customers|import\n"

def failed (failure : Failure) : Report :=
  { code := 1, errors := failure.report }

/-- The settings for a start: the command line comes before the variables, and both before
the file. -/
def settingsFor (options : StartOptions) (environment : Environment) (settings : Settings) :
    Settings :=
  { settings with
    dataFolder := options.dataFolder.getD settings.dataFolder
    httpAddress := options.httpAddress.getD settings.httpAddress
    socketAddress := options.socketAddress.getD settings.socketAddress
    superuserKey :=
      (options.superuserKey <|> environment.superuserKey).getD settings.superuserKey
    backend := if options.memory then Settings.memoryBackend else settings.backend }

/-- The settings with a key that opens the management. -/
def withSuperuserKey (spare : String) (settings : Settings) : Settings :=
  if settings.superuserKey = "" then { settings with superuserKey := spare } else settings

/-- Starts a gateway, serves a session, and stops. -/
def runStart (world : World) (settings : Settings) (sent : Bytes) : Report × World :=
  let (spare, names) := world.names.feature
  let world := { world with names }
  match Node.start world (withSuperuserKey spare settings) with
  | .error failure => (failed failure, world)
  | .ok node =>
      match node.serviceFault? with
      | some failure => (failed failure, { world with files := node.gateway.files })
      | none =>
          let (received, node) := node.session sent
          let (written, files) := node.stop
          let world := { world with files, names := node.gateway.names }
          match written with
          | .ok _ => ({ output := received }, world)
          | .error failure => ({ failed failure with output := received }, world)

def customerLines (customer : Customer) : String :=
  s!"  {customer.apikey.text} datasources={customer.datasources.length}\n"
    ++ String.join (customer.datasources.map fun datasource => s!"    {datasource.text}\n")

/-- The lines about customers; the first record that cannot be read ends them. -/
def customersListing (registry : Registry) : List AccessKey → String × Option Failure
  | [] => ("", none)
  | key :: rest =>
      match registry.get key with
      | .ok customer =>
          let (lines, failure) := customersListing registry rest
          (customerLines { customer with apikey := key } ++ lines, failure)
      | .error error => ("", some ⟨error.message, error.causes⟩)

def runCustomers (world : World) (settings : Settings) : Report × World :=
  match Node.openRegistry world.files settings with
  | .error cause =>
      (failed ⟨s!"cannot open registry at {settings.registryFolder}. Is atlasd running? "
        ++ s!"({cause.message})", []⟩, world)
  | .ok (registry, files) =>
      let keys := registry.list
      let (lines, failure) := customersListing registry keys
      let output := s!"Customers: {keys.length}\n" ++ lines
      let report : Report :=
        match failure with
        | some failure => { failed failure with output }
        | none => { output }
      (report, { world with files })

def outcomeLine : Outcome → String
  | .datasource id => id.text ++ "\n"
  | outcome => outcome.toJson.text ++ "\n"

/-- Imports a file.  The journal is written in any case, and a failure to write it comes
before a failure of the import. -/
def runImport (world : World) (settings : Settings) (path : String) (apikey : Option String) :
    Report × World :=
  match Node.start world settings with
  | .error failure => (failed failure, world)
  | .ok node =>
      let caller : Caller :=
        match apikey with
        | some key => .keyed ⟨key⟩
        | none => .trusted
      let (result, node) := node.act (Gateway.dispatch caller (.importFile path))
      let (written, files) := node.stop
      let world := { world with files, names := node.gateway.names }
      match written, result with
      | .error failure, _ => (failed failure, world)
      | .ok _, .ok outcome => ({ output := outcomeLine outcome }, world)
      | .ok _, .error error => (failed ⟨s!"failed to import {path}", [error.message]⟩, world)

def perform (world : World) (line : CommandLine) (sent : Bytes) : Report × World :=
  match Settings.load world.files world.environment line.settings with
  | .error error => (failed ⟨"failed to load config", [error.message, error.cause]⟩, world)
  | .ok settings =>
      match line.task with
      | .start options =>
          runStart world (settingsFor options world.environment settings) sent
      | .customers => runCustomers world settings
      | .importFile path apikey => runImport world settings path apikey

/-- Runs the program with the words of a command line and what stands on its standard
input. -/
def run (world : World) (words : List String) (sent : Bytes) : Report × World :=
  match CommandLine.ofWords words with
  | .error .version => ({ output := versionLine }, world)
  | .error .help => ({ output := usage }, world)
  | .error .misused => ({ code := 2, errors := usage }, world)
  | .ok line => perform world line sent

/-! ## What a run looks at -/

/-- The files with settings that a command line may look at. -/
def settingsPaths (environment : Environment) (line : CommandLine) : List String :=
  match line.settings with
  | some path => [path]
  | none => Settings.usualPaths environment

def taskPaths (settings : Settings) : Task → List String
  | .start options =>
      let settings := settingsFor options {} settings
      settings.journalPath :: Node.paths settings
  | .customers => Node.paths settings
  | .importFile path _ => path :: settings.converter :: settings.journalPath :: Node.paths settings

/-- The files that a command line may look at when its settings have been read. -/
def dataPaths (files : Files) (environment : Environment) (line : CommandLine) : List String :=
  match Settings.load files environment line.settings with
  | .ok settings => taskPaths settings line.task
  | .error _ => []

end Program

end LayerGateway
