import LayerGateway.Settings.Basic
import LayerGateway.Toml.Reader

/-!
# Loading settings

Settings come from the file that is named, or else from the first of two usual files that
is there, or else nothing is set.
-/

namespace LayerGateway

/-- What the surroundings of a program say: the home of its user, the folder of the user's
settings, and the key that opens the management. -/
structure Environment where
  home : Option String := none
  configFolder : Option String := none
  superuserKey : Option String := none
  deriving DecidableEq, Repr

def Environment.ofVariables (lookup : String → Option String) : Environment :=
  let home := (lookup "HOME").filter (· ≠ "")
  { home
    configFolder := (lookup "XDG_CONFIG_HOME").filter Path.isAbsolute
      <|> home.map (Path.join · ".config")
    superuserKey := lookup "ATLAS_SUPERUSER_KEY" }

inductive SettingsError where
  | file (path : String) (cause : FileError)
  | invalid (path : String)
  deriving DecidableEq, Repr

namespace SettingsError

def message : SettingsError → String
  | .file path _ => s!"failed to read {path}"
  | .invalid path => s!"invalid config {path}"

def cause : SettingsError → String
  | .file _ cause => cause.message
  | .invalid _ => "TOML parse error"

end SettingsError

namespace Settings

def fileName : String := "atlas.toml"

def default (environment : Environment) : Settings :=
  { dataFolder := defaultFolder environment.home }

def read (files : Files) (environment : Environment) (path : String) :
    Except SettingsError Settings := do
  let text ← (files.readText path).mapError (.file path)
  match (Toml.read? text).bind fun document =>
      applyDocument document (default environment) with
  | some settings => return settings
  | none => throw (.invalid path)

def usualPaths (environment : Environment) : List String :=
  fileName :: (environment.configFolder.map fun folder =>
    Path.join (Path.join folder "atlas") fileName).toList

/-- Loads settings from a named file, or from a usual one. -/
def load (files : Files) (environment : Environment) (path : Option String) :
    Except SettingsError Settings :=
  match path <|> (usualPaths environment).find? files.isFile with
  | some path => read files environment path
  | none => .ok (default environment)

end Settings

end LayerGateway
