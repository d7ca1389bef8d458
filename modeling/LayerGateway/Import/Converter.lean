import LayerGateway.Shell.Run

/-!
# Converters

Files that are not GeoJSON are handed to a converter, usually a program of its own, that
reads the file and writes GeoJSON to another one.
-/

namespace LayerGateway

inductive ConverterFailure where
  | notStarted (program : String) (cause : FileError)
  | ended (program : String) (ending : Shell.Ending) (errors : String)
  | reported (message : String)
  deriving DecidableEq, Repr

def ConverterFailure.message : ConverterFailure → String
  | .notStarted program cause => s!"{program}: {cause.message}"
  | .ended program ending errors => s!"{program} exited with {ending.message}: {errors}"
  | .reported message => message

/-- What a converter that did not fail has left as its output: bytes, or something else
than a file. -/
abbrev Converted := Except FileError Bytes

/-- A converter: from the files and the path of the input it makes the output. -/
abbrev Converter := Files → String → Except ConverterFailure Converted

namespace Converter

/-- The program that is used unless another one is named. -/
def defaultProgram : String := "ogr2ogr"

/-- The folder for the output of a conversion. -/
def scratch : String := "/tmp/.tmp000000"

/-- The file in which the output of a conversion is expected. -/
def outputPath : String := Path.join scratch "out.geojson"

/-- The arguments with which a converter program is called. -/
def arguments (input : String) : List String :=
  ["-f", "GeoJSON", "-t_srs", "crs:84", outputPath, input]

/-- The permission bit that lets a file be run. -/
def mayRun (mode : Nat) : Bool :=
  mode % 2 = 1 || mode / 8 % 2 = 1 || mode / 64 % 2 = 1

/-- The script of a program.  A name without a slash is looked for among the programs that
are there anyway, of which only two are known: one that succeeds and one that fails. -/
def script? (files : Files) (program : String) : Except FileError Shell.Script :=
  if program.toList.contains '/' then do
    let content ← files.read program |>.mapError fun cause =>
      if cause = .isFolder then .denied else cause
    if !(files.mode? program).any mayRun then throw .denied
    return .ofText (Text.lossy content).toList
  else if program = "true" || program = "false" then .ok (.ofText program.toList)
  else .error .missing

def ofProgram (program : String) : Converter := fun files input =>
  match script? files program with
  | .error cause => .error (.notStarted program cause)
  | .ok script =>
      let files := (files.makeFolders scratch).toOption.getD files
      let (ending, process) := Shell.run files program (arguments input) script
      if ending = .status 0 then .ok (process.files.read outputPath)
      else
        let errors := Text.trim (Text.lossy process.errors).toList
        .error (.ended program ending (String.ofList errors))

end Converter

end LayerGateway
