import LayerGateway.Shell.Process

/-!
# Running shell scripts

A script is run command by command.  It knows the handful of commands that converter
scripts need, and none of them takes a loop, so every script ends: with a status or
stopped by a signal.
-/

namespace LayerGateway.Shell

namespace Process

/-- A file below a folder under the name it has, or the path itself if it is no folder. -/
def target (files : Files) (source path : String) : String :=
  if files.isFolder path then Path.join path ((Path.lastName? source).getD "") else path

def copy (process : Process) (errors : Sink) (source path : String) : Process :=
  match process.files.read source with
  | .error .isFolder =>
      process.fail errors 1 s!"cp: -r not specified; omitting directory '{source}'"
  | .error cause => process.fail errors 1 s!"cp: cannot stat '{source}': {cause.reason}"
  | .ok content =>
      match process.files.update (target process.files source path) 0o644 fun _ => content with
      | .ok files => { process with files, status := 0 }
      | .error cause =>
          process.fail errors 1 s!"cp: cannot create regular file '{path}': {cause.reason}"

def concatenate (process : Process) (output errors : Sink) (paths : List String) : Process :=
  paths.foldl (fun process path =>
    match process.files.read path with
    | .ok content => process.write output content
    | .error cause => process.fail errors 1 s!"cat: {path}: {cause.reason}")
    { process with status := 0 }

def holds (files : Files) : List String → Bool
  | ["!", a] => !holds files [a]
  | ["!", a, b] => !holds files [a, b]
  | ["!", a, b, c] => !holds files [a, b, c]
  | ["-f", path] => files.isFile path
  | ["-d", path] => files.isFolder path
  | ["-e", path] => files.isFile path || files.isFolder path
  | ["-s", path] =>
      match files.read path with
      | .ok content => !content.isEmpty
      | .error _ => false
  | ["-n", text] => text != ""
  | ["-z", text] => text == ""
  | [a, "=", b] => a == b
  | [a, "!=", b] => a != b
  | [a, "-eq", b] => Decimal.integer? a.toList == Decimal.integer? b.toList
  | [a, "-ne", b] => Decimal.integer? a.toList != Decimal.integer? b.toList
  | [text] => text != ""
  | _ => false

def signalOf (option : String) : Option Nat :=
  let text := option.toList.drop 1
  (Decimal.natural? text).orElse fun _ =>
    (signalNames.find? fun row =>
      row.2.toList = text || row.2.toList = ['S', 'I', 'G'] ++ text).map (·.1)

/-- Sets the variable of a word such as `x=1`. -/
def assign? (process : Process) (word : String) : Option Process :=
  let name := word.toList.takeWhile Reader.isNameChar
  match word.toList.drop name.length with
  | '=' :: value =>
      if name.isEmpty then none
      else some { process with assigned := (name, String.ofList value) :: process.assigned,
                               status := 0 }
  | _ => none

def perform (process : Process) (line : Nat) (output errors : Sink) :
    List String → Process
  | [] => { process with status := 0 }
  | name :: arguments =>
      match name, arguments with
      | "exec", command =>
          let process := perform process line output errors command
          if command.isEmpty || process.ended.isSome then process
          else { process with ended := some (.status process.status) }
      | ":", _ | "true", _ | "sleep", _ => { process with status := 0 }
      | "false", _ => { process with status := 1 }
      | "set", options =>
          { process with status := 0, strict := process.strict || options.contains "-e" }
      | "exit", [] => { process with ended := some (.status process.status) }
      | "exit", code :: _ =>
          let code := (Decimal.natural? code.toList).getD 2
          { process with ended := some (.status (code % 256)) }
      | "kill", [option, _] =>
          match signalOf option with
          | some signal => { process with ended := some (.signal signal) }
          | none => { process with status := 1 }
      | "kill", _ => { process with ended := some (.signal 15) }
      | "echo", "-n" :: words =>
          { process.write output (unescape (" ".intercalate words).toList) with status := 0 }
      | "echo", words =>
          { process.write output (unescape (" ".intercalate words ++ "\n").toList) with
            status := 0 }
      | "printf", format :: words =>
          { process.write output (unescape (fillAll words.length format.toList words)) with
            status := 0 }
      | "cp", [source, path] => process.copy errors source path
      | "cp", ["-f", source, path] => process.copy errors source path
      | "mv", [source, path] => process.copy errors source path
      | "cat", paths => process.concatenate output errors paths
      | "touch", [path] =>
          match process.files.update path 0o644 id with
          | .ok files => { process with files, status := 0 }
          | .error cause => process.fail errors 1 s!"touch: cannot touch '{path}': {cause.reason}"
      | "mkdir", [path] =>
          match process.files.makeFolder path with
          | .ok files => { process with files, status := 0 }
          | .error cause =>
              process.fail errors 1 s!"mkdir: cannot create directory '{path}': {cause.reason}"
      | "test", condition =>
          { process with status := if holds process.files condition then 0 else 1 }
      | "[", condition =>
          { process with status := if holds process.files condition.dropLast then 0 else 1 }
      | _, _ =>
          match process.assign? name with
          | some process => process
          | none => process.fail errors 127 s!"{process.name}: {line}: {name}: not found"

/-- Opens the redirections of a command: where its output and its errors go.  A file that
is not appended to is emptied. -/
def redirected (process : Process) (line : Nat) :
    List Redirect → Sink → Sink → Except Process (Process × Sink × Sink)
  | [], output, errors => .ok (process, output, errors)
  | redirect :: rest, output, errors =>
      match redirect with
      | .toChannel channel target =>
          let sink := if process.expandOne target = "2" then errors else output
          if channel = 2 then redirected process line rest output sink
          else redirected process line rest sink errors
      | .toFile channel append target =>
          let path := process.expandOne target
          if path = "/dev/null" then
            if channel = 2 then redirected process line rest output .nowhere
            else redirected process line rest .nowhere errors
          else
            match process.files.update path 0o644 (if append then id else fun _ => []) with
            | .error cause =>
                .error <| process.fail .toErrors 2
                  s!"{process.name}: {line}: cannot create {path}: {cause.reason}"
            | .ok files =>
                let process := { process with files }
                if channel = 2 then redirected process line rest output (.toFile path)
                else redirected process line rest (.toFile path) errors

/-- Runs a command if the one before it lets it. -/
def step (process : Process) (invocation : Invocation) : Process :=
  let skipped :=
    match invocation.joint with
    | .always => process.strict && process.status != 0
    | .onSuccess => process.status != 0
    | .onFailure => process.status = 0
  if process.ended.isSome then process
  else if skipped then
    if invocation.joint = .always then { process with ended := some (.status process.status) }
    else process
  else
    match process.redirected invocation.line invocation.redirects .toOutput .toErrors with
    | .error process => process
    | .ok (process, output, errors) =>
        process.perform invocation.line output errors (invocation.words.flatMap process.expand)

end Process

def run (files : Files) (name : String) (arguments : List String) (script : Script) :
    Ending × Process :=
  let process := script.foldl Process.step { files, name, arguments }
  (process.ended.getD (.status process.status), process)

end LayerGateway.Shell
