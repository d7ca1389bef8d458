/-!
# Command lines

A command line names what is to be done, with options before and after it.  The words are
taken one after the other, and the first one that does not fit decides: it is reported,
or it asks for the version or for help.
-/

namespace LayerGateway

inductive Verb where
  | start
  | customers
  | importFile
  deriving DecidableEq, Repr

inductive Setting where
  | settings
  | dataFolder
  | httpAddress
  | socketAddress
  | superuserKey
  | memory
  | apikey
  | version
  | help
  deriving DecidableEq, Repr

/-- An option: its long name, its letter, whether a value follows, and whether the value
may be empty. -/
structure OptionForm where
  setting : Setting
  long : String
  letter : Option Char := none
  takesValue : Bool := true
  mayBeEmpty : Bool := false
  deriving DecidableEq, Repr

inductive Stop where
  | misused
  | version
  | help
  deriving DecidableEq, Repr

namespace CommandLine

def verb? : String → Option Verb
  | "start" => some .start
  | "customers" => some .customers
  | "import" => some .importFile
  | _ => none

def commonForms : List OptionForm :=
  [{ setting := .settings, long := "config", letter := some 'c' },
   { setting := .help, long := "help", letter := some 'h', takesValue := false }]

/-- The options that stand behind a verb, or before it. -/
def forms : Option Verb → List OptionForm
  | none =>
      { setting := .version, long := "version", letter := some 'V', takesValue := false }
        :: commonForms
  | some .start =>
      [{ setting := .dataFolder, long := "data-dir", letter := some 'd' },
       { setting := .httpAddress, long := "http-listen-addr", letter := some 'H',
         mayBeEmpty := true },
       { setting := .socketAddress, long := "socket-listen-addr", letter := some 'S',
         mayBeEmpty := true },
       { setting := .superuserKey, long := "superuser-key", mayBeEmpty := true },
       { setting := .memory, long := "memory", letter := some 'm', takesValue := false }]
        ++ commonForms
  | some .customers => commonForms
  | some .importFile =>
      { setting := .apikey, long := "apikey", mayBeEmpty := true } :: commonForms

/-- A command line as far as it has been read. -/
structure Scan where
  verb : Option Verb := none
  /-- The option whose value comes next. -/
  pending : Option OptionForm := none
  /-- Whether everything that follows is no option. -/
  escaped : Bool := false
  /-- What was set, the last one first, each with the verb behind which it stood. -/
  values : List (Option Verb × Setting × String) := []
  operands : List String := []
  deriving DecidableEq, Repr

/-- Sets a value, which may be done once behind a verb and once before it. -/
def Scan.set (scan : Scan) (form : OptionForm) (value : String) : Except Stop Scan :=
  if value = "" ∧ form.takesValue ∧ !form.mayBeEmpty then .error .misused
  else if scan.values.any fun (verb, setting, _) =>
      verb = scan.verb && setting = form.setting then .error .misused
  else
    match form.setting with
    | .version => .error .version
    | .help => .error .help
    | setting =>
        .ok { scan with pending := none, values := (scan.verb, setting, value) :: scan.values }

/-- An option with its long name, and perhaps a value behind an equals sign. -/
def Scan.long (scan : Scan) (text : List Char) : Except Stop Scan :=
  let name := text.takeWhile (· ≠ '=')
  match (forms scan.verb).find? (·.long.toList == name) with
  | none => .error .misused
  | some form =>
      match text.drop name.length, form.takesValue with
      | [], true => .ok { scan with pending := some form }
      | [], false => scan.set form ""
      | _ :: value, true => scan.set form (String.ofList value)
      | _ :: _, false => .error .misused

/-- Options by their letters; the value of one may follow its letter. -/
def Scan.letters (scan : Scan) : List Char → Except Stop Scan
  | [] => .ok scan
  | letter :: rest =>
      match (forms scan.verb).find? (·.letter == some letter) with
      | none => .error .misused
      | some form =>
          if form.takesValue then
            match rest with
            | [] => .ok { scan with pending := some form }
            | '=' :: value => scan.set form (String.ofList value)
            | value => scan.set form (String.ofList value)
          else do letters (← scan.set form "") rest

/-- A word that is no option: the verb, or the file of an import. -/
def Scan.operand (scan : Scan) (word : String) : Except Stop Scan :=
  match scan.verb with
  | none =>
      if scan.escaped then .error .misused
      else if word = "help" then .error .help
      else
        match verb? word with
        | some verb => .ok { scan with verb := some verb }
        | none => .error .misused
  | some .importFile =>
      if scan.operands.isEmpty ∧ word ≠ "" then .ok { scan with operands := [word] }
      else .error .misused
  | some _ => .error .misused

def Scan.step (scan : Scan) (word : String) : Except Stop Scan :=
  match scan.pending, scan.escaped, word.toList with
  | some form, _, characters =>
      if characters.head? = some '-' ∧ characters ≠ ['-'] then .error .misused
      else scan.set form word
  | none, false, ['-', '-'] => .ok { scan with escaped := true }
  | none, false, '-' :: '-' :: text => scan.long text
  | none, false, '-' :: c :: text => scan.letters (c :: text)
  | none, _, _ => scan.operand word

/-- What was set, behind the verb rather than before it. -/
def Scan.value? (scan : Scan) (setting : Setting) : Option String :=
  (scan.values.find? fun row => row.2.1 == setting).map (·.2.2)

end CommandLine

/-- What to start a gateway with in place of the settings. -/
structure StartOptions where
  dataFolder : Option String := none
  httpAddress : Option String := none
  socketAddress : Option String := none
  superuserKey : Option String := none
  memory : Bool := false
  deriving DecidableEq, Repr

inductive Task where
  | start (options : StartOptions)
  | customers
  | importFile (path : String) (apikey : Option String)
  deriving DecidableEq, Repr

/-- A command line: the file with settings that it names, and the task. -/
structure CommandLine where
  settings : Option String
  task : Task
  deriving DecidableEq, Repr

namespace CommandLine

def task? (scan : Scan) : Except Stop Task :=
  match scan.verb, scan.operands with
  | some .start, _ =>
      .ok (.start
        { dataFolder := scan.value? .dataFolder
          httpAddress := scan.value? .httpAddress
          socketAddress := scan.value? .socketAddress
          superuserKey := scan.value? .superuserKey
          memory := (scan.value? .memory).isSome })
  | some .customers, _ => .ok .customers
  | some .importFile, [path] => .ok (.importFile path (scan.value? .apikey))
  | _, _ => .error .misused

def ofWords (words : List String) : Except Stop CommandLine := do
  let scan ← words.foldlM Scan.step {}
  if scan.pending.isSome then throw .misused
  return ⟨scan.value? .settings, ← task? scan⟩

end CommandLine

end LayerGateway
