import LayerGateway.Decimal.Integer
import LayerGateway.Decimal.Layout
import LayerGateway.Files.Tree
import LayerGateway.Shell.Script

/-!
# Running shell scripts: the process

A script that runs has files, arguments and variables and writes to two output channels.
Here stand the ways in which it can end, how words are expanded, and how text is formatted
and written.
-/

namespace LayerGateway.Shell

inductive Ending where
  | status (code : Nat)
  | signal (number : Nat)
  deriving DecidableEq, Repr

/-- The names of the signals that stop a program. -/
def signalNames : List (Nat × String) :=
  [(1, "SIGHUP"), (2, "SIGINT"), (3, "SIGQUIT"), (6, "SIGABRT"), (9, "SIGKILL"),
   (10, "SIGUSR1"), (11, "SIGSEGV"), (12, "SIGUSR2"), (13, "SIGPIPE"), (14, "SIGALRM"),
   (15, "SIGTERM")]

def Ending.message : Ending → String
  | .status code => s!"exit status: {code}"
  | .signal number =>
      match signalNames.find? (·.1 == number) with
      | some (_, name) => s!"signal: {number} ({name})"
      | none => s!"signal: {number}"

inductive Sink where
  | toOutput
  | toErrors
  | toFile (path : String)
  | nowhere
  deriving DecidableEq, Repr

structure Process where
  files : Files
  name : String
  arguments : List String
  assigned : List (List Char × String) := []
  status : Nat := 0
  output : Bytes := []
  errors : Bytes := []
  /-- Whether a command that fails ends the script. -/
  strict : Bool := false
  ended : Option Ending := none

/-! ## Words -/

/-- Whether a text matches a pattern, in which a star stands for any text. -/
def glob : List Char → List Char → Bool
  | [], text => text.isEmpty
  | '*' :: pattern, [] => glob pattern []
  | '*' :: pattern, c :: text => glob pattern (c :: text) || glob ('*' :: pattern) text
  | _ :: _, [] => false
  | p :: pattern, c :: text => p == c && glob pattern text
termination_by pattern text => pattern.length + text.length

/-- Applies a trim to the value of a parameter. -/
def Trim.apply (trim : Trim) (value : List Char) : List Char :=
  let lengths := List.range (value.length + 1)
  match trim with
  | .whole => value
  | .atStart longest pattern =>
      let fitting := lengths.filter fun n => glob pattern (value.take n)
      match if longest then fitting.getLast? else fitting.head? with
      | some n => value.drop n
      | none => value
  | .atEnd longest pattern =>
      let fitting := lengths.filter fun n => glob pattern (value.drop n)
      match if longest then fitting.head? else fitting.getLast? with
      | some n => value.take n
      | none => value

namespace Process

def parameter (process : Process) (name : List Char) : List Char :=
  match Decimal.natural? name with
  | some 0 => process.name.toList
  | some n => (process.arguments[n - 1]?.getD "").toList
  | none =>
      if name = ['#'] then Nat.toDigits 10 process.arguments.length
      else if name = ['?'] then Nat.toDigits 10 process.status
      else if name = ['$'] then ['1']
      else if name = ['@'] ∨ name = ['*'] then (" ".intercalate process.arguments).toList
      else ((process.assigned.find? (·.1 == name)).map (·.2.toList)).getD []

def fields (text : List Char) : List (List Char) :=
  let step (state : List (List Char) × List Char) (c : Char) : List (List Char) × List Char :=
    if c = ' ' ∨ c = '\t' ∨ c = '\n' then
      (if state.2.isEmpty then state.1 else state.1 ++ [state.2], [])
    else (state.1, state.2 ++ [c])
  let (done, last) := text.foldl step ([], [])
  if last.isEmpty then done else done ++ [last]

/-- Whether a word is nothing but all arguments in quotes, each a word of its own. -/
def isAllArguments (word : Word) : Bool :=
  word.filter (· != .literal []) == [.parameter ['@'] .whole true]

/-- Expands a word to the arguments it stands for. -/
def expand (process : Process) (word : Word) : List String :=
  let all := word.flatMap fun part =>
    match part with
    | .literal text => text
    | .parameter name trim _ => trim.apply (process.parameter name)
  let bare := word.all fun part =>
    match part with
    | .parameter _ _ quoted => !quoted
    | .literal _ => false
  if isAllArguments word then process.arguments
  else if bare then (fields all).map String.ofList
  else [String.ofList all]

def expandOne (process : Process) (word : Word) : String :=
  " ".intercalate (process.expand word)

/-! ## Output -/

def write (process : Process) (sink : Sink) (bytes : Bytes) : Process :=
  match sink with
  | .toOutput => { process with output := process.output ++ bytes }
  | .toErrors => { process with errors := process.errors ++ bytes }
  | .nowhere => process
  | .toFile path =>
      match process.files.update path 0o644 (· ++ bytes) with
      | .ok files => { process with files }
      | .error _ => process

/-- Ends a command with a message on the error channel. -/
def fail (process : Process) (sink : Sink) (status : Nat) (message : String) : Process :=
  { process.write sink (Text.encode (message ++ "\n")) with status }

def shortEscape? : Char → Option UInt8
  | 'a' => some 7
  | 'b' => some 8
  | 'f' => some 12
  | 'n' => some 10
  | 'r' => some 13
  | 't' => some 9
  | 'v' => some 11
  | '\\' => some 92
  | _ => none

/-- The bytes of a text with backslash escapes, up to three octal digits among them. -/
def unescape : List Char → Bytes
  | '\\' :: a :: b :: c :: rest =>
      let octal (d : Char) : Bool := '0' ≤ d && d ≤ '7'
      let digit (d : Char) : Nat := d.toNat - 48
      if octal a && octal b && octal c then
        UInt8.ofNat (digit a * 64 + digit b * 8 + digit c) :: unescape rest
      else if octal a && octal b then
        UInt8.ofNat (digit a * 8 + digit b) :: unescape (c :: rest)
      else if octal a then UInt8.ofNat (digit a) :: unescape (b :: c :: rest)
      else
        match shortEscape? a with
        | some byte => byte :: unescape (b :: c :: rest)
        | none => 92 :: String.utf8EncodeChar a ++ unescape (b :: c :: rest)
  | '\\' :: a :: rest =>
      match shortEscape? a with
      | some byte => byte :: unescape rest
      | none => 92 :: String.utf8EncodeChar a ++ unescape rest
  | c :: rest => String.utf8EncodeChar c ++ unescape rest
  | [] => []

/-- A format with arguments filled in once, and the arguments that are left. -/
def fill : List Char → List String → List Char × List String
  | '%' :: kind :: rest, arguments =>
      let value : Option (List Char) :=
        if kind = '%' then some ['%']
        else if kind = 's' then some (arguments.headD "").toList
        else if kind = 'd' then
          some (Decimal.signed ((Decimal.integer? (arguments.headD "0").toList).getD 0))
        else none
      match value with
      | some value =>
          let (text, left) := fill rest (if kind = '%' then arguments else arguments.tail)
          (value ++ text, left)
      | none =>
          let (text, left) := fill rest arguments
          ('%' :: kind :: text, left)
  | c :: rest, arguments =>
      let (text, left) := fill rest arguments
      (c :: text, left)
  | [], arguments => ([], arguments)

/-- A format with arguments filled in as often as it takes to use them up, but at most
`count` times more. -/
def fillAll (count : Nat) (format : List Char) (arguments : List String) : List Char :=
  let (text, left) := fill format arguments
  match count with
  | 0 => text
  | count + 1 =>
      if left.isEmpty || left.length = arguments.length then text
      else text ++ fillAll count format left

end Process

end LayerGateway.Shell
