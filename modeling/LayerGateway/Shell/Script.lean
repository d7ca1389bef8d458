import LayerGateway.Text.Pieces

/-!
# Shell scripts

The part of the shell's language in which converter scripts are written: commands with
words, quotes, parameters and redirections, joined by `;`, `&&`, `||` and line ends.
`Script.ofText` reads a script with one step per character.
-/

namespace LayerGateway.Shell

/-- What is taken away from the value of a parameter: the shortest or longest match of a
pattern at its start or end.  Patterns know `*` only. -/
inductive Trim where
  | whole
  | atStart (longest : Bool) (pattern : List Char)
  | atEnd (longest : Bool) (pattern : List Char)
  deriving DecidableEq, Repr

/-- A piece of a word.  What stands in quotes is never cut into several words. -/
inductive Part where
  | literal (text : List Char)
  | parameter (name : List Char) (trim : Trim) (quoted : Bool)
  deriving DecidableEq, Repr

abbrev Word := List Part

inductive Redirect where
  | toFile (channel : Nat) (append : Bool) (target : Word)
  | toChannel (channel : Nat) (target : Word)
  deriving DecidableEq, Repr

/-- When a command runs: always, or if the one before it succeeded or failed. -/
inductive Joint where
  | always
  | onSuccess
  | onFailure
  deriving DecidableEq, Repr

/-- A command with the line on which it stands. -/
structure Invocation where
  joint : Joint
  line : Nat
  words : List Word := []
  redirects : List Redirect := []
  deriving DecidableEq, Repr

abbrev Script := List Invocation

/-- What the next word of a command is for. -/
inductive Role where
  | argument
  | file (channel : Nat) (append : Bool)
  | channel (channel : Nat)
  deriving DecidableEq, Repr

inductive Mode where
  | plain
  | single
  | double
  | escape (quoted : Bool)
  | dollar (quoted : Bool)
  | name (quoted : Bool) (read : List Char)
  | brace (quoted : Bool) (read : List Char)
  | comment
  | operator (first : Char)
  deriving DecidableEq, Repr

/-- The reader: the commands so far, newest first, and the command and word at hand. -/
structure Reader where
  done : List Invocation := []
  current : Invocation := ⟨.always, 1, [], []⟩
  role : Role := .argument
  word : Option Word := none
  mode : Mode := .plain
  line : Nat := 1

namespace Reader

def push (reader : Reader) (part : Part) : Reader :=
  let parts := reader.word.getD []
  let parts :=
    match parts.getLast?, part with
    | some (.literal before), .literal text => parts.dropLast ++ [.literal (before ++ text)]
    | _, part => parts ++ [part]
  { reader with word := some parts }

def endWord (reader : Reader) : Reader :=
  match reader.word with
  | none => reader
  | some word =>
      let command := reader.current
      let command :=
        match reader.role with
        | .argument => { command with words := command.words ++ [word] }
        | .file channel append =>
            { command with redirects := command.redirects ++ [.toFile channel append word] }
        | .channel channel =>
            { command with redirects := command.redirects ++ [.toChannel channel word] }
      { reader with current := command, word := none, role := .argument }

/-- Ends the command at hand; the next one runs as `joint` says. -/
def endCommand (reader : Reader) (joint : Joint) : Reader :=
  let reader := reader.endWord
  let blank := reader.current.words.isEmpty && reader.current.redirects.isEmpty
  let joint := if blank && joint = .always then reader.current.joint else joint
  { reader with
    done := if blank then reader.done else reader.current :: reader.done
    current := ⟨joint, reader.line, [], []⟩ }

/-- Starts a redirection; a number directly before it names the channel. -/
def redirect (reader : Reader) : Reader :=
  match reader.word, reader.role with
  | some [.literal [digit]], .argument =>
      if digit.isDigit then
        { reader with word := none, role := .file (digit.toNat - 48) false,
                      mode := .operator '>' }
      else { reader.endWord with role := .file 1 false, mode := .operator '>' }
  | _, _ => { reader.endWord with role := .file 1 false, mode := .operator '>' }

/-- The trim that stands in braces behind the name of a parameter. -/
def trimOf : List Char → Trim
  | '#' :: '#' :: pattern => .atStart true pattern
  | '#' :: pattern => .atStart false pattern
  | '%' :: '%' :: pattern => .atEnd true pattern
  | '%' :: pattern => .atEnd false pattern
  | _ => .whole

/-- Whether a character can be part of the name of a parameter. -/
def isNameChar (c : Char) : Bool :=
  c.isAlphanum || c == '_'

def bracedPart (quoted : Bool) (read : List Char) : Part :=
  let name := read.takeWhile isNameChar
  if name.isEmpty then .parameter (read.take 1) (trimOf (read.drop 1)) quoted
  else .parameter name (trimOf (read.drop name.length)) quoted

def stepPlain (reader : Reader) (c : Char) : Reader :=
  if c = '\n' then
    let line := reader.line + 1
    { reader with line := line }.endCommand .always
  else if c = ';' then reader.endCommand .always
  else if c = '&' || c = '|' then { reader with mode := .operator c }
  else if c = '>' then reader.redirect
  else if c = ' ' || c = '\t' then reader.endWord
  else if c = '#' && reader.word.isNone then { reader with mode := .comment }
  else if c = '\'' then { reader.push (.literal []) with mode := .single }
  else if c = '"' then { reader.push (.literal []) with mode := .double }
  else if c = '\\' then { reader with mode := .escape false }
  else if c = '$' then { reader with mode := .dollar false }
  else reader.push (.literal [c])

def after (quoted : Bool) : Mode :=
  if quoted then .double else .plain

def stepDouble (reader : Reader) (c : Char) : Reader :=
  if c = '"' then { reader with mode := .plain }
  else if c = '\\' then { reader with mode := .escape true }
  else if c = '$' then { reader with mode := .dollar true }
  else
    { reader.push (.literal [c]) with line := if c = '\n' then reader.line + 1 else reader.line }

def stepText (reader : Reader) (quoted : Bool) (c : Char) : Reader :=
  let reader := { reader with mode := after quoted }
  if quoted then reader.stepDouble c else reader.stepPlain c

def step (reader : Reader) (c : Char) : Reader :=
  match reader.mode with
  | .plain => reader.stepPlain c
  | .double => reader.stepDouble c
  | .single =>
      if c = '\'' then { reader with mode := .plain } else reader.push (.literal [c])
  | .escape quoted =>
      let reader := { reader with mode := after quoted }
      if c = '\n' then { reader with line := reader.line + 1 }
      else if quoted && !(c = '"' || c = '\\' || c = '$') then reader.push (.literal ['\\', c])
      else reader.push (.literal [c])
  | .dollar quoted =>
      if c = '\x7b' then { reader with mode := .brace quoted [] }
      else if c.isAlpha || c = '_' then { reader with mode := .name quoted [c] }
      else if c.isDigit || c = '#' || c = '$' || c = '?' || c = '@' || c = '*' then
        { reader.push (.parameter [c] .whole quoted) with mode := after quoted }
      else (reader.push (.literal ['$'])).stepText quoted c
  | .name quoted read =>
      if isNameChar c then { reader with mode := .name quoted (read ++ [c]) }
      else (reader.push (.parameter read .whole quoted)).stepText quoted c
  | .brace quoted read =>
      if c = '\x7d' then
        { reader.push (bracedPart quoted read) with mode := after quoted }
      else { reader with mode := .brace quoted (read ++ [c]) }
  | .comment => if c = '\n' then { reader with mode := .plain }.stepPlain c else reader
  | .operator first =>
      let reader := { reader with mode := .plain }
      if first = '&' && c = '&' then reader.endCommand .onSuccess
      else if first = '|' && c = '|' then reader.endCommand .onFailure
      else if first = '>' then
        match reader.role with
        | .file channel _ =>
            if c = '>' then { reader with role := .file channel true }
            else if c = '&' then { reader with role := .channel channel }
            else reader.stepPlain c
        | _ => reader.stepPlain c
      else (reader.endCommand .always).stepPlain c

end Reader

def Script.ofText (text : List Char) : Script :=
  let reader := text.foldl Reader.step {}
  let reader :=
    match reader.mode with
    | .name quoted read => reader.push (.parameter read .whole quoted)
    | .dollar _ => reader.push (.literal ['$'])
    | _ => reader
  (reader.endCommand .always).done.reverse

end LayerGateway.Shell
