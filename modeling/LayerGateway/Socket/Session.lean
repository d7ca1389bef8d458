import LayerGateway.Gateway.Dispatch
import LayerGateway.Socket.Peer
import LayerGateway.Socket.Request
import LayerGateway.Text.Pieces

/-!
# Sessions

A connection sends lines, and each request among them is answered before the next one is
looked at.  The first line that is no request is answered by what is wrong with it, and
ends the session.  `Socket.converse` is the whole conversation: it folds the lines over
the gateway and gathers the answers.
-/

namespace LayerGateway.Socket

inductive Line where
  | blank
  | help
  | request (request : Request)
  | malformed (reason : String)
  deriving DecidableEq

namespace Line

def notText : String := FileError.notText.message

/-- A line without the carriage returns at its end. -/
def withoutReturns (line : List Char) : List Char :=
  (line.reverse.dropWhile (· == '\r')).reverse

def ofText (text : List Char) : Line :=
  let text := withoutReturns text
  if Text.isBlankLine text then .blank
  else
    match Request.ofLine (String.ofList text) with
    | .error cause => .malformed cause.message
    | .ok read => if read.method = Method.help then .help else .request read

def ofBytes (bytes : Bytes) : Line :=
  match Text.decode? bytes with
  | some text => ofText text.toList
  | none => .malformed notText

end Line

def execute (request : Request) : StateM Gateway Reply := fun gateway =>
  match Command.build? request.method request.arguments with
  | .error cause => (.error cause.message, gateway)
  | .ok command =>
      let caller := callerFor command request.arguments.apikey
      match Gateway.dispatch caller command gateway with
      | (.ok outcome, gateway) => (.ok outcome.toJson, gateway)
      | (.error error, gateway) => (.error error.message, gateway)

/-- The answers to the lines of a session, in order. -/
def answers : List Line → StateM Gateway (List String)
  | [] => return []
  | .blank :: rest => answers rest
  | .help :: rest => do return helpText :: (← answers rest)
  | .malformed reason :: _ => return [(Reply.error reason).line]
  | .request request :: rest => do
      let reply ← execute request
      return reply.line :: (← answers rest)

/-- The lines in what a connection sends.  What follows the last line feed is a line if
it is not empty. -/
def linesOf (sent : Bytes) : List Line :=
  let cut := Text.pieces 0x0A sent
  (cut.dropLast ++ cut.getLast?.toList.filter (· ≠ [])).map Line.ofBytes

def converse (sent : Bytes) : StateM Gateway String := do
  return String.join (← answers (linesOf sent))

end LayerGateway.Socket
