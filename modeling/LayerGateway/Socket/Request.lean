import LayerGateway.Command.Basic

/-!
# Request lines

A request is one line with a JSON object: the member `method`, and beside it the
arguments.  Members that are neither are ignored.
-/

namespace LayerGateway.Socket

structure Request where
  method : String
  arguments : Arguments
  deriving DecidableEq

namespace Request

def shape : Json.Shape (Option String) where
  name := "struct Request"
  fields := [.of "method" Json.anyText fun method _ => some method]

/-- Reads a member that may be an argument; it must be valid throughout. -/
def argument : Json.Decoder Json.Document := fun origin document => do
  let _ ← document.toJson origin
  return document

/-- Reads a request.  The whole object is read before its arguments are looked at. -/
def decoder : Json.Decoder Request := fun origin document => do
  let (method, members) ← shape.opened none argument origin document
  let method ← Json.required "method" method
  let members := members.map fun member => (.ok member.1, member.2)
  let arguments ← Arguments.decoder .member (.object members .closed)
  return ⟨method, arguments⟩

def ofLine (line : String) : Json.Read Request :=
  Json.decode decoder (.ofText line)

end Request

/-- The caller as whom a request is run: changes to layers and their ownership are made
in the name of the key that was sent along, everything else is trusted. -/
def callerFor (command : Command) (apikey : Option AccessKey) : Caller :=
  match apikey with
  | some key =>
      if key.text != "" && command.isMutation && !command.isAdministrative then .keyed key
      else .trusted
  | none => .trusted

end LayerGateway.Socket
