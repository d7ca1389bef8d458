import LayerGateway.Command.Method
import LayerGateway.Json.Printer

/-!
# Peers

Only programs on the same machine may use the command socket.  They are answered in lines: a
reply is one line with a JSON object that says whether the request succeeded.  Only the list
of methods is answered as plain text.
-/

namespace LayerGateway.Socket

/-! ## Who may connect -/

/-- An address of the internet, of version 4 (four bytes) or 6 (eight words of 16 bits). -/
inductive Address where
  | v4 (a b c d : Nat)
  | v6 (words : List Nat)
  deriving DecidableEq, Repr

/-- Whether an address belongs to this machine itself: `127.*.*.*`, the same addresses
written as version 6, and `::1`. -/
def Address.isLoopback : Address → Bool
  | .v4 a _ _ _ => a == 127
  | .v6 [0, 0, 0, 0, 0, 0xFFFF, high, _] => high / 256 == 127
  | .v6 words => words == [0, 0, 0, 0, 0, 0, 0, 1]

/-! ## What is answered -/

inductive Reply where
  | ok (data : Json)
  | error (message : String)
  deriving DecidableEq

namespace Reply

/-- The members of a reply in the order in which they are written. -/
def members : Reply → List (String × Json)
  | .ok data => [("status", .string "ok"), ("data", data)]
  | .error message => [("status", .string "error"), ("error", .string message)]

/-- The line of a reply, with its line end. -/
def line (reply : Reply) : String :=
  String.ofList (Json.objectText (Json.printMembers reply.members) ++ ['\n'])

end Reply

def helpText : String :=
  "Methods:\n" ++ String.join (Method.listed.map fun name => s!"\t {name}\n")

end LayerGateway.Socket
