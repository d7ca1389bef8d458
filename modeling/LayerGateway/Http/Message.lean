import LayerGateway.Http.Target
import LayerGateway.Live.Hub

/-!
# Requests and responses

What comes in and goes out over HTTP.  The body of a response is a text or a live
stream of change events.
-/

namespace LayerGateway.Http

structure Request where
  method : String
  target : Target
  body : Bytes
  deriving DecidableEq, Repr

inductive Body where
  | text (content : String)
  | events (view : ConnectionId)
  deriving DecidableEq, Repr

/-- A response.  `allow` lists the methods of a resource that was asked by another one.
Every response may be read by pages of any origin. -/
structure Response where
  status : Nat
  contentType : Option String
  body : Body
  allow : Option String := none
  deriving DecidableEq, Repr

/-- The origins whose pages may read a response. -/
def Response.allowedOrigin (_ : Response) : String := "*"

def isMethodName (name : String) : Bool :=
  name != "" && name.toList.all fun c =>
    c.isAlphanum || "!#$%&'*+-.^_|~".toList.contains c || c.toNat == 0x60

namespace Response

def empty (status : Nat) : Response :=
  ⟨status, none, .text "", none⟩

def json (status : Nat) (text : List Char) : Response :=
  ⟨status, some "application/json", .text (String.ofList text), none⟩

def plain (status : Nat) (text : String) : Response :=
  ⟨status, some "text/plain; charset=utf-8", .text text, none⟩

def stream (view : ConnectionId) : Response :=
  ⟨200, some "text/event-stream", .events view, none⟩

end Response

/-! ## Event streams -/

def eventName : String := "layer_changed"

/-- An event of a stream: its name, its data, and a blank line. -/
def eventFrame (event : LayerChanged) : List Char :=
  s!"event: {eventName}\n".toList ++ "data: ".toList ++ event.print ++ ['\n', '\n']

def eventText (events : List LayerChanged) : List Char :=
  events.flatMap eventFrame

end LayerGateway.Http
