import LayerGateway.Http.Target

/-!
# Resources

What the gateway offers over HTTP, where it is found, and by which methods.  A path is
matched name by name as it was written; only then are its parameters decoded.
-/

namespace LayerGateway.Http

inductive Resource where
  | ping
  | record
  | newLayer
  | layer
  | timestamps
  | snapshot
  | features
  | feature
  | live
  | newCustomer
  | customers
  | datasources
  deriving DecidableEq, Repr

/-- A name of a path: a fixed one, or any. -/
inductive Segment where
  | fixed (name : String)
  | parameter (name : String)
  deriving DecidableEq, Repr

namespace Resource

def all : List Resource :=
  [.ping, .record, .newLayer, .layer, .timestamps, .snapshot, .features, .feature, .live,
   .newCustomer, .customers, .datasources]

def ofLayer (rest : List Segment) : List Segment :=
  [.fixed "api", .fixed "v1", .fixed "layer", .parameter "ds"] ++ rest

def path : Resource → List Segment
  | .ping => [.fixed "ping"]
  | .record => [.fixed "api", .fixed "v1", .fixed "layers"]
  | .newLayer => [.fixed "api", .fixed "v1", .fixed "layer"]
  | .layer => ofLayer []
  | .timestamps => ofLayer [.fixed "timestamps"]
  | .snapshot => ofLayer [.fixed "timestamp", .parameter "ts"]
  | .features => ofLayer [.fixed "feature"]
  | .feature => ofLayer [.fixed "feature", .parameter "geo_id"]
  | .live => ofLayer [.fixed "live"]
  | .newCustomer => [.fixed "management", .fixed "customer"]
  | .customers => [.fixed "management", .fixed "customers"]
  | .datasources => [.fixed "management", .fixed "datasources"]

/-- The methods of a resource.  What can be got can also be asked for without its body. -/
def methods : Resource → List String
  | .newLayer | .features | .newCustomer => ["POST"]
  | .layer => ["GET", "HEAD", "DELETE"]
  | .feature => ["GET", "HEAD", "PUT"]
  | _ => ["GET", "HEAD"]

/-- Whether a resource is for the superuser. -/
def isManagement : Resource → Bool
  | .newCustomer | .customers | .datasources => true
  | _ => false

/-- A parameter of a path, as it was written. -/
structure Parameter where
  name : String
  text : List Char
  deriving DecidableEq, Repr

/-- Matches the names of a path and gives its parameters.  The last name of a path is not
empty. -/
def match? : List Segment → List (List Char) → Option (List Parameter)
  | [], [] => some []
  | .fixed name :: segments, text :: texts =>
      if text = name.toList then match? segments texts else none
  | .parameter name :: segments, text :: texts =>
      if text = [] ∧ texts = [] then none
      else (match? segments texts).map (⟨name, text⟩ :: ·)
  | _, _ => none

/-- The resource at a path, with the parameters of the path. -/
def ofPath? (path : List Char) : Option (Resource × List Parameter) :=
  match Text.pieces '/' path with
  | [] :: texts =>
      all.findSome? fun resource => (match? resource.path texts).map (resource, ·)
  | _ => none

end Resource

/-- The values of parameters, or the name of the first that is not text. -/
def decodeParameters : List Resource.Parameter → Except String (List String)
  | [] => .ok []
  | parameter :: rest =>
      match Text.decode? (percentDecode parameter.text) with
      | some value => (decodeParameters rest).map (value :: ·)
      | none => .error parameter.name

end LayerGateway.Http
