import LayerGateway.Json.Decode

/-!
# Customers

A customer is known by an access key and owns datasources.  The order of the
datasources of a record says nothing, but it is kept; the operations here never
bring a datasource into a record twice.
-/

namespace LayerGateway

/-- A key that stands for the customer who shows it. -/
structure AccessKey where
  text : String
  deriving DecidableEq, Repr, Inhabited

/-- The name of a datasource: one layer and all its versions. -/
structure DatasourceId where
  text : String
  deriving DecidableEq, Repr, Inhabited

/-- A base map of a customer. -/
structure TileLayer where
  url : String
  name : String
  deriving DecidableEq, Repr

/-- The record of a customer. -/
structure Customer where
  apikey : AccessKey
  datasources : List DatasourceId := []
  tilelayers : List TileLayer := []
  deriving DecidableEq, Repr

def AccessKey.decoder : Json.Decoder AccessKey :=
  fun origin document => (Json.anyText origin document).map .mk

def DatasourceId.decoder : Json.Decoder DatasourceId :=
  fun origin document => (Json.anyText origin document).map .mk

namespace TileLayer

/-- The members of a base map in the order in which they are written. -/
def members (layer : TileLayer) : List (String × Json) :=
  [("url", .string layer.url), ("name", .string layer.name)]

structure Draft where
  url : Option String := none
  name : Option String := none

def shape : Json.Shape Draft where
  name := "struct TileLayer"
  fields :=
    [.of "url" Json.anyText fun url draft => { draft with url := some url },
     .of "name" Json.anyText fun name draft => { draft with name := some name }]

def decoder : Json.Decoder TileLayer := fun origin document => do
  let draft ← shape.closed {} origin document
  return ⟨← Json.required "url" draft.url, ← Json.required "name" draft.name⟩

end TileLayer

namespace Customer

def has (customer : Customer) (datasource : DatasourceId) : Bool :=
  customer.datasources.contains datasource

/-- The record with one more datasource, behind the others unless it was there. -/
def add (customer : Customer) (datasource : DatasourceId) : Customer :=
  if customer.has datasource then customer
  else { customer with datasources := customer.datasources ++ [datasource] }

def remove (customer : Customer) (datasource : DatasourceId) : Customer :=
  { customer with datasources := customer.datasources.filter (· != datasource) }

/-- The record with every datasource only where it comes first. -/
def dedup (customer : Customer) : Customer :=
  { customer with datasources := customer.datasources.eraseDups }

/-! ## Text -/

def toJson (customer : Customer) : Json :=
  Json.ofMembers
    [("apikey", .string customer.apikey.text),
     ("datasources", .array (customer.datasources.map fun id => .string id.text)),
     ("tilelayers", .array (customer.tilelayers.map fun layer => .ofMembers layer.members))]

def print (customer : Customer) : List Char :=
  Json.objectText
    [("apikey", Json.stringText customer.apikey.text),
     ("datasources", Json.arrayText (customer.datasources.map fun id => Json.stringText id.text)),
     ("tilelayers", Json.arrayText (customer.tilelayers.map fun layer =>
       Json.objectText (Json.printMembers layer.members)))]

def bytes (customer : Customer) : Bytes :=
  Text.encodeChars customer.print

structure Draft where
  apikey : Option AccessKey := none
  datasources : List DatasourceId := []
  tilelayers : List TileLayer := []

/-- The members of a customer; the lists may be missing. -/
def shape : Json.Shape Draft where
  name := "struct Customer"
  fields :=
    [.of "apikey" AccessKey.decoder fun apikey draft => { draft with apikey := some apikey },
     .orDefault <| .of "datasources" (Json.listOf DatasourceId.decoder) fun datasources draft =>
       { draft with datasources },
     .orDefault <| .of "tilelayers" (Json.listOf TileLayer.decoder) fun tilelayers draft =>
       { draft with tilelayers }]

def decoder : Json.Decoder Customer := fun origin document => do
  let draft ← shape.closed {} origin document
  return ⟨← Json.required "apikey" draft.apikey, draft.datasources, draft.tilelayers⟩

def ofBytes (bytes : Bytes) : Json.Read Customer :=
  Json.decode decoder (.ofBytes bytes)

end Customer

end LayerGateway
