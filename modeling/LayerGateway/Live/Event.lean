import LayerGateway.Customer

/-!
# Change events

What a viewer of a datasource is told when its layer changes.
-/

namespace LayerGateway

/-- A change of a layer: by which method, and when in milliseconds since 1970. -/
structure LayerChanged where
  datasource : DatasourceId
  method : String
  timestamp : Int
  deriving DecidableEq, Repr

namespace LayerChanged

/-- The members of an event in the order in which they are written. -/
def members (event : LayerChanged) : List (String × Json) :=
  [("datasource", .string event.datasource.text), ("method", .string event.method),
   ("timestamp", .ofInt event.timestamp)]

def print (event : LayerChanged) : List Char :=
  Json.objectText (Json.printMembers event.members)

structure Draft where
  datasource : Option DatasourceId := none
  method : Option String := none
  timestamp : Option Int := none

def shape : Json.Shape Draft where
  name := "struct LayerChanged"
  fields :=
    [.of "datasource" DatasourceId.decoder fun datasource draft =>
       { draft with datasource := some datasource },
     .of "method" Json.anyText fun method draft => { draft with method := some method },
     .of "timestamp" Json.int64 fun timestamp draft =>
       { draft with timestamp := some timestamp }]

def decoder : Json.Decoder LayerChanged := fun origin document => do
  let draft ← shape.closed {} origin document
  return ⟨← Json.required "datasource" draft.datasource, ← Json.required "method" draft.method,
    ← Json.required "timestamp" draft.timestamp⟩

end LayerChanged

end LayerGateway
