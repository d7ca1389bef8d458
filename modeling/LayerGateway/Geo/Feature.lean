import LayerGateway.Json.Decode

/-!
# Features

A feature is a geometry with properties.  The gateway never looks into a geometry;
it addresses features by their property `geo_id`, which may be a text or a number.
Members that a feature has beyond the known ones are kept.
-/

namespace LayerGateway

/-- A GeoJSON feature.  `id` is the member of that name, which no lookup uses. -/
structure Feature where
  id : Option Json
  geometry : Json
  properties : Option Members
  extra : Members
  deriving DecidableEq

namespace Feature

/-- The property by which a feature is addressed. -/
def addressKey : String := "geo_id"

def ofGeometry (geometry : Json) : Feature :=
  ⟨none, geometry, none, .empty⟩

/-- The text by which a value addresses a feature: a text is its own address and a
number has its printed form. -/
def addressOf : Json → Option String
  | .string text => some text
  | .number value => some (String.ofList value.text)
  | _ => none

/-- The value of the property by which a feature is addressed. -/
def address? (feature : Feature) : Option Json :=
  feature.properties.bind (·.get? addressKey)

/-- The address of a feature. -/
def geoId? (feature : Feature) : Option String :=
  feature.address?.bind addressOf

/-- Sets a property, on a feature without properties too. -/
def withProperty (feature : Feature) (key : String) (value : Json) : Feature :=
  { feature with properties := some ((feature.properties.getD .empty).insert key value) }

def withGeoId (feature : Feature) (geoId : String) : Feature :=
  feature.withProperty addressKey (.string geoId)

/-- A feature for the place of a stored one, whose address it takes over as it is. -/
def replacing (feature stored : Feature) : Feature :=
  match stored.address? with
  | some value => feature.withProperty addressKey value
  | none => feature

/-! ## Text -/

/-- The members of a feature in the order in which they are written. -/
def members (feature : Feature) : List (String × Json) :=
  [("type", .string "Feature")]
    ++ (feature.id.map fun id => ("id", id)).toList
    ++ [("geometry", feature.geometry),
        ("properties", feature.properties.elim .null fun map => .object map.rows)]
    ++ feature.extra.rows

def toJson (feature : Feature) : Json :=
  Json.ofMembers feature.members

def print (feature : Feature) : List Char :=
  Json.objectText (Json.printMembers feature.members)

structure Draft where
  kind : Option Unit := none
  id : Option Json := none
  geometry : Json := .null
  properties : Option Members := none

def shape : Json.Shape Draft where
  name := "struct Feature"
  fields :=
    [.of "type" (Json.constant "Feature") fun kind draft => { draft with kind := some kind },
     .of "id" (Json.optional Json.anyValue) fun id draft => { draft with id },
     .of "geometry" Json.anyValue fun geometry draft => { draft with geometry },
     .of "properties" (Json.optional Json.anyObject) fun properties draft =>
       { draft with properties }]

def decoder : Json.Decoder Feature := fun origin document => do
  let (draft, extra) ← shape.opened {} Json.anyValue origin document
  let _ ← Json.required "type" draft.kind
  return ⟨draft.id, draft.geometry, draft.properties, .ofRows extra⟩

end Feature

end LayerGateway
