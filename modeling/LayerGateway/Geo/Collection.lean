import LayerGateway.Geo.Feature

/-!
# Feature collections

A collection is the whole content of a layer at one time: its features in the order
in which they came, and whatever members it has beside them.
-/

namespace LayerGateway

/-- A GeoJSON feature collection. -/
structure FeatureCollection where
  features : List Feature
  extra : Members
  deriving DecidableEq

namespace FeatureCollection

def empty : FeatureCollection :=
  ⟨[], .empty⟩

instance : EmptyCollection FeatureCollection := ⟨empty⟩

instance : Inhabited FeatureCollection := ⟨empty⟩

/-- The place of the first feature with an address. -/
def position? (collection : FeatureCollection) (geoId : String) : Option Nat :=
  collection.features.findIdx? fun feature => feature.geoId? == some geoId

def find? (collection : FeatureCollection) (geoId : String) : Option Feature :=
  collection.features.find? fun feature => feature.geoId? == some geoId

/-! ## Text -/

def toJson (collection : FeatureCollection) : Json :=
  Json.ofMembers <|
    [("type", .string "FeatureCollection"),
     ("features", .array (collection.features.map Feature.toJson))]
      ++ collection.extra.rows

def print (collection : FeatureCollection) : List Char :=
  Json.objectText <|
    [("type", Json.stringText "FeatureCollection"),
     ("features", Json.arrayText (collection.features.map Feature.print))]
      ++ Json.printMembers collection.extra.rows

def bytes (collection : FeatureCollection) : Bytes :=
  Text.encodeChars collection.print

structure Draft where
  kind : Option Unit := none
  features : List Feature := []

def shape : Json.Shape Draft where
  name := "struct FeatureCollection"
  fields :=
    [.of "type" (Json.constant "FeatureCollection") fun kind draft =>
       { draft with kind := some kind },
     .of "features" (Json.listOf Feature.decoder) fun features draft => { draft with features }]

def decoder : Json.Decoder FeatureCollection := fun origin document => do
  let (draft, extra) ← shape.opened {} Json.anyValue origin document
  let _ ← Json.required "type" draft.kind
  return ⟨draft.features, .ofRows extra⟩

/-- Reads a collection from the bytes of a file, a body or a stored row. -/
def ofBytes (bytes : Bytes) : Json.Read FeatureCollection :=
  Json.decode decoder (.ofBytes bytes)

end FeatureCollection

end LayerGateway
