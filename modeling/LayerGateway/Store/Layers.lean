import LayerGateway.Geo.Collection
import LayerGateway.Names
import LayerGateway.Store.Backend

/-!
# The layer store

Layers with all their versions.  Every accepted change adds one version, whose time is
the present one or, if the clock has not moved on, the first millisecond after the last
version.  The time of the last version is remembered in a *write slot* per layer, so that
it need not be looked up again.

The operations are values (`LayerOperation`), each with the type of its answer;
`LayerStore.run` carries one out.
-/

namespace LayerGateway

/-- What can be asked of a layer store, with what it answers. -/
inductive LayerOperation : Type → Type where
  /-- Makes an empty layer of a new name. -/
  | newLayer : LayerOperation DatasourceId
  /-- Sets the content of a layer, which need not be there. -/
  | insertLayer (id : DatasourceId) (collection : FeatureCollection) : LayerOperation Unit
  | getLayer (id : DatasourceId) : LayerOperation FeatureCollection
  | deleteLayer (id : DatasourceId) : LayerOperation Unit
  /-- Adds a feature and answers its address, which is made up if it has none. -/
  | insertFeature (id : DatasourceId) (feature : Feature) : LayerOperation String
  /-- Replaces a feature, which keeps its address, and answers it as it was stored. -/
  | editFeature (id : DatasourceId) (geoId : String) (feature : Feature) : LayerOperation Feature
  | getLayers : LayerOperation (List DatasourceId)
  /-- The times of all versions. -/
  | timeseries (id : DatasourceId) : LayerOperation (List Int)
  /-- The latest version at or before a time, with its own time. -/
  | previous (id : DatasourceId) (timestamp : Int) : LayerOperation (Int × FeatureCollection)
  | hasLayer (id : DatasourceId) : LayerOperation Bool

/-- The layers and the write slots.  A slot holds the time of the last version once it is
known. -/
structure LayerStore where
  backend : Backend
  slots : OrderedMap String (Option Int) := .empty
  deriving DecidableEq

namespace LayerStore

def inMemory : LayerStore :=
  ⟨.memory .empty, .empty⟩

def onDisk (disk : Disk) : LayerStore :=
  ⟨.disk disk, .empty⟩

/-- The store after it was closed and opened again: the slots are forgotten. -/
def reopened (store : LayerStore) : LayerStore :=
  { store with slots := .empty }

def nextStamp (now : Int) : Option Int → Int
  | some last => if now ≤ last then last + 1 else now
  | none => now

def withSlot (store : LayerStore) (id : DatasourceId) : LayerStore :=
  if store.slots.contains id.text then store
  else { store with slots := store.slots.insert id.text none }

def withoutSlot (store : LayerStore) (id : DatasourceId) : LayerStore :=
  { store with slots := store.slots.erase id.text }

/-- The time of the last version of a layer, from its slot or looked up. -/
def lastStamp (store : LayerStore) (id : DatasourceId) : Except StoreError (Option Int) :=
  match store.slots.get? id.text with
  | some (some last) => .ok (some last)
  | _ => store.backend.lastStamp id

def load (store : LayerStore) (id : DatasourceId) : Except StoreError FeatureCollection :=
  match store.backend.content? id with
  | some content => (FeatureCollection.ofBytes content).mapError .unreadable
  | none => .error (.layerNotFound id)

def demand (store : LayerStore) (id : DatasourceId) : Except StoreError Unit :=
  if store.backend.contains id then .ok () else .error (.layerNotFound id)

/-- Sets the content of a layer as a new version. -/
def commit (store : LayerStore) (now : Int) (id : DatasourceId)
    (collection : FeatureCollection) : Except StoreError LayerStore := do
  let stamp := nextStamp now (← store.lastStamp id)
  return { store with
    backend := store.backend.commit id stamp collection.bytes
    slots := store.slots.insert id.text (some stamp) }

/-- Carries out a change that starts with taking the slot of a layer; when it fails, the
slot is what is left of it. -/
def changing {α : Type} (store : LayerStore) (id : DatasourceId)
    (change : LayerStore → Except StoreError (α × LayerStore)) :
    Except StoreError α × LayerStore :=
  let held := store.withSlot id
  match change held with
  | .ok (value, store) => (.ok value, store)
  | .error cause => (.error cause, held)

def insertLayer (store : LayerStore) (now : Int) (id : DatasourceId)
    (collection : FeatureCollection) : Except StoreError Unit × LayerStore :=
  store.changing id fun store => do
    return ((), ← store.commit now id collection)

/-- Removes a layer and all its versions.  The slot goes, whether there was a layer or
not. -/
def deleteLayer (store : LayerStore) (id : DatasourceId) : Except StoreError Unit × LayerStore :=
  match store.demand id with
  | .ok () => (.ok (), { store with backend := store.backend.remove id }.withoutSlot id)
  | .error cause => (.error cause, store.withoutSlot id)

def appendFeature (store : LayerStore) (now : Int) (id : DatasourceId)
    (collection : FeatureCollection) (feature : Feature) : Except StoreError LayerStore :=
  store.commit now id { collection with features := collection.features ++ [feature] }

/-- Adds a feature; `spare` is the address it gets if it has none. -/
def insertFeature (store : LayerStore) (now : Int) (spare : String) (id : DatasourceId)
    (feature : Feature) : Except StoreError String × LayerStore :=
  store.changing id fun store => do
    let collection ← store.load id
    match feature.geoId? with
    | some geoId => return (geoId, ← store.appendFeature now id collection feature)
    | none =>
        return (spare, ← store.appendFeature now id collection (feature.withGeoId spare))

def editFeature (store : LayerStore) (now : Int) (id : DatasourceId) (geoId : String)
    (feature : Feature) : Except StoreError Feature × LayerStore :=
  store.changing id fun store => do
    let collection ← store.load id
    match collection.position? geoId, collection.find? geoId with
    | some place, some stored =>
        let feature := feature.replacing stored
        let store ← store.commit now id
          { collection with features := collection.features.set place feature }
        return (feature, store)
    | _, _ => throw (.featureNotFound id geoId)

/-- The times of all versions of a layer, in order. -/
def timeseries (store : LayerStore) (id : DatasourceId) : Except StoreError (List Int) := do
  store.demand id
  return (← store.backend.stamps id).mergeSort

/-- The latest version of a layer at or before a time. -/
def previous (store : LayerStore) (id : DatasourceId) (timestamp : Int) :
    Except StoreError (Int × FeatureCollection) := do
  store.demand id
  match ← store.backend.versionAt id timestamp with
  | some (stamp, content) =>
      return (stamp, ← (FeatureCollection.ofBytes content).mapError .unreadable)
  | none => throw (.snapshotNotFound id timestamp)

/-- Carries out an operation at a time; `names` are the names that are given next. -/
def run {α : Type} (operation : LayerOperation α) (now : Int) (names : Names)
    (store : LayerStore) : Except StoreError α × LayerStore × Names :=
  match operation with
  | .newLayer =>
      let (id, names) := names.freeDatasource store.backend.taken
      let (result, store) := store.insertLayer now id .empty
      (result.map fun _ => id, store, names)
  | .insertLayer id collection =>
      let (result, store) := store.insertLayer now id collection
      (result, store, names)
  | .getLayer id => (store.load id, store, names)
  | .deleteLayer id =>
      let (result, store) := store.deleteLayer id
      (result, store, names)
  | .insertFeature id feature =>
      let (spare, later) := names.feature
      let (result, store) := store.insertFeature now spare id feature
      (result, store, if feature.geoId?.isNone then later else names)
  | .editFeature id geoId feature =>
      let (result, store) := store.editFeature now id geoId feature
      (result, store, names)
  | .getLayers => (store.backend.names, store, names)
  | .timeseries id => (store.timeseries id, store, names)
  | .previous id timestamp => (store.previous id timestamp, store, names)
  | .hasLayer id => (.ok (store.backend.contains id), store, names)

end LayerStore

end LayerGateway
