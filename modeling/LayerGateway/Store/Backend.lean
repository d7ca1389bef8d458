import LayerGateway.Store.Disk

/-!
# Where layers are kept

Layers are kept in memory or on disk.  Both keep the same things, in memory a layer under
its name, its present content beside all its versions by time; here stands what the store
asks of either.
-/

namespace LayerGateway

/-! ## Layers in memory -/

structure StoredLayer where
  content : Bytes
  versions : OrderedMap Int Bytes
  deriving DecidableEq

abbrev Memory := OrderedMap String StoredLayer

namespace Memory

def versions (memory : Memory) (id : DatasourceId) : List (Int × Bytes) :=
  ((memory.get? id.text).map (·.versions.rows)).getD []

def versionAt (memory : Memory) (id : DatasourceId) (timestamp : Int) : Option (Int × Bytes) :=
  ((memory.versions id).filter (·.1 ≤ timestamp)).getLast?

/-- Sets the content of a layer and keeps it as the version of a time. -/
def commit (memory : Memory) (id : DatasourceId) (timestamp : Int) (content : Bytes) : Memory :=
  let versions := ((memory.get? id.text).map (·.versions)).getD .empty
  memory.insert id.text ⟨content, versions.insert timestamp content⟩

end Memory

/-! ## Memory or disk -/

inductive Backend where
  | memory (held : Memory)
  | disk (tables : Disk)
  deriving DecidableEq

namespace Backend

def content? (backend : Backend) (id : DatasourceId) : Option Bytes :=
  match backend with
  | .memory held => (held.get? id.text).map (·.content)
  | .disk tables => tables.layers.get? (Text.encode id.text)

def contains (backend : Backend) (id : DatasourceId) : Bool :=
  (backend.content? id).isSome

/-- The names of the layers, as far as they are text. -/
def taken : Backend → List DatasourceId
  | .memory held => held.keys.map .mk
  | .disk tables => tables.layers.keys.filterMap fun key => (Text.decode? key).map .mk

def names : Backend → Except StoreError (List DatasourceId)
  | .memory held => .ok (held.keys.map .mk)
  | .disk tables => tables.names

def stamps (backend : Backend) (id : DatasourceId) : Except StoreError (List Int) :=
  match backend with
  | .memory held => .ok ((held.versions id).map (·.1))
  | .disk tables => tables.stamps id

/-- The time of the last version of a layer. -/
def lastStamp (backend : Backend) (id : DatasourceId) : Except StoreError (Option Int) :=
  match backend with
  | .memory held => .ok ((held.versions id).getLast?.map (·.1))
  | .disk tables => tables.lastStamp id

/-- The latest version at or before a time; there is none before 1970. -/
def versionAt (backend : Backend) (id : DatasourceId) (timestamp : Int) :
    Except StoreError (Option (Int × Bytes)) :=
  if timestamp < 0 then .ok none
  else
    match backend with
    | .memory held => .ok (held.versionAt id timestamp)
    | .disk tables => tables.versionAt id timestamp

/-- Sets the content of a layer and keeps it as the version of a time. -/
def commit (backend : Backend) (id : DatasourceId) (timestamp : Int) (content : Bytes) : Backend :=
  match backend with
  | .memory held => .memory (held.commit id timestamp content)
  | .disk tables => .disk (tables.commit id timestamp content)

def remove (backend : Backend) (id : DatasourceId) : Backend :=
  match backend with
  | .memory held => .memory (held.erase id.text)
  | .disk tables => .disk (tables.remove id)

end Backend

end LayerGateway
