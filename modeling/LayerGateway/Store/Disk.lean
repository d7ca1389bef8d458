import LayerGateway.Customer
import LayerGateway.Decimal.Integer
import LayerGateway.Store.Error

/-!
# Layers on disk

On disk there are two tables whose rows are in order of their keys, byte by byte: the
present content of each layer under its name, and every version of every layer under a
snapshot key.  The versions of a layer are the rows whose keys start with its stem.

A snapshot key is the name of the layer, a zero byte, and the time as eight bytes, the
highest first.  The snapshots of a layer therefore lie together and in order of time, as
long as no name holds a zero byte and no time is negative.
-/

/-! ## Keys of snapshots -/

namespace LayerGateway.SnapshotKey

/-- The lowest `width` bytes of a number, the highest first. -/
def bigEndian : (width : Nat) → Nat → Bytes
  | 0, _ => []
  | width + 1, n => UInt8.ofNat (n / Nat.pow 256 width) :: bigEndian width n

/-- The number that bytes stand for, the highest first. -/
def ofBigEndian (bytes : Bytes) : Nat :=
  bytes.foldl (fun total byte => total * 256 + byte.toNat) 0

def stem (id : DatasourceId) : Bytes :=
  Text.encode id.text ++ [0]

/-- The key of a snapshot.  The time is taken modulo 2⁶⁴. -/
def encode (id : DatasourceId) (timestamp : Int) : Bytes :=
  stem id ++ bigEndian 8 (timestamp % Decimal.wordBound).toNat

/-- The time in a key, its last eight bytes; a key may be too short to have one. -/
def timestamp? (key : Bytes) : Option Int :=
  if key.length < 8 then none
  else
    let value : Int := ofBigEndian (key.drop (key.length - 8))
    some (if value < Decimal.signedBound then value else value - Decimal.wordBound)

end LayerGateway.SnapshotKey

/-! ## Tables -/

namespace LayerGateway

/-- The two tables. -/
structure Disk where
  layers : OrderedMap Bytes Bytes := .empty
  snapshots : OrderedMap Bytes Bytes := .empty
  deriving DecidableEq

namespace Disk

def rows (disk : Disk) (id : DatasourceId) : List (Bytes × Bytes) :=
  disk.snapshots.rows.filter fun row => (SnapshotKey.stem id).isPrefixOf row.1

def stamp (key : Bytes) : Except StoreError Int :=
  match SnapshotKey.timestamp? key with
  | some timestamp => .ok timestamp
  | none => .error (.storage .keyTooShort)

def stamps (disk : Disk) (id : DatasourceId) : Except StoreError (List Int) :=
  (disk.rows id).mapM fun row => stamp row.1

/-- The time of the last version of a layer. -/
def lastStamp (disk : Disk) (id : DatasourceId) : Except StoreError (Option Int) :=
  match (disk.rows id).getLast? with
  | some row => (stamp row.1).map some
  | none => .ok none

def versionAt (disk : Disk) (id : DatasourceId) (timestamp : Int) :
    Except StoreError (Option (Int × Bytes)) :=
  let reach := disk.snapshots.between (SnapshotKey.stem id) (SnapshotKey.encode id timestamp)
  match reach.getLast? with
  | some row => do return some (← stamp row.1, row.2)
  | none => .ok none

/-- Sets the content of a layer and keeps it as the version of a time. -/
def commit (disk : Disk) (id : DatasourceId) (timestamp : Int) (content : Bytes) : Disk where
  layers := disk.layers.insert (Text.encode id.text) content
  snapshots := disk.snapshots.insert (SnapshotKey.encode id timestamp) content

/-- Removes a layer and the rows of its versions. -/
def remove (disk : Disk) (id : DatasourceId) : Disk where
  layers := disk.layers.erase (Text.encode id.text)
  snapshots := disk.snapshots.filter fun row => !(SnapshotKey.stem id).isPrefixOf row.1

/-- The names of the layers; every key must be text. -/
def names (disk : Disk) : Except StoreError (List DatasourceId) :=
  disk.layers.keys.mapM fun key =>
    match Text.firstFault? key with
    | some fault => .error (.storage (.keyNotText fault))
    | none => .ok ⟨Text.lossy key⟩

end Disk

end LayerGateway
