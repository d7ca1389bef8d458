import LayerGateway.Proofs.Except
import LayerGateway.Proofs.OrderedMap
import LayerGateway.Proofs.Store.SnapshotKey
import LayerGateway.Store.Layers

/-!
# Layers do not disturb each other

An operation is about one layer at most, and leaves every other layer as it was: its
content, its versions and its write slot.  In memory that is so for all names; on disk it is
so for names without a zero byte, and for any others of which none starts the other at its
zero byte, since what belongs to a layer there is found by how its key starts.

* `LayerStore.Touched` says all that an operation does to the layer it is about, and
  `LayerStore.run_touched` that every operation does no more.
* `Backend.SameLayer` and `LayerStore.SameLayer` say that a layer is kept as it was, and
  `LayerStore.run_sameLayer` which layers an operation keeps so.
-/

namespace LayerGateway

namespace Backend

def isDisk : Backend → Bool
  | .memory _ => false
  | .disk _ => true

/-- The names that a backend tells apart. -/
def Allows (backend : Backend) (id : DatasourceId) : Prop :=
  match backend with
  | .memory _ => True
  | .disk _ => id.NulFree

/-- The backend tells two layers apart by their names. -/
def Separates (backend : Backend) (id other : DatasourceId) : Prop :=
  match backend with
  | .memory _ => True
  | .disk _ => SnapshotKey.Apart id other

/-- Two backends of one kind keep the same of a layer. -/
inductive SameLayer (id : DatasourceId) : Backend → Backend → Prop where
  | memory {first second : Memory} (same : first.get? id.text = second.get? id.text) :
      SameLayer id (.memory first) (.memory second)
  | disk {first second : Disk}
      (content : first.layers.get? (Text.encode id.text) =
        second.layers.get? (Text.encode id.text))
      (rows : first.rows id = second.rows id) : SameLayer id (.disk first) (.disk second)

end Backend

/-! ## Rows of a disk -/

namespace Disk

variable {disk : Disk} {id other : DatasourceId}

/-- What lies between the stem of a layer and a key of it are rows of the layer. -/
theorem between_eq_filter (disk : Disk) (id : DatasourceId) (timestamp : Int) :
    disk.snapshots.between (SnapshotKey.stem id) (SnapshotKey.encode id timestamp) =
      (disk.rows id).filter fun row =>
        compare row.1 (SnapshotKey.encode id timestamp) != .gt := by
  rw [OrderedMap.between, rows, List.filter_filter]
  refine List.filter_congr fun row _ => ?_
  rw [Bool.eq_iff_iff]
  simp only [Bool.and_eq_true, bne_iff_ne, ne_eq, List.isPrefixOf_iff_prefix]
  constructor
  · rintro ⟨fromStem, toKey⟩
    exact ⟨toKey, SnapshotKey.prefix_of_between fromStem toKey⟩
  · rintro ⟨toKey, starts⟩
    exact ⟨SnapshotKey.compare_prefix starts, toKey⟩

theorem rows_commit_of_apart (apart : SnapshotKey.Apart id other) (timestamp : Int)
    (content : Bytes) : (disk.commit id timestamp content).rows other = disk.rows other := by
  refine Rows.filter_insert_of_not (SnapshotKey.stem other).isPrefixOf content _ ?_
  refine Bool.eq_false_iff.2 fun starts => ?_
  exact apart.excludes (SnapshotKey.stem_prefix_encode id timestamp)
    (List.isPrefixOf_iff_prefix.1 starts)

theorem rows_remove (disk : Disk) (id other : DatasourceId) :
    (disk.remove id).rows other =
      (disk.rows other).filter fun row => !(SnapshotKey.stem id).isPrefixOf row.1 := by
  simp only [rows, remove, OrderedMap.filter, List.filter_filter, Bool.and_comm]

theorem rows_remove_of_apart (apart : SnapshotKey.Apart id other) :
    (disk.remove id).rows other = disk.rows other := by
  rw [rows_remove, List.filter_eq_self]
  intro row kept
  have ofOther := List.isPrefixOf_iff_prefix.1 (List.mem_filter.1 kept).2
  rw [Bool.not_eq_true', Bool.eq_false_iff]
  exact fun ofId => apart.excludes (List.isPrefixOf_iff_prefix.1 ofId) ofOther

end Disk

/-! ## Backends -/

namespace Backend

variable {first second : Backend} {id other : DatasourceId}

theorem SameLayer.refl (id : DatasourceId) (backend : Backend) : SameLayer id backend backend := by
  cases backend with
  | memory held => exact .memory rfl
  | disk tables => exact .disk rfl rfl

theorem SameLayer.content?_eq (same : SameLayer id first second) :
    first.content? id = second.content? id := by
  cases same with
  | memory same => rw [content?, content?, same]
  | disk content rows => exact content

theorem SameLayer.contains_eq (same : SameLayer id first second) :
    first.contains id = second.contains id := by
  rw [contains, contains, same.content?_eq]

theorem SameLayer.stamps_eq (same : SameLayer id first second) :
    first.stamps id = second.stamps id := by
  cases same with
  | memory same => simp only [stamps, Memory.versions, same]
  | disk content rows => simp only [stamps, Disk.stamps, rows]

theorem SameLayer.versionAt_eq (same : SameLayer id first second) (timestamp : Int) :
    first.versionAt id timestamp = second.versionAt id timestamp := by
  cases same with
  | memory same => simp only [versionAt, Memory.versionAt, Memory.versions, same]
  | disk content rows =>
    simp only [versionAt, Disk.versionAt, Disk.between_eq_filter, rows]

theorem allows_iff : first.Allows id ↔ (first.isDisk = true → id.NulFree) := by
  cases first <;> simp [Allows, isDisk]

theorem separates_iff :
    first.Separates id other ↔ (first.isDisk = true → SnapshotKey.Apart id other) := by
  cases first <;> simp [Separates, isDisk]

@[simp] theorem isDisk_commit (backend : Backend) (id : DatasourceId) (timestamp : Int)
    (content : Bytes) : (backend.commit id timestamp content).isDisk = backend.isDisk := by
  cases backend <;> rfl

@[simp] theorem isDisk_remove (backend : Backend) (id : DatasourceId) :
    (backend.remove id).isDisk = backend.isDisk := by
  cases backend <;> rfl

theorem text_ne (differ : other ≠ id) : other.text ≠ id.text :=
  fun same => differ (congrArg DatasourceId.mk same)

theorem key_ne (differ : other ≠ id) : Text.encode other.text ≠ Text.encode id.text :=
  fun same => text_ne differ (Text.encode_injective same)

@[simp] theorem content?_commit_self (backend : Backend) (id : DatasourceId) (timestamp : Int)
    (content : Bytes) : (backend.commit id timestamp content).content? id = some content := by
  cases backend <;> simp [content?, commit, Memory.commit, Disk.commit]

theorem content?_commit_of_ne (backend : Backend) (differ : other ≠ id) (timestamp : Int)
    (content : Bytes) :
    (backend.commit id timestamp content).content? other = backend.content? other := by
  cases backend with
  | memory held =>
    exact congrArg (Option.map _) (OrderedMap.get?_insert_of_ne held (text_ne differ) _)
  | disk tables => exact OrderedMap.get?_insert_of_ne _ (key_ne differ) _

@[simp] theorem content?_remove_self (backend : Backend) (id : DatasourceId) :
    (backend.remove id).content? id = none := by
  cases backend <;> simp [content?, remove, Disk.remove]

theorem content?_remove_of_ne (backend : Backend) (differ : other ≠ id) :
    (backend.remove id).content? other = backend.content? other := by
  cases backend with
  | memory held => exact congrArg (Option.map _) (OrderedMap.get?_erase_of_ne held (text_ne differ))
  | disk tables => exact OrderedMap.get?_erase_of_ne _ (key_ne differ)

theorem separates_of_allows (allowed : first.Allows id) (otherAllowed : first.Allows other)
    (differ : other ≠ id) : first.Separates id other := by
  cases first with
  | memory held => trivial
  | disk tables => exact SnapshotKey.apart_of_nulFree allowed otherAllowed differ

theorem commit_sameLayer (backend : Backend) (separates : backend.Separates id other)
    (differ : other ≠ id) (timestamp : Int) (content : Bytes) :
    SameLayer other (backend.commit id timestamp content) backend := by
  cases backend with
  | memory held => exact .memory (OrderedMap.get?_insert_of_ne _ (text_ne differ) _)
  | disk tables =>
    exact .disk (OrderedMap.get?_insert_of_ne _ (key_ne differ) _)
      (Disk.rows_commit_of_apart separates timestamp content)

theorem remove_sameLayer (backend : Backend) (separates : backend.Separates id other)
    (differ : other ≠ id) : SameLayer other (backend.remove id) backend := by
  cases backend with
  | memory held => exact .memory (OrderedMap.get?_erase_of_ne _ (text_ne differ))
  | disk tables =>
    exact .disk (OrderedMap.get?_erase_of_ne _ (key_ne differ))
      (Disk.rows_remove_of_apart separates)

end Backend

theorem Names.behind_nulFree (key feature : List Char) {datasource : List Char}
    (free : '\x00' ∉ datasource) (n : Nat) :
    ((Names.behind key datasource feature).datasources.candidate n).NulFree := by
  rw [DatasourceId.nulFree_iff]
  simp only [behind, Supply.ofInjective, numbered, String.toList_ofList, List.mem_append, not_or,
    List.mem_replicate]
  refine ⟨⟨free, fun padding => nomatch padding.2⟩, fun member => ?_⟩
  have digit := Nat.isDigit_of_mem_toDigits (by decide) (by decide) member
  cases digit

/-! ## Stores -/

def LayerOperation.named? {α : Type} : LayerOperation α → Option DatasourceId
  | .insertLayer id _ | .getLayer id | .deleteLayer id | .insertFeature id _
  | .editFeature id _ _ | .timeseries id | .previous id _ | .hasLayer id => some id
  | .newLayer | .getLayers => none

namespace LayerStore

/-- All that an operation about a layer can do: it commits one version, removes the layer, or
leaves the backend alone, and the slots of other layers are none of its business. -/
structure Touched (id : DatasourceId) (store later : LayerStore) : Prop where
  backend : later.backend = store.backend ∨
    (∃ timestamp content, later.backend = store.backend.commit id timestamp content) ∨
    later.backend = store.backend.remove id
  slots : ∀ other, other ≠ id.text → later.slots.get? other = store.slots.get? other

variable {store later : LayerStore} {id other : DatasourceId}

theorem withSlot_backend (store : LayerStore) (id : DatasourceId) :
    (store.withSlot id).backend = store.backend := by
  unfold withSlot
  split <;> rfl

@[simp] theorem load_withSlot (store : LayerStore) (id other : DatasourceId) :
    (store.withSlot id).load other = store.load other := by
  rw [load, load, withSlot_backend]

theorem contains_of_load {collection : FeatureCollection} (loaded : store.load id = .ok collection) :
    store.backend.contains id = true := by
  cases content : store.backend.content? id with
  | none =>
    rw [load, content] at loaded
    cases loaded
  | some bytes => rw [Backend.contains, content, Option.isSome_some]

theorem withSlot_slots (store : LayerStore) (id : DatasourceId) {other : String}
    (differ : other ≠ id.text) :
    (store.withSlot id).slots.get? other = store.slots.get? other := by
  unfold withSlot
  split
  · rfl
  · exact OrderedMap.get?_insert_of_ne _ differ _

theorem commit_backend {now : Int} {collection : FeatureCollection}
    (committed : store.commit now id collection = .ok later) :
    ∃ timestamp, later.backend = store.backend.commit id timestamp collection.bytes := by
  obtain ⟨last, -, committed⟩ := ok_of_bind committed
  cases committed
  exact ⟨nextStamp now last, rfl⟩

theorem commit_of_lastStamp {last : Option Int} (known : store.lastStamp id = .ok last) (now : Int)
    (collection : FeatureCollection) :
    store.commit now id collection = .ok { store with
      backend := store.backend.commit id (nextStamp now last) collection.bytes
      slots := store.slots.insert id.text (some (nextStamp now last)) } := by
  rw [commit, known]
  rfl

theorem commit_touched {now : Int} {collection : FeatureCollection}
    (committed : store.commit now id collection = .ok later) : Touched id store later := by
  obtain ⟨timestamp, backend⟩ := commit_backend committed
  refine ⟨.inr (.inl ⟨timestamp, collection.bytes, backend⟩), fun other differ => ?_⟩
  obtain ⟨last, -, committed⟩ := ok_of_bind committed
  cases committed
  exact OrderedMap.get?_insert_of_ne _ differ _

theorem withSlot_touched (store : LayerStore) (id : DatasourceId) :
    Touched id store (store.withSlot id) :=
  ⟨.inl (withSlot_backend store id), fun _ differ => withSlot_slots store id differ⟩

theorem touched_of_commit {now : Int} {collection : FeatureCollection}
    (committed : (store.withSlot id).commit now id collection = .ok later) :
    Touched id store later := by
  have held := commit_touched committed
  refine ⟨?_, fun other differ => (held.slots other differ).trans (withSlot_slots store id differ)⟩
  have backend := held.backend
  rwa [withSlot_backend] at backend

/-! ## Changes -/

section Changing

variable {α : Type} {change : LayerStore → Except StoreError (α × LayerStore)} {value : α}
  {cause : StoreError} {now : Int}

theorem changing_ok (changed : change (store.withSlot id) = .ok (value, later)) :
    store.changing id change = (.ok value, later) := by
  simp only [changing, changed]

theorem changing_error (failed : change (store.withSlot id) = .error cause) :
    store.changing id change = (.error cause, store.withSlot id) := by
  simp only [changing, failed]

theorem ok_of_changing (changed : store.changing id change = (.ok value, later)) :
    change (store.withSlot id) = .ok (value, later) := by
  simp only [changing] at changed
  split at changed
  · next ran =>
    cases changed
    exact ran
  · cases changed

/-- A change keeps the slot that it took if it fails, and commits something otherwise. -/
theorem changing_outcome
    (commits : ∀ value later, store.changing id change = (.ok value, later) →
      ∃ collection, (store.withSlot id).commit now id collection = .ok later) :
    (store.changing id change).2 = store.withSlot id ∨
      ∃ collection, (store.withSlot id).commit now id collection =
        .ok (store.changing id change).2 := by
  cases changed : change (store.withSlot id) with
  | error cause =>
    rw [changing_error changed]
    exact .inl rfl
  | ok result =>
    obtain ⟨value, later⟩ := result
    have committed := commits value later (changing_ok changed)
    rw [changing_ok changed]
    exact .inr committed

theorem changing_touched
    (commits : ∀ value later, store.changing id change = (.ok value, later) →
      ∃ collection, (store.withSlot id).commit now id collection = .ok later) :
    Touched id store (store.changing id change).2 := by
  rcases changing_outcome commits with failed | ⟨collection, committed⟩
  · rw [failed]
    exact withSlot_touched store id
  · exact touched_of_commit committed

end Changing

theorem insertLayer_commits {now : Int} {collection : FeatureCollection}
    (inserted : store.insertLayer now id collection = (.ok (), later)) :
    (store.withSlot id).commit now id collection = .ok later := by
  obtain ⟨_, committed, same⟩ := ok_of_bind (ok_of_changing inserted)
  cases same
  exact committed

/-- Who adds a feature reads the layer, and commits it with that feature behind all others. -/
theorem insertFeature_of_ok {now : Int} {spare geoId : String} {feature : Feature}
    (inserted : store.insertFeature now spare id feature = (.ok geoId, later)) :
    ∃ collection, store.load id = .ok collection ∧
      (store.withSlot id).commit now id { collection with features := collection.features ++
        [if feature.geoId?.isNone then feature.withGeoId geoId else feature] } = .ok later := by
  obtain ⟨collection, loaded, added⟩ := ok_of_bind (ok_of_changing inserted)
  rw [load_withSlot] at loaded
  refine ⟨collection, loaded, ?_⟩
  split at added
  all_goals
    next addressed =>
    obtain ⟨later, committed, same⟩ := ok_of_bind added
    cases same
    rw [addressed]
    exact committed

/-- Who edits a feature reads the layer, and commits it with another feature in that place. -/
theorem editFeature_of_ok {now : Int} {geoId : String} {feature stored : Feature}
    (edited : store.editFeature now id geoId feature = (.ok stored, later)) :
    ∃ collection place former, store.load id = .ok collection ∧
      collection.position? geoId = some place ∧ former ∈ collection.features ∧
      stored = feature.replacing former ∧
      (store.withSlot id).commit now id { collection with
        features := collection.features.set place stored } = .ok later := by
  obtain ⟨collection, loaded, exchanged⟩ := ok_of_bind (ok_of_changing edited)
  rw [load_withSlot] at loaded
  split at exchanged
  · next place former position found =>
    obtain ⟨later, committed, same⟩ := ok_of_bind exchanged
    cases same
    exact ⟨collection, place, former, loaded, position, List.mem_of_find?_eq_some found, rfl,
      committed⟩
  · cases exchanged

theorem insertFeature_commits {now : Int} {spare geoId : String} {feature : Feature}
    (inserted : store.insertFeature now spare id feature = (.ok geoId, later)) :
    ∃ collection, (store.withSlot id).commit now id collection = .ok later := by
  obtain ⟨_, -, committed⟩ := insertFeature_of_ok inserted
  exact ⟨_, committed⟩

theorem editFeature_commits {now : Int} {geoId : String} {feature stored : Feature}
    (edited : store.editFeature now id geoId feature = (.ok stored, later)) :
    ∃ collection, (store.withSlot id).commit now id collection = .ok later := by
  obtain ⟨_, _, _, -, -, -, -, committed⟩ := editFeature_of_ok edited
  exact ⟨_, committed⟩

theorem insertLayer_touched (store : LayerStore) (now : Int) (id : DatasourceId)
    (collection : FeatureCollection) :
    Touched id store (store.insertLayer now id collection).2 :=
  changing_touched fun _ _ inserted => ⟨collection, insertLayer_commits inserted⟩

theorem insertFeature_touched (store : LayerStore) (now : Int) (spare : String)
    (id : DatasourceId) (feature : Feature) :
    Touched id store (store.insertFeature now spare id feature).2 :=
  changing_touched fun _ _ inserted => insertFeature_commits inserted

theorem editFeature_touched (store : LayerStore) (now : Int) (id : DatasourceId) (geoId : String)
    (feature : Feature) : Touched id store (store.editFeature now id geoId feature).2 :=
  changing_touched fun _ _ edited => editFeature_commits edited

theorem withoutSlot_touched (store : LayerStore) (id : DatasourceId) :
    Touched id store (store.withoutSlot id) :=
  ⟨.inl rfl, fun _ differ => OrderedMap.get?_erase_of_ne store.slots differ⟩

theorem remove_touched (store : LayerStore) (id : DatasourceId) :
    Touched id store ({ store with backend := store.backend.remove id }.withoutSlot id) :=
  ⟨.inr (.inr rfl), fun _ differ => OrderedMap.get?_erase_of_ne store.slots differ⟩

theorem deleteLayer_touched (store : LayerStore) (id : DatasourceId) :
    Touched id store (store.deleteLayer id).2 := by
  unfold deleteLayer
  split
  · exact remove_touched store id
  · exact withoutSlot_touched store id

/-- The layer that an operation is about if it may change one; a new layer has the first name
that is free. -/
def subject? {α : Type} (store : LayerStore) (names : Names) :
    LayerOperation α → Option DatasourceId
  | .newLayer => some (names.freeDatasource store.backend.taken).1
  | .insertLayer id _ | .deleteLayer id | .insertFeature id _ | .editFeature id _ _ => some id
  | .getLayer _ | .getLayers | .timeseries _ | .previous _ _ | .hasLayer _ => none

theorem named_or_given {α : Type} {operation : LayerOperation α} {names : Names}
    (about : store.subject? names operation = some id) :
    operation.named? = some id ∨ ∃ n, id = names.datasources.candidate n := by
  cases operation with
  | newLayer =>
    cases about
    exact .inr ⟨_, rfl⟩
  | insertLayer _ _ | deleteLayer _ | insertFeature _ _ | editFeature _ _ _ => exact .inl about
  | getLayer _ | getLayers | timeseries _ | previous _ _ | hasLayer _ => cases about

theorem run_datasources {α : Type} (store : LayerStore) (operation : LayerOperation α) (now : Int)
    (names : Names) :
    (store.run operation now names).2.2.datasources = names.datasources := by
  cases operation with
  | insertFeature id feature =>
    simp only [run]
    split <;> rfl
  | _ => rfl

/-- An operation touches the layer it is about, or nothing. -/
theorem run_touched {α : Type} (store : LayerStore) (operation : LayerOperation α) (now : Int)
    (names : Names) :
    match store.subject? names operation with
    | some id => Touched id store (store.run operation now names).2.1
    | none => (store.run operation now names).2.1 = store := by
  cases operation with
  | newLayer => exact insertLayer_touched store now _ _
  | insertLayer id collection => exact insertLayer_touched store now id collection
  | deleteLayer id => exact deleteLayer_touched store id
  | insertFeature id feature => exact insertFeature_touched store now _ id feature
  | editFeature id geoId feature => exact editFeature_touched store now id geoId feature
  | getLayer _ | getLayers | timeseries _ | previous _ _ | hasLayer _ => rfl

/-! ## Other layers -/

/-- Two stores keep the same of a layer. -/
structure SameLayer (id : DatasourceId) (first second : LayerStore) : Prop where
  backend : Backend.SameLayer id first.backend second.backend
  slot : first.slots.get? id.text = second.slots.get? id.text

theorem SameLayer.refl (id : DatasourceId) (store : LayerStore) : SameLayer id store store :=
  ⟨.refl id store.backend, rfl⟩

theorem Touched.sameLayer (touched : Touched id store later)
    (separates : store.backend.Separates id other) (differ : other ≠ id) :
    SameLayer other later store := by
  refine ⟨?_, touched.slots other.text (Backend.text_ne differ)⟩
  rcases touched.backend with kept | ⟨timestamp, content, committed⟩ | removed
  · exact kept ▸ .refl _ _
  · exact committed ▸ Backend.commit_sameLayer _ separates differ timestamp content
  · exact removed ▸ Backend.remove_sameLayer _ separates differ

theorem Touched.isDisk_eq (touched : Touched id store later) :
    later.backend.isDisk = store.backend.isDisk := by
  rcases touched.backend with kept | ⟨timestamp, content, committed⟩ | removed
  · rw [kept]
  · rw [committed, Backend.isDisk_commit]
  · rw [removed, Backend.isDisk_remove]

/-- Layers stay where they are kept. -/
theorem run_isDisk {α : Type} (store : LayerStore) (operation : LayerOperation α) (now : Int)
    (names : Names) :
    (store.run operation now names).2.1.backend.isDisk = store.backend.isDisk := by
  have touched := run_touched store operation now names
  split at touched
  · exact touched.isDisk_eq
  · rw [touched]

theorem run_allows_iff {α : Type} (store : LayerStore) (operation : LayerOperation α) (now : Int)
    (names : Names) (other : DatasourceId) :
    (store.run operation now names).2.1.backend.Allows other ↔ store.backend.Allows other := by
  rw [Backend.allows_iff, Backend.allows_iff, run_isDisk]

/-- A layer that an operation is not about is kept as it was. -/
theorem run_sameLayer {α : Type} (store : LayerStore) (operation : LayerOperation α) (now : Int)
    (names : Names) (otherAllowed : store.backend.Allows other)
    (allowed : ∀ id, store.subject? names operation = some id → store.backend.Allows id)
    (differ : store.subject? names operation ≠ some other) :
    SameLayer other (store.run operation now names).2.1 store := by
  have touched := run_touched store operation now names
  split at touched
  · next id about =>
    have others : other ≠ id := by
      rintro rfl
      exact differ about
    exact touched.sameLayer (Backend.separates_of_allows (allowed id about) otherAllowed others)
      others
  · rw [touched]
    exact .refl other store

/-! ## Reading -/

theorem timeseries_eq_mergeSort {times : List Int} (found : store.backend.contains id = true)
    (stamps : store.backend.stamps id = .ok times) :
    store.timeseries id = .ok times.mergeSort := by
  have demanded : store.demand id = .ok () := by rw [demand, if_pos found]
  rw [timeseries, bind_of_ok demanded, bind_of_ok stamps]
  rfl

/-- Times that are kept in order are listed as they are kept. -/
theorem timeseries_of_stamps {times : List Int} (found : store.backend.contains id = true)
    (stamps : store.backend.stamps id = .ok times) (inOrder : times.Pairwise (· ≤ ·)) :
    store.timeseries id = .ok times := by
  have sorted : times.mergeSort = times :=
    List.mergeSort_of_pairwise (inOrder.imp fun below => by simpa using below)
  rw [timeseries_eq_mergeSort found stamps, sorted]

theorem SameLayer.load_eq {first second : LayerStore} (same : SameLayer id first second) :
    first.load id = second.load id := by
  rw [load, load, same.backend.content?_eq]

theorem SameLayer.demand_eq {first second : LayerStore} (same : SameLayer id first second) :
    first.demand id = second.demand id := by
  rw [demand, demand, same.backend.contains_eq]

theorem SameLayer.timeseries_eq {first second : LayerStore} (same : SameLayer id first second) :
    first.timeseries id = second.timeseries id := by
  rw [timeseries, timeseries, same.demand_eq, same.backend.stamps_eq]

theorem SameLayer.previous_eq {first second : LayerStore} (same : SameLayer id first second)
    (timestamp : Int) : first.previous id timestamp = second.previous id timestamp := by
  rw [previous, previous, same.demand_eq, same.backend.versionAt_eq]

end LayerStore

end LayerGateway
