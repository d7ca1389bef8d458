import LayerGateway.Proofs.Geo.Legible
import LayerGateway.Proofs.Store.Snapshots

/-!
# New layers

A version is kept only of a layer that is there, and only of such a layer the last time is
remembered.  Whoever makes a layer under a name that is free therefore starts anew, unless there
are layers of which the versions are taken for versions of this one.

* `Tidy` says so of a store, and `Reached.tidy` that it is so for every store that came of an empty
  one.
* `Founds` is what a store gains by a new layer, and `Tidy.insertLayer_founds` that it gains this
  and nothing else.
-/

namespace LayerGateway

/-! ## Tables -/

namespace Backend

variable {backend : Backend} {id other : DatasourceId} {timestamp : Int} {content : Bytes}

theorem contains_commit : (backend.commit id timestamp content).contains other = true ↔
    other = id ∨ backend.contains other = true := by
  by_cases same : other = id
  · simp [contains, same]
  · rw [contains, content?_commit_of_ne backend same]
    simp [contains, same]

theorem contains_remove : (backend.remove id).contains other = true ↔
    other ≠ id ∧ backend.contains other = true := by
  by_cases same : other = id
  · simp [contains, same]
  · rw [contains, content?_remove_of_ne backend same]
    simp [contains, same]

theorem separates_symm (separates : backend.Separates id other) : backend.Separates other id := by
  rw [separates_iff] at separates ⊢
  exact fun onDisk => (separates onDisk).symm

/-- Every version that is kept on disk is one of a layer that is there. -/
def Owned (backend : Backend) : Prop :=
  match backend with
  | .memory _ => True
  | .disk tables => ∀ row ∈ tables.snapshots.rows, ∃ id timestamp,
      row.1 = SnapshotKey.encode id timestamp ∧ backend.contains id = true

theorem Owned.commit (owned : backend.Owned) (id : DatasourceId) (timestamp : Int)
    (content : Bytes) : (backend.commit id timestamp content).Owned := by
  cases backend with
  | memory held => trivial
  | disk tables =>
    refine Rows.forall_mem_insert ⟨id, timestamp, rfl, contains_commit.2 (.inl rfl)⟩ ?_
    intro row member
    obtain ⟨owner, time, key, there⟩ := owned row member
    exact ⟨owner, time, key, contains_commit.2 (.inr there)⟩

theorem Owned.remove (owned : backend.Owned) (id : DatasourceId) : (backend.remove id).Owned := by
  cases backend with
  | memory held => trivial
  | disk tables =>
    intro row member
    obtain ⟨kept, foreign⟩ := List.mem_filter.1 member
    obtain ⟨owner, time, key, there⟩ := owned row kept
    refine ⟨owner, time, key, contains_remove.2 ⟨?_, there⟩⟩
    -- The versions of the layer went with it.
    rintro rfl
    have starts := SnapshotKey.stem_prefix_encode owner time
    rw [key, List.isPrefixOf_iff_prefix.2 starts] at foreign
    cases foreign

/-- Of a name that is free no version is kept. -/
theorem Owned.keeps_nil (owned : backend.Owned) (free : backend.contains id = false)
    (apart : ∀ other, backend.contains other = true → backend.Separates other id) :
    Keeps id backend [] := by
  have nothing : backend.content? id = none := by simpa [contains] using free
  cases backend with
  | memory held =>
    have absent : held.get? id.text = none := Option.map_eq_none_iff.1 nothing
    exact .memory (by simp [Memory.versions, absent]) (by simp [absent])
  | disk tables =>
    refine .disk (List.filter_eq_nil_iff.2 fun row member starts => ?_) nothing
    obtain ⟨owner, time, key, there⟩ := owned row member
    have ofOwner := key ▸ SnapshotKey.stem_prefix_encode owner time
    exact (apart owner there).excludes ofOwner (List.isPrefixOf_iff_prefix.1 starts)

end Backend

/-! ## Stores -/

namespace LayerStore

variable {α : Type} {start store later : LayerStore} {id : DatasourceId} {now : Int}

/-- Nothing is kept or remembered of a layer that is not there. -/
structure Tidy (store : LayerStore) : Prop where
  versions : store.backend.Owned
  slots : ∀ id last, store.slots.get? id.text = some (some last) →
    store.backend.contains id = true

theorem tidy_of_fresh (fresh : start = .inMemory ∨ start = .onDisk {}) : start.Tidy := by
  rcases fresh with rfl | rfl
  · exact ⟨trivial, nofun⟩
  · exact ⟨fun row member => absurd member List.not_mem_nil, nofun⟩

theorem Tidy.withSlot (tidy : store.Tidy) (id : DatasourceId) : (store.withSlot id).Tidy := by
  unfold LayerStore.withSlot
  split
  · exact tidy
  refine ⟨tidy.versions, fun other last known => ?_⟩
  by_cases same : other = id
  · -- A slot that was just taken knows no time.
    rw [same, OrderedMap.get?_insert_self] at known
    cases known
  · rw [OrderedMap.get?_insert_of_ne _ (Backend.text_ne same)] at known
    exact tidy.slots other last known

/-- What a slot remembers after one was given up is of another layer. -/
theorem Tidy.slots_withoutSlot (tidy : store.Tidy) {other : DatasourceId} {last : Int}
    (known : (store.withoutSlot id).slots.get? other.text = some (some last)) :
    other ≠ id ∧ store.backend.contains other = true := by
  by_cases same : other = id
  · rw [same, LayerStore.withoutSlot, OrderedMap.get?_erase_self] at known
    cases known
  · rw [LayerStore.withoutSlot, OrderedMap.get?_erase_of_ne _ (Backend.text_ne same)] at known
    exact ⟨same, tidy.slots other last known⟩

theorem Tidy.withoutSlot (tidy : store.Tidy) (id : DatasourceId) : (store.withoutSlot id).Tidy :=
  ⟨tidy.versions, fun _ _ known => (tidy.slots_withoutSlot known).2⟩

theorem Tidy.commit {collection : FeatureCollection} (tidy : store.Tidy)
    (committed : store.commit now id collection = .ok later) : later.Tidy := by
  obtain ⟨timestamp, backend⟩ := commit_backend committed
  constructor
  · rw [backend]
    exact tidy.versions.commit id timestamp _
  · intro other last known
    rw [backend, Backend.contains_commit]
    by_cases same : other = id
    · exact .inl same
    · rw [(commit_touched committed).slots _ (Backend.text_ne same)] at known
      exact .inr (tidy.slots other last known)

theorem Tidy.remove (tidy : store.Tidy) (id : DatasourceId) :
    ({ store with backend := store.backend.remove id }.withoutSlot id).Tidy :=
  ⟨tidy.versions.remove id,
    fun _ _ known => Backend.contains_remove.2 (tidy.slots_withoutSlot known)⟩

theorem Tidy.changing (tidy : store.Tidy)
    {change : LayerStore → Except StoreError (α × LayerStore)}
    (commits : ∀ value later, store.changing id change = (.ok value, later) →
      ∃ collection, (store.withSlot id).commit now id collection = .ok later) :
    (store.changing id change).2.Tidy := by
  rcases changing_outcome commits with failed | ⟨collection, committed⟩
  · rw [failed]
    exact tidy.withSlot id
  · exact (tidy.withSlot id).commit committed

theorem Tidy.insertLayer (tidy : store.Tidy) (now : Int) (id : DatasourceId)
    (collection : FeatureCollection) : (store.insertLayer now id collection).2.Tidy :=
  tidy.changing fun _ _ inserted => ⟨collection, insertLayer_commits inserted⟩

theorem Tidy.deleteLayer (tidy : store.Tidy) (id : DatasourceId) :
    (store.deleteLayer id).2.Tidy := by
  unfold LayerStore.deleteLayer
  split
  · exact tidy.remove id
  · exact tidy.withoutSlot id

theorem Tidy.run (tidy : store.Tidy) (operation : LayerOperation α) (now : Int) (names : Names) :
    (store.run operation now names).2.1.Tidy := by
  cases operation with
  | newLayer => exact tidy.insertLayer now _ _
  | insertLayer id collection => exact tidy.insertLayer now id collection
  | deleteLayer id => exact tidy.deleteLayer id
  | insertFeature id feature =>
    exact tidy.changing fun _ _ inserted => insertFeature_commits inserted
  | editFeature id geoId feature =>
    exact tidy.changing fun _ _ edited => editFeature_commits edited
  | getLayer _ | getLayers | timeseries _ | previous _ _ | hasLayer _ => exact tidy

theorem Tidy.reopened (tidy : store.Tidy) : store.reopened.Tidy :=
  ⟨tidy.versions, nofun⟩

/-- Whatever was done to a store that began empty, it keeps and remembers nothing of layers that are
not there. -/
theorem Reached.tidy (fresh : start = .inMemory ∨ start = .onDisk {})
    (reached : start.Reached store) : store.Tidy := by
  induction reached with
  | start => exact tidy_of_fresh fresh
  | run operation now names _ ih => exact ih.run operation now names
  | reopened _ ih => exact ih.reopened

theorem Tidy.holds_nil (tidy : store.Tidy) (free : store.backend.contains id = false)
    (apart : ∀ other, store.backend.contains other = true → store.backend.Separates other id)
    (spare : Nat) : store.Holds id [] spare := by
  refine ⟨tidy.versions.keeps_nil free apart, fun last known => ?_, nofun⟩
  cases free.symm.trans (tidy.slots id last known)

/-! ## Insertions -/

theorem storable_of_parsed {collection : FeatureCollection}
    (parsed : Json.Parsed FeatureCollection.decoder collection)
    (survives : collection.written.Survives) : collection.Storable := by
  have legible := FeatureCollection.legible_of_parsed parsed survives
  rw [FeatureCollection.Storable, legible.ofBytes_bytes, if_pos legible.shallow]

/-- A store has one more layer, which has one version, and all others are as they were.  What the
layer holds is read again if all numbers in it are. -/
structure Founds (store later : LayerStore) (id : DatasourceId) (now : Int)
    (collection : FeatureCollection) : Prop where
  layers : ∀ other, later.backend.contains other = true ↔
    other = id ∨ store.backend.contains other = true
  others : ∀ other, store.backend.contains other = true → SameAnswers other later store
  content : later.backend.content? id = some collection.bytes
  times : later.timeseries id = .ok [now]
  tells : collection.written.Survives → later.Tells id [(now, collection)]

/-- A layer under a free name has one version, its content, at the time that the clock reads. -/
theorem Tidy.insertLayer_founds {collection : FeatureCollection} (tidy : store.Tidy)
    (free : store.backend.contains id = false)
    (apart : ∀ other, store.backend.contains other = true → store.backend.Separates other id)
    (notBefore : 0 ≤ now) (inTime : now < Decimal.signedBound)
    (parsed : Json.Parsed FeatureCollection.decoder collection) :
    ∃ later, store.insertLayer now id collection = (.ok (), later) ∧
      store.Founds later id now collection := by
  obtain ⟨later, inserted, holds⟩ :=
    insertLayer_holds (tidy.holds_nil free apart 1) notBefore (by omega) collection
  have committed := insertLayer_commits inserted
  obtain ⟨timestamp, backend⟩ := commit_backend committed
  rw [withSlot_backend] at backend
  have content : later.backend.content? id = some collection.bytes := by
    rw [backend, Backend.content?_commit_self]
  refine ⟨later, inserted, ?_, ?_, content, holds.timeseries_eq nofun, ?_⟩
  · intro other
    rw [backend, Backend.contains_commit]
  · intro other there
    have differ : other ≠ id := by
      rintro rfl
      cases free.symm.trans there
    have separates := Backend.separates_symm (apart other there)
    exact ((touched_of_commit committed).sameLayer separates differ).sameAnswers
  · intro survives
    exact holds.tells nofun (List.forall_mem_singleton.2 (storable_of_parsed parsed survives))

end LayerStore

end LayerGateway
