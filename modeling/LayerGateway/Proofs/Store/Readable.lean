import LayerGateway.Proofs.Store.Isolation

/-!
# What can fail to be read

`Readable` says of an answer that it is no failure to read what is kept.  Of all that a store does
only reading a layer or a version can fail so: a change fails to be read if its layer does, and
no other operation.  `Backend.All` speaks of whatever is kept, so of all that a version can be.
-/

namespace LayerGateway

/-! ## What a backend keeps -/

namespace Backend

/-- Whatever is kept, of any layer and any time, has a property. -/
def All (property : Bytes → Prop) : Backend → Prop
  | .memory held => ∀ row ∈ held.rows, property row.2.content ∧
      ∀ version ∈ row.2.versions.rows, property version.2
  | .disk tables => (∀ row ∈ tables.layers.rows, property row.2) ∧
      ∀ row ∈ tables.snapshots.rows, property row.2

variable {property : Bytes → Prop} {backend : Backend} {id : DatasourceId} {content : Bytes}

theorem All.commit (all : backend.All property) (has : property content) (id : DatasourceId)
    (timestamp : Int) : (backend.commit id timestamp content).All property := by
  cases backend with
  | memory held =>
    -- The versions that the layer had before, if there was one.
    have former : ∀ version ∈
        (((held.get? id.text).map StoredLayer.versions).getD OrderedMap.empty).rows,
          property version.2 := by
      cases found : held.get? id.text with
      | none => exact fun version member => absurd member List.not_mem_nil
      | some layer => exact (all _ (held.mem_of_get? found)).2
    exact Rows.forall_mem_insert ⟨has, Rows.forall_mem_insert has former⟩ all
  | disk tables => exact ⟨Rows.forall_mem_insert has all.1, Rows.forall_mem_insert has all.2⟩

theorem All.remove (all : backend.All property) (id : DatasourceId) :
    (backend.remove id).All property := by
  cases backend with
  | memory held => exact fun row member => all row (List.mem_filter.1 member).1
  | disk tables =>
    exact ⟨fun row member => all.1 row (List.mem_filter.1 member).1,
      fun row member => all.2 row (List.mem_filter.1 member).1⟩

theorem All.version (all : backend.All property) {timestamp stamp : Int}
    (found : backend.versionAt id timestamp = .ok (some (stamp, content))) : property content := by
  unfold versionAt at found
  split at found
  · cases found
  · cases backend with
    | memory held =>
      have kept := (List.mem_filter.1 (List.mem_of_getLast? (Except.ok.inj found))).1
      cases layer : held.get? id.text with
      | none => simp [Memory.versions, layer] at kept
      | some stored =>
        rw [Memory.versions, layer] at kept
        exact (all _ (held.mem_of_get? layer)).2 _ kept
    | disk tables =>
      simp only [Disk.versionAt] at found
      split at found
      · next row last =>
        obtain ⟨_, _, same⟩ := ok_of_bind found
        cases same
        exact all.2 row (List.mem_filter.1 (List.mem_of_getLast? last)).1
      · cases found

end Backend

/-! ## Answers -/

/-- An operation does not fail because something that is kept cannot be read. -/
def Readable {α : Type} (result : Except StoreError α) : Prop :=
  ∀ cause, result ≠ .error (.unreadable cause)

section

variable {α β : Type}

theorem readable_ok (value : α) : Readable (.ok value) :=
  fun _ same => by cases same

/-- Failures of other kinds are no failures to read. -/
theorem readable_error {failure : StoreError} (differs : ∀ cause, failure ≠ .unreadable cause) :
    Readable (.error failure : Except StoreError α) :=
  fun cause same => differs cause (Except.error.inj same)

theorem Readable.bind {first : Except StoreError α} {next : α → Except StoreError β}
    (readable : Readable first) (after : ∀ value, first = .ok value → Readable (next value)) :
    Readable (first >>= next) := by
  cases first with
  | error cause => exact fun other same => readable other (congrArg _ (Except.error.inj same))
  | ok value => exact after value rfl

theorem Readable.map {first : Except StoreError α} (readable : Readable first) (f : α → β) :
    Readable (first.map f) := by
  cases first with
  | error cause => exact fun other same => readable other (congrArg _ (Except.error.inj same))
  | ok value => exact readable_ok (f value)

theorem readable_mapM {compute : α → Except StoreError β} (readable : ∀ item, Readable (compute item))
    (items : List α) : Readable (items.mapM compute) := by
  induction items with
  | nil => exact readable_ok []
  | cons item items ih =>
    rw [List.mapM_cons]
    exact (readable item).bind fun _ _ => ih.bind fun _ _ => readable_ok _

end

theorem readable_stamp (key : Bytes) : Readable (Disk.stamp key) := by
  unfold Disk.stamp
  split
  · exact readable_ok _
  · exact readable_error (by simp)

namespace Backend

variable (backend : Backend) (id : DatasourceId)

theorem readable_names : Readable backend.names := by
  cases backend with
  | memory held => exact readable_ok _
  | disk tables =>
    refine readable_mapM (fun key => ?_) _
    split
    · exact readable_error (by simp)
    · exact readable_ok _

theorem readable_stamps : Readable (backend.stamps id) := by
  cases backend with
  | memory held => exact readable_ok _
  | disk tables => exact readable_mapM (fun row : Bytes × Bytes => readable_stamp row.1) _

theorem readable_lastStamp : Readable (backend.lastStamp id) := by
  cases backend with
  | memory held => exact readable_ok _
  | disk tables =>
    simp only [lastStamp, Disk.lastStamp]
    split
    · exact (readable_stamp _).map some
    · exact readable_ok none

theorem readable_versionAt (timestamp : Int) : Readable (backend.versionAt id timestamp) := by
  unfold versionAt
  split
  · exact readable_ok none
  · cases backend with
    | memory held => exact readable_ok _
    | disk tables =>
      simp only [Disk.versionAt]
      split
      · exact (readable_stamp _).bind fun _ _ => readable_ok _
      · exact readable_ok none

end Backend

/-! ## Reading -/

namespace LayerStore

variable {store : LayerStore} {id : DatasourceId} {now : Int}

theorem readable_demand (store : LayerStore) (id : DatasourceId) : Readable (store.demand id) := by
  unfold demand
  split
  · exact readable_ok ()
  · exact readable_error (by simp)

theorem readable_commit (store : LayerStore) (now : Int) (id : DatasourceId)
    (collection : FeatureCollection) : Readable (store.commit now id collection) := by
  have last : Readable (store.lastStamp id) := by
    unfold lastStamp
    split
    · exact readable_ok _
    · exact store.backend.readable_lastStamp id
  exact last.bind fun _ _ => readable_ok _

theorem readable_changing {α : Type} {change : LayerStore → Except StoreError (α × LayerStore)}
    (readable : Readable (change (store.withSlot id))) : Readable (store.changing id change).1 := by
  simp only [changing]
  split
  · exact readable_ok _
  · next cause failed =>
    intro other same
    cases same
    exact readable other failed

theorem readable_insertLayer (store : LayerStore) (now : Int) (id : DatasourceId)
    (collection : FeatureCollection) : Readable (store.insertLayer now id collection).1 :=
  readable_changing ((readable_commit _ now id collection).bind fun _ _ => readable_ok _)

theorem readable_insertFeature (loads : Readable (store.load id)) (spare : String)
    (feature : Feature) : Readable (store.insertFeature now spare id feature).1 := by
  refine readable_changing ?_
  rw [load_withSlot]
  refine loads.bind fun collection _ => ?_
  split
  all_goals exact (readable_commit _ _ _ _).bind fun _ _ => readable_ok _

theorem readable_editFeature (loads : Readable (store.load id)) (geoId : String)
    (feature : Feature) : Readable (store.editFeature now id geoId feature).1 := by
  refine readable_changing ?_
  rw [load_withSlot]
  refine loads.bind fun collection _ => ?_
  split
  · exact (readable_commit _ _ _ _).bind fun _ _ => readable_ok _
  · exact readable_error (by simp)

end LayerStore

end LayerGateway
