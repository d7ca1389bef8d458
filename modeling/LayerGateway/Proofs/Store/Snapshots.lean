import LayerGateway.Proofs.Store.Restart
import LayerGateway.Proofs.Store.Separation

/-!
# A commit adds a version

A commit puts one version behind those of its layer and changes none of them, whatever the clock
reads and whether or not the store was opened again since the last one.

* `Undisturbed` says of which stores this holds for a layer: none of the layers that were changed
  is one of which the versions are taken for versions of this one.
* `Gains` says what can be read of a layer that gained a version, and `Holds.commit_gains` that a
  commit adds one.
* `Reached.commit_eq` says that a commit never fails.
-/

namespace LayerGateway

/-! ## Stores that can look up the last time -/

namespace Backend

variable {backend : Backend}

/-- Every version that is kept on disk has a key that is long enough to end in a time. -/
def Timed : Backend → Prop
  | .memory _ => True
  | .disk tables => tables.Timed

theorem Timed.commit (timed : backend.Timed) (id : DatasourceId) (timestamp : Int)
    (content : Bytes) : (backend.commit id timestamp content).Timed := by
  cases backend with
  | memory held => trivial
  | disk tables => exact Disk.Timed.commit timed id timestamp content

theorem Timed.remove (timed : backend.Timed) (id : DatasourceId) : (backend.remove id).Timed := by
  cases backend with
  | memory held => trivial
  | disk tables => exact Disk.Timed.remove timed id

end Backend

namespace LayerStore

variable {start store later : LayerStore} {id : DatasourceId} {now : Int} {spare : Nat}
  {commits : List (Int × FeatureCollection)} {collection : FeatureCollection}

theorem Touched.timed (touched : Touched id store later) (timed : store.backend.Timed) :
    later.backend.Timed := by
  rcases touched.backend with kept | ⟨timestamp, content, committed⟩ | removed
  · rwa [kept]
  · rw [committed]
    exact timed.commit id timestamp content
  · rw [removed]
    exact timed.remove id

theorem Reached.timed (fresh : start = .inMemory ∨ start = .onDisk {})
    (reached : start.Reached store) : store.backend.Timed := by
  induction reached with
  | start =>
    rcases fresh with rfl | rfl
    · trivial
    · exact fun row member => absurd member List.not_mem_nil
  | @run store α operation now names _ ih =>
    have touched := store.run_touched operation now names
    split at touched
    · exact touched.timed ih
    · rwa [touched]
  | reopened _ ih => exact ih

theorem lastStamp_of_timed (timed : store.backend.Timed) (id : DatasourceId) :
    ∃ last, store.lastStamp id = .ok last := by
  unfold lastStamp
  split
  · exact ⟨_, rfl⟩
  · cases backend : store.backend with
    | memory held => exact ⟨_, rfl⟩
    | disk tables =>
      rw [backend] at timed
      exact Disk.Timed.lastStamp_eq timed id

/-- A commit to a store that came of an empty one never fails. -/
theorem Reached.commit_eq (fresh : start = .inMemory ∨ start = .onDisk {})
    (reached : start.Reached store) (now : Int) (id : DatasourceId)
    (collection : FeatureCollection) :
    ∃ later timestamp, (store.withSlot id).commit now id collection = .ok later ∧
      later.backend = store.backend.commit id timestamp collection.bytes := by
  have timed : (store.withSlot id).backend.Timed := by
    rw [withSlot_backend]
    exact reached.timed fresh
  obtain ⟨last, known⟩ := lastStamp_of_timed timed id
  have committed := commit_of_lastStamp known now collection
  rw [withSlot_backend] at committed
  exact ⟨_, _, committed, rfl⟩

/-! ## Layers that are left alone -/

/-- The stores that come of one that is asked things, and on the way closed and opened again,
where no other layer was changed of which the versions are taken for versions of this one.  The
clock does not read before 1970 and leaves time for `spare` more versions. -/
inductive Undisturbed (start : LayerStore) (id : DatasourceId) : Nat → LayerStore → Prop where
  | start (spare : Nat) : Undisturbed start id spare start
  | run {store : LayerStore} {spare : Nat} {α : Type} (operation : LayerOperation α) (now : Int)
      (names : Names)
      (separates : ∀ other, store.subject? names operation = some other → id ≠ other →
        store.backend.Separates other id)
      (notBefore : 0 ≤ now) (inTime : now + spare < Decimal.signedBound) :
      Undisturbed start id (spare + 1) store →
        Undisturbed start id spare (store.run operation now names).2.1
  | reopened {store : LayerStore} {spare : Nat} :
      Undisturbed start id spare store → Undisturbed start id spare store.reopened

theorem Undisturbed.holds (fresh : start = .inMemory ∨ start = .onDisk {})
    (undisturbed : start.Undisturbed id spare store) :
    ∃ commits, store.Holds id commits spare := by
  induction undisturbed with
  | start spare => exact ⟨[], holds_of_fresh fresh id spare⟩
  | run operation now names separates notBefore inTime _ ih =>
    obtain ⟨commits, holds⟩ := ih
    obtain ⟨later, -, held⟩ := run_grown_of_separates holds separates notBefore inTime
    exact ⟨later, held⟩
  | reopened _ ih =>
    obtain ⟨commits, holds⟩ := ih
    exact ⟨commits, holds.reopened⟩

/-! ## One version more -/

/-- A layer gained one version, with a time behind those of all others, and every one of them can
be read as before. -/
structure Gains (store later : LayerStore) (id : DatasourceId) (collection : FeatureCollection)
    (times : List Int) (stamp : Int) : Prop where
  before : store.timeseries id = .ok times
  after : later.timeseries id = .ok (times ++ [stamp])
  last : ∀ time ∈ times, time < stamp
  earlier : ∀ timestamp, timestamp < stamp →
    later.previous id timestamp = store.previous id timestamp
  added : ∀ timestamp, stamp ≤ timestamp → timestamp < Decimal.signedBound →
    later.previous id timestamp = .ok (stamp, collection)

/-- A commit adds one version behind all that a layer has, and changes none of them. -/
theorem Holds.commit_gains (holds : store.Holds id commits (spare + 1)) (stored : commits ≠ [])
    (notBefore : 0 ≤ now) (inTime : now + spare < Decimal.signedBound)
    (storable : collection.Storable)
    (committed : (store.withSlot id).commit now id collection = .ok later) :
    ∃ times stamp, store.Gains later id collection times stamp := by
  obtain ⟨_, sameCommit, laterHolds⟩ := commit_holds holds.withSlot notBefore inTime collection
  cases committed.symm.trans sameCommit
  have above := nextStamp_above (stamped_increasing commits) now
  have versions := stamped_snoc commits now collection
  have room := (holds.nextStamp_room notBefore inTime).2
  generalize nextStamp now (lastTime? (stamped commits)) = stamp at above versions room
  have storedLater : commits ++ [(now, collection)] ≠ [] := List.append_ne_nil_of_right_ne_nil _ nofun
  refine ⟨(stamped commits).map (·.1), stamp, holds.timeseries_eq stored, ?_, ?_, ?_, ?_⟩
  · rw [laterHolds.timeseries_eq storedLater, versions, List.map_append]
    rfl
  · intro time member
    obtain ⟨version, held, rfl⟩ := List.mem_map.1 member
    exact above version held
  · intro timestamp before
    have small : timestamp < Decimal.signedBound := by omega
    -- The new version is not reached.
    rw [laterHolds.previous_eq_read storedLater small, holds.previous_eq_read stored small, versions,
      List.filter_append, List.filter_cons_of_neg (by simpa using before), List.filter_nil,
      List.append_nil]
  · intro timestamp reached small
    have reads : FeatureCollection.ofBytes collection.bytes = .ok collection := storable
    rw [laterHolds.previous_eq_read storedLater small, versions, List.filter_append,
      List.filter_cons_of_pos (by simpa using reached), List.filter_nil, List.getLast?_concat]
    simp only [reads]
    rfl

end LayerStore

end LayerGateway
