import LayerGateway.Proofs.Store.Isolation

/-!
# Which layers are isolated

Two layers are isolated when nothing that is done to the one can be noticed at the other.  In
memory any two layers are.  On disk those are whose stems do not start one another, and no
others: a snapshot whose key starts with both stems is listed among the versions of either layer
and goes with either of them.

* `SameAnswers` says what can be noticed at a layer, and `Isolated` that nothing can, whatever
  became of the store before.
* `isolated_iff` says for which names that is so.
-/

namespace LayerGateway

/-! ## Isolated layers -/

namespace LayerStore

/-- Two stores answer all questions about a layer in the same way. -/
structure SameAnswers (id : DatasourceId) (first second : LayerStore) : Prop where
  load : first.load id = second.load id
  contains : first.backend.contains id = second.backend.contains id
  timeseries : first.timeseries id = second.timeseries id
  previous : ∀ timestamp, first.previous id timestamp = second.previous id timestamp

theorem SameLayer.sameAnswers {id : DatasourceId} {first second : LayerStore}
    (same : SameLayer id first second) : SameAnswers id first second :=
  ⟨same.load_eq, same.backend.contains_eq, same.timeseries_eq, same.previous_eq⟩

/-- The stores that come of one that is asked things, and on the way closed and opened again. -/
inductive Reached (start : LayerStore) : LayerStore → Prop where
  | start : Reached start start
  | run {store : LayerStore} {α : Type} (operation : LayerOperation α) (now : Int) (names : Names) :
      Reached start store → Reached start (store.run operation now names).2.1
  | reopened {store : LayerStore} : Reached start store → Reached start store.reopened

/-- Whatever became of a store that starts like this, no operation that names the one layer
changes an answer about the other. -/
def Isolated (start : LayerStore) (id other : DatasourceId) : Prop :=
  ∀ store, start.Reached store → ∀ {α : Type} (operation : LayerOperation α) (now : Int)
    (names : Names), operation.named? = some id →
      SameAnswers other (store.run operation now names).2.1 store

theorem Reached.isDisk_eq {start store : LayerStore} (reached : start.Reached store) :
    store.backend.isDisk = start.backend.isDisk := by
  induction reached with
  | start => rfl
  | @run store α operation now names _ ih => rw [store.run_isDisk operation now names, ih]
  | reopened _ ih => exact ih

theorem isolated_of_separates {start : LayerStore} {id other : DatasourceId}
    (separates : start.backend.Separates id other) (differ : other ≠ id) :
    start.Isolated id other := by
  intro store reached α operation now names named
  have separates : store.backend.Separates id other := by
    rw [Backend.separates_iff, reached.isDisk_eq]
    exact Backend.separates_iff.1 separates
  apply SameLayer.sameAnswers
  have touched := store.run_touched operation now names
  split at touched
  · next subject about =>
    -- An operation that names a layer is not about a new one.
    have same : subject = id := by
      cases operation <;> cases named <;> cases about <;> rfl
    subst same
    exact touched.sameLayer separates differ
  · rw [touched]
    exact .refl other store

end LayerStore

/-! ## Times on disk -/

namespace Disk

/-- Every snapshot has a key that is long enough to end in a time. -/
def Timed (disk : Disk) : Prop :=
  ∀ row ∈ disk.snapshots.rows, 8 ≤ row.1.length

variable {disk : Disk} {id other : DatasourceId}

theorem Timed.commit (timed : disk.Timed) (id : DatasourceId) (timestamp : Int)
    (content : Bytes) : (disk.commit id timestamp content).Timed :=
  Rows.forall_mem_insert (by simp [SnapshotKey.encode]) timed

theorem Timed.remove (timed : disk.Timed) (id : DatasourceId) : (disk.remove id).Timed :=
  fun row member => timed row (List.mem_filter.1 member).1

theorem Timed.stamp_eq (timed : disk.Timed) {row : Bytes × Bytes} (kept : row ∈ disk.rows id) :
    ∃ timestamp, stamp row.1 = .ok timestamp := by
  have long := timed row (List.mem_filter.1 kept).1
  unfold stamp SnapshotKey.timestamp?
  rw [if_neg (by omega)]
  exact ⟨_, rfl⟩

theorem Timed.lastStamp_eq (timed : disk.Timed) (id : DatasourceId) :
    ∃ last, disk.lastStamp id = .ok last := by
  unfold lastStamp
  split
  · next row last =>
    obtain ⟨timestamp, stamped⟩ := timed.stamp_eq (List.mem_of_getLast? last)
    rw [stamped]
    exact ⟨_, rfl⟩
  · exact ⟨_, rfl⟩

theorem mapM_stamp_length {rows : List (Bytes × Bytes)}
    (stamped : ∀ row ∈ rows, ∃ timestamp, stamp row.1 = .ok timestamp) :
    ∃ times, rows.mapM (fun row => stamp row.1) = .ok times ∧ times.length = rows.length := by
  induction rows with
  | nil => exact ⟨[], rfl, rfl⟩
  | cons row rows ih =>
    obtain ⟨timestamp, here⟩ := stamped row List.mem_cons_self
    obtain ⟨times, rest, length⟩ := ih fun row member => stamped row (List.mem_cons_of_mem _ member)
    refine ⟨timestamp :: times, ?_, by simp [length]⟩
    rw [List.mapM_cons, here, rest]
    rfl

/-- Every row of a layer is listed. -/
theorem Timed.stamps_eq (timed : disk.Timed) (id : DatasourceId) :
    ∃ times, disk.stamps id = .ok times ∧ times.length = (disk.rows id).length :=
  mapM_stamp_length fun _ kept => timed.stamp_eq kept

/-! ## Keys of two layers -/

/-- Some snapshot has a key that starts with both stems. -/
def Shares (disk : Disk) (id other : DatasourceId) : Prop :=
  ∃ row ∈ disk.snapshots.rows, SnapshotKey.stem id <+: row.1 ∧ SnapshotKey.stem other <+: row.1

theorem exists_row_commit_self (disk : Disk) (id : DatasourceId) (timestamp : Int)
    (content : Bytes) :
    ∃ row ∈ (disk.commit id timestamp content).snapshots.rows,
      row.1 = SnapshotKey.encode id timestamp :=
  ⟨_, OrderedMap.mem_of_get? _ (OrderedMap.get?_insert_self disk.snapshots _ content), rfl⟩

theorem exists_row_commit {key : Bytes} (present : ∃ row ∈ disk.snapshots.rows, row.1 = key)
    (id : DatasourceId) (timestamp : Int) (content : Bytes) :
    ∃ row ∈ (disk.commit id timestamp content).snapshots.rows, row.1 = key := by
  by_cases same : key = SnapshotKey.encode id timestamp
  · rw [same]
    exact exists_row_commit_self disk id timestamp content
  · obtain ⟨row, member, rfl⟩ := present
    have found := disk.snapshots.mem_rows_iff.1 member
    rw [← OrderedMap.get?_insert_of_ne disk.snapshots same content] at found
    exact ⟨row, OrderedMap.mem_of_get? _ found, rfl⟩

/-- Unless the stems are apart, the keys of one of the two layers start with both of them. -/
theorem shares_of_not_apart (close : ¬ SnapshotKey.Apart id other)
    (ofId : ∃ row ∈ disk.snapshots.rows, ∃ timestamp, row.1 = SnapshotKey.encode id timestamp)
    (ofOther : ∃ row ∈ disk.snapshots.rows, ∃ timestamp,
      row.1 = SnapshotKey.encode other timestamp) : disk.Shares id other := by
  by_cases starts : SnapshotKey.stem id <+: SnapshotKey.stem other
  · obtain ⟨row, member, timestamp, key⟩ := ofOther
    have own := SnapshotKey.stem_prefix_encode other timestamp
    exact ⟨row, member, key ▸ starts.trans own, key ▸ own⟩
  · obtain ⟨row, member, timestamp, key⟩ := ofId
    have own := SnapshotKey.stem_prefix_encode id timestamp
    have starts : SnapshotKey.stem other <+: SnapshotKey.stem id :=
      Decidable.not_not.1 fun further => close ⟨starts, further⟩
    exact ⟨row, member, key ▸ own, key ▸ starts.trans own⟩

theorem Shares.length_lt (shares : disk.Shares id other) :
    ((disk.remove id).rows other).length < (disk.rows other).length := by
  obtain ⟨row, member, ofId, ofOther⟩ := shares
  rw [rows_remove, List.length_filter_lt_length_iff_exists]
  refine ⟨row, List.mem_filter.2 ⟨member, List.isPrefixOf_iff_prefix.2 ofOther⟩, ?_⟩
  simp [List.isPrefixOf_iff_prefix.2 ofId]

end Disk

/-! ## Layers that are not isolated -/

namespace LayerStore

variable {store : LayerStore} {tables : Disk} {id other : DatasourceId}

theorem insertLayer_disk (kept : store.backend = .disk tables) (timed : tables.Timed)
    (now : Int) (id : DatasourceId) (collection : FeatureCollection) :
    ∃ timestamp, (store.insertLayer now id collection).2.backend =
      .disk (tables.commit id timestamp collection.bytes) := by
  have held : (store.withSlot id).backend = .disk tables := (withSlot_backend store id).trans kept
  have lookedUp : ∃ last, (store.withSlot id).lastStamp id = .ok last := by
    unfold lastStamp
    split
    · exact ⟨_, rfl⟩
    · rw [held]
      exact timed.lastStamp_eq id
  obtain ⟨last, lookedUp⟩ := lookedUp
  refine ⟨nextStamp now last, ?_⟩
  simp only [insertLayer, changing, commit, bind_of_ok lookedUp, held]
  rfl

theorem deleteLayer_backend (found : store.backend.contains id = true) :
    (store.deleteLayer id).2.backend = store.backend.remove id := by
  simp [deleteLayer, demand, found, withoutSlot]

theorem timeseries_disk (kept : store.backend = .disk tables) (timed : tables.Timed)
    (found : store.backend.contains id = true) :
    ∃ times, store.timeseries id = .ok times ∧ times.length = (tables.rows id).length := by
  obtain ⟨times, stamps, length⟩ := timed.stamps_eq id
  have answered : store.backend.stamps id = .ok times := by rw [kept]; exact stamps
  exact ⟨times.mergeSort, timeseries_eq_mergeSort found answered,
    (List.length_mergeSort times).trans length⟩

/-- A snapshot that two layers share goes with the one that is deleted, and is missed by the
other one. -/
theorem deleteLayer_noticed (kept : store.backend = .disk tables) (timed : tables.Timed)
    (shares : tables.Shares id other) (found : store.backend.contains id = true)
    (otherFound : store.backend.contains other = true) :
    ¬ SameAnswers other (store.deleteLayer id).2 store := by
  intro same
  have removed : (store.deleteLayer id).2.backend = .disk (tables.remove id) := by
    rw [deleteLayer_backend found, kept]
    rfl
  have otherStays : (store.deleteLayer id).2.backend.contains other = true := by
    rw [same.contains, otherFound]
  obtain ⟨times, listed, length⟩ := timeseries_disk kept timed otherFound
  obtain ⟨later, listedLater, laterLength⟩ :=
    timeseries_disk removed (timed.remove id) otherStays
  have fewer := shares.length_lt
  -- The same times were listed, although there were more rows before.
  rw [same.timeseries, listed] at listedLater
  cases listedLater
  omega

/-- On disk both layers are set and the first is deleted.  Less is listed of the other one then. -/
theorem not_isolated (close : ¬ SnapshotKey.Apart id other) (differ : other ≠ id) :
    ¬ (onDisk {}).Isolated id other := by
  intro isolated
  have same := isolated _
    (.run (.insertLayer other .empty) 0 (.behind [] [] [])
      (.run (.insertLayer id .empty) 0 (.behind [] [] []) .start))
    (.deleteLayer id) 0 (.behind [] [] []) rfl
  simp only [run] at same
  -- The disk after the two layers were set.
  have untouched : Disk.Timed {} := fun _ member => absurd member List.not_mem_nil
  have fresh : (onDisk {}).backend = .disk {} := rfl
  obtain ⟨early, firstKept⟩ := insertLayer_disk fresh untouched 0 id .empty
  have firstTimed := untouched.commit id early FeatureCollection.empty.bytes
  obtain ⟨late, secondKept⟩ := insertLayer_disk firstKept firstTimed 0 other .empty
  have timed := firstTimed.commit other late FeatureCollection.empty.bytes
  have shares : ((Disk.commit {} id early FeatureCollection.empty.bytes).commit other late
      FeatureCollection.empty.bytes).Shares id other := by
    apply Disk.shares_of_not_apart close
    · obtain ⟨row, member, key⟩ :=
        Disk.exists_row_commit (Disk.exists_row_commit_self {} id early _) other late _
      exact ⟨row, member, early, key⟩
    · obtain ⟨row, member, key⟩ := Disk.exists_row_commit_self _ other late _
      exact ⟨row, member, late, key⟩
  have present : ((Backend.disk {}).commit id early FeatureCollection.empty.bytes).contains id =
      true := by simp [Backend.contains]
  refine deleteLayer_noticed secondKept timed shares ?_ ?_ same
  · rw [secondKept]
    have stays := Backend.content?_commit_of_ne (.disk (Disk.commit {} id early
      FeatureCollection.empty.bytes)) differ.symm late FeatureCollection.empty.bytes
    exact (congrArg Option.isSome stays).trans present
  · rw [secondKept]
    exact congrArg Option.isSome (Backend.content?_commit_self (.disk _) other late _)

end LayerStore

/-- Two layers are isolated in memory, and on disk if and only if the stem of neither starts the
stem of the other. -/
theorem isolated_iff {start : LayerStore} (fresh : start = .inMemory ∨ start = .onDisk {})
    {id other : DatasourceId} (differ : other ≠ id) :
    start.Isolated id other ↔ start.backend.Separates id other := by
  refine ⟨fun isolated => ?_, fun separates => LayerStore.isolated_of_separates separates differ⟩
  rcases fresh with rfl | rfl
  · trivial
  · by_cases apart : SnapshotKey.Apart id other
    · exact apart
    · exact absurd isolated (LayerStore.not_isolated apart differ)

/-- A name may start another one if no zero byte follows there. -/
theorem isolated_iff_neighbours : (LayerStore.onDisk {}).Isolated ⟨"ab"⟩ ⟨"a"⟩ := by
  refine (isolated_iff (.inr rfl) (by decide)).2 ?_
  have apart : SnapshotKey.Apart ⟨"ab"⟩ ⟨"a"⟩ := by decide
  exact apart

def withOneLayer : LayerStore :=
  ((LayerStore.onDisk {}).insertLayer 100 ⟨"a"⟩ .empty).2

/-- Where a zero byte follows, a snapshot of the longer name is listed under the shorter one. -/
theorem zeroByte_noticed : ¬ (LayerStore.onDisk {}).Isolated ⟨"a\x00b"⟩ ⟨"a"⟩ := by
  intro isolated
  have reached : (LayerStore.onDisk {}).Reached withOneLayer :=
    .run (.insertLayer ⟨"a"⟩ .empty) 100 (.behind [] [] []) .start
  have same := (isolated withOneLayer reached (.insertLayer ⟨"a\x00b"⟩ .empty) 200
    (.behind [] [] []) rfl).timeseries
  have before : withOneLayer.timeseries ⟨"a"⟩ = .ok [100] :=
    LayerStore.timeseries_of_stamps rfl (by decide +kernel) (by decide)
  have after : (withOneLayer.insertLayer 200 ⟨"a\x00b"⟩ .empty).2.timeseries ⟨"a"⟩ =
      .ok [100, 200] :=
    LayerStore.timeseries_of_stamps rfl (by decide +kernel) (by decide)
  simp only [LayerStore.run, before, after] at same
  cases same

end LayerGateway
