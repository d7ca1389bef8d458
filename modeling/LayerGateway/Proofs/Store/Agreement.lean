import LayerGateway.Proofs.Store.Paired
import LayerGateway.Proofs.Store.Separation

/-!
# Stores that agree on some layers

Two stores in memory may have some layers in common and differ in all others.  What is asked of a
layer in common is answered by both in the same way, and they go on having it in common.

* `LayerStore.InMemory` is what is always so of a store in memory: whatever a write slot remembers
  is the time of the last version.
* `LayerStore.Agree` says what two stores have in common, and `Agree.run` that operations on it go
  the same way in both.
-/

namespace LayerGateway

/-! ## Backends -/

namespace Backend

variable {first second third : Backend} {id : DatasourceId}

theorem SameLayer.symm (same : SameLayer id first second) : SameLayer id second first := by
  cases same with
  | memory same => exact .memory same.symm
  | disk content rows => exact .disk content.symm rows.symm

theorem SameLayer.trans (same : SameLayer id first second) (further : SameLayer id second third) :
    SameLayer id first third := by
  cases same with
  | memory same =>
    cases further with
    | memory further => exact .memory (same.trans further)
  | disk content rows =>
    cases further with
    | disk laterContent laterRows => exact .disk (content.trans laterContent) (rows.trans laterRows)

theorem SameLayer.lastStamp_eq (same : SameLayer id first second) :
    first.lastStamp id = second.lastStamp id := by
  cases same with
  | memory same => simp only [lastStamp, Memory.versions, same]
  | disk content rows => simp only [lastStamp, Disk.lastStamp, rows]

theorem SameLayer.commit (same : SameLayer id first second) (inMemory : first.isDisk = false)
    (timestamp : Int) (content : Bytes) :
    SameLayer id (first.commit id timestamp content) (second.commit id timestamp content) := by
  cases same with
  | memory same =>
    apply SameLayer.memory
    simp [Memory.commit, same]
  | disk _ _ => cases inMemory

theorem SameLayer.remove (same : SameLayer id first second) (inMemory : first.isDisk = false) :
    SameLayer id (first.remove id) (second.remove id) := by
  cases same with
  | memory _ =>
    apply SameLayer.memory
    rw [OrderedMap.get?_erase_self, OrderedMap.get?_erase_self]
  | disk _ _ => cases inMemory

theorem separates_of_memory (inMemory : first.isDisk = false) (id other : DatasourceId) :
    first.Separates id other := by
  rw [separates_iff, inMemory]
  exact nofun

theorem lastStamp_of_memory (inMemory : first.isDisk = false) (id : DatasourceId) :
    ∃ last, first.lastStamp id = .ok last := by
  cases first with
  | memory held => exact ⟨_, rfl⟩
  | disk tables => cases inMemory

/-- A version that is behind the last one becomes the last one. -/
theorem lastStamp_commit (inMemory : first.isDisk = false) {last : Option Int}
    (known : first.lastStamp id = .ok last) (now : Int) (content : Bytes) :
    (first.commit id (LayerStore.nextStamp now last) content).lastStamp id =
      .ok (some (LayerStore.nextStamp now last)) := by
  cases first with
  | disk tables => cases inMemory
  | memory held =>
    cases known
    have increasing : (held.versions id).Pairwise fun earlier later => earlier.1 < later.1 := by
      unfold Memory.versions
      cases held.get? id.text with
      | none => exact .nil
      | some layer => exact layer.versions.sorted.imp Int.compare_eq_lt.1
    have above := LayerStore.nextStamp_above increasing now
    rw [lastTime?] at above
    simp only [commit, lastStamp, held.versions_commit_of_above id content above]
    rw [List.getLast?_concat]
    rfl

end Backend

namespace LayerStore

variable {store later first second : LayerStore} {id : DatasourceId} {now : Int} {α : Type}
  {shared : DatasourceId → Prop}

/-! ## Stores in memory -/

/-- The store keeps its layers in memory, and its slots remember what is so. -/
structure InMemory (store : LayerStore) : Prop where
  inMemory : store.backend.isDisk = false
  slot : ∀ (id : DatasourceId) (last : Int), store.slots.get? id.text = some (some last) →
    store.backend.lastStamp id = .ok (some last)

namespace InMemory

theorem lastStamp_eq (inMemory : store.InMemory) (id : DatasourceId) :
    store.lastStamp id = store.backend.lastStamp id := by
  unfold LayerStore.lastStamp
  split
  · next last known => exact (inMemory.slot id last known).symm
  · rfl

/-- Only the slot of the layer that is touched may remember something new. -/
theorem touched (inMemory : store.InMemory) (touched : Touched id store later)
    (own : ∀ last, later.slots.get? id.text = some (some last) →
      later.backend.lastStamp id = .ok (some last)) : later.InMemory := by
  refine ⟨touched.isDisk_eq.trans inMemory.inMemory, fun other last known => ?_⟩
  by_cases same : other = id
  · subst same
    exact own last known
  · have separates := Backend.separates_of_memory inMemory.inMemory id other
    rw [touched.slots other.text (Backend.text_ne same)] at known
    rw [(touched.sameLayer separates same).backend.lastStamp_eq]
    exact inMemory.slot other last known

theorem withSlot (inMemory : store.InMemory) (id : DatasourceId) :
    (store.withSlot id).InMemory := by
  apply inMemory.touched (withSlot_touched store id)
  intro last known
  rw [withSlot_backend]
  unfold LayerStore.withSlot at known
  split at known
  · exact inMemory.slot id last known
  · simp at known

theorem withoutSlot (inMemory : store.InMemory) (id : DatasourceId) :
    (store.withoutSlot id).InMemory := by
  apply inMemory.touched (withoutSlot_touched store id)
  intro last known
  simp [LayerStore.withoutSlot] at known

theorem remove (inMemory : store.InMemory) (id : DatasourceId) :
    ({ store with backend := store.backend.remove id }.withoutSlot id).InMemory := by
  apply inMemory.touched (remove_touched store id)
  intro last known
  simp [LayerStore.withoutSlot] at known

theorem commit (inMemory : store.InMemory) {collection : FeatureCollection}
    (committed : store.commit now id collection = .ok later) : later.InMemory := by
  apply inMemory.touched (commit_touched committed)
  intro last known
  obtain ⟨former, formerLast⟩ := Backend.lastStamp_of_memory inMemory.inMemory id
  have ran := commit_of_lastStamp ((inMemory.lastStamp_eq id).trans formerLast) now collection
  cases ran.symm.trans committed
  rw [OrderedMap.get?_insert_self, Option.some_inj, Option.some_inj] at known
  rw [← known]
  exact Backend.lastStamp_commit inMemory.inMemory formerLast now collection.bytes

end InMemory

/-! ## Layers in common -/

/-- Two stores in memory that keep the same of all layers that are shared. -/
structure Agree (shared : DatasourceId → Prop) (first second : LayerStore) : Prop where
  ofFirst : first.InMemory
  ofSecond : second.InMemory
  layers : ∀ id, shared id → Backend.SameLayer id first.backend second.backend

theorem Agree.refl (shared : DatasourceId → Prop) (inMemory : store.InMemory) :
    Agree shared store store :=
  ⟨inMemory, inMemory, fun id _ => .refl id store.backend⟩

theorem Agree.touched {firstLater secondLater : LayerStore} (agree : Agree shared first second)
    (ofFirst : Touched id first firstLater) (ofSecond : Touched id second secondLater)
    (firstLaterInMemory : firstLater.InMemory) (secondLaterInMemory : secondLater.InMemory)
    (own : Backend.SameLayer id firstLater.backend secondLater.backend) :
    Agree shared firstLater secondLater := by
  refine ⟨firstLaterInMemory, secondLaterInMemory, fun other common => ?_⟩
  by_cases same : other = id
  · subst same
    exact own
  · have separates {store : LayerStore} (inMemory : store.InMemory) :=
      Backend.separates_of_memory inMemory.inMemory id other
    have firstSame := (ofFirst.sameLayer (separates agree.ofFirst) same).backend
    have secondSame := (ofSecond.sameLayer (separates agree.ofSecond) same).backend
    exact (firstSame.trans (agree.layers other common)).trans secondSame.symm

theorem Agree.commit (agree : Agree shared first second) (common : shared id)
    (collection : FeatureCollection) :
    ∃ firstLater secondLater, first.commit now id collection = .ok firstLater ∧
      second.commit now id collection = .ok secondLater ∧ Agree shared firstLater secondLater := by
  obtain ⟨ofFirst, ofSecond, layers⟩ := agree
  have same := layers id common
  obtain ⟨last, known⟩ := Backend.lastStamp_of_memory ofFirst.inMemory id
  have firstRan := commit_of_lastStamp ((ofFirst.lastStamp_eq id).trans known) now collection
  have knownSecond := (ofSecond.lastStamp_eq id).trans (same.lastStamp_eq.symm.trans known)
  have secondRan := commit_of_lastStamp knownSecond now collection
  refine ⟨_, _, firstRan, secondRan, ?_⟩
  apply Agree.touched ⟨ofFirst, ofSecond, layers⟩ (commit_touched firstRan)
    (commit_touched secondRan) (ofFirst.commit firstRan) (ofSecond.commit secondRan)
  exact same.commit ofFirst.inMemory _ _

theorem Agree.paired (common : shared id) : Paired id now (Agree shared) (Agree shared) where
  idle agree := agree
  content?_eq agree := (agree.layers id common).content?_eq
  stamps_eq agree := (agree.layers id common).stamps_eq
  withSlot {first second} agree := by
    apply agree.touched (withSlot_touched first id) (withSlot_touched second id)
      (agree.ofFirst.withSlot id) (agree.ofSecond.withSlot id)
    rw [withSlot_backend, withSlot_backend]
    exact agree.layers id common
  withoutSlot {first second} agree :=
    agree.touched (withoutSlot_touched first id) (withoutSlot_touched second id)
      (agree.ofFirst.withoutSlot id) (agree.ofSecond.withoutSlot id) (agree.layers id common)
  commit agree := agree.commit common
  remove {first second} agree :=
    agree.touched (remove_touched first id) (remove_touched second id) (agree.ofFirst.remove id)
      (agree.ofSecond.remove id) ((agree.layers id common).remove agree.ofFirst.inMemory)

/-- An operation on a layer in common goes the same way in both stores. -/
theorem Agree.run (agree : Agree shared first second) (common : shared id)
    (operation : LayerOperation α) (now : Int) (names : Names)
    (named : operation.named? = some id) :
    (first.run operation now names).1 = (second.run operation now names).1 ∧
      (first.run operation now names).2.2 = (second.run operation now names).2.2 ∧
        Agree shared (first.run operation now names).2.1
          (second.run operation now names).2.1 := by
  apply (Agree.paired common).run agree operation names named
  intro timestamp _
  exact (agree.layers id common).versionAt_eq timestamp

/-- So does making a layer, if the next name is free in both. -/
theorem Agree.run_newLayer (agree : Agree shared first second) {names : Names}
    (common : shared (names.freeDatasource first.backend.taken).1)
    (sameNames : names.freeDatasource first.backend.taken =
      names.freeDatasource second.backend.taken) :
    (first.run .newLayer now names).1 = (second.run .newLayer now names).1 ∧
      (first.run .newLayer now names).2.2 = (second.run .newLayer now names).2.2 ∧
        Agree shared (first.run .newLayer now names).2.1
          (second.run .newLayer now names).2.1 := by
  obtain ⟨sameResult, later⟩ := (Agree.paired common).insertLayer agree .empty
  simp only [LayerStore.run, ← sameNames]
  exact ⟨congrArg _ sameResult, trivial, later⟩

/-! ## Stores that come about -/

theorem InMemory.run (inMemory : store.InMemory) (operation : LayerOperation α) (now : Int)
    (names : Names) : (store.run operation now names).2.1.InMemory := by
  -- A store agrees with itself on all layers.
  have agree : Agree (fun _ => True) store store := .refl _ inMemory
  cases named : operation.named? with
  | some id => exact (agree.run trivial operation now names named).2.2.ofFirst
  | none =>
    cases operation with
    | newLayer => exact (agree.run_newLayer trivial rfl).2.2.ofFirst
    | getLayers => exact inMemory
    | insertLayer _ _ | getLayer _ | deleteLayer _ | insertFeature _ _ | editFeature _ _ _
    | timeseries _ | previous _ _ | hasLayer _ => cases named

theorem Reached.inMemory (reached : LayerStore.inMemory.Reached store) : store.InMemory := by
  induction reached with
  | start => exact ⟨rfl, nofun⟩
  | run operation now names _ ih => exact ih.run operation now names
  | reopened _ ih => exact ⟨ih.inMemory, nofun⟩

end LayerStore

end LayerGateway
