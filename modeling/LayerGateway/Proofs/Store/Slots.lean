import LayerGateway.Proofs.Store.NewLayers
import Mathlib.Data.List.Induction
import Mathlib.Data.List.Nodup
import Mathlib.Data.List.Perm.Subperm

/-!
# Write slots

Every change takes the slot of its layer before it is known whether there is such a layer, and
only a deletion gives a slot up.  A layer that is there therefore has a slot, and one that is not
has none, unless a feature was meant for it: that is refused, and the slot stays until somebody
asks to delete the layer, which is refused as well.

* `Course.Missed` says for which layers a feature was meant in vain, and `slots_of_run` that these
  have slots, those that are there have, and no others.
* `LayerStore.swept` takes away what slots know no time, and `sweep_unnoticed` says that then only
  layers that are there have slots, and that no answer changes.
-/

namespace LayerGateway

/-! ## What an operation does to layers and slots -/

namespace LayerOperation

variable {α : Type}

def deleted? : LayerOperation α → Option DatasourceId
  | .deleteLayer id => some id
  | _ => none

/-- The layer in which an operation adds or replaces a feature. -/
def filled? : LayerOperation α → Option DatasourceId
  | .insertFeature id _ | .editFeature id _ _ => some id
  | _ => none

theorem deleted?_of_filled? {operation : LayerOperation α} {id : DatasourceId}
    (fills : operation.filled? = some id) : operation.deleted? = none := by
  cases operation <;> cases fills <;> rfl

end LayerOperation

namespace LayerStore

variable {α : Type} {start store later : LayerStore} {id other : DatasourceId} {now : Int}

/-- The layer that an operation makes, or writes over; a new layer has the first name that is
free. -/
def made? (store : LayerStore) (names : Names) : LayerOperation α → Option DatasourceId
  | .newLayer => some (names.freeDatasource store.backend.taken).1
  | .insertLayer id _ => some id
  | _ => none

def HasSlot (store : LayerStore) (id : DatasourceId) : Prop :=
  store.slots.contains id.text = true

/-- Only layers that are there have slots. -/
def SlotsOfLayers (store : LayerStore) : Prop :=
  ∀ id, store.HasSlot id → store.backend.contains id = true

theorem hasSlot_insert {last : Option Int} :
    ({ store with slots := store.slots.insert id.text last }).HasSlot other ↔
      other = id ∨ store.HasSlot other := by
  by_cases same : other = id
  · simp [HasSlot, OrderedMap.contains, same]
  · rw [HasSlot, OrderedMap.contains, OrderedMap.get?_insert_of_ne _ (Backend.text_ne same)]
    simp [HasSlot, OrderedMap.contains, same]

theorem hasSlot_withSlot :
    (store.withSlot id).HasSlot other ↔ other = id ∨ store.HasSlot other := by
  unfold withSlot
  split
  · next taken =>
    refine (or_iff_right_of_imp ?_).symm
    rintro rfl
    exact taken
  · exact hasSlot_insert

theorem hasSlot_withoutSlot :
    (store.withoutSlot id).HasSlot other ↔ other ≠ id ∧ store.HasSlot other := by
  by_cases same : other = id
  · simp [HasSlot, withoutSlot, OrderedMap.contains, same]
  · rw [HasSlot, withoutSlot, OrderedMap.contains,
      OrderedMap.get?_erase_of_ne _ (Backend.text_ne same)]
    simp [HasSlot, OrderedMap.contains, same]

theorem hasSlot_commit {collection : FeatureCollection}
    (committed : store.commit now id collection = .ok later) :
    later.HasSlot other ↔ other = id ∨ store.HasSlot other := by
  obtain ⟨last, -, committed⟩ := ok_of_bind committed
  cases committed
  exact hasSlot_insert

theorem hasSlot_changing {change : LayerStore → Except StoreError (α × LayerStore)}
    (commits : ∀ value later, store.changing id change = (.ok value, later) →
      ∃ collection, (store.withSlot id).commit now id collection = .ok later) :
    (store.changing id change).2.HasSlot other ↔ other = id ∨ store.HasSlot other := by
  rcases changing_outcome commits with failed | ⟨collection, committed⟩
  -- The slot is taken before anything can fail.
  · rw [failed, hasSlot_withSlot]
  · rw [hasSlot_commit committed, hasSlot_withSlot, or_self_left]

theorem hasSlot_insertLayer {collection : FeatureCollection} :
    (store.insertLayer now id collection).2.HasSlot other ↔ other = id ∨ store.HasSlot other :=
  hasSlot_changing fun _ _ inserted => ⟨collection, insertLayer_commits inserted⟩

theorem hasSlot_insertFeature {spare : String} {feature : Feature} :
    (store.insertFeature now spare id feature).2.HasSlot other ↔
      other = id ∨ store.HasSlot other :=
  hasSlot_changing fun _ _ inserted => insertFeature_commits inserted

theorem hasSlot_editFeature {geoId : String} {feature : Feature} :
    (store.editFeature now id geoId feature).2.HasSlot other ↔ other = id ∨ store.HasSlot other :=
  hasSlot_changing fun _ _ edited => editFeature_commits edited

theorem hasSlot_deleteLayer :
    (store.deleteLayer id).2.HasSlot other ↔ other ≠ id ∧ store.HasSlot other := by
  unfold deleteLayer
  split
  · exact hasSlot_withoutSlot
  · exact hasSlot_withoutSlot

/-- An operation that writes takes the slot of its layer, whether it is accepted or not, and a
deletion gives it up. -/
theorem hasSlot_run (store : LayerStore) (operation : LayerOperation α) (now : Int)
    (names : Names) :
    (store.run operation now names).2.1.HasSlot other ↔
      store.made? names operation = some other ∨ operation.filled? = some other ∨
        operation.deleted? ≠ some other ∧ store.HasSlot other := by
  cases operation with
  | newLayer | insertLayer _ _ =>
    simp only [run, made?, hasSlot_insertLayer]
    simp [LayerOperation.filled?, LayerOperation.deleted?, eq_comm]
  | insertFeature _ _ | editFeature _ _ _ =>
    simp only [run, made?, hasSlot_insertFeature, hasSlot_editFeature]
    simp [LayerOperation.filled?, LayerOperation.deleted?, eq_comm]
  | deleteLayer _ =>
    simp only [run, made?, hasSlot_deleteLayer]
    simp [LayerOperation.filled?, LayerOperation.deleted?, eq_comm]
  | getLayer _ | getLayers | timeseries _ | previous _ _ | hasLayer _ =>
    simp [run, made?, LayerOperation.filled?, LayerOperation.deleted?]

/-- A change of what a layer holds makes no layer. -/
theorem contains_changing {change : LayerStore → Except StoreError (α × LayerStore)}
    (commits : ∀ value later, store.changing id change = (.ok value, later) →
      store.backend.contains id = true ∧
        ∃ now collection, (store.withSlot id).commit now id collection = .ok later) :
    (store.changing id change).2.backend.contains other = true ↔
      store.backend.contains other = true := by
  cases changed : change (store.withSlot id) with
  | error cause => rw [changing_error changed, withSlot_backend]
  | ok result =>
    obtain ⟨value, later⟩ := result
    obtain ⟨there, now, collection, committed⟩ := commits value later (changing_ok changed)
    obtain ⟨timestamp, backend⟩ := commit_backend committed
    rw [changing_ok changed, backend, withSlot_backend, Backend.contains_commit]
    -- What was committed to was there before.
    refine or_iff_right_of_imp ?_
    rintro rfl
    exact there

theorem contains_insertFeature {spare : String} {feature : Feature} :
    (store.insertFeature now spare id feature).2.backend.contains other = true ↔
      store.backend.contains other = true := by
  refine contains_changing fun value later inserted => ?_
  obtain ⟨collection, loaded, committed⟩ := insertFeature_of_ok inserted
  exact ⟨contains_of_load loaded, now, _, committed⟩

theorem contains_editFeature {geoId : String} {feature : Feature} :
    (store.editFeature now id geoId feature).2.backend.contains other = true ↔
      store.backend.contains other = true := by
  refine contains_changing fun value later edited => ?_
  obtain ⟨collection, _, _, loaded, -, -, -, committed⟩ := editFeature_of_ok edited
  exact ⟨contains_of_load loaded, now, _, committed⟩

theorem contains_deleteLayer :
    (store.deleteLayer id).2.backend.contains other = true ↔
      other ≠ id ∧ store.backend.contains other = true := by
  by_cases found : store.backend.contains id = true
  · rw [deleteLayer_backend found, Backend.contains_remove]
  · have refused : (store.deleteLayer id).2.backend = store.backend := by
      simp [deleteLayer, demand, found, withoutSlot]
    rw [refused]
    refine (and_iff_right_of_imp fun there => ?_).symm
    rintro rfl
    exact found there

theorem Reached.contains_insertLayer (fresh : start = .inMemory ∨ start = .onDisk {})
    (reached : start.Reached store) {collection : FeatureCollection} :
    (store.insertLayer now id collection).2.backend.contains other = true ↔
      other = id ∨ store.backend.contains other = true := by
  obtain ⟨later, timestamp, committed, backend⟩ := reached.commit_eq fresh now id collection
  have inserted : store.insertLayer now id collection = (.ok (), later) :=
    changing_ok (by rw [committed]; rfl)
  rw [inserted, backend, Backend.contains_commit]

/-- Layers come and go as they are set and deleted; a feature brings no layer. -/
theorem Reached.contains_run (fresh : start = .inMemory ∨ start = .onDisk {})
    (reached : start.Reached store) (operation : LayerOperation α) (now : Int) (names : Names) :
    (store.run operation now names).2.1.backend.contains other = true ↔
      store.made? names operation = some other ∨
        operation.deleted? ≠ some other ∧ store.backend.contains other = true := by
  cases operation with
  | newLayer | insertLayer _ _ =>
    simp only [LayerStore.run, made?, reached.contains_insertLayer fresh]
    simp [LayerOperation.deleted?, @eq_comm _ other]
  | insertFeature _ _ | editFeature _ _ _ =>
    simp only [LayerStore.run, made?, contains_insertFeature, contains_editFeature]
    simp [LayerOperation.deleted?]
  | deleteLayer _ =>
    simp only [LayerStore.run, made?, contains_deleteLayer]
    simp [LayerOperation.deleted?, @eq_comm _ other]
  | getLayer _ | getLayers | timeseries _ | previous _ _ | hasLayer _ =>
    simp only [LayerStore.run, made?]
    simp [LayerOperation.deleted?]

theorem bare_of_fresh (fresh : start = .inMemory ∨ start = .onDisk {}) (id : DatasourceId) :
    ¬ start.HasSlot id ∧ start.backend.contains id = false := by
  rcases fresh with rfl | rfl
  · exact ⟨nofun, rfl⟩
  · exact ⟨nofun, rfl⟩

theorem Reached.lists (fresh : start = .inMemory ∨ start = .onDisk {})
    (reached : start.Reached store) : ∃ ids, store.backend.Lists ids := by
  induction reached with
  | start =>
    rcases fresh with rfl | rfl
    · exact ⟨[], .memory rfl⟩
    · exact ⟨[], .disk rfl⟩
  | @run store α operation now names _ ih =>
    obtain ⟨ids, lists⟩ := ih
    have touched := store.run_touched operation now names
    split at touched
    · next id _ =>
      rcases touched.backend with kept | ⟨timestamp, content, committed⟩ | removed
      · exact ⟨ids, kept ▸ lists⟩
      · exact ⟨_, committed ▸ lists.commit id timestamp content⟩
      · exact ⟨_, removed ▸ lists.remove id⟩
    · rw [touched]
      exact ⟨ids, lists⟩
  | reopened _ ih => exact ih

end LayerStore

/-! ## Runs -/

namespace Course

variable {start : Course} {request : Request} {requests : List Request} {id : DatasourceId}

theorem run_snoc : start.run (requests ++ [request]) = (start.run requests).step request := by
  rw [run, List.foldl_append]
  rfl

theorem step_store (course : Course) (request : Request) :
    (course.step request).store =
      (course.store.run request.operation request.now course.names).2.1 :=
  rfl

theorem reached_run (start : Course) (requests : List Request) :
    start.store.Reached (start.run requests).store := by
  induction requests using List.reverseRecOn with
  | nil => exact .start
  | append_singleton requests request ih =>
    rw [run_snoc]
    exact ih.run request.operation request.now _

/-- A feature was meant for a layer that was not there, and nobody has asked since to delete the
layer. -/
def Missed (start : Course) (requests : List Request) (id : DatasourceId) : Prop :=
  Stands
    (fun earlier (request : Request) => request.operation.filled? = some id ∧
      (start.run earlier).store.backend.contains id = false)
    (fun later : Request => later.operation.deleted? ≠ some id) requests

theorem missed_snoc :
    start.Missed (requests ++ [request]) id ↔
      (request.operation.filled? = some id ∧
          (start.run requests).store.backend.contains id = false) ∨
        request.operation.deleted? ≠ some id ∧ start.Missed requests id :=
  stands_snoc

/-- The layers that are there have slots, and those that were missed, and no others. -/
theorem hasSlot_iff (fresh : start.store = .inMemory ∨ start.store = .onDisk {})
    (requests : List Request) (id : DatasourceId) :
    (start.run requests).store.HasSlot id ↔
      (start.run requests).store.backend.contains id = true ∨ start.Missed requests id := by
  induction requests using List.reverseRecOn with
  | nil =>
    obtain ⟨noSlot, noLayer⟩ := LayerStore.bare_of_fresh fresh id
    refine iff_of_false noSlot ?_
    rintro (there | missed)
    · cases noLayer.symm.trans there
    · exact not_stands_nil missed
  -- By the last request, which makes the layer, deletes it, fills it or leaves it alone.
  | append_singleton requests request ih =>
    have reached := start.reached_run requests
    rw [run_snoc, missed_snoc, step_store, LayerStore.hasSlot_run, reached.contains_run fresh, ih]
    by_cases fills : request.operation.filled? = some id
    -- The slot is taken either way: the layer is there, or it is missed now.
    · have kept : request.operation.deleted? ≠ some id := by
        rw [LayerOperation.deleted?_of_filled? fills]
        exact nofun
      cases there : (start.run requests).store.backend.contains id with
      | true => simp [fills, kept]
      | false => simp [fills, kept]
    · simp only [fills, false_or, false_and, and_or_left, or_assoc]

/-- How the slots of a store that was asked things compare with its layers, which are listed as
`ids`. -/
structure Slotted (start : Course) (requests : List Request) (ids : List DatasourceId) : Prop where
  names : (start.run requests).store.backend.names = .ok ids
  slots : ∀ id, (start.run requests).store.HasSlot id ↔ id ∈ ids ∨ start.Missed requests id
  times : ∀ id last, (start.run requests).store.slots.get? id.text = some (some last) → id ∈ ids
  atLeast : ids.length ≤ (start.run requests).store.slots.keys.length
  atMost : (start.run requests).store.slots.keys.length ≤ ids.length ↔
    ∀ id, start.Missed requests id → id ∈ ids

end Course

/-- Of two lists without repetition, of which the one is among the other, the other is as short
only if it is among the one. -/
theorem length_le_iff_subset {α : Type} {few many : List α} (fewOnce : few.Nodup)
    (manyOnce : many.Nodup) (among : few ⊆ many) : many.length ≤ few.length ↔ many ⊆ few := by
  constructor
  · intro short
    exact ((List.subperm_of_subset fewOnce among).perm_of_length_le short).symm.subset
  · intro back
    exact (List.subperm_of_subset manyOnce back).length_le

/-- Every layer that is there has a slot, and so has every one that was missed, but no time is
remembered of those; there are more slots than layers if and only if one that was missed is still
not there. -/
theorem slots_of_run {store : LayerStore} (fresh : store = .inMemory ∨ store = .onDisk {})
    (names : Names) (requests : List Request) :
    ∃ ids, (Course.start store names).Slotted requests ids := by
  let start := Course.start store names
  have reached := start.reached_run requests
  obtain ⟨ids, lists⟩ := reached.lists fresh
  have slots : ∀ id, (start.run requests).store.HasSlot id ↔
      id ∈ ids ∨ start.Missed requests id := by
    intro id
    rw [start.hasSlot_iff fresh requests id, lists.mem_iff]
  have taken : ∀ id, id.text ∈ (start.run requests).store.slots.keys ↔
      id ∈ ids ∨ start.Missed requests id :=
    fun id => (OrderedMap.mem_keys_iff _).trans (slots id)
  -- The slots are compared with the names of the layers, of which all are among them.
  have among : ids.map (·.text) ⊆ (start.run requests).store.slots.keys := by
    intro text member
    obtain ⟨id, listed, rfl⟩ := List.mem_map.1 member
    exact (taken id).2 (.inl listed)
  have once := (start.run requests).store.slots.nodup_keys
  refine ⟨ids, lists.names_eq, slots, ?_, ?_, ?_⟩
  · intro id last known
    exact lists.mem_iff.2 ((reached.tidy fresh).slots id last known)
  · simpa using (List.subperm_of_subset lists.nodup among).length_le
  · have count : (ids.map (·.text)).length = ids.length := List.length_map _
    rw [← count, length_le_iff_subset lists.nodup once among]
    constructor
    · intro back id missed
      obtain ⟨other, listed, text⟩ := List.mem_map.1 (back ((taken id).2 (.inr missed)))
      obtain rfl : other = id := congrArg DatasourceId.mk text
      exact listed
    · intro there text slot
      have listed := ((taken ⟨text⟩).1 slot).elim id (there ⟨text⟩)
      exact List.mem_map.2 ⟨⟨text⟩, listed, rfl⟩

/-- A feature is meant for a layer of which there is none. -/
def strayFeature : List Request :=
  [⟨String, .insertFeature ⟨"d"⟩ ⟨none, .null, none, .empty⟩, 0⟩]

/-- It is refused, and leaves a slot of a layer that is not there. -/
theorem strayFeature_leaves_slot :
    let later := ((Course.start .inMemory (.behind [] [] [])).run strayFeature).store
    ¬ later.SlotsOfLayers ∧ later.backend.names = .ok [] ∧ later.slots.keys = ["d"] := by
  refine ⟨fun served => ?_, by decide +kernel⟩
  have there := served ⟨"d"⟩ (by unfold LayerStore.HasSlot; decide +kernel)
  revert there
  decide +kernel

/-! ## Slots that can be spared -/

namespace LayerStore

variable {start store first second : LayerStore} {id : DatasourceId} {now : Int}

/-- The store without the slots in which no time is remembered. -/
def swept (store : LayerStore) : LayerStore :=
  { store with slots := store.slots.filter fun row => row.2.isSome }

/-- Two stores keep the same and remember the same times. -/
structure SameTimes (first second : LayerStore) : Prop where
  backend : first.backend = second.backend
  timed : first.backend.Timed
  times : ∀ id : DatasourceId,
    (first.slots.get? id.text).join = (second.slots.get? id.text).join

theorem lastStamp_eq_join (store : LayerStore) (id : DatasourceId) :
    store.lastStamp id =
      match (store.slots.get? id.text).join with
      | some last => .ok (some last)
      | none => store.backend.lastStamp id := by
  unfold lastStamp
  cases store.slots.get? id.text with
  | none => rfl
  | some known => cases known <;> rfl

theorem SameTimes.lastStamp_eq (same : SameTimes first second) (id : DatasourceId) :
    first.lastStamp id = second.lastStamp id := by
  rw [lastStamp_eq_join, lastStamp_eq_join, same.times, same.backend]

theorem join_withSlot (store : LayerStore) (id other : DatasourceId) :
    ((store.withSlot id).slots.get? other.text).join = (store.slots.get? other.text).join := by
  unfold withSlot
  split
  · rfl
  · next free =>
    by_cases same : other = id
    -- There was no slot, and the new one knows no time.
    · have nothing : store.slots.get? id.text = none := by
        simpa [OrderedMap.contains] using free
      simp [same, nothing]
    · simp only [OrderedMap.get?_insert_of_ne _ (Backend.text_ne same)]

theorem SameTimes.withSlot (same : SameTimes first second) (id : DatasourceId) :
    SameTimes (first.withSlot id) (second.withSlot id) where
  backend := by rw [withSlot_backend, withSlot_backend, same.backend]
  timed := by
    rw [withSlot_backend]
    exact same.timed
  times other := by rw [join_withSlot, join_withSlot, same.times]

theorem SameTimes.withoutSlot (same : SameTimes first second) (id : DatasourceId) :
    SameTimes (first.withoutSlot id) (second.withoutSlot id) where
  backend := same.backend
  timed := same.timed
  times other := by
    by_cases equal : other = id
    · simp [LayerStore.withoutSlot, equal]
    · simp only [LayerStore.withoutSlot, OrderedMap.get?_erase_of_ne _ (Backend.text_ne equal),
        same.times]

theorem SameTimes.remove (same : SameTimes first second) (id : DatasourceId) :
    SameTimes ({ first with backend := first.backend.remove id }.withoutSlot id)
      ({ second with backend := second.backend.remove id }.withoutSlot id) where
  backend := congrArg (Backend.remove · id) same.backend
  timed := same.timed.remove id
  times := (same.withoutSlot id).times

theorem SameTimes.commit (same : SameTimes first second) (now : Int) (id : DatasourceId)
    (collection : FeatureCollection) :
    ∃ firstLater secondLater, first.commit now id collection = .ok firstLater ∧
      second.commit now id collection = .ok secondLater ∧ SameTimes firstLater secondLater := by
  obtain ⟨last, known⟩ := lastStamp_of_timed same.timed id
  refine ⟨_, _, commit_of_lastStamp known now collection,
    commit_of_lastStamp (same.lastStamp_eq id ▸ known) now collection, ?_⟩
  constructor
  · simp only [same.backend]
  · exact same.timed.commit id _ _
  · intro other
    by_cases equal : other = id
    · simp [equal]
    · simp only [OrderedMap.get?_insert_of_ne _ (Backend.text_ne equal), same.times]

theorem SameTimes.paired (id : DatasourceId) (now : Int) :
    Paired id now SameTimes SameTimes where
  idle same := same
  content?_eq same := by rw [same.backend]
  stamps_eq same := by rw [same.backend]
  withSlot same := same.withSlot id
  withoutSlot same := same.withoutSlot id
  commit same := same.commit now id
  remove same := same.remove id

/-- Stores that remember the same times answer every operation in the same way, give the same
names and remember the same times afterwards. -/
theorem SameTimes.run {α : Type} (same : SameTimes first second) (operation : LayerOperation α)
    (now : Int) (names : Names) :
    (first.run operation now names).1 = (second.run operation now names).1 ∧
      (first.run operation now names).2.2 = (second.run operation now names).2.2 ∧
        SameTimes (first.run operation now names).2.1 (second.run operation now names).2.1 := by
  cases about : operation.named? with
  | some id =>
    exact (paired id now).run same operation names about fun timestamp _ => by rw [same.backend]
  | none =>
    cases operation with
    | newLayer =>
      simp only [LayerStore.run, same.backend]
      obtain ⟨answer, later⟩ := (paired _ now).insertLayer same .empty
      exact ⟨congrArg _ answer, trivial, later⟩
    | getLayers => exact ⟨congrArg Backend.names same.backend, rfl, same⟩
    | insertLayer _ _ | getLayer _ | deleteLayer _ | insertFeature _ _ | editFeature _ _ _
    | timeseries _ | previous _ _ | hasLayer _ => cases about

theorem SameTimes.replies_eq (same : SameTimes first second) (names : Names)
    (requests : List Request) : first.replies names requests = second.replies names requests := by
  induction requests generalizing first second names with
  | nil => rfl
  | cons request requests ih =>
    obtain ⟨result, given, later⟩ := same.run request.operation request.now names
    simp only [replies, result, given]
    congr 1
    exact ih later _

theorem sameTimes_swept (timed : store.backend.Timed) : SameTimes store.swept store where
  backend := rfl
  timed := timed
  times id := by
    rw [swept, OrderedMap.get?_filter]
    cases store.slots.get? id.text with
    | none => rfl
    | some known => cases known <;> rfl

end LayerStore

/-- Whatever was asked of an empty store, its slots can be restricted to the layers that are there,
and none of the answers that it gives from then on is another one. -/
theorem sweep_unnoticed {start store : LayerStore}
    (fresh : start = .inMemory ∨ start = .onDisk {}) (reached : start.Reached store) :
    store.swept.SlotsOfLayers ∧
      ∀ names requests, store.swept.replies names requests = store.replies names requests := by
  refine ⟨fun id slot => ?_, fun names requests => ?_⟩
  · obtain ⟨known, found⟩ := Option.isSome_iff_exists.1 slot
    rw [LayerStore.swept, OrderedMap.get?_filter, Option.filter_eq_some_iff] at found
    obtain ⟨last, rfl⟩ := Option.isSome_iff_exists.1 found.2
    exact (reached.tidy fresh).slots id last found.1
  · exact (LayerStore.sameTimes_swept (reached.timed fresh)).replies_eq names requests

end LayerGateway
