import LayerGateway.Proofs.Store.Listing
import LayerGateway.Proofs.Store.Paired

/-!
# Stores that cannot be told apart

A store in memory and one on disk that are asked the same things give the same answers.  They
keep the same layers in different ways, and what they have in common is that they list the same
names and, of every layer, hold the versions that the same commits make.

* `LayerStore.Alike` says this of two stores.
* `run_alike` says that alike stores answer an operation in the same way and are alike afterwards.
* `memory_replies_eq_disk` says that no run tells the two kinds of stores apart.
-/

namespace LayerGateway

namespace LayerStore

variable {first second : LayerStore} {id : DatasourceId} {spare : Nat} {now : Int}

/-- Two stores list the same names and hold the same versions, with time left for `spare` more. -/
structure Alike (first second : LayerStore) (spare : Nat) : Prop where
  names : ∃ ids, first.backend.Lists ids ∧ second.backend.Lists ids
  layers : ∀ id : DatasourceId, id.NulFree →
    ∃ commits, first.Holds id commits spare ∧ second.Holds id commits spare

theorem alike_fresh (spare : Nat) : Alike inMemory (onDisk {}) spare where
  names := ⟨[], .memory rfl, .disk rfl⟩
  layers _ _ := ⟨[], ⟨.memory rfl rfl, nofun, nofun⟩, ⟨.disk rfl rfl, nofun, nofun⟩⟩

namespace Alike

/-! ## Answers -/

theorem fewer (alike : Alike first second (spare + 1)) : Alike first second spare := by
  refine ⟨alike.names, fun id nulFree => ?_⟩
  obtain ⟨commits, ofFirst, ofSecond⟩ := alike.layers id nulFree
  exact ⟨commits, ofFirst.fewer, ofSecond.fewer⟩

theorem taken_eq (alike : Alike first second spare) :
    first.backend.taken = second.backend.taken := by
  obtain ⟨ids, ofFirst, ofSecond⟩ := alike.names
  rw [ofFirst.taken_eq, ofSecond.taken_eq]

theorem names_eq (alike : Alike first second spare) :
    first.backend.names = second.backend.names := by
  obtain ⟨ids, ofFirst, ofSecond⟩ := alike.names
  rw [ofFirst.names_eq, ofSecond.names_eq]

theorem content?_eq (alike : Alike first second spare) (nulFree : id.NulFree) :
    first.backend.content? id = second.backend.content? id := by
  obtain ⟨commits, ofFirst, ofSecond⟩ := alike.layers id nulFree
  rw [ofFirst.content?_eq, ofSecond.content?_eq]

theorem stamps_eq (alike : Alike first second spare) (nulFree : id.NulFree) :
    first.backend.stamps id = second.backend.stamps id := by
  obtain ⟨commits, ofFirst, ofSecond⟩ := alike.layers id nulFree
  rw [ofFirst.kept.stamps_eq ofFirst.chronological,
    ofSecond.kept.stamps_eq ofSecond.chronological]

theorem lastStamp_eq (alike : Alike first second spare) (nulFree : id.NulFree) :
    first.lastStamp id = second.lastStamp id := by
  obtain ⟨commits, ofFirst, ofSecond⟩ := alike.layers id nulFree
  rw [ofFirst.lastStamp_eq, ofSecond.lastStamp_eq]

theorem versionAt_eq (alike : Alike first second spare) (nulFree : id.NulFree) {timestamp : Int}
    (small : timestamp < Decimal.signedBound) :
    first.backend.versionAt id timestamp = second.backend.versionAt id timestamp := by
  obtain ⟨commits, ofFirst, ofSecond⟩ := alike.layers id nulFree
  rw [ofFirst.versionAt_eq small, ofSecond.versionAt_eq small]

/-! ## Changes -/

/-- After two changes of one layer the others are still alike. -/
theorem touched {firstLater secondLater : LayerStore} (alike : Alike first second spare)
    (nulFree : id.NulFree) (ofFirst : Touched id first firstLater)
    (ofSecond : Touched id second secondLater)
    (names : ∃ ids, firstLater.backend.Lists ids ∧ secondLater.backend.Lists ids)
    (layer : ∃ commits, firstLater.Holds id commits spare ∧ secondLater.Holds id commits spare) :
    Alike firstLater secondLater spare := by
  refine ⟨names, fun other otherNulFree => ?_⟩
  by_cases same : other = id
  · subst same
    exact layer
  · obtain ⟨commits, firstHolds, secondHolds⟩ := alike.layers other otherNulFree
    have separates (backend : Backend) : backend.Separates id other :=
      Backend.separates_iff.2 fun _ => SnapshotKey.apart_of_nulFree nulFree otherNulFree same
    exact ⟨commits, firstHolds.of_sameLayer (ofFirst.sameLayer (separates _) same),
      secondHolds.of_sameLayer (ofSecond.sameLayer (separates _) same)⟩

theorem withSlot (alike : Alike first second spare) (nulFree : id.NulFree) :
    Alike (first.withSlot id) (second.withSlot id) spare := by
  refine alike.touched nulFree (withSlot_touched first id) (withSlot_touched second id) ?_ ?_
  · rw [withSlot_backend, withSlot_backend]
    exact alike.names
  · obtain ⟨commits, ofFirst, ofSecond⟩ := alike.layers id nulFree
    exact ⟨commits, ofFirst.withSlot, ofSecond.withSlot⟩

theorem withoutSlot (alike : Alike first second spare) (nulFree : id.NulFree) :
    Alike (first.withoutSlot id) (second.withoutSlot id) spare := by
  refine alike.touched nulFree (withoutSlot_touched first id) (withoutSlot_touched second id)
    alike.names ?_
  obtain ⟨commits, ofFirst, ofSecond⟩ := alike.layers id nulFree
  exact ⟨commits, ofFirst.withoutSlot, ofSecond.withoutSlot⟩

/-- A commit is accepted by both stores, and gets the same time in both. -/
theorem commit (alike : Alike first second (spare + 1)) (nulFree : id.NulFree)
    (notBefore : 0 ≤ now) (inTime : now + spare < Decimal.signedBound)
    (collection : FeatureCollection) :
    ∃ firstLater secondLater, first.commit now id collection = .ok firstLater ∧
      second.commit now id collection = .ok secondLater ∧ Alike firstLater secondLater spare := by
  obtain ⟨commits, ofFirst, ofSecond⟩ := alike.layers id nulFree
  obtain ⟨firstLater, firstRan, firstHolds⟩ := commit_holds ofFirst notBefore inTime collection
  obtain ⟨secondLater, secondRan, secondHolds⟩ := commit_holds ofSecond notBefore inTime collection
  refine ⟨firstLater, secondLater, firstRan, secondRan, ?_⟩
  refine alike.fewer.touched nulFree (commit_touched firstRan) (commit_touched secondRan) ?_
    ⟨_, firstHolds, secondHolds⟩
  obtain ⟨ids, firstLists, secondLists⟩ := alike.names
  obtain ⟨timestamp, firstBackend⟩ := commit_backend firstRan
  obtain ⟨otherTimestamp, secondBackend⟩ := commit_backend secondRan
  rw [firstBackend, secondBackend]
  exact ⟨id.entered ids, firstLists.commit id _ _, secondLists.commit id _ _⟩

theorem remove (alike : Alike first second spare) (nulFree : id.NulFree) :
    Alike ({ first with backend := first.backend.remove id }.withoutSlot id)
      ({ second with backend := second.backend.remove id }.withoutSlot id) spare := by
  refine alike.touched nulFree (remove_touched first id) (remove_touched second id) ?_
    ⟨[], remove_holds first id spare, remove_holds second id spare⟩
  obtain ⟨ids, firstLists, secondLists⟩ := alike.names
  exact ⟨_, firstLists.remove id, secondLists.remove id⟩

/-- Alike stores go the same way with a layer whose name has no zero byte. -/
theorem paired (nulFree : id.NulFree) (notBefore : 0 ≤ now)
    (inTime : now + spare < Decimal.signedBound) :
    Paired id now (Alike · · (spare + 1)) (Alike · · spare) where
  idle alike := alike.fewer
  content?_eq alike := alike.content?_eq nulFree
  stamps_eq alike := alike.stamps_eq nulFree
  withSlot alike := alike.withSlot nulFree
  withoutSlot alike := alike.fewer.withoutSlot nulFree
  commit alike := alike.commit nulFree notBefore inTime
  remove alike := alike.fewer.remove nulFree

end Alike

/-! ## Runs -/

/-- Alike stores answer every operation in the same way, give the same names and are alike
afterwards. -/
theorem run_alike {first second : LayerStore} {spare : Nat} {now : Int} {α : Type}
    {operation : LayerOperation α} {names : Names} (alike : Alike first second (spare + 1))
    (named : ∀ id, operation.named? = some id → id.NulFree)
    (given : ∀ n, (names.datasources.candidate n).NulFree) (notBefore : 0 ≤ now)
    (inTime : now + spare < Decimal.signedBound)
    (asked : ∀ timestamp, operation.asked? = some timestamp → timestamp < Decimal.signedBound) :
    (first.run operation now names).1 = (second.run operation now names).1 ∧
      (first.run operation now names).2.2 = (second.run operation now names).2.2 ∧
        Alike (first.run operation now names).2.1 (second.run operation now names).2.1 spare := by
  have paired {id : DatasourceId} (nulFree : id.NulFree) := Alike.paired nulFree notBefore inTime
  cases about : operation.named? with
  | some id =>
    have nulFree := named id about
    exact (paired nulFree).run alike operation names about fun timestamp asks =>
      alike.versionAt_eq nulFree (asked timestamp asks)
  | none =>
    cases operation with
    | newLayer =>
      simp only [run, alike.taken_eq]
      obtain ⟨same, later⟩ := (paired (given _)).insertLayer alike .empty
      exact ⟨congrArg _ same, trivial, later⟩
    | getLayers => exact ⟨alike.names_eq, rfl, alike.fewer⟩
    | insertLayer _ _ | getLayer _ | deleteLayer _ | insertFeature _ _ | editFeature _ _ _
    | timeseries _ | previous _ _ | hasLayer _ => cases about

end LayerStore

structure Reply where
  {Answer : Type}
  result : Except StoreError Answer

namespace LayerStore

/-- What a store answers to requests that come one after the other. -/
def replies (store : LayerStore) (names : Names) : List Request → List Reply
  | [] => []
  | request :: requests =>
      let (result, store, names) := store.run request.operation request.now names
      ⟨result⟩ :: store.replies names requests

theorem Alike.replies_eq {first second : LayerStore} {names : Names} {requests : List Request}
    (alike : Alike first second requests.length)
    (named : ∀ request ∈ requests, ∀ id, request.operation.named? = some id → id.NulFree)
    (given : ∀ n, (names.datasources.candidate n).NulFree)
    (clock : ∀ request ∈ requests,
      0 ≤ request.now ∧ request.now + requests.length ≤ Decimal.signedBound)
    (asked : ∀ request ∈ requests, ∀ timestamp, request.operation.asked? = some timestamp →
      timestamp < Decimal.signedBound) :
    first.replies names requests = second.replies names requests := by
  induction requests generalizing first second names with
  | nil => rfl
  | cons request requests ih =>
    obtain ⟨notBefore, inTime⟩ := clock request List.mem_cons_self
    rw [List.length_cons] at inTime
    obtain ⟨sameResult, sameNames, later⟩ :=
      run_alike alike (named request List.mem_cons_self) given notBefore (by omega)
        (asked request List.mem_cons_self)
    simp only [replies, sameResult, sameNames]
    congr 1
    apply ih later
    · exact fun other member => named other (List.mem_cons_of_mem _ member)
    · rw [run_datasources]
      exact given
    · intro other member
      have := clock other (List.mem_cons_of_mem _ member)
      rw [List.length_cons] at this
      omega
    · exact fun other member => asked other (List.mem_cons_of_mem _ member)

end LayerStore

/-- Whatever is asked, in whatever order and whatever the clock reads, as long as it stays far
enough below the last time: an empty store in memory and an empty store on disk give the same
answers. -/
theorem memory_replies_eq_disk (names : Names) (requests : List Request)
    (named : ∀ request ∈ requests, ∀ id, request.operation.named? = some id → id.NulFree)
    (given : ∀ n, (names.datasources.candidate n).NulFree)
    (clock : ∀ request ∈ requests,
      0 ≤ request.now ∧ request.now + requests.length ≤ Decimal.signedBound)
    (asked : ∀ request ∈ requests, ∀ timestamp, request.operation.asked? = some timestamp →
      timestamp < Decimal.signedBound) :
    LayerStore.inMemory.replies names requests = (LayerStore.onDisk {}).replies names requests :=
  (LayerStore.alike_fresh requests.length).replies_eq named given clock asked

/-- Two layers are set at the same moment and listed, and one of them is deleted. -/
def twoLayers : List Request :=
  [⟨Unit, .insertLayer ⟨"z"⟩ .empty, 5⟩, ⟨Unit, .insertLayer ⟨"é"⟩ .empty, 5⟩,
    ⟨_, .getLayers, 5⟩, ⟨Unit, .deleteLayer ⟨"z"⟩, 3⟩, ⟨_, .previous ⟨"é"⟩ 7, 3⟩]

theorem memory_replies_eq_disk_twoLayers :
    LayerStore.inMemory.replies (.behind [] [] []) twoLayers =
      (LayerStore.onDisk {}).replies (.behind [] [] []) twoLayers := by
  have all {property : Request → Prop} (every : property ⟨Unit, .insertLayer ⟨"z"⟩ .empty, 5⟩ ∧
      property ⟨Unit, .insertLayer ⟨"é"⟩ .empty, 5⟩ ∧ property ⟨_, .getLayers, 5⟩ ∧
      property ⟨Unit, .deleteLayer ⟨"z"⟩, 3⟩ ∧ property ⟨_, .previous ⟨"é"⟩ 7, 3⟩) :
      ∀ request ∈ twoLayers, property request := by
    simpa [twoLayers] using every
  apply memory_replies_eq_disk (.behind [] [] []) twoLayers _ (Names.behind_nulFree [] [] nofun)
  · decide
  · exact all ⟨nofun, nofun, nofun, nofun, fun timestamp asked => by cases asked; decide⟩
  · refine all ⟨?_, ?_, nofun, ?_, ?_⟩
    all_goals
      intro id named
      cases named
      decide

end LayerGateway
