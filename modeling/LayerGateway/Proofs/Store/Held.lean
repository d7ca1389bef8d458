import LayerGateway.Proofs.Store.History
import LayerGateway.Proofs.Store.Versions

/-!
# What a store holds of a layer

`Holds` ties three things together that are stored apart: the content of a layer, its
versions, and the time that its write slot remembers.  The backend keeps the versions that the
commits of the layer make, and the write slot, if it knows a time, knows that of the last of
them.  Every operation on the layer keeps this; `commit_holds` is the step of those that are
accepted.
-/

namespace LayerGateway

/-- The collection is read back from its own text. -/
def FeatureCollection.Storable (collection : FeatureCollection) : Prop :=
  FeatureCollection.ofBytes collection.bytes = .ok collection

def written (version : Int × FeatureCollection) : Int × Bytes :=
  (version.1, version.2.bytes)

namespace LayerStore

/-- The store holds the versions that the commits of a layer make, and there is time left for
`spare` more. -/
structure Holds (store : LayerStore) (id : DatasourceId) (commits : List (Int × FeatureCollection))
    (spare : Nat) : Prop where
  kept : store.backend.Keeps id ((stamped commits).map written)
  slot : ∀ last, store.slots.get? id.text = some (some last) →
    lastTime? (stamped commits) = some last
  room : ∀ version ∈ stamped commits, 0 ≤ version.1 ∧ version.1 + spare < Decimal.signedBound

variable {store later : LayerStore} {id : DatasourceId} {now : Int}
  {commits : List (Int × FeatureCollection)} {spare : Nat}

/-! ## What is held -/

theorem load_of_storable {collection : FeatureCollection}
    (content : store.backend.content? id = some collection.bytes)
    (storable : collection.Storable) : store.load id = .ok collection := by
  rw [load, content]
  exact mapError_eq_ok.2 storable

theorem Holds.chronological (holds : store.Holds id commits spare) :
    Chronological ((stamped commits).map written) := by
  constructor
  · exact List.pairwise_map.2 (stamped_increasing commits)
  · intro version member
    obtain ⟨stored, held, rfl⟩ := List.mem_map.1 member
    have room := holds.room stored held
    exact ⟨room.1, by simp only [written]; omega⟩

theorem Holds.fewer (holds : store.Holds id commits (spare + 1)) : store.Holds id commits spare :=
  ⟨holds.kept, holds.slot, fun version member => by have := holds.room version member; omega⟩

theorem Holds.of_sameLayer (holds : store.Holds id commits spare)
    (same : SameLayer id later store) : later.Holds id commits spare :=
  ⟨Backend.keeps_of_sameLayer holds.kept same.backend, same.slot ▸ holds.slot, holds.room⟩

theorem getLast?_written (versions : List (Int × FeatureCollection)) :
    (versions.map written).getLast?.map (·.1) = lastTime? versions := by
  rw [List.getLast?_map, Option.map_map]
  rfl

theorem Holds.content?_eq (holds : store.Holds id commits spare) :
    store.backend.content? id = commits.getLast?.map (·.2.bytes) := by
  have contents := congrArg List.getLast? (stamped_contents commits)
  rw [List.getLast?_map, List.getLast?_map] at contents
  have bytes := congrArg (Option.map FeatureCollection.bytes) contents
  rw [Option.map_map, Option.map_map] at bytes
  rw [holds.kept.content?_eq, List.getLast?_map, Option.map_map]
  exact bytes

theorem Holds.load_eq (holds : store.Holds id commits spare)
    (storable : ∀ commit ∈ commits, commit.2.Storable) :
    store.load id =
      match commits.getLast? with
      | some commit => .ok commit.2
      | none => .error (.layerNotFound id) := by
  rw [load, holds.content?_eq]
  cases last : commits.getLast? with
  | none => rfl
  | some commit =>
    have reads : FeatureCollection.ofBytes commit.2.bytes = .ok commit.2 :=
      storable commit (List.mem_of_getLast? last)
    simp only [Option.map_some, reads]
    rfl

theorem Holds.demand_eq (holds : store.Holds id commits spare) :
    store.demand id = if commits = [] then .error (.layerNotFound id) else .ok () := by
  rw [demand, Backend.contains, holds.content?_eq]
  cases commits with
  | nil => rfl
  | cons commit commits => simp [List.getLast?_cons]

theorem Holds.lastStamp_eq (holds : store.Holds id commits spare) :
    store.lastStamp id = .ok (lastTime? (stamped commits)) := by
  unfold lastStamp
  split
  · next last known => rw [holds.slot last known]
  · rw [holds.kept.lastStamp_eq holds.chronological, getLast?_written]

theorem Holds.versionAt_eq (holds : store.Holds id commits spare) {timestamp : Int}
    (small : timestamp < Decimal.signedBound) :
    store.backend.versionAt id timestamp =
      .ok (((stamped commits).filter (·.1 ≤ timestamp)).getLast?.map written) := by
  rw [holds.kept.versionAt_eq holds.chronological small, List.filter_map, List.getLast?_map]
  rfl

/-! ## Steps -/

theorem Holds.withSlot (holds : store.Holds id commits spare) :
    (store.withSlot id).Holds id commits spare := by
  unfold LayerStore.withSlot
  split
  · exact holds
  · refine ⟨holds.kept, fun last known => ?_, holds.room⟩
    simp at known

theorem Holds.withoutSlot (holds : store.Holds id commits spare) :
    (store.withoutSlot id).Holds id commits spare := by
  refine ⟨holds.kept, fun last known => ?_, holds.room⟩
  simp [LayerStore.withoutSlot] at known

theorem Holds.nextStamp_room (holds : store.Holds id commits (spare + 1)) (notBefore : 0 ≤ now)
    (inTime : now + spare < Decimal.signedBound) :
    0 ≤ nextStamp now (lastTime? (stamped commits)) ∧
      nextStamp now (lastTime? (stamped commits)) + spare < Decimal.signedBound := by
  unfold lastTime?
  cases last : (stamped commits).getLast? with
  | none => exact ⟨notBefore, inTime⟩
  | some version =>
    have := holds.room version (List.mem_of_getLast? last)
    rw [Option.map_some, nextStamp_eq]
    omega

/-- A new time is behind those of all versions. -/
theorem nextStamp_above {α : Type} {versions : List (Int × α)}
    (increasing : versions.Pairwise fun earlier later => earlier.1 < later.1) (now : Int) :
    ∀ version ∈ versions, version.1 < nextStamp now (lastTime? versions) := by
  rcases List.eq_nil_or_concat versions with rfl | ⟨earlier, last, rfl⟩
  · exact nofun
  · rw [List.concat_eq_append] at increasing ⊢
    have below := (List.pairwise_append.1 increasing).2.2
    intro version member
    rw [lastTime?, List.getLast?_concat, Option.map_some, nextStamp_eq]
    rcases List.mem_append.1 member with member | same
    · have := below version member last List.mem_cons_self
      omega
    · obtain rfl := List.mem_singleton.1 same
      omega

/-- A commit is always accepted, and adds one version. -/
theorem commit_holds (holds : store.Holds id commits (spare + 1)) (notBefore : 0 ≤ now)
    (inTime : now + spare < Decimal.signedBound) (collection : FeatureCollection) :
    ∃ later, store.commit now id collection = .ok later ∧
      later.Holds id (commits ++ [(now, collection)]) spare := by
  have room := holds.nextStamp_room notBefore inTime
  -- The new time lies behind all others, so no version is overwritten.
  have above := nextStamp_above (stamped_increasing commits) now
  generalize next : nextStamp now (lastTime? (stamped commits)) = timestamp at room above
  have versions : stamped (commits ++ [(now, collection)]) =
      stamped commits ++ [(timestamp, collection)] := by
    rw [stamped_snoc, next]
  refine ⟨_, by rw [commit, holds.lastStamp_eq]; rfl, ?_, ?_, ?_⟩
  · rw [versions, List.map_append, next]
    refine holds.kept.commit holds.chronological ⟨room.1, by omega⟩ (fun version member => ?_) _
    obtain ⟨stored, held, rfl⟩ := List.mem_map.1 member
    exact above stored held
  · intro last known
    rw [OrderedMap.get?_insert_self, Option.some_inj, Option.some_inj, next] at known
    simp [versions, lastTime?, known]
  · intro version member
    rw [versions] at member
    rcases List.mem_append.1 member with member | same
    · exact holds.fewer.room version member
    · obtain rfl := List.mem_singleton.1 same
      exact room

theorem insertLayer_holds (holds : store.Holds id commits (spare + 1)) (notBefore : 0 ≤ now)
    (inTime : now + spare < Decimal.signedBound) (collection : FeatureCollection) :
    ∃ later, store.insertLayer now id collection = (.ok (), later) ∧
      later.Holds id (commits ++ [(now, collection)]) spare := by
  obtain ⟨later, committed, held⟩ := commit_holds holds.withSlot notBefore inTime collection
  refine ⟨later, changing_ok ?_, held⟩
  rw [committed]
  rfl

theorem insertFeature_holds (holds : store.Holds id commits (spare + 1)) (notBefore : 0 ≤ now)
    (inTime : now + spare < Decimal.signedBound)
    (storable : ∀ commit ∈ commits, commit.2.Storable) (geoId : String) (feature : Feature) :
    match store.insertFeature now geoId id feature with
    | (.ok geoId, later) => ∃ last, commits.getLast? = some last ∧
        later.Holds id (commits ++ [(now, { last.2 with
          features := last.2.features ++
            [if feature.geoId?.isNone then feature.withGeoId geoId else feature] })]) spare
    | (.error _, later) => later.Holds id commits spare := by
  have loaded := holds.withSlot.load_eq storable
  rw [insertFeature]
  cases last : commits.getLast? with
  | none =>
    simp only [last] at loaded
    rw [changing_error (by rw [loaded]; rfl)]
    exact holds.withSlot.fewer
  | some commit =>
    simp only [last] at loaded
    cases addressed : feature.geoId? with
    | none =>
      obtain ⟨later, committed, held⟩ := commit_holds holds.withSlot notBefore inTime
        { commit.2 with features := commit.2.features ++ [feature.withGeoId geoId] }
      rw [changing_ok (by rw [bind_of_ok loaded]; exact bind_of_ok committed _)]
      exact ⟨commit, rfl, held⟩
    | some given =>
      obtain ⟨later, committed, held⟩ := commit_holds holds.withSlot notBefore inTime
        { commit.2 with features := commit.2.features ++ [feature] }
      rw [changing_ok (by rw [bind_of_ok loaded]; exact bind_of_ok committed _)]
      exact ⟨commit, rfl, held⟩

theorem editFeature_holds (holds : store.Holds id commits (spare + 1)) (notBefore : 0 ≤ now)
    (inTime : now + spare < Decimal.signedBound)
    (storable : ∀ commit ∈ commits, commit.2.Storable) (geoId : String) (feature : Feature) :
    match store.editFeature now id geoId feature with
    | (.ok stored, later) => ∃ last place, commits.getLast? = some last ∧
        last.2.position? geoId = some place ∧
        later.Holds id (commits ++ [(now, { last.2 with
          features := last.2.features.set place stored })]) spare
    | (.error _, later) => later.Holds id commits spare := by
  have loaded := holds.withSlot.load_eq storable
  rw [editFeature]
  cases last : commits.getLast? with
  -- Where nothing was committed there is no layer to change.
  | none =>
    simp only [last] at loaded
    rw [changing_error (by rw [loaded]; rfl)]
    exact holds.withSlot.fewer
  | some commit =>
    simp only [last] at loaded
    cases position : commit.2.position? geoId with
    -- No feature has the address.
    | none =>
      rw [changing_error (by rw [bind_of_ok loaded]; simp only [position]; rfl)]
      exact holds.withSlot.fewer
    | some place =>
      cases found : commit.2.find? geoId with
      | none =>
        rw [changing_error (by rw [bind_of_ok loaded]; simp only [position, found]; rfl)]
        exact holds.withSlot.fewer
      | some former =>
        obtain ⟨later, committed, held⟩ := commit_holds holds.withSlot notBefore inTime
          { commit.2 with features := commit.2.features.set place (feature.replacing former) }
        rw [changing_ok (by
          rw [bind_of_ok loaded]
          simp only [position, found]
          exact bind_of_ok committed _)]
        exact ⟨commit, place, rfl, position, held⟩

theorem remove_holds (store : LayerStore) (id : DatasourceId) (spare : Nat) :
    ({ store with backend := store.backend.remove id }.withoutSlot id).Holds id [] spare := by
  refine ⟨Backend.keeps_remove store.backend id, fun last known => ?_, nofun⟩
  simp [LayerStore.withoutSlot] at known

theorem deleteLayer_holds (holds : store.Holds id commits spare) :
    match store.deleteLayer id with
    | (.ok (), later) => later.Holds id [] spare
    | (.error _, later) => later.Holds id commits spare := by
  cases demanded : store.demand id with
  | ok found =>
    simp only [deleteLayer, demanded]
    exact remove_holds store id spare
  | error cause =>
    simp only [deleteLayer, demanded]
    exact holds.withoutSlot

end LayerStore

end LayerGateway
