import LayerGateway.Proofs.Geo.Legible
import LayerGateway.Proofs.Store.Readable
import LayerGateway.Proofs.Store.TimeTravel

/-!
# Layers stay readable

A layer is read from its bytes whenever it is asked for or changed, and a feature stands two
levels deeper there than in the text that it came from.

* `Archived` says all that an operation does to what is stored and to what was committed, and
  `Course.Legible` what follows from that: the content of a layer is what was committed to it
  last, and everything that is kept was written from a legible collection.
* `load_of_accepted` says what is read of a layer to which nothing but accepted features and
  collections came, and that no operation fails to read as long as no feature nests too deep.
-/

namespace LayerGateway

/-! ## Changes -/

namespace LayerStore

/-- What becomes of a layer by a change: it fails and leaves the backend alone, or one collection
is committed. -/
inductive Changed {α : Type} (store : LayerStore) (id : DatasourceId)
    (made : α → FeatureCollection → Prop) : Except StoreError α × LayerStore → Prop where
  | failed {cause : StoreError} {later : LayerStore} (same : later.backend = store.backend) :
      Changed store id made (.error cause, later)
  | committed {value : α} {later : LayerStore} {timestamp : Int} {collection : FeatureCollection}
      (is : made value collection)
      (backend : later.backend = store.backend.commit id timestamp collection.bytes) :
      Changed store id made (.ok value, later)

variable {store : LayerStore} {id : DatasourceId}

theorem changing_changed {α : Type} (now : Int) {made : α → FeatureCollection → Prop}
    {change : LayerStore → Except StoreError (α × LayerStore)}
    (commits : ∀ value later, store.changing id change = (.ok value, later) →
      ∃ collection, made value collection ∧
        (store.withSlot id).commit now id collection = .ok later) :
    Changed store id made (store.changing id change) := by
  cases changed : change (store.withSlot id) with
  | error cause =>
    rw [changing_error changed]
    exact .failed (withSlot_backend store id)
  | ok result =>
    obtain ⟨value, later⟩ := result
    obtain ⟨collection, is, committed⟩ := commits value later (changing_ok changed)
    obtain ⟨timestamp, backend⟩ := commit_backend committed
    rw [withSlot_backend] at backend
    rw [changing_ok changed]
    exact .committed is backend

theorem insertLayer_changed (store : LayerStore) (now : Int) (id : DatasourceId)
    (collection : FeatureCollection) :
    Changed store id (fun _ written => written = collection)
      (store.insertLayer now id collection) :=
  changing_changed now fun _ _ inserted => ⟨collection, rfl, insertLayer_commits inserted⟩

theorem insertFeature_changed (store : LayerStore) (now : Int) (spare : String)
    (id : DatasourceId) (feature : Feature) :
    Changed store id
      (fun geoId written => ∃ collection, store.load id = .ok collection ∧
        written = { collection with features := collection.features ++
          [if feature.geoId?.isNone then feature.withGeoId geoId else feature] })
      (store.insertFeature now spare id feature) := by
  refine changing_changed now fun geoId later inserted => ?_
  obtain ⟨collection, loaded, committed⟩ := insertFeature_of_ok inserted
  exact ⟨_, ⟨collection, loaded, rfl⟩, committed⟩

theorem editFeature_changed (store : LayerStore) (now : Int) (id : DatasourceId) (geoId : String)
    (feature : Feature) :
    Changed store id
      (fun stored written => ∃ collection place former, store.load id = .ok collection ∧
        collection.position? geoId = some place ∧ former ∈ collection.features ∧
        stored = feature.replacing former ∧
        written = { collection with features := collection.features.set place stored })
      (store.editFeature now id geoId feature) := by
  refine changing_changed now fun stored later edited => ?_
  obtain ⟨collection, place, former, loaded, position, member, same, committed⟩ :=
    editFeature_of_ok edited
  exact ⟨_, ⟨collection, place, former, loaded, position, member, same, rfl⟩, committed⟩

end LayerStore

/-! ## Requests -/

/-- What an operation brings along came from an accepted text, and its numbers survive. -/
def LayerOperation.Accepted {α : Type} : LayerOperation α → Prop
  | .insertLayer _ collection =>
      Json.Parsed FeatureCollection.decoder collection ∧ collection.written.Survives
  | .insertFeature _ feature | .editFeature _ _ feature =>
      Json.Parsed Feature.decoder feature ∧ feature.written.Survives
  | _ => True

/-- A feature that comes alone does not nest too deep to be read inside of a collection. -/
def LayerOperation.Shallow {α : Type} : LayerOperation α → Prop
  | .insertFeature _ feature | .editFeature _ _ feature =>
      feature.written.depth + 2 ≤ Json.maxDepth
  | _ => True

/-- What an operation brings along is legible. -/
def LayerOperation.Legible {α : Type} (bound : Nat) : LayerOperation α → Prop
  | .insertLayer _ collection => collection.Legible bound
  | .insertFeature _ feature | .editFeature _ _ feature => feature.Legible bound
  | _ => True

namespace LayerOperation

variable {α : Type} {operation : LayerOperation α}

theorem Accepted.legible (accepted : operation.Accepted) : operation.Legible Json.maxDepth := by
  cases operation with
  | insertLayer id collection =>
    exact (FeatureCollection.legible_of_parsed accepted.1 accepted.2).mono (by decide)
  | insertFeature id feature => exact Feature.legible_of_parsed accepted.1 accepted.2
  | editFeature id geoId feature => exact Feature.legible_of_parsed accepted.1 accepted.2
  | _ => trivial

theorem Accepted.legible_of_shallow (accepted : operation.Accepted) (shallow : operation.Shallow) :
    operation.Legible (Json.maxDepth - 2) := by
  cases operation with
  | insertLayer id collection => exact FeatureCollection.legible_of_parsed accepted.1 accepted.2
  | insertFeature id feature =>
    exact ⟨(Feature.of_parsed accepted.1).1, accepted.2, Nat.le_sub_of_add_le shallow⟩
  | editFeature id geoId feature =>
    exact ⟨(Feature.of_parsed accepted.1).1, accepted.2, Nat.le_sub_of_add_le shallow⟩
  | _ => trivial

end LayerOperation

namespace Archive

variable {archive : Archive} {id other : DatasourceId}

theorem last?_snoc (commits : List (Int × FeatureCollection)) (now : Int)
    (collection : FeatureCollection) :
    (archive.set id (commits ++ [(now, collection)])).last? id = some collection := by
  simp [last?]

theorem last?_set_nil : (archive.set id []).last? id = none := by
  simp [last?]

theorem last?_set_of_ne (differ : other ≠ id) (commits : List (Int × FeatureCollection)) :
    (archive.set id commits).last? other = archive.last? other := by
  rw [last?, last?, set_of_ne archive differ]

end Archive

/-- What becomes of the store and of its archive together. -/
inductive Archived (legible : FeatureCollection → Prop) (course later : Course) : Prop where
  | kept (backend : later.store.backend = course.store.backend)
      (archive : later.archive = course.archive)
  | committed {id : DatasourceId} {now timestamp : Int} {collection : FeatureCollection}
      (is : legible collection)
      (backend : later.store.backend =
        course.store.backend.commit id timestamp collection.bytes)
      (archive : later.archive = course.archive.set id (course.archive id ++ [(now, collection)]))
  | removed {id : DatasourceId} (backend : later.store.backend = course.store.backend.remove id)
      (archive : later.archive = course.archive.set id [])

namespace Course

/-- The content of every layer is what was committed last, and everything that is kept comes of
legible collections. -/
structure Legible (bound : Nat) (course : Course) : Prop where
  last : ∀ id collection, course.archive.last? id = some collection → collection.Legible bound
  content : ∀ id, course.store.backend.content? id =
    (course.archive.last? id).map FeatureCollection.bytes
  kept : course.store.backend.All fun content =>
    ∃ collection : FeatureCollection, collection.Legible bound ∧ collection.bytes = content

variable {course : Course} {bound : Nat} {id : DatasourceId} {collection : FeatureCollection}

theorem Legible.load_eq (legible : course.Legible bound)
    (last : course.archive.last? id = some collection) :
    course.store.load id =
      if collection.Shallow then .ok collection
      else .error (.unreadable (.grammar .tooDeep)) := by
  rw [LayerStore.load, legible.content, last]
  simp only [Option.map_some, (legible.last id collection last).ofBytes_bytes]
  split <;> rfl

theorem Legible.last_of_load (legible : course.Legible bound)
    (loaded : course.store.load id = .ok collection) :
    course.archive.last? id = some collection := by
  cases last : course.archive.last? id with
  | none =>
    rw [LayerStore.load, legible.content, last] at loaded
    cases loaded
  | some stored =>
    rw [legible.load_eq last] at loaded
    split at loaded
    · cases loaded
      rfl
    · cases loaded

/-- Only one layer was changed, and its content is still what was committed last. -/
theorem Legible.changed {later : Course} (legible : course.Legible bound) (id : DatasourceId)
    (is : ∀ collection, later.archive.last? id = some collection → collection.Legible bound)
    (here : later.store.backend.content? id =
      (later.archive.last? id).map FeatureCollection.bytes)
    (last : ∀ other, other ≠ id → later.archive.last? other = course.archive.last? other)
    (content : ∀ other, other ≠ id →
      later.store.backend.content? other = course.store.backend.content? other)
    (kept : later.store.backend.All fun content =>
      ∃ collection : FeatureCollection, collection.Legible bound ∧ collection.bytes = content) :
    later.Legible bound := by
  refine ⟨fun other collection isLast => ?_, fun other => ?_, kept⟩
  · by_cases same : other = id
    · subst same
      exact is collection isLast
    · rw [last other same] at isLast
      exact legible.last other collection isLast
  · by_cases same : other = id
    · subst same
      exact here
    · rw [content other same, last other same]
      exact legible.content other

theorem Legible.archived {later : Course} (legible : course.Legible bound)
    (archived : Archived (·.Legible bound) course later) : later.Legible bound := by
  cases archived with
  | kept backend archive =>
    obtain ⟨last, content, kept⟩ := legible
    rw [← archive] at last content
    rw [← backend] at content kept
    exact ⟨last, content, kept⟩
  | @committed id now timestamp collection is backend archive =>
    have committed : later.archive.last? id = some collection := by
      rw [archive, Archive.last?_snoc]
    apply legible.changed id
    · intro other isLast
      cases committed.symm.trans isLast
      exact is
    · rw [backend, committed, Backend.content?_commit_self, Option.map_some]
    · intro other differ
      rw [archive, Archive.last?_set_of_ne differ]
    · intro other differ
      rw [backend, Backend.content?_commit_of_ne _ differ]
    · rw [backend]
      exact legible.kept.commit ⟨collection, is, rfl⟩ id timestamp
  | @removed id backend archive =>
    have removed : later.archive.last? id = none := by
      rw [archive, Archive.last?_set_nil]
    apply legible.changed id
    · intro other isLast
      cases removed.symm.trans isLast
    · rw [backend, removed, Backend.content?_remove_self, Option.map_none]
    · intro other differ
      rw [archive, Archive.last?_set_of_ne differ]
    · intro other differ
      rw [backend, Backend.content?_remove_of_ne _ differ]
    -- On disk versions of other layers may go with it, but what stays was there before.
    · rw [backend]
      exact legible.kept.remove id

/-! ## Steps -/

variable {α : Type} {operation : LayerOperation α} {now : Int}

theorem archived_of_changed {made : α → FeatureCollection → Prop}
    {outcome : Except StoreError α × LayerStore}
    (changed : course.store.Changed id made outcome)
    (commits : ∀ value collection, made value collection → collection.Legible bound ∧
      course.archive.after now operation (.ok value) =
        course.archive.set id (course.archive id ++ [(now, collection)]))
    (names : Names) :
    Archived (·.Legible bound) course
      ⟨outcome.2, names, course.archive.after now operation outcome.1⟩ := by
  cases changed with
  | failed same => exact .kept same rfl
  | committed is backend =>
    obtain ⟨legible, archive⟩ := commits _ _ is
    exact .committed legible backend archive

theorem Legible.step_archived (legible : course.Legible (bound + 2)) {request : Request}
    (brings : request.operation.Legible (bound + 2)) :
    Archived (·.Legible (bound + 2)) course (course.step request) := by
  obtain ⟨α, operation, now⟩ := request
  cases operation with
  | newLayer =>
    have changed := course.store.insertLayer_changed now
      (course.names.freeDatasource course.store.backend.taken).1 .empty
    simp only [step, LayerStore.run]
    generalize course.store.insertLayer now _ .empty = outcome at changed ⊢
    cases changed with
    | failed same => exact .kept same rfl
    | committed is backend =>
      subst is
      exact .committed FeatureCollection.legible_empty backend rfl
  | insertLayer id collection =>
    refine archived_of_changed (course.store.insertLayer_changed now id collection) ?_ _
    rintro _ _ rfl
    exact ⟨brings, rfl⟩
  | insertFeature id feature =>
    refine archived_of_changed (course.store.insertFeature_changed now _ id feature) ?_ _
    rintro geoId _ ⟨collection, loaded, rfl⟩
    -- What was read of the layer is what was committed to it last.
    have last := legible.last_of_load loaded
    have former := legible.last id collection last
    refine ⟨former.with_features (List.forall_mem_append.2 ⟨former.features, ?_⟩), ?_⟩
    · rw [List.forall_mem_singleton]
      split
      · exact Feature.Legible.withGeoId brings geoId
      · exact brings
    · simp [Archive.after, Archive.committed?, last]
  | editFeature id geoId feature =>
    refine archived_of_changed (course.store.editFeature_changed now id geoId feature) ?_ _
    rintro stored _ ⟨collection, place, replaced, loaded, position, member, rfl, rfl⟩
    have last := legible.last_of_load loaded
    have former := legible.last id collection last
    refine ⟨former.with_features fun other among => ?_, ?_⟩
    -- The replacement takes over an address, which is as legible as the feature that had it.
    · rcases List.mem_or_eq_of_mem_set among with before | rfl
      · exact former.features other before
      · exact Feature.Legible.replacing brings (former.features replaced member)
    · simp [Archive.after, Archive.committed?, last, position]
  | deleteLayer id =>
    simp only [step, LayerStore.run, LayerStore.deleteLayer]
    split
    · exact .removed rfl rfl
    · exact .kept rfl rfl
  | getLayer _ | getLayers | timeseries _ | previous _ _ | hasLayer _ =>
    refine .kept rfl ?_
    simp only [step, LayerStore.run]
    exact after_of_subject?_eq_none rfl now _

end Course

/-! ## Reading -/

namespace Course

variable {course : Course} {id : DatasourceId}

theorem Legible.readable_load (legible : course.Legible (Json.maxDepth - 2)) (id : DatasourceId) :
    Readable (course.store.load id) := by
  cases last : course.archive.last? id with
  | none =>
    rw [LayerStore.load, legible.content, last]
    exact readable_error (by simp)
  | some collection =>
    rw [legible.load_eq last, if_pos (legible.last id collection last).shallow]
    exact readable_ok collection

theorem Legible.readable_previous (legible : course.Legible (Json.maxDepth - 2))
    (id : DatasourceId) (timestamp : Int) : Readable (course.store.previous id timestamp) := by
  refine (course.store.readable_demand id).bind fun _ _ => ?_
  refine (course.store.backend.readable_versionAt id timestamp).bind fun version found => ?_
  cases version with
  | none => exact readable_error (by simp)
  | some version =>
    obtain ⟨stamp, content⟩ := version
    -- It may be a version of another layer, but it was committed once.
    obtain ⟨collection, legible, rfl⟩ := legible.kept.version found
    have read : FeatureCollection.ofBytes collection.bytes = .ok collection := by
      rw [legible.ofBytes_bytes, if_pos legible.shallow]
    simp only [read]
    exact readable_ok (stamp, collection)

/-- Where everything is shallow, nothing that is asked of the store fails to read. -/
theorem Legible.readable_run {α : Type} (legible : course.Legible (Json.maxDepth - 2))
    (operation : LayerOperation α) (now : Int) :
    Readable (course.store.run operation now course.names).1 := by
  cases operation with
  | newLayer => exact (course.store.readable_insertLayer now _ .empty).map _
  | insertLayer id collection => exact course.store.readable_insertLayer now id collection
  | getLayer id => exact legible.readable_load id
  | deleteLayer id =>
    simp only [LayerStore.run, LayerStore.deleteLayer]
    split
    · exact readable_ok ()
    · next cause refused =>
      have demanded := course.store.readable_demand id
      rw [refused] at demanded
      exact demanded
  | insertFeature id feature =>
    exact LayerStore.readable_insertFeature (legible.readable_load id) _ feature
  | editFeature id geoId feature =>
    exact LayerStore.readable_editFeature (legible.readable_load id) geoId feature
  | getLayers => exact course.store.backend.readable_names
  | timeseries id =>
    refine (course.store.readable_demand id).bind fun _ _ => ?_
    exact (course.store.backend.readable_stamps id).bind fun _ _ => readable_ok _
  | previous id timestamp => exact legible.readable_previous id timestamp
  | hasLayer id => exact readable_ok _

/-! ## Runs -/

/-- The courses that come of one by requests of some kind, and by closing the store and opening it
again. -/
inductive Reached (start : Course) (allowed : Request → Prop) : Course → Prop where
  | start : Reached start allowed start
  | step {course : Course} (request : Request) (is : allowed request) :
      Reached start allowed course → Reached start allowed (course.step request)
  | reopened {course : Course} : Reached start allowed course →
      Reached start allowed { course with store := course.store.reopened }

theorem legible_start {store : LayerStore} (fresh : store = .inMemory ∨ store = .onDisk {})
    (names : Names) (bound : Nat) : (start store names).Legible bound := by
  rcases fresh with rfl | rfl
  · exact ⟨nofun, fun _ => rfl, nofun⟩
  · exact ⟨nofun, fun _ => rfl, nofun, nofun⟩

theorem Reached.legible {start : Course} {allowed : Request → Prop} {bound : Nat}
    (reached : start.Reached allowed course) (legible : start.Legible (bound + 2))
    (brings : ∀ request, allowed request → request.operation.Legible (bound + 2)) :
    course.Legible (bound + 2) := by
  induction reached with
  | start => exact legible
  | step request is _ ih => exact ih.archived (ih.step_archived (brings request is))
  -- Only the slots are forgotten, of which nothing was said.
  | reopened _ ih => exact ⟨ih.last, ih.content, ih.kept⟩

end Course

/-- What is read of a layer to which only accepted features and collections came.  A collection
is read as it was committed if it is shallow, and otherwise not at all; and as long as every
feature that comes alone is shallow, nothing that is asked of the store fails to read. -/
theorem load_of_accepted {store : LayerStore} (fresh : store = .inMemory ∨ store = .onDisk {})
    (names : Names) :
    (∀ course, (Course.start store names).Reached (fun request => request.operation.Accepted) course →
      ∀ id collection, course.archive.last? id = some collection →
        course.store.load id =
          if collection.Shallow then .ok collection
          else .error (.unreadable (.grammar .tooDeep))) ∧
    ∀ course, (Course.start store names).Reached
        (fun request => request.operation.Accepted ∧ request.operation.Shallow) course →
      (∀ id collection, course.archive.last? id = some collection →
        course.store.load id = .ok collection) ∧
      ∀ {α : Type} (operation : LayerOperation α) (now : Int),
        Readable (course.store.run operation now course.names).1 := by
  have start := Course.legible_start fresh names
  constructor
  -- All that is accepted nests no deeper than its own text may, and in a collection that is two
  -- levels too many.
  · intro course reached id collection last
    have legible : course.Legible Json.maxDepth :=
      reached.legible (start Json.maxDepth) fun _ accepted => accepted.legible
    exact legible.load_eq last
  · intro course reached
    have legible : course.Legible (Json.maxDepth - 2) :=
      reached.legible (start (Json.maxDepth - 2)) fun _ allowed =>
        allowed.1.legible_of_shallow allowed.2
    refine ⟨fun id collection last => ?_, fun operation now => legible.readable_run operation now⟩
    rw [legible.load_eq last, if_pos (legible.last id collection last).shallow]

def point : Feature :=
  ⟨none, .array [.number (.integer 1), .number (.integer 2)],
    some (OrderedMap.empty.insert Feature.addressKey (.string "g")), .empty⟩

theorem point_accepted : (LayerOperation.insertFeature ⟨"d"⟩ point).Accepted := by
  have one : Number.Survives (.integer 1) := by decide
  have two : Number.Survives (.integer 2) := by decide
  have geometry : point.geometry.Survives :=
    .array (List.forall_mem_cons.2 ⟨.number one, List.forall_mem_singleton.2 (.number two)⟩)
  refine ⟨.text (.ofBytes (Text.encodeChars point.print)) (by decide +kernel), ?_⟩
  exact .object trivial (Feature.forall_members.2 ⟨.string _, nofun, geometry,
    .object trivial (List.forall_mem_singleton.2 (.string "g")), nofun⟩)

theorem empty_accepted : (LayerOperation.insertLayer ⟨"d"⟩ .empty).Accepted := by
  refine ⟨.text (.ofBytes FeatureCollection.empty.bytes) (by decide +kernel), ?_⟩
  exact FeatureCollection.survives_written_iff.2 ⟨nofun, nofun⟩

theorem load_of_accepted_point :
    let start := Course.start (.onDisk {}) (.behind [] [] [])
    let course := start.run
      [⟨Unit, .insertLayer ⟨"d"⟩ .empty, 0⟩, ⟨String, .insertFeature ⟨"d"⟩ point, 5⟩]
    course.store.load ⟨"d"⟩ = .ok ⟨[point], .empty⟩ ∧
      Readable (course.store.run (.previous ⟨"d"⟩ 9) 9 course.names).1 := by
  have shallow : point.written.depth + 2 ≤ Json.maxDepth := by decide
  let start := Course.start (.onDisk {}) (.behind [] [] [])
  let allowed (request : Request) : Prop :=
    request.operation.Accepted ∧ request.operation.Shallow
  have inserted : start.Reached allowed (start.step ⟨Unit, .insertLayer ⟨"d"⟩ .empty, 0⟩) :=
    .step _ ⟨empty_accepted, trivial⟩ .start
  have added := inserted.step ⟨String, .insertFeature ⟨"d"⟩ point, 5⟩ ⟨point_accepted, shallow⟩
  obtain ⟨loads, readable⟩ := (load_of_accepted (.inr rfl) (.behind [] [] [])).2 _ added
  exact ⟨loads ⟨"d"⟩ ⟨[point], .empty⟩ (by decide +kernel), readable (.previous ⟨"d"⟩ 9) 9⟩

/-! ## A feature that nests too deep -/

/-- Arrays inside one another, one more than `levels`. -/
def nested : Nat → Json
  | 0 => .array []
  | levels + 1 => .array [nested levels]

/-- A feature whose geometry is arrays inside one another. -/
def tower (levels : Nat) : Feature :=
  ⟨none, nested levels, some (OrderedMap.empty.insert Feature.addressKey (.string "g")), .empty⟩

theorem survives_nested (levels : Nat) : (nested levels).Survives := by
  induction levels with
  | zero => exact .array fun _ member => absurd member List.not_mem_nil
  | succ levels ih => exact .array (List.forall_mem_singleton.2 ih)

theorem survives_tower (levels : Nat) : (tower levels).written.Survives :=
  .object trivial (Feature.forall_members.2 ⟨.string _, nofun, survives_nested levels,
    .object trivial (List.forall_mem_singleton.2 (.string "g")), nofun⟩)

/-- A feature that nests 126 levels deep is accepted, and the layer that it is added to is not
read any more. -/
theorem tower_lost :
    let start := Course.start .inMemory (.behind [] [] [])
    let course := start.run
      [⟨Unit, .insertLayer ⟨"d"⟩ .empty, 0⟩, ⟨String, .insertFeature ⟨"d"⟩ (tower 124), 0⟩]
    Json.Parsed Feature.decoder (tower 124) ∧
      (tower 124).written.Survives ∧
      course.archive.last? ⟨"d"⟩ = some ⟨[tower 124], .empty⟩ ∧
      course.store.load ⟨"d"⟩ = .error (.unreadable (.grammar .tooDeep)) := by
  have read : Json.decode Feature.decoder (.ofBytes (Text.encodeChars (tower 124).print)) =
      .ok (tower 124) := by
    decide +kernel
  refine ⟨.text _ read, survives_tower 124, ?_, ?_⟩
  · decide +kernel
  · decide +kernel

end LayerGateway
