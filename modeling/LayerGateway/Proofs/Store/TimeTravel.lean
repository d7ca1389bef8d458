import LayerGateway.Proofs.Store.Held

/-!
# Time travel

Every version that was ever accepted can be read again by its time, as long as its layer is
not deleted.

* `step_holds` says that after every operation the store holds what the archive says of every
  layer, and `run_holds` that it does after every run.
* `tells_of_run` says what can be read in the end.
-/

namespace LayerGateway

namespace Course

variable {course : Course} {spare : Nat}

/-- The layer an operation is about holds what its archive says afterwards. -/
theorem subject_holds {α : Type} {operation : LayerOperation α} {now : Int}
    {id : DatasourceId} (about : course.store.subject? course.names operation = some id)
    (holds : course.store.Holds id (course.archive id) (spare + 1))
    (storable : ∀ commit ∈ course.archive id, commit.2.Storable) (notBefore : 0 ≤ now)
    (inTime : now + spare < Decimal.signedBound) :
    ∃ commits,
      course.archive.after now operation (course.store.run operation now course.names).1 =
        course.archive.set id commits ∧
      (course.store.run operation now course.names).2.1.Holds id commits spare := by
  -- A rejected operation commits nothing.
  have rejected {later : LayerStore} (held : later.Holds id (course.archive id) spare) :
      ∃ commits, course.archive = course.archive.set id commits ∧ later.Holds id commits spare :=
    ⟨course.archive id, (course.archive.set_same id).symm, held⟩
  cases operation with
  | newLayer =>
    cases about
    obtain ⟨later, inserted, held⟩ :=
      LayerStore.insertLayer_holds holds notBefore inTime .empty
    simp only [LayerStore.run, inserted]
    exact ⟨_, rfl, held⟩
  | insertLayer id collection =>
    cases about
    obtain ⟨later, inserted, held⟩ :=
      LayerStore.insertLayer_holds holds notBefore inTime collection
    simp only [LayerStore.run, inserted]
    exact ⟨_, rfl, held⟩
  | insertFeature id feature =>
    cases about
    have held := LayerStore.insertFeature_holds holds notBefore inTime storable
      course.names.feature.1 feature
    simp only [LayerStore.run]
    split at held
    · next geoId later ran =>
      obtain ⟨last, isLast, held⟩ := held
      rw [ran]
      refine ⟨_, ?_, held⟩
      simp [Archive.after, Archive.committed?, Archive.last?, isLast]
    · next ran =>
      rw [ran]
      exact rejected held
  | editFeature id geoId feature =>
    cases about
    have held := LayerStore.editFeature_holds holds notBefore inTime storable geoId feature
    simp only [LayerStore.run]
    split at held
    · next stored later ran =>
      obtain ⟨last, place, isLast, position, held⟩ := held
      rw [ran]
      refine ⟨_, ?_, held⟩
      simp [Archive.after, Archive.committed?, Archive.last?, isLast, position]
    · next ran =>
      rw [ran]
      exact rejected held
  | deleteLayer id =>
    cases about
    have held := LayerStore.deleteLayer_holds holds.fewer
    simp only [LayerStore.run]
    split at held
    · next later ran =>
      rw [ran]
      exact ⟨[], rfl, held⟩
    · next ran =>
      rw [ran]
      exact rejected held
  | getLayer _ | getLayers | timeseries _ | previous _ _ | hasLayer _ => cases about

theorem after_of_subject?_eq_none {α : Type} {operation : LayerOperation α}
    (about : course.store.subject? course.names operation = none) (now : Int)
    (result : Except StoreError α) :
    course.archive.after now operation result = course.archive := by
  cases operation with
  | newLayer | insertLayer _ _ | insertFeature _ _ | editFeature _ _ _ | deleteLayer _ =>
    cases about
  | getLayer _ | getLayers | timeseries _ | previous _ _ | hasLayer _ => cases result <;> rfl

/-! ## Runs -/

/-- After every operation every layer holds what the archive says, with time left for one
commit less. -/
theorem step_holds {request : Request}
    (holds : ∀ id, course.store.backend.Allows id →
      course.store.Holds id (course.archive id) (spare + 1))
    (allowed : ∀ id, course.store.subject? course.names request.operation = some id →
      course.store.backend.Allows id)
    (storable : ∀ id, ∀ commit ∈ course.archive id, commit.2.Storable)
    (notBefore : 0 ≤ request.now) (inTime : request.now + spare < Decimal.signedBound)
    {id : DatasourceId} (otherAllowed : course.store.backend.Allows id) :
    (course.step request).store.Holds id ((course.step request).archive id) spare := by
  simp only [step]
  cases about : course.store.subject? course.names request.operation with
  | none =>
    have touched := course.store.run_touched request.operation request.now course.names
    rw [about] at touched
    simp only at touched
    rw [after_of_subject?_eq_none about, touched]
    exact (holds id otherAllowed).fewer
  | some subject =>
    -- The layer that the operation is about holds what was committed; the others are as before.
    obtain ⟨commits, archived, held⟩ :=
      subject_holds about (holds subject (allowed subject about)) (storable subject) notBefore inTime
    rw [archived]
    by_cases same : id = subject
    · rw [same, Archive.set_self]
      exact held
    · rw [Archive.set_of_ne _ same]
      refine (holds id otherAllowed).fewer.of_sameLayer ?_
      refine course.store.run_sameLayer request.operation _ _ otherAllowed allowed fun this => ?_
      exact same (Option.some_inj.1 (this.symm.trans about))

/-- A run goes on as it began: the store holds of every layer what is in the archive. -/
theorem run_holds {requests : List Request}
    (holds : ∀ id, course.store.backend.Allows id →
      course.store.Holds id (course.archive id) requests.length)
    (named : ∀ request ∈ requests, ∀ id, request.operation.named? = some id →
      course.store.backend.Allows id)
    (given : ∀ n, course.store.backend.Allows (course.names.datasources.candidate n))
    (clock : ∀ request ∈ requests,
      0 ≤ request.now ∧ request.now + requests.length ≤ Decimal.signedBound)
    (storable : ∀ earlier, earlier <+: requests → ∀ id,
      ∀ commit ∈ (course.run earlier).archive id, commit.2.Storable)
    {id : DatasourceId} (allowed : course.store.backend.Allows id) :
    (course.run requests).store.Holds id ((course.run requests).archive id) 0 := by
  induction requests generalizing course with
  | nil => exact holds id allowed
  | cons request requests ih =>
    have subjectAllowed (id : DatasourceId)
        (about : course.store.subject? course.names request.operation = some id) :
        course.store.backend.Allows id := by
      rcases LayerStore.named_or_given about with isNamed | ⟨n, rfl⟩
      · exact named request List.mem_cons_self id isNamed
      · exact given n
    -- Which names are told apart depends on the kind of the backend only.
    have same (id : DatasourceId) : (course.step request).store.backend.Allows id ↔
        course.store.backend.Allows id :=
      course.store.run_allows_iff request.operation request.now course.names id
    obtain ⟨notBefore, inTime⟩ := clock request List.mem_cons_self
    rw [List.length_cons] at inTime
    -- One request less leaves room for one more version, for those that are left.
    refine ih (fun id allowed => ?_) (fun other member id isNamed => ?_) (fun n => ?_)
      (fun other member => ?_) (fun earlier starts => ?_) ?_
    · exact step_holds holds subjectAllowed (storable [] List.nil_prefix) notBefore (by omega)
        ((same id).1 allowed)
    · exact (same id).2 (named other (List.mem_cons_of_mem _ member) id isNamed)
    · have rows : (course.step request).names.datasources = course.names.datasources :=
        course.store.run_datasources request.operation request.now course.names
      rw [rows]
      exact (same _).2 (given n)
    · have := clock other (List.mem_cons_of_mem _ member)
      rw [List.length_cons] at this
      omega
    · exact storable (request :: earlier) ((List.prefix_cons_inj request).2 starts)
    · exact (same id).2 allowed

end Course

/-! ## Reading -/

/-- The store tells these versions of a layer: their times in order, for every time the last
version that is not behind it, and the last one of all as the content. -/
structure LayerStore.Tells (store : LayerStore) (id : DatasourceId)
    (versions : List (Int × FeatureCollection)) : Prop where
  nonempty : versions ≠ []
  increasing : versions.Pairwise fun earlier later => earlier.1 < later.1
  timeseries : store.timeseries id = .ok (versions.map (·.1))
  previous : ∀ timestamp : Int, timestamp < Decimal.signedBound →
    ∀ (i : Nat) (version : Int × FeatureCollection),
      versions[i]? = some version → version.1 ≤ timestamp →
        (∀ (j : Nat) (later : Int × FeatureCollection),
          i < j → versions[j]? = some later → timestamp < later.1) →
        store.previous id timestamp = .ok version
  absent : ∀ timestamp : Int, timestamp < Decimal.signedBound → ∀ first,
    versions.head? = some first →
      (store.previous id timestamp = .error (.snapshotNotFound id timestamp) ↔
        timestamp < first.1)
  content : ∀ last, versions.getLast? = some last → store.load id = .ok last.2

theorem getLast?_filter {α : Type} {test : α → Bool} {list : List α} {i : Nat} {element : α}
    (here : list[i]? = some element) (passes : test element = true)
    (behind : ∀ j later, i < j → list[j]? = some later → test later = false) :
    (list.filter test).getLast? = some element := by
  -- The list is cut at the element, and nothing of what lies behind it passes.
  obtain ⟨bound, same⟩ := List.getElem?_eq_some_iff.1 here
  have split : list = list.take i ++ element :: list.drop (i + 1) := by
    rw [← same, ← List.drop_eq_getElem_cons bound, List.take_append_drop]
  have none_behind : (list.drop (i + 1)).filter test = [] := by
    refine List.filter_eq_nil_iff.2 fun later member => ?_
    obtain ⟨k, at_k⟩ := List.mem_iff_getElem?.1 member
    rw [List.getElem?_drop] at at_k
    simp [behind _ later (by omega) at_k]
  rw [congrArg (List.filter test) split, List.filter_append, List.filter_cons_of_pos passes,
    none_behind]
  exact List.getLast?_concat

/-- Of increasing versions none is reached exactly when the first one is not. -/
theorem filter_eq_nil_iff_lt {α : Type} {first : Int × α} {later : List (Int × α)}
    (increasing : (first :: later).Pairwise fun earlier later => earlier.1 < later.1)
    {timestamp : Int} :
    (first :: later).filter (·.1 ≤ timestamp) = [] ↔ timestamp < first.1 := by
  have above := (List.pairwise_cons.1 increasing).1
  rw [List.filter_eq_nil_iff]
  constructor
  · intro silent
    have := silent first List.mem_cons_self
    simpa using this
  · intro before version member
    simp only [decide_eq_true_eq]
    rcases List.mem_cons.1 member with rfl | member
    · omega
    · have := above version member
      omega

namespace LayerStore

variable {store : LayerStore} {id : DatasourceId} {commits : List (Int × FeatureCollection)}
  {spare : Nat}

theorem storable_of_stamped (storable : ∀ commit ∈ commits, commit.2.Storable)
    {version : Int × FeatureCollection} (member : version ∈ stamped commits) :
    version.2.Storable := by
  have held : version.2 ∈ (stamped commits).map (·.2) := List.mem_map_of_mem member
  rw [stamped_contents] at held
  obtain ⟨commit, committed, same⟩ := List.mem_map.1 held
  exact same ▸ storable commit committed

/-- What there was at a time is read from the last version that was there. -/
theorem Holds.previous_eq_read (holds : store.Holds id commits spare) (stored : commits ≠ [])
    {timestamp : Int} (small : timestamp < Decimal.signedBound) :
    store.previous id timestamp =
      match ((stamped commits).filter (·.1 ≤ timestamp)).getLast? with
      | some version => ((FeatureCollection.ofBytes version.2.bytes).mapError .unreadable).map
          (version.1, ·)
      | none => .error (.snapshotNotFound id timestamp) := by
  have demanded : store.demand id = .ok () := by rw [holds.demand_eq, if_neg stored]
  rw [previous, bind_of_ok demanded, bind_of_ok (holds.versionAt_eq small)]
  cases ((stamped commits).filter (·.1 ≤ timestamp)).getLast? <;> rfl

theorem Holds.previous_eq (holds : store.Holds id commits spare) (stored : commits ≠ [])
    (storable : ∀ commit ∈ commits, commit.2.Storable) {timestamp : Int}
    (small : timestamp < Decimal.signedBound) :
    store.previous id timestamp =
      match ((stamped commits).filter (·.1 ≤ timestamp)).getLast? with
      | some version => .ok version
      | none => .error (.snapshotNotFound id timestamp) := by
  rw [holds.previous_eq_read stored small]
  cases last : ((stamped commits).filter (·.1 ≤ timestamp)).getLast? with
  | none => rfl
  | some version =>
    have member := (List.mem_filter.1 (List.mem_of_getLast? last)).1
    have reads : FeatureCollection.ofBytes version.2.bytes = .ok version.2 :=
      storable_of_stamped storable member
    simp only [reads]
    rfl

theorem Holds.timeseries_eq (holds : store.Holds id commits spare) (stored : commits ≠ []) :
    store.timeseries id = .ok ((stamped commits).map (·.1)) := by
  have found : store.backend.contains id = true := by
    rw [Backend.contains, holds.content?_eq]
    simp [List.getLast?_eq_some_getLast stored]
  have stamps := holds.kept.stamps_eq holds.chronological
  rw [List.map_map] at stamps
  refine timeseries_of_stamps found stamps (List.pairwise_map.2 ?_)
  exact (stamped_increasing commits).imp fun below => Int.le_of_lt below

theorem Holds.tells (holds : store.Holds id commits spare) (stored : commits ≠ [])
    (storable : ∀ commit ∈ commits, commit.2.Storable) : store.Tells id (stamped commits) where
  nonempty none := by
    have contents := stamped_contents commits
    rw [none] at contents
    exact stored (List.map_eq_nil_iff.1 contents.symm)
  increasing := stamped_increasing commits
  timeseries := holds.timeseries_eq stored
  previous timestamp small i version here reached behind := by
    -- Versions rise, so the last of those that are reached is the one before the first that is not.
    have last : ((stamped commits).filter (·.1 ≤ timestamp)).getLast? = some version := by
      refine getLast?_filter here (by simpa using reached) fun j later beyond there => ?_
      have := behind j later beyond there
      simp only [decide_eq_false_iff_not]
      omega
    rw [holds.previous_eq stored storable small, last]
  absent timestamp small first isFirst := by
    rw [holds.previous_eq stored storable small]
    have increasing := stamped_increasing commits
    obtain ⟨later, split⟩ := List.head?_eq_some_iff.1 isFirst
    rw [split] at increasing ⊢
    rw [← filter_eq_nil_iff_lt increasing, ← List.getLast?_eq_none_iff]
    split
    · next version last => simp [last]
    · next none => simp [none]
  content last isLast := by
    have contents := congrArg List.getLast? (stamped_contents commits)
    rw [List.getLast?_map, List.getLast?_map, isLast] at contents
    rw [holds.load_eq storable]
    cases lastCommit : commits.getLast? with
    | none => simp [lastCommit] at contents
    | some commit =>
      rw [lastCommit] at contents
      exact congrArg Except.ok (Option.some_inj.1 contents).symm

end LayerStore

theorem holds_of_fresh {start : LayerStore} (fresh : start = .inMemory ∨ start = .onDisk {})
    (id : DatasourceId) (spare : Nat) : start.Holds id [] spare := by
  rcases fresh with rfl | rfl
  · exact ⟨.memory rfl rfl, nofun, nofun⟩
  · exact ⟨.disk rfl rfl, nofun, nofun⟩

/-- Whatever is asked of an empty store, in whatever order and whatever the clock reads, as
long as it stays far enough below the last time: a layer is stored if something was committed
to it since it was last deleted, and then the store tells all the versions of it. -/
theorem tells_of_run (start : LayerStore) (fresh : start = .inMemory ∨ start = .onDisk {})
    (names : Names) (requests : List Request)
    (named : ∀ request ∈ requests, ∀ id, request.operation.named? = some id →
      start.backend.Allows id)
    (given : ∀ n, start.backend.Allows (names.datasources.candidate n))
    (clock : ∀ request ∈ requests,
      0 ≤ request.now ∧ request.now + requests.length ≤ Decimal.signedBound)
    (storable : ∀ earlier, earlier <+: requests → ∀ id,
      ∀ commit ∈ ((Course.start start names).run earlier).archive id, commit.2.Storable)
    (id : DatasourceId) (allowed : start.backend.Allows id) :
    let course := (Course.start start names).run requests
    (course.store.backend.contains id = true ↔ course.archive id ≠ []) ∧
      (course.store.backend.contains id = true →
        course.store.Tells id (stamped (course.archive id))) := by
  have holds : ((Course.start start names).run requests).store.Holds id
      (((Course.start start names).run requests).archive id) 0 :=
    Course.run_holds (fun id _ => holds_of_fresh fresh id _) named given clock storable allowed
  have stored : ((Course.start start names).run requests).store.backend.contains id = true ↔
      ((Course.start start names).run requests).archive id ≠ [] := by
    rw [Backend.contains, holds.content?_eq]
    cases ((Course.start start names).run requests).archive id with
    | nil => simp
    | cons commit commits => simp [List.getLast?_cons]
  exact ⟨stored, fun found =>
    holds.tells (stored.1 found) (storable requests (List.prefix_refl requests) id)⟩

/-- A layer is set at 5, and set again when the clock has gone back to 3. -/
def backwards : List Request :=
  [⟨Unit, .insertLayer ⟨"d"⟩ .empty, 5⟩, ⟨Unit, .insertLayer ⟨"d"⟩ .empty, 3⟩]

theorem backwards_storable (earlier : List Request) (starts : earlier <+: backwards)
    (id : DatasourceId) :
    ∀ commit ∈ ((Course.start (.onDisk {}) (.behind [] [] [])).run earlier).archive id,
      commit.2.Storable := by
  have readsEmpty : FeatureCollection.empty.Storable := rfl
  have of_empties {archive : Archive} (commits : List (Int × FeatureCollection))
      (held : archive = Archive.empty.set ⟨"d"⟩ commits)
      (all : ∀ commit ∈ commits, commit.2 = .empty) :
      ∀ commit ∈ archive id, commit.2.Storable := by
    intro commit member
    rw [held, Archive.set] at member
    split at member
    · rw [all commit member]
      exact readsEmpty
    · cases member
  rcases List.prefix_cons_iff.1 starts with rfl | ⟨rest, rfl, further⟩
  · exact nofun
  · rcases List.prefix_cons_iff.1 further with rfl | ⟨rest, rfl, ends⟩
    · exact of_empties [(5, .empty)] rfl (by simp)
    · obtain rfl := List.prefix_nil.1 ends
      exact of_empties [(5, .empty), (3, .empty)]
        (Archive.set_set .empty ⟨"d"⟩ [(5, .empty)] [(5, .empty), (3, .empty)]) (by simp)

theorem tells_of_run_backwards :
    ((Course.start (.onDisk {}) (.behind [] [] [])).run backwards).store.Tells ⟨"d"⟩
      [(5, .empty), (6, .empty)] := by
  have nulFree : DatasourceId.NulFree ⟨"d"⟩ := by decide
  refine (tells_of_run (.onDisk {}) (.inr rfl) (.behind [] [] []) backwards ?_
    (Names.behind_nulFree [] [] nofun) (by decide) backwards_storable ⟨"d"⟩ nulFree).2 rfl
  intro request member id named
  rcases List.mem_cons.1 member with rfl | member
  · cases named
    exact nulFree
  · obtain rfl := List.mem_singleton.1 member
    cases named
    exact nulFree

end LayerGateway
