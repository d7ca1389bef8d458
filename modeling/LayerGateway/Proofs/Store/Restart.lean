import LayerGateway.Proofs.Registry
import LayerGateway.Proofs.Store.Alike
import LayerGateway.Proofs.Store.TimeTravel

/-!
# Restarts

The layers and the registry are kept in tables on disk, and what is kept there is found again
when the tables are opened.  What is lost when they are closed are the write slots, and with them
the times of the last versions.

* `SameTables` relates a store that was closed and opened again to one that was not: they have
  the same tables, and what a slot remembers in either is what a look at the table tells.
* `Databases.answers` are the answers to operations on layers and registry, between which the
  tables are closed and opened again.
* `restarts_unseen` says that no answer depends on where that happens, and that a new version is
  put behind all those that are kept, even if the clock has gone back since.
-/

namespace LayerGateway

/-! ## Commits of a layer -/

/-- What an operation may make of the commits of a layer. -/
inductive Grown (now : Int) (commits : List (Int × FeatureCollection)) :
    List (Int × FeatureCollection) → Prop where
  | kept : Grown now commits commits
  | added (collection : FeatureCollection) : Grown now commits (commits ++ [(now, collection)])
  | lost : Grown now commits []

namespace LayerStore

variable {store first second : LayerStore} {id other : DatasourceId} {spare : Nat} {now : Int}
  {commits : List (Int × FeatureCollection)} {α : Type}

/-- Both stores hold the same commits of a layer, grown from those given. -/
def HoldGrown (id : DatasourceId) (now : Int) (commits : List (Int × FeatureCollection))
    (spare : Nat) (first second : LayerStore) : Prop :=
  ∃ later, Grown now commits later ∧ first.Holds id later spare ∧ second.Holds id later spare

theorem holdGrown_paired (id : DatasourceId) (commits : List (Int × FeatureCollection))
    (notBefore : 0 ≤ now) (inTime : now + spare < Decimal.signedBound) :
    Paired id now
      (fun first second => first.Holds id commits (spare + 1) ∧ second.Holds id commits (spare + 1))
      (HoldGrown id now commits spare) where
  idle hold := ⟨commits, .kept, hold.1.fewer, hold.2.fewer⟩
  content?_eq hold := by rw [hold.1.content?_eq, hold.2.content?_eq]
  stamps_eq hold := by
    rw [hold.1.kept.stamps_eq hold.1.chronological, hold.2.kept.stamps_eq hold.2.chronological]
  withSlot hold := ⟨hold.1.withSlot, hold.2.withSlot⟩
  withoutSlot hold := ⟨commits, .kept, hold.1.fewer.withoutSlot, hold.2.fewer.withoutSlot⟩
  commit hold collection := by
    obtain ⟨first, firstRan, ofFirst⟩ := commit_holds hold.1 notBefore inTime collection
    obtain ⟨second, secondRan, ofSecond⟩ := commit_holds hold.2 notBefore inTime collection
    exact ⟨first, second, firstRan, secondRan, _, .added collection, ofFirst, ofSecond⟩
  remove _ := ⟨[], .lost, remove_holds _ id spare, remove_holds _ id spare⟩

/-- An operation adds one commit to a layer at most, or takes all of them, if it is not about a
layer of which the versions are taken for versions of this one. -/
theorem run_grown_of_separates (holds : store.Holds id commits (spare + 1))
    {operation : LayerOperation α} {names : Names}
    (separates : ∀ other, store.subject? names operation = some other → id ≠ other →
      store.backend.Separates other id)
    (notBefore : 0 ≤ now) (inTime : now + spare < Decimal.signedBound) :
    ∃ later, Grown now commits later ∧ (store.run operation now names).2.1.Holds id later spare := by
  -- What the operation makes of one store is found by running it on that store twice.
  have paired := holdGrown_paired id commits notBefore inTime
  have ran {β : Type} (operation : LayerOperation β) (isNamed : operation.named? = some id) :
      ∃ later, Grown now commits later ∧
        (store.run operation now names).2.1.Holds id later spare := by
    obtain ⟨-, -, later, grown, held, -⟩ :=
      paired.run ⟨holds, holds⟩ operation names isNamed fun _ _ => rfl
    exact ⟨later, grown, held⟩
  by_cases about : store.subject? names operation = some id
  · cases operation with
    | newLayer =>
      cases about
      obtain ⟨-, later, grown, held, -⟩ := paired.insertLayer ⟨holds, holds⟩ .empty
      exact ⟨later, grown, held⟩
    | insertLayer _ _ | deleteLayer _ | insertFeature _ _ | editFeature _ _ _ => exact ran _ about
    | getLayer _ | getLayers | timeseries _ | previous _ _ | hasLayer _ => cases about
  · refine ⟨commits, .kept, holds.fewer.of_sameLayer ?_⟩
    have touched := store.run_touched operation now names
    split at touched
    · next other aboutOther =>
      have differ : id ≠ other := fun same => about (same ▸ aboutOther)
      exact touched.sameLayer (separates other aboutOther differ) differ
    · rw [touched]
      exact .refl id store

theorem run_grown (holds : store.Holds id commits (spare + 1)) (nulFree : id.NulFree)
    {operation : LayerOperation α} {names : Names}
    (named : ∀ id, operation.named? = some id → id.NulFree)
    (given : ∀ n, (names.datasources.candidate n).NulFree) (notBefore : 0 ≤ now)
    (inTime : now + spare < Decimal.signedBound) :
    ∃ later, Grown now commits later ∧ (store.run operation now names).2.1.Holds id later spare := by
  refine run_grown_of_separates holds (fun other about differ => ?_) notBefore inTime
  have allows {id : DatasourceId} (nulFree : id.NulFree) : store.backend.Allows id :=
    Backend.allows_iff.2 fun _ => nulFree
  have otherNulFree : other.NulFree := by
    rcases named_or_given about with isNamed | ⟨n, rfl⟩
    · exact named other isNamed
    · exact given n
  exact Backend.separates_of_allows (allows otherNulFree) (allows nulFree) differ

theorem Holds.ne_nil_of_timeseries (holds : store.Holds id commits spare) {times : List Int}
    (listed : store.timeseries id = .ok times) : commits ≠ [] := by
  rintro rfl
  have demanded := holds.demand_eq
  rw [if_pos rfl] at demanded
  rw [timeseries, demanded] at listed
  cases listed

/-- Of a layer that was there and still is, no version is lost, and a new one is the last. -/
theorem Holds.times_grow {later : LayerStore} {laterCommits : List (Int × FeatureCollection)}
    {laterSpare : Nat} {times laterTimes : List Int} (holds : store.Holds id commits spare)
    (laterHolds : later.Holds id laterCommits laterSpare) (grown : Grown now commits laterCommits)
    (listed : store.timeseries id = .ok times) (laterListed : later.timeseries id = .ok laterTimes) :
    times <+: laterTimes ∧ laterTimes.Pairwise (· < ·) := by
  have stored := laterHolds.ne_nil_of_timeseries laterListed
  cases (holds.timeseries_eq (holds.ne_nil_of_timeseries listed)).symm.trans listed
  cases (laterHolds.timeseries_eq stored).symm.trans laterListed
  refine ⟨?_, List.pairwise_map.2 (stamped_increasing laterCommits)⟩
  cases grown with
  | kept => exact List.prefix_refl _
  | added collection =>
    rw [stamped_snoc, List.map_append]
    exact List.prefix_append _ _
  | lost => exact absurd rfl stored

/-! ## Stores over the same tables -/

/-- Two stores over the same tables that hold the same of every layer. -/
structure SameTables (first second : LayerStore) (spare : Nat) : Prop where
  backend : first.backend = second.backend
  alike : Alike first second spare

theorem Holds.reopened (holds : store.Holds id commits spare) :
    store.reopened.Holds id commits spare :=
  ⟨holds.kept, nofun, holds.room⟩

theorem Alike.symm (alike : Alike first second spare) : Alike second first spare := by
  obtain ⟨ids, ofFirst, ofSecond⟩ := alike.names
  refine ⟨⟨ids, ofSecond, ofFirst⟩, fun id nulFree => ?_⟩
  obtain ⟨commits, firstHolds, secondHolds⟩ := alike.layers id nulFree
  exact ⟨commits, secondHolds, firstHolds⟩

namespace SameTables

theorem fewer (same : SameTables first second (spare + 1)) : SameTables first second spare :=
  ⟨same.backend, same.alike.fewer⟩

theorem symm (same : SameTables first second spare) : SameTables second first spare :=
  ⟨same.backend.symm, same.alike.symm⟩

theorem reopened (same : SameTables first second spare) :
    SameTables first.reopened second spare := by
  refine ⟨same.backend, same.alike.names, fun id nulFree => ?_⟩
  obtain ⟨commits, ofFirst, ofSecond⟩ := same.alike.layers id nulFree
  exact ⟨commits, ofFirst.reopened, ofSecond⟩

theorem commit (same : SameTables first second (spare + 1)) (nulFree : id.NulFree)
    (notBefore : 0 ≤ now) (inTime : now + spare < Decimal.signedBound)
    (collection : FeatureCollection) :
    ∃ firstLater secondLater, first.commit now id collection = .ok firstLater ∧
      second.commit now id collection = .ok secondLater ∧
        SameTables firstLater secondLater spare := by
  obtain ⟨firstLater, secondLater, firstRan, secondRan, later⟩ :=
    same.alike.commit nulFree notBefore inTime collection
  refine ⟨firstLater, secondLater, firstRan, secondRan, ?_, later⟩
  -- The one may look up what the other remembers, but it is the same time.
  obtain ⟨commits, ofFirst, ofSecond⟩ := same.alike.layers id nulFree
  cases (commit_of_lastStamp ofFirst.lastStamp_eq now collection).symm.trans firstRan
  cases (commit_of_lastStamp ofSecond.lastStamp_eq now collection).symm.trans secondRan
  rw [same.backend]

theorem paired (nulFree : id.NulFree) (notBefore : 0 ≤ now)
    (inTime : now + spare < Decimal.signedBound) :
    Paired id now (SameTables · · (spare + 1)) (SameTables · · spare) where
  idle same := same.fewer
  content?_eq same := by rw [same.backend]
  stamps_eq same := by rw [same.backend]
  withSlot same := by
    refine ⟨?_, same.alike.withSlot nulFree⟩
    rw [withSlot_backend, withSlot_backend, same.backend]
  withoutSlot same := ⟨same.backend, same.alike.fewer.withoutSlot nulFree⟩
  commit same := same.commit nulFree notBefore inTime
  remove same := ⟨congrArg (·.remove id) same.backend, same.alike.fewer.remove nulFree⟩

theorem run (same : SameTables first second (spare + 1)) {operation : LayerOperation α}
    {names : Names} (named : ∀ id, operation.named? = some id → id.NulFree)
    (given : ∀ n, (names.datasources.candidate n).NulFree) (notBefore : 0 ≤ now)
    (inTime : now + spare < Decimal.signedBound) :
    (first.run operation now names).1 = (second.run operation now names).1 ∧
      (first.run operation now names).2.2 = (second.run operation now names).2.2 ∧
        SameTables (first.run operation now names).2.1 (second.run operation now names).2.1
          spare := by
  have paired {id : DatasourceId} (nulFree : id.NulFree) := paired nulFree notBefore inTime
  cases about : operation.named? with
  | some id =>
    apply (paired (named id about)).run same operation names about
    intro timestamp _
    rw [same.backend]
  | none =>
    -- The name of a new layer depends on the tables alone, so it is the same in both.
    cases operation with
    | newLayer =>
      simp only [LayerStore.run, same.backend]
      obtain ⟨sameResult, later⟩ := (paired (given _)).insertLayer same .empty
      exact ⟨congrArg _ sameResult, trivial, later⟩
    | getLayers => exact ⟨congrArg Backend.names same.backend, rfl, same.fewer⟩
    | insertLayer _ _ | getLayer _ | deleteLayer _ | insertFeature _ _ | editFeature _ _ _
    | timeseries _ | previous _ _ | hasLayer _ => cases about

end SameTables

end LayerStore

/-! ## Runs of both databases -/

/-- The layers and the registry on disk, with the names that are given next. -/
structure Databases where
  layers : LayerStore
  registry : Registry
  names : Names

/-- An operation on one of the databases, or a restart. -/
inductive DatabaseEvent where
  | layers (request : Request)
  | registry {Answer : Type} (operation : RegistryOperation Answer)
  | restart

inductive DatabaseAnswer where
  | layers {Answer : Type} (result : Except StoreError Answer)
  | registry {Answer : Type} (result : Except RegistryError Answer)

namespace DatabaseEvent

def isRestart : DatabaseEvent → Bool
  | .restart => true
  | .layers _ | .registry _ => false

/-- The event names no layer with a zero byte, and the clock does not read before 1970 and
leaves time for some more versions. -/
structure Fits (event : DatabaseEvent) (versions : Nat) : Prop where
  named : ∀ request, event = .layers request →
    ∀ id, request.operation.named? = some id → id.NulFree
  clock : ∀ request, event = .layers request →
    0 ≤ request.now ∧ request.now + versions ≤ Decimal.signedBound

theorem Fits.fewer {event : DatabaseEvent} {versions fewer : Nat} (fits : event.Fits versions)
    (below : fewer ≤ versions) : event.Fits fewer := by
  refine ⟨fits.named, fun request same => ?_⟩
  have := fits.clock request same
  omega

end DatabaseEvent

namespace Databases

def empty (names : Names) : Databases :=
  ⟨.onDisk {}, {}, names⟩

/-- The databases after they were closed and opened again over the same tables. -/
def reopened (databases : Databases) : Databases :=
  { databases with layers := databases.layers.reopened }

def step (databases : Databases) : DatabaseEvent → Option DatabaseAnswer × Databases
  | .layers request =>
      let (result, layers, names) :=
        databases.layers.run request.operation request.now databases.names
      (some (.layers result), { databases with layers, names })
  | .registry operation =>
      let (result, registry, names) := databases.registry.run operation databases.names
      (some (.registry result), { databases with registry, names })
  | .restart => (none, databases.reopened)

/-- The answers to operations that come one after the other. -/
def answers (databases : Databases) : List DatabaseEvent → List DatabaseAnswer
  | [] => []
  | event :: events =>
      let (answer, databases) := databases.step event
      answer.toList ++ databases.answers events

def after (databases : Databases) (events : List DatabaseEvent) : Databases :=
  events.foldl (fun databases event => (databases.step event).2) databases

/-! ## Restarts of databases -/

/-- Two pairs of databases that cannot be told apart. -/
structure Same (first second : Databases) (spare : Nat) : Prop where
  layers : first.layers.SameTables second.layers spare
  registry : first.registry = second.registry
  names : first.names = second.names
  given : ∀ n, (first.names.datasources.candidate n).NulFree

variable {databases first second : Databases} {event : DatabaseEvent}
  {events : List DatabaseEvent} {spare : Nat}

theorem registry_run_datasources {α : Type} (registry : Registry)
    (operation : RegistryOperation α) (names : Names) :
    (registry.run operation names).2.2.datasources = names.datasources := by
  cases operation with
  | create | put _ | get _ | isOwner _ _ | list | ownersOf _ => rfl
  | add key datasource | remove key datasource =>
    simp only [Registry.run]
    split <;> rfl

theorem step_datasources (databases : Databases) (event : DatabaseEvent) :
    (databases.step event).2.names.datasources = databases.names.datasources := by
  cases event with
  | layers request => exact LayerStore.run_datasources _ _ _ _
  | registry operation => exact registry_run_datasources _ _ _
  | restart => rfl

theorem same_empty {names : Names} (given : ∀ n, (names.datasources.candidate n).NulFree)
    (spare : Nat) : Same (empty names) (empty names) spare where
  layers := ⟨rfl, ⟨[], .disk rfl, .disk rfl⟩, fun id _ =>
    ⟨[], holds_of_fresh (.inr rfl) id spare, holds_of_fresh (.inr rfl) id spare⟩⟩
  registry := rfl
  names := rfl
  given := given

namespace Same

theorem reopened (same : Same first second spare) : Same first.reopened second spare :=
  ⟨same.layers.reopened, same.registry, same.names, same.given⟩

theorem fewer (same : Same first second (spare + 1)) : Same first second spare :=
  ⟨same.layers.fewer, same.registry, same.names, same.given⟩

theorem step (same : Same first second (spare + 1)) (fits : event.Fits (spare + 1)) :
    (first.step event).1 = (second.step event).1 ∧
      Same (first.step event).2 (second.step event).2 spare := by
  have given : ∀ n, ((first.step event).2.names.datasources.candidate n).NulFree := by
    rw [step_datasources]
    exact same.given
  obtain ⟨layers, registry, names, givenFirst⟩ := same
  cases event with
  | layers request =>
    have clock := fits.clock request rfl
    obtain ⟨sameResult, sameNames, later⟩ :=
      layers.run (fits.named request rfl) givenFirst clock.1 (by omega)
    simp only [Databases.step, ← names, sameResult] at sameNames given later ⊢
    exact ⟨trivial, later, registry, sameNames, given⟩
  | registry operation =>
    simp only [Databases.step, ← registry, ← names] at given ⊢
    exact ⟨trivial, layers.fewer, rfl, rfl, given⟩
  | restart => exact ⟨rfl, layers.fewer.reopened.symm.reopened.symm, registry, names, given⟩

theorem answers_eq (same : Same first second events.length)
    (fits : ∀ event ∈ events, event.Fits events.length) :
    first.answers events = second.answers (events.filter (!·.isRestart)) := by
  -- The first databases go through all events, the second through those that are no restarts.
  induction events generalizing first second with
  | nil => rfl
  | cons event events ih =>
    have further : ∀ other ∈ events, other.Fits events.length := fun other member =>
      (fits other (List.mem_cons_of_mem _ member)).fewer (by simp)
    obtain ⟨sameAnswer, later⟩ := same.step (fits event List.mem_cons_self)
    cases event with
    | layers _ | registry _ =>
      simp only [answers, sameAnswer, ih later further]
      rfl
    | restart => exact ih same.fewer.reopened further

theorem after (same : Same first second (events.length + spare))
    (fits : ∀ event ∈ events, event.Fits (events.length + spare)) :
    Same (first.after events) (second.after events) spare := by
  induction events generalizing first second with
  | nil =>
    rw [List.length_nil, Nat.zero_add] at same
    exact same
  | cons event events ih =>
    rw [List.length_cons, Nat.add_right_comm] at same fits
    apply ih (same.step (fits event List.mem_cons_self)).2
    intro other member
    exact (fits other (List.mem_cons_of_mem _ member)).fewer (by omega)

end Same

/-- From one event to the next no version of a layer is lost, unless it is deleted, and a new one
comes last. -/
theorem times_grow (same : Same databases databases 1) (fits : event.Fits 1) {id : DatasourceId}
    (nulFree : id.NulFree) {times later : List Int}
    (listed : databases.layers.timeseries id = .ok times)
    (listedLater : (databases.step event).2.layers.timeseries id = .ok later) :
    times <+: later ∧ later.Pairwise (· < ·) := by
  obtain ⟨commits, holds, -⟩ := same.layers.alike.layers id nulFree
  have unchanged : Grown 0 commits commits := .kept
  cases event with
  | layers request =>
    have clock := fits.clock request rfl
    obtain ⟨laterCommits, grown, laterHolds⟩ := LayerStore.run_grown holds nulFree
      (fits.named request rfl) same.given clock.1 (by omega)
    exact holds.times_grow laterHolds grown listed listedLater
  | registry operation => exact holds.times_grow holds unchanged listed listedLater
  | restart => exact holds.times_grow holds.reopened unchanged listed listedLater

end Databases

/-- Whatever is asked of the databases, it makes no difference to any answer whether they are
closed and opened again, and where.  Of a layer that is there before an event and after it, every
time stays, and a new one is behind all that were there, whatever the clock reads. -/
theorem restarts_unseen (names : Names) (events : List DatabaseEvent)
    (given : ∀ n, (names.datasources.candidate n).NulFree)
    (fits : ∀ event ∈ events, event.Fits events.length) :
    (Databases.empty names).answers events =
        (Databases.empty names).answers (events.filter (!·.isRestart)) ∧
      ∀ earlier event, earlier ++ [event] <+: events → ∀ id : DatasourceId, id.NulFree →
        ∀ times later,
          ((Databases.empty names).after earlier).layers.timeseries id = .ok times →
          ((Databases.empty names).after (earlier ++ [event])).layers.timeseries id = .ok later →
          times <+: later ∧ later.Pairwise (· < ·) := by
  refine ⟨(Databases.same_empty given _).answers_eq fits, ?_⟩
  intro earlier event starts id nulFree times later listed listedLater
  have long : earlier.length + 1 ≤ events.length := by simpa using starts.length_le
  have fitsHere : ∀ other ∈ earlier ++ [event], other.Fits (earlier.length + 1) :=
    fun other member => (fits other (starts.subset member)).fewer long
  -- Databases cannot be told apart from themselves, and so they hold some commits of every layer.
  have same : Databases.Same ((Databases.empty names).after earlier)
      ((Databases.empty names).after earlier) 1 :=
    (Databases.same_empty given _).after fun other member =>
      fitsHere other (List.mem_append_left _ member)
  rw [Databases.after, List.foldl_append] at listedLater
  have fitsEvent : event.Fits 1 := (fitsHere event (by simp)).fewer (by omega)
  exact Databases.times_grow same fitsEvent nulFree listed listedLater

/-- A layer is set at 5, and set again after a restart, when the clock has gone back to 3. -/
def interrupted : List DatabaseEvent :=
  [.layers ⟨Unit, .insertLayer ⟨"d"⟩ .empty, 5⟩, .registry .create, .restart,
    .layers ⟨Unit, .insertLayer ⟨"d"⟩ .empty, 3⟩, .layers ⟨_, .timeseries ⟨"d"⟩, 3⟩]

theorem interrupted_fits : ∀ event ∈ interrupted, event.Fits interrupted.length := by
  have nulFree : DatasourceId.NulFree ⟨"d"⟩ := by decide
  intro event member
  simp only [interrupted, List.mem_cons, List.not_mem_nil, or_false] at member
  refine ⟨fun request same id named => ?_, fun request same => ?_⟩
  · rcases member with rfl | rfl | rfl | rfl | rfl <;> cases same <;> cases named <;> exact nulFree
  · rcases member with rfl | rfl | rfl | rfl | rfl <;> cases same <;> decide

theorem restarts_unseen_interrupted :
    let names := Names.behind [] [] []
    (Databases.empty names).answers interrupted =
        (Databases.empty names).answers (interrupted.filter (!·.isRestart)) ∧
      ((Databases.empty names).after (interrupted.take 3)).layers.timeseries ⟨"d"⟩ = .ok [5] ∧
      ((Databases.empty names).after (interrupted.take 4)).layers.timeseries ⟨"d"⟩ = .ok [5, 6] ∧
      ([5] : List Int) <+: [5, 6] := by
  have told := restarts_unseen (.behind [] [] []) interrupted (Names.behind_nulFree [] [] nofun)
    interrupted_fits
  have first : ((Databases.empty (.behind [] [] [])).after
      (interrupted.take 3)).layers.timeseries ⟨"d"⟩ = .ok [5] :=
    LayerStore.timeseries_of_stamps rfl (by decide +kernel) (by decide)
  have last : ((Databases.empty (.behind [] [] [])).after
      (interrupted.take 4)).layers.timeseries ⟨"d"⟩ = .ok [5, 6] :=
    LayerStore.timeseries_of_stamps rfl (by decide +kernel) (by decide)
  refine ⟨told.1, first, last, ?_⟩
  exact (told.2 (interrupted.take 3) (.layers ⟨Unit, .insertLayer ⟨"d"⟩ .empty, 3⟩)
    (List.take_prefix 4 interrupted) ⟨"d"⟩ (by decide) [5] [5, 6] first last).1

end LayerGateway
