import LayerGateway.Proofs.Store.Held

/-!
# Two stores side by side

That two stores cannot be told apart is said of stores of different kinds, of a store that was
closed and opened again and one that was not, and of stores that differ in layers which are not
looked at.  Each time a relation between stores is to be kept by every operation, and the answers
are to be the same.

* `Paired` says what it takes, for the operations on one layer: both stores answer the few
  questions that the operations ask, and stay related when a version is added, the layer removed
  or a slot taken or given up.
* `Paired.run` says that this is enough.
-/

namespace LayerGateway

def LayerOperation.asked? {α : Type} : LayerOperation α → Option Int
  | .previous _ timestamp => some timestamp
  | _ => none

namespace LayerStore

variable {α : Type} {first second : LayerStore} {id : DatasourceId} {now : Int}
  {before after : LayerStore → LayerStore → Prop}

/-- What two related stores have in common where a layer is concerned.  The stores are related
by `after` once an operation is over, since an operation may use up time. -/
structure Paired (id : DatasourceId) (now : Int)
    (before after : LayerStore → LayerStore → Prop) : Prop where
  idle : ∀ {first second}, before first second → after first second
  content?_eq : ∀ {first second}, before first second →
    first.backend.content? id = second.backend.content? id
  stamps_eq : ∀ {first second}, before first second →
    first.backend.stamps id = second.backend.stamps id
  withSlot : ∀ {first second}, before first second →
    before (first.withSlot id) (second.withSlot id)
  withoutSlot : ∀ {first second}, before first second →
    after (first.withoutSlot id) (second.withoutSlot id)
  commit : ∀ {first second}, before first second → ∀ collection,
    ∃ firstLater secondLater, first.commit now id collection = .ok firstLater ∧
      second.commit now id collection = .ok secondLater ∧ after firstLater secondLater
  remove : ∀ {first second}, before first second →
    after ({ first with backend := first.backend.remove id }.withoutSlot id)
      ({ second with backend := second.backend.remove id }.withoutSlot id)

/-- Two changes fail in the same way, or answer the same and leave related stores. -/
inductive Twins (related : LayerStore → LayerStore → Prop) :
    Except StoreError (α × LayerStore) → Except StoreError (α × LayerStore) → Prop where
  | ok (value : α) {first second : LayerStore} (later : related first second) :
      Twins related (.ok (value, first)) (.ok (value, second))
  | error (cause : StoreError) : Twins related (.error cause) (.error cause)

namespace Paired

/-! ## Answers -/

theorem contains_eq (paired : Paired id now before after) (related : before first second) :
    first.backend.contains id = second.backend.contains id :=
  congrArg Option.isSome (paired.content?_eq related)

theorem load_eq (paired : Paired id now before after) (related : before first second) :
    first.load id = second.load id := by
  rw [load, load, paired.content?_eq related]

theorem demand_eq (paired : Paired id now before after) (related : before first second) :
    first.demand id = second.demand id := by
  rw [demand, demand, paired.contains_eq related]

theorem timeseries_eq (paired : Paired id now before after) (related : before first second) :
    first.timeseries id = second.timeseries id := by
  rw [timeseries, timeseries, paired.demand_eq related, paired.stamps_eq related]

/-! ## Changes -/

theorem twins_commit (paired : Paired id now before after) (related : before first second)
    (collection : FeatureCollection) (value : α) :
    Twins after (do return (value, ← first.commit now id collection))
      (do return (value, ← second.commit now id collection)) := by
  obtain ⟨firstLater, secondLater, firstRan, secondRan, later⟩ := paired.commit related collection
  rw [firstRan, secondRan]
  exact .ok value later

theorem changing (paired : Paired id now before after) (related : before first second)
    {change : LayerStore → Except StoreError (α × LayerStore)}
    (twins : ∀ {first second}, before first second → Twins after (change first) (change second)) :
    (first.changing id change).1 = (second.changing id change).1 ∧
      after (first.changing id change).2 (second.changing id change).2 := by
  have held := paired.withSlot related
  have ended := twins held
  generalize firstChanged : change (first.withSlot id) = firstResult at ended
  generalize secondChanged : change (second.withSlot id) = secondResult at ended
  cases ended with
  | ok value later =>
    rw [changing_ok firstChanged, changing_ok secondChanged]
    exact ⟨rfl, later⟩
  | error cause =>
    rw [changing_error firstChanged, changing_error secondChanged]
    exact ⟨rfl, paired.idle held⟩

theorem insertLayer (paired : Paired id now before after) (related : before first second)
    (collection : FeatureCollection) :
    (first.insertLayer now id collection).1 = (second.insertLayer now id collection).1 ∧
      after (first.insertLayer now id collection).2 (second.insertLayer now id collection).2 :=
  paired.changing related fun held => paired.twins_commit held collection ()

theorem insertFeature (paired : Paired id now before after) (related : before first second)
    (geoId : String) (feature : Feature) :
    (first.insertFeature now geoId id feature).1 = (second.insertFeature now geoId id feature).1 ∧
      after (first.insertFeature now geoId id feature).2
        (second.insertFeature now geoId id feature).2 := by
  refine paired.changing related fun {first second} held => ?_
  rw [paired.load_eq held]
  cases loaded : second.load id with
  | error cause => exact .error cause
  | ok collection =>
    cases addressed : feature.geoId? with
    | some given => exact paired.twins_commit held _ given
    | none => exact paired.twins_commit held _ geoId

theorem editFeature (paired : Paired id now before after) (related : before first second)
    (geoId : String) (feature : Feature) :
    (first.editFeature now id geoId feature).1 = (second.editFeature now id geoId feature).1 ∧
      after (first.editFeature now id geoId feature).2
        (second.editFeature now id geoId feature).2 := by
  refine paired.changing related fun {first second} held => ?_
  rw [paired.load_eq held]
  cases loaded : second.load id with
  | error cause => exact .error cause
  | ok collection =>
    cases position : collection.position? geoId with
    | none =>
      simp only [bind, Except.bind, position]
      exact .error _
    | some place =>
      cases found : collection.find? geoId with
      | none =>
        simp only [bind, Except.bind, position, found]
        exact .error _
      | some stored =>
        simp only [bind, Except.bind, position, found]
        exact paired.twins_commit held _ (feature.replacing stored)

theorem deleteLayer (paired : Paired id now before after) (related : before first second) :
    (first.deleteLayer id).1 = (second.deleteLayer id).1 ∧
      after (first.deleteLayer id).2 (second.deleteLayer id).2 := by
  unfold LayerStore.deleteLayer
  rw [paired.demand_eq related]
  cases second.demand id with
  | ok found => exact ⟨rfl, paired.remove related⟩
  | error cause => exact ⟨rfl, paired.withoutSlot related⟩

/-! ## Operations -/

/-- An operation that names the layer gets the same answer from both stores, gives the same names
and leaves related stores. -/
theorem run (paired : Paired id now before after) (related : before first second)
    (operation : LayerOperation α) (names : Names) (named : operation.named? = some id)
    (versions : ∀ timestamp, operation.asked? = some timestamp →
      first.backend.versionAt id timestamp = second.backend.versionAt id timestamp) :
    (first.run operation now names).1 = (second.run operation now names).1 ∧
      (first.run operation now names).2.2 = (second.run operation now names).2.2 ∧
        after (first.run operation now names).2.1 (second.run operation now names).2.1 := by
  cases operation with
  -- These name no layer.
  | newLayer | getLayers => cases named
  | insertLayer other collection =>
    cases named
    obtain ⟨same, later⟩ := paired.insertLayer related collection
    exact ⟨same, rfl, later⟩
  | deleteLayer other =>
    cases named
    obtain ⟨same, later⟩ := paired.deleteLayer related
    exact ⟨same, rfl, later⟩
  | insertFeature other feature =>
    cases named
    obtain ⟨same, later⟩ := paired.insertFeature related names.feature.1 feature
    exact ⟨same, rfl, later⟩
  | editFeature other geoId feature =>
    cases named
    obtain ⟨same, later⟩ := paired.editFeature related geoId feature
    exact ⟨same, rfl, later⟩
  | getLayer other =>
    cases named
    exact ⟨paired.load_eq related, rfl, paired.idle related⟩
  | timeseries other =>
    cases named
    exact ⟨paired.timeseries_eq related, rfl, paired.idle related⟩
  | previous other timestamp =>
    cases named
    refine ⟨?_, rfl, paired.idle related⟩
    simp only [LayerStore.run, previous, paired.demand_eq related, versions timestamp rfl]
  | hasLayer other =>
    cases named
    exact ⟨congrArg Except.ok (paired.contains_eq related), rfl, paired.idle related⟩

end Paired

end LayerStore

end LayerGateway
