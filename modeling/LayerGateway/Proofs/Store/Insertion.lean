import LayerGateway.Proofs.Store.Editing

/-!
# Adding a feature

A feature is added behind those that a layer has.  It brings its address with it, a text or a
number; one that does not, or has something else in that place, gets a text that was made up.
Whatever address was found before is still found at the feature where it was.

* `Feature.AddedAs` says how a feature is stored, by what it has in the place of an address.
* `Adds` says all that an addition does to a layer, and `insertFeature_adds` that an addition does
  so if the layer is there, and nothing otherwise.
-/

namespace LayerGateway

/-! ## The feature that is stored -/

namespace Feature

variable {feature stored : Feature} {spare geoId : String}

def property? (feature : Feature) (key : String) : Option Json :=
  feature.properties.bind (·.get? key)

/-- A feature differs from another one in one property only, which it has. -/
structure SetsProperty (feature : Feature) (key : String) (value : Json) (stored : Feature) :
    Prop where
  id : stored.id = feature.id
  geometry : stored.geometry = feature.geometry
  extra : stored.extra = feature.extra
  set : stored.property? key = some value
  others : ∀ other, other ≠ key → stored.property? other = feature.property? other

/-- How a feature is stored when it is added, and the address that is answered; `spare` is the one
that is made up. -/
inductive AddedAs (feature : Feature) (spare : String) : String → Feature → Prop where
  | text (text : String) : feature.property? addressKey = some (.string text) →
      AddedAs feature spare text feature
  | number (value : Number) : feature.property? addressKey = some (.number value) →
      AddedAs feature spare (String.ofList value.text) feature
  | madeUp (stored : Feature) :
      (∀ text, feature.property? addressKey ≠ some (.string text)) →
      (∀ value, feature.property? addressKey ≠ some (.number value)) →
      feature.SetsProperty addressKey (.string spare) stored →
      AddedAs feature spare spare stored

theorem setsProperty_withProperty (feature : Feature) (key : String) (value : Json) :
    feature.SetsProperty key value (feature.withProperty key value) where
  id := rfl
  geometry := rfl
  extra := rfl
  set := OrderedMap.get?_insert_self _ _ _
  others other differ := by
    refine (OrderedMap.get?_insert_of_ne _ differ value).trans ?_
    unfold property?
    cases feature.properties <;> rfl

/-- Nothing is left open about the feature with the property. -/
theorem SetsProperty.eq {key : String} {value : Json}
    (sets : feature.SetsProperty key value stored) : stored = feature.withProperty key value := by
  obtain ⟨properties, kept, has⟩ := Option.bind_eq_some_iff.1 sets.set
  have same : properties = (feature.properties.getD .empty).insert key value := by
    refine OrderedMap.ext_get? fun other => ?_
    by_cases own : other = key
    · rw [own, has, OrderedMap.get?_insert_self]
    · have old := (setsProperty_withProperty feature key value).others other own
      rw [← sets.others other own, eq_comm, property?, kept] at old
      exact old
  obtain ⟨id, geometry, _, extra⟩ := stored
  obtain ⟨rfl, rfl, rfl⟩ : id = feature.id ∧ geometry = feature.geometry ∧ extra = feature.extra :=
    ⟨sets.id, sets.geometry, sets.extra⟩
  obtain rfl : _ = some properties := kept
  rw [same, withProperty]

/-- What is stored has the address that is answered. -/
theorem AddedAs.geoId?_eq (added : feature.AddedAs spare geoId stored) :
    stored.geoId? = some geoId := by
  cases added with
  | text _ has | number _ has => exact Option.bind_eq_some_iff.2 ⟨_, has, rfl⟩
  | madeUp _ _ _ sets => exact Option.bind_eq_some_iff.2 ⟨_, sets.set, rfl⟩

theorem addedAs_of_geoId? (has : feature.geoId? = some geoId) :
    feature.AddedAs spare geoId feature := by
  obtain ⟨value, property, address⟩ := address?_of_geoId? has
  cases value with
  | string text =>
    cases address
    exact .text _ property
  | number value =>
    cases address
    exact .number value property
  | null | bool _ | array _ | object _ => cases address

theorem addedAs_of_no_geoId (lacks : feature.geoId? = none) (spare : String) :
    feature.AddedAs spare spare (feature.withGeoId spare) := by
  have nothing : ∀ value, feature.property? addressKey = some value → addressOf value = none :=
    Option.bind_eq_none_iff.1 lacks
  refine .madeUp _ (fun text has => ?_) (fun value has => ?_) (setsProperty_withProperty ..)
  · cases nothing _ has
  · cases nothing _ has

end Feature

theorem FeatureCollection.find?_snoc_of_find? {collection : FeatureCollection} {geoId : String}
    {held : Feature} (found : collection.find? geoId = some held) (stored : Feature) :
    find? { collection with features := collection.features ++ [stored] } geoId = some held := by
  rw [find?] at found ⊢
  rw [List.find?_append, found]
  rfl

/-! ## Both ways of an addition -/

namespace LayerStore

variable {start store later : LayerStore} {id : DatasourceId} {now : Int} {spare geoId : String}
  {collection : FeatureCollection} {feature stored : Feature}

theorem insertFeature_of_absent (absent : store.backend.content? id = none) (now : Int)
    (spare : String) (feature : Feature) :
    store.insertFeature now spare id feature = (.error (.layerNotFound id), store.withSlot id) := by
  refine changing_error ?_
  have refused : store.load id = .error (.layerNotFound id) := by rw [load, absent]
  rw [load_withSlot, refused]
  rfl

/-- One feature is stored behind the others. -/
theorem insertFeature_of_load (loaded : store.load id = .ok collection) (now : Int)
    (spare : String) (feature : Feature) :
    ∃ geoId stored, feature.AddedAs spare geoId stored ∧
      ∀ later, (store.withSlot id).commit now id
          { collection with features := collection.features ++ [stored] } = .ok later →
        store.insertFeature now spare id feature = (.ok geoId, later) := by
  cases has : feature.geoId? with
  | some geoId =>
    refine ⟨geoId, feature, Feature.addedAs_of_geoId? has, fun later committed => changing_ok ?_⟩
    rw [load_withSlot, bind_of_ok loaded]
    simp only [has, appendFeature]
    rw [bind_of_ok committed]
    rfl
  | none =>
    refine ⟨spare, feature.withGeoId spare, Feature.addedAs_of_no_geoId has spare,
      fun later committed => changing_ok ?_⟩
    rw [load_withSlot, bind_of_ok loaded]
    simp only [has, appendFeature]
    rw [bind_of_ok committed]
    rfl

/-! ## All that an addition does -/

/-- A feature was added, and everything else is as it was. -/
structure Adds (start store later : LayerStore) (id : DatasourceId) (now : Int) (geoId : String)
    (stored : Feature) (collection added : FeatureCollection) : Prop where
  extra : added.extra = collection.extra
  features : added.features = collection.features ++ [stored]
  content : later.backend.content? id = some added.bytes
  address : stored.geoId? = some geoId
  finds : ∀ other held, collection.find? other = some held → added.find? other = some held
  load : added.Storable → later.load id = .ok added
  gains : added.Storable → start.Undisturbed id 1 store → 0 ≤ now → now < Decimal.signedBound →
    ∃ times stamp, store.Gains later id added times stamp

/-- An addition to a layer that is read as it was written, and to one that is not there.  One
version is added if no other layer was changed of which the versions are taken for versions of
this one. -/
theorem insertFeature_adds (fresh : start = .inMemory ∨ start = .onDisk {})
    (reached : start.Reached store) (id : DatasourceId) (now : Int) (spare : String)
    (feature : Feature) :
    (store.backend.content? id = none →
      ∃ later, store.insertFeature now spare id feature = (.error (.layerNotFound id), later) ∧
        later.backend = store.backend) ∧
    ∀ collection : FeatureCollection, store.backend.content? id = some collection.bytes →
      collection.Storable →
      ∃ geoId stored later added, feature.AddedAs spare geoId stored ∧
        store.insertFeature now spare id feature = (.ok geoId, later) ∧
        Adds start store later id now geoId stored collection added := by
  refine ⟨fun absent => ⟨_, insertFeature_of_absent absent now spare feature,
    withSlot_backend store id⟩, fun collection content storable => ?_⟩
  obtain ⟨geoId, stored, addedAs, ran⟩ :=
    insertFeature_of_load (load_of_storable content storable) now spare feature
  let added : FeatureCollection :=
    { collection with features := collection.features ++ [stored] }
  obtain ⟨later, timestamp, committed, backend⟩ := reached.commit_eq fresh now id added
  have contentLater : later.backend.content? id = some added.bytes := by
    rw [backend, Backend.content?_commit_self]
  refine ⟨geoId, stored, later, added, addedAs, ran later committed, rfl, rfl, contentLater,
    addedAs.geoId?_eq, fun other held found => FeatureCollection.find?_snoc_of_find? found stored,
    load_of_storable contentLater, ?_⟩
  intro addedStorable undisturbed notBefore inTime
  obtain ⟨commits, holds⟩ := undisturbed.holds fresh
  -- The layer is there, so something was committed to it.
  have nonempty : commits ≠ [] := by
    rintro rfl
    rw [holds.content?_eq] at content
    cases content
  exact holds.commit_gains nonempty notBefore (by omega) addedStorable committed

/-- The address that is made up is that of a feature which is there already, so that one is found
still, and the clock has gone back. -/
theorem insertFeature_adds_reopening :
    let feature := Feature.ofAddress .null
    let stored := Feature.ofAddress (.string "7")
    let added : FeatureCollection := { sevens with features := sevens.features ++ [stored] }
    ∃ later stamp, reopening.insertFeature 3 "7" ⟨"a"⟩ feature = (.ok "7", later) ∧
      later.load ⟨"a"⟩ = .ok added ∧
      added.find? "7" = some (Feature.ofAddress (.number (.integer 7))) ∧
      reopening.Gains later ⟨"a"⟩ added [5] stamp := by
  intro feature stored added
  have reached : (onDisk {}).Reached reopening := .reopened (.run _ 5 _ .start)
  have undisturbed : (onDisk {}).Undisturbed ⟨"a"⟩ 1 reopening := by
    refine .reopened (.run _ 5 _ (fun other about differ => ?_) (by decide) (by decide) (.start 2))
    cases about
    exact absurd rfl differ
  have content : reopening.backend.content? ⟨"a"⟩ = some sevens.bytes := by decide +kernel
  have storable : sevens.Storable := by
    unfold FeatureCollection.Storable
    decide +kernel
  have addedStorable : added.Storable := by
    unfold FeatureCollection.Storable
    decide +kernel
  obtain ⟨geoId, kept, later, after, addedAs, ran, adds⟩ :=
    (insertFeature_adds (.inr rfl) reached ⟨"a"⟩ 3 "7" feature).2 sevens content storable
  have null : feature.property? Feature.addressKey = some .null := by decide +kernel
  cases addedAs with
  | text _ has | number _ has => cases has.symm.trans null
  | madeUp _ _ _ sets =>
    obtain rfl : kept = stored := sets.eq.trans (by decide +kernel)
    obtain rfl : after = added := by
      obtain ⟨features, extra⟩ := after
      obtain rfl : features = added.features := adds.features
      obtain rfl : extra = .empty := adds.extra
      rfl
    obtain ⟨times, stamp, gains⟩ := adds.gains addedStorable undisturbed (by decide) (by decide)
    have listed : reopening.timeseries ⟨"a"⟩ = .ok [5] :=
      timeseries_of_stamps rfl (by decide +kernel) (by decide)
    cases gains.before.symm.trans listed
    exact ⟨later, stamp, ran, adds.load addedStorable,
      adds.finds "7" _ (by decide +kernel), gains⟩

/-- No version is added by an addition.  The last time is looked up among the versions of the other
layer, so the version that was the last one is overwritten. -/
theorem overlapping_lost :
    let feature := Feature.ofAddress (.string "h")
    let ended := overlapping.insertFeature 100 "spare" ⟨"a"⟩ feature
    (onDisk {}).Reached overlapping ∧ ended.1 = .ok "h" ∧
      overlapping.timeseries ⟨"a"⟩ = .ok [50, 100] ∧ ended.2.timeseries ⟨"a"⟩ = .ok [50, 100] ∧
      overlapping.previous ⟨"a"⟩ 100 = .ok (100, ⟨[.ofAddress (.string "g")], .empty⟩) ∧
      ended.2.previous ⟨"a"⟩ 100 = .ok (100, ⟨[.ofAddress (.string "g"), feature], .empty⟩) := by
  intro feature ended
  -- The keys of the other layer come last, whatever the times in them.
  have sorted : ([100, 50] : List Int).mergeSort = [50, 100] := by
    simp [List.mergeSort, List.MergeSort.Internal.splitInTwo]
  refine ⟨.reopened (.run _ 50 _ (.run _ 100 _ .start)), ?_, sorted ▸ ?_, sorted ▸ ?_, ?_, ?_⟩
  · decide +kernel
  · exact timeseries_eq_mergeSort (by decide +kernel) (by decide +kernel)
  · exact timeseries_eq_mergeSort (by decide +kernel) (by decide +kernel)
  · decide +kernel
  · decide +kernel

end LayerStore

end LayerGateway
