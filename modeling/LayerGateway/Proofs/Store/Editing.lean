import LayerGateway.Proofs.Geo.Address
import LayerGateway.Proofs.Store.Readable
import LayerGateway.Proofs.Store.Snapshots

/-!
# Editing a feature

An edit exchanges the first feature that has an address for another one.  That one takes over the
address as it was, text or number, so every feature is found where it was found before.

* `Edits` says all that an edit does to a layer.
* `editFeature_edits` says that an edit does so if there is a feature with the address, and nothing
  otherwise.
-/

namespace LayerGateway

namespace LayerStore

variable {start store later : LayerStore} {id : DatasourceId} {now : Int} {geoId : String}
  {collection : FeatureCollection} {feature former : Feature} {place : Nat} {value : Json}

/-! ## Both ways of an edit -/

theorem editFeature_of_absent (loaded : store.load id = .ok collection)
    (absent : ∀ held ∈ collection.features, held.geoId? ≠ some geoId) (now : Int)
    (feature : Feature) :
    store.editFeature now id geoId feature =
      (.error (.featureNotFound id geoId), store.withSlot id) := by
  refine changing_error ?_
  rw [load_withSlot, bind_of_ok loaded]
  simp only [FeatureCollection.position?_eq_none_iff.2 absent]
  rfl

theorem editFeature_of_finds (loaded : store.load id = .ok collection)
    (finds : collection.Finds geoId place former) (has : former.address? = some value)
    (committed : (store.withSlot id).commit now id { collection with
      features := collection.features.set place
        (feature.withProperty Feature.addressKey value) } = .ok later) :
    store.editFeature now id geoId feature =
      (.ok (feature.withProperty Feature.addressKey value), later) := by
  refine changing_ok ?_
  rw [load_withSlot, bind_of_ok loaded]
  simp only [finds.position?_eq, finds.find?_eq, Feature.replacing_of_address? feature has]
  rw [bind_of_ok committed]
  rfl

/-! ## All that an edit does -/

/-- A feature was exchanged for another one, which is stored as it was answered, and has the
address of the one that it was exchanged for. -/
structure Edits (start store later : LayerStore) (id : DatasourceId) (now : Int) (geoId : String)
    (place : Nat) (stored : Feature) (collection edited : FeatureCollection) : Prop where
  extra : edited.extra = collection.extra
  features : edited.features = collection.features.set place stored
  content : later.backend.content? id = some edited.bytes
  addresses : stored.geoId? = some geoId
  places : ∀ other, edited.position? other = collection.position? other
  load : edited.Storable → later.load id = .ok edited
  gains : edited.Storable → start.Undisturbed id 1 store → 0 ≤ now → now < Decimal.signedBound →
    ∃ times stamp, store.Gains later id edited times stamp

/-- An edit of a layer that is read as it was written.  If no feature has the address, nothing of
the layer changes.  Otherwise the first one that has it is exchanged, and one version is added if
no other layer was changed of which the versions are taken for versions of this one. -/
theorem editFeature_edits (fresh : start = .inMemory ∨ start = .onDisk {})
    (reached : start.Reached store) (content : store.backend.content? id = some collection.bytes)
    (storable : collection.Storable) (now : Int) (geoId : String) (feature : Feature) :
    ((∀ held ∈ collection.features, held.geoId? ≠ some geoId) ∧
      ∃ later, store.editFeature now id geoId feature = (.error (.featureNotFound id geoId), later) ∧
        later.backend = store.backend) ∨
    ∃ place former value later edited, collection.Finds geoId place former ∧
      former.address? = some value ∧
      store.editFeature now id geoId feature =
        (.ok (feature.withProperty Feature.addressKey value), later) ∧
      Edits start store later id now geoId place (feature.withProperty Feature.addressKey value)
        collection edited := by
  have loaded := load_of_storable content storable
  cases position : collection.position? geoId with
  | none =>
    have absent := FeatureCollection.position?_eq_none_iff.1 position
    exact .inl ⟨absent, _, editFeature_of_absent loaded absent now feature,
      withSlot_backend store id⟩
  | some place =>
    obtain ⟨former, finds⟩ := FeatureCollection.finds_of_position? position
    obtain ⟨value, has, address⟩ := Feature.address?_of_geoId? finds.addresses
    let stored := feature.withProperty Feature.addressKey value
    have addresses : stored.geoId? = some geoId :=
      (feature.geoId?_withProperty value).trans address
    let edited : FeatureCollection :=
      { collection with features := collection.features.set place stored }
    obtain ⟨later, timestamp, committed, backend⟩ := reached.commit_eq fresh now id edited
    have contentLater : later.backend.content? id = some edited.bytes := by
      rw [backend, Backend.content?_commit_self]
    refine .inr ⟨place, former, value, later, edited, finds, has,
      editFeature_of_finds loaded finds has committed, rfl, rfl, contentLater, addresses,
      FeatureCollection.position?_set finds addresses, load_of_storable contentLater, ?_⟩
    intro editedStorable undisturbed notBefore inTime
    obtain ⟨commits, holds⟩ := undisturbed.holds fresh
    -- The layer is there, so something was committed to it.
    have stored : commits ≠ [] := by
      rintro rfl
      rw [holds.content?_eq] at content
      cases content
    exact holds.commit_gains stored notBefore (by omega) editedStorable committed

/-- Two features with the same address, one as a number and one as a text. -/
def sevens : FeatureCollection :=
  ⟨[.ofAddress (.number (.integer 7)), .ofAddress (.string "7")], .empty⟩

/-- A store on disk with a layer, just opened. -/
def reopening : LayerStore :=
  ((onDisk {}).run (.insertLayer ⟨"a"⟩ sevens) 5 (.behind [] [] [])).2.1.reopened

/-- A feature with another address takes the place and the address of the first one, at a new time
although the clock has gone back. -/
theorem editFeature_edits_reopening :
    let feature := (Feature.ofGeometry (.bool true)).withGeoId "x"
    let stored := feature.withProperty Feature.addressKey (.number (.integer 7))
    let edited : FeatureCollection := ⟨[stored, .ofAddress (.string "7")], .empty⟩
    ∃ later stamp, reopening.editFeature 3 ⟨"a"⟩ "7" feature = (.ok stored, later) ∧
      later.load ⟨"a"⟩ = .ok edited ∧ reopening.Gains later ⟨"a"⟩ edited [5] stamp := by
  intro feature stored edited
  have reached : (onDisk {}).Reached reopening := .reopened (.run _ 5 _ .start)
  have undisturbed : (onDisk {}).Undisturbed ⟨"a"⟩ 1 reopening := by
    refine .reopened (.run _ 5 _ (fun other about differ => ?_) (by decide) (by decide) (.start 2))
    cases about
    exact absurd rfl differ
  have content : reopening.backend.content? ⟨"a"⟩ = some sevens.bytes := by decide +kernel
  have storable : sevens.Storable := by
    unfold FeatureCollection.Storable
    decide +kernel
  have editedStorable : edited.Storable := by
    unfold FeatureCollection.Storable
    decide +kernel
  obtain ⟨absent, -⟩ | ⟨place, former, value, later, after, finds, has, ran, edits⟩ :=
    editFeature_edits (.inr rfl) reached content storable 3 "7" feature
  · exact absurd rfl (absent _ List.mem_cons_self)
  have position : sevens.position? "7" = some 0 := by decide +kernel
  cases finds.position?_eq.symm.trans position
  cases finds.here
  cases has
  obtain rfl : after = edited := by
    obtain ⟨features, extra⟩ := after
    obtain rfl : features = edited.features := edits.features
    obtain rfl : extra = .empty := edits.extra
    rfl
  obtain ⟨times, stamp, gains⟩ :=
    edits.gains editedStorable undisturbed (by decide) (by decide)
  have listed : reopening.timeseries ⟨"a"⟩ = .ok [5] :=
    timeseries_of_stamps rfl (by decide +kernel) (by decide)
  cases gains.before.symm.trans listed
  exact ⟨later, stamp, ran, edits.load editedStorable, gains⟩

/-- A store on disk with a layer and another one, of which the versions are taken for versions of
the first, and which was changed when the clock had gone back.  It was opened again. -/
def overlapping : LayerStore :=
  let first := ((onDisk {}).run (.insertLayer ⟨"a"⟩ ⟨[.ofAddress (.string "g")], .empty⟩) 100
    (.behind [] [] [])).2.1
  (first.run (.insertLayer ⟨"a\x00b"⟩ .empty) 50 (.behind [] [] [])).2.1.reopened

/-- No version is added by an edit.  The last time is looked up among the versions of the other
layer, so the version that was the last one is overwritten. -/
theorem overlapping_overwritten :
    let feature := (Feature.ofGeometry (.bool true)).withGeoId "g"
    let ended := overlapping.editFeature 100 ⟨"a"⟩ "g" feature
    (onDisk {}).Reached overlapping ∧ ended.1 = .ok feature ∧
      overlapping.timeseries ⟨"a"⟩ = .ok [50, 100] ∧ ended.2.timeseries ⟨"a"⟩ = .ok [50, 100] ∧
      overlapping.previous ⟨"a"⟩ 100 = .ok (100, ⟨[.ofAddress (.string "g")], .empty⟩) ∧
      ended.2.previous ⟨"a"⟩ 100 = .ok (100, ⟨[feature], .empty⟩) := by
  intro feature ended
  -- The keys of the other layer come last, whatever the times in them.
  have sorted : ([100, 50] : List Int).mergeSort = [50, 100] := by
    simp [List.mergeSort, List.MergeSort.Internal.splitInTwo]
  refine ⟨.reopened (.run _ 50 _ (.run _ 100 _ .start)), ?_, sorted ▸ ?_, sorted ▸ ?_, ?_, ?_⟩
  · decide +kernel
  · exact timeseries_eq_mergeSort (by decide +kernel) (by decide +kernel)
  · exact timeseries_eq_mergeSort (by decide +kernel) (by decide +kernel)
  · decide +kernel
  · decide +kernel

end LayerStore

end LayerGateway
