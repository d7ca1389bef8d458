import LayerGateway.Geo.Collection
import LayerGateway.Proofs.OrderedMap

/-!
# Finding features

A feature is addressed by a text or a number, and whoever looks for an address gets the first
feature that has it, if it is as a text or as a number.

* `FeatureCollection.Finds` says which feature that is and where it stands.
* `position?_set` says that a feature may be exchanged for one with the same address without any
  consequence to where others are found, and `find?_snoc` what is found when a feature was added.
-/

namespace LayerGateway

/-! ## Addresses -/

namespace Feature

variable {feature stored : Feature} {geoId : String} {value : Json}

/-- The feature as it is stored when it is added under an address. -/
def addressedBy (feature : Feature) (geoId : String) : Feature :=
  if feature.geoId?.isNone then feature.withGeoId geoId else feature

def ofAddress (value : Json) : Feature :=
  (ofGeometry .null).withProperty addressKey value

theorem address?_withProperty (feature : Feature) (value : Json) :
    (feature.withProperty addressKey value).address? = some value :=
  OrderedMap.get?_insert_self _ _ _

theorem geoId?_withProperty (feature : Feature) (value : Json) :
    (feature.withProperty addressKey value).geoId? = addressOf value := by
  rw [geoId?, address?_withProperty, Option.bind_some]

theorem geoId?_addressedBy (addresses : ∀ given, feature.geoId? = some given → given = geoId) :
    (feature.addressedBy geoId).geoId? = some geoId := by
  unfold addressedBy
  cases has : feature.geoId? with
  | none => exact geoId?_withProperty feature (.string geoId)
  | some given =>
    obtain rfl := addresses given has
    exact has

/-- What has an address has it from a property. -/
theorem address?_of_geoId? (has : stored.geoId? = some geoId) :
    ∃ value, stored.address? = some value ∧ addressOf value = some geoId :=
  Option.bind_eq_some_iff.1 has

theorem replacing_of_address? (feature : Feature) (has : stored.address? = some value) :
    feature.replacing stored = feature.withProperty addressKey value := by
  rw [replacing, has]

end Feature

/-! ## Places -/

namespace FeatureCollection

variable {collection : FeatureCollection} {feature : Feature} {geoId : String} {place : Nat}

/-- The first feature with an address, and its place. -/
structure Finds (collection : FeatureCollection) (geoId : String) (place : Nat)
    (feature : Feature) : Prop where
  here : collection.features[place]? = some feature
  addresses : feature.geoId? = some geoId
  first : ∀ (earlier : Nat) (other : Feature), earlier < place →
    collection.features[earlier]? = some other → other.geoId? ≠ some geoId

theorem Finds.position?_eq (finds : collection.Finds geoId place feature) :
    collection.position? geoId = some place := by
  obtain ⟨bound, here⟩ := List.getElem?_eq_some_iff.1 finds.here
  refine List.findIdx?_eq_some_iff_getElem.2 ⟨bound, ?_, fun earlier before => ?_⟩
  · rw [here]
    exact beq_iff_eq.2 finds.addresses
  · have short : earlier < collection.features.length := Nat.lt_trans before bound
    rw [beq_iff_eq]
    exact finds.first earlier _ before (List.getElem?_eq_getElem short)

theorem Finds.find?_eq (finds : collection.Finds geoId place feature) :
    collection.find? geoId = some feature := by
  have position := finds.position?_eq
  unfold position? at position
  rw [find?, List.find?_eq_bind_findIdx?_getElem?, position, Option.bind_some, finds.here]

theorem position?_eq_none_iff : collection.position? geoId = none ↔
    ∀ held ∈ collection.features, held.geoId? ≠ some geoId := by
  simp [position?, List.findIdx?_eq_none_iff]

theorem finds_of_position? (found : collection.position? geoId = some place) :
    ∃ feature, collection.Finds geoId place feature := by
  obtain ⟨bound, here, first⟩ := List.findIdx?_eq_some_iff_getElem.1 found
  refine ⟨_, List.getElem?_eq_getElem bound, beq_iff_eq.1 here, fun earlier other before held => ?_⟩
  obtain ⟨_, rfl⟩ := List.getElem?_eq_some_iff.1 held
  exact fun addresses => first earlier before (beq_iff_eq.2 addresses)

/-- Where features are found depends on the addresses only. -/
theorem position?_eq_findIdx? (collection : FeatureCollection) (geoId : String) :
    collection.position? geoId =
      (collection.features.map Feature.geoId?).findIdx? (· == some geoId) := by
  rw [List.findIdx?_map]
  rfl

theorem position?_set (finds : collection.Finds geoId place feature) {stored : Feature}
    (keeps : stored.geoId? = some geoId) (other : String) :
    position? { collection with features := collection.features.set place stored } other =
      collection.position? other := by
  obtain ⟨bound, here⟩ := List.getElem?_eq_some_iff.1 finds.here
  have inside : place < (collection.features.map Feature.geoId?).length := by
    rwa [List.length_map]
  have same : (collection.features.map Feature.geoId?)[place] = stored.geoId? := by
    rw [List.getElem_map, here, finds.addresses, keeps]
  -- The addresses are the same ones in the same order.
  rw [position?_eq_findIdx?, position?_eq_findIdx?, List.map_set, ← same, List.set_getElem_self]

/-- Of an added feature's address the feature itself is found, unless there was one before. -/
theorem find?_snoc (collection : FeatureCollection) (addresses : feature.geoId? = some geoId) :
    find? { collection with features := collection.features ++ [feature] } geoId =
      some ((collection.find? geoId).getD feature) := by
  simp only [find?, List.find?_append, List.find?_singleton, addresses, beq_self_eq_true, if_true]
  cases collection.features.find? fun held => held.geoId? == some geoId <;> rfl

end FeatureCollection

end LayerGateway
