import LayerGateway.Proofs.Gateway.Ownership
import LayerGateway.Proofs.Geo.Address
import LayerGateway.Proofs.Store.Legible

/-!
# What is found under an address

A feature is added behind those that are there, and looked for from the front.  So what is found
under the address that was answered is the feature that was added, unless another one had that
address before, be it as a text or as a number.

* `insertFeature_stores` says what is stored of a feature, and under which address.
* `exportFeature_of_insertFeature` says what is found under it right away.
-/

namespace LayerGateway

namespace LayerStore

variable {store later : LayerStore} {id : DatasourceId} {now : Int} {spare geoId : String}
  {feature : Feature}

/-- A feature that has an address is added under that one. -/
theorem insertFeature_addresses
    (inserted : store.insertFeature now spare id feature = (.ok geoId, later)) :
    ∀ given, feature.geoId? = some given → given = geoId := by
  intro given addressed
  simp only [insertFeature, changing] at inserted
  split at inserted
  · next changed =>
    cases inserted
    obtain ⟨collection, -, changed⟩ := ok_of_bind changed
    simp only [addressed] at changed
    obtain ⟨_, -, same⟩ := ok_of_bind changed
    cases same
    rfl
  · cases inserted

end LayerStore

namespace Gateway

variable {gateway after : Gateway} {caller : Caller} {datasource : DatasourceId} {feature : Feature}
  {geoId : String} {collection : FeatureCollection} {outcome : Outcome}

/-! ## Adding -/

/-- A feature was added to a layer under an address, behind those that the layer had. -/
structure Stores (gateway : Gateway) (caller : Caller) (datasource : DatasourceId)
    (feature : Feature) (geoId : String) (collection : FeatureCollection) (after : Gateway) :
    Prop where
  admitted : gateway.Authorized caller datasource
  allowed : after.Authorized caller datasource
  loaded : gateway.store.layers.load datasource = .ok collection
  addresses : (feature.addressedBy geoId).geoId? = some geoId
  content : after.store.layers.backend.content? datasource =
    some (FeatureCollection.bytes { collection with
      features := collection.features ++ [feature.addressedBy geoId] })

theorem authorized_of_registry (same : after.registry = gateway.registry)
    (allowed : gateway.Authorized caller datasource) : after.Authorized caller datasource := by
  cases caller with
  | trusted => trivial
  | keyed key => exact (congrArg (·.Lists key datasource) same).mpr allowed

theorem insertFeature_stores
    (ran : dispatch caller (.insertFeature datasource feature) gateway = (.ok outcome, after)) :
    ∃ geoId collection, outcome = .featureRef datasource geoId ∧
      gateway.Stores caller datasource feature geoId collection after := by
  change insertFeature caller datasource feature gateway = (.ok outcome, after) at ran
  have registry := (keepsRegistry_insertFeature caller datasource feature).seen ran
  obtain ⟨_, between, passed, storing⟩ := ok_of_run_bind ran
  obtain ⟨rfl, allowed⟩ := authorized_of_authorize passed
  obtain ⟨geoId, stored, asking, recorded⟩ := ok_of_run_bind storing
  have asked := asked_of_attempt rfl asking
  -- Journal and viewers come after the store, and cannot fail.
  cases recorded
  have inserted : between.store.layers.insertFeature between.now between.names.feature.1 datasource
      feature = (.ok geoId, stored.store.layers) :=
    Prod.ext (congrArg (·.1) asked.layers) (congrArg (·.2.1) asked.layers)
  have addresses := Feature.geoId?_addressedBy (LayerStore.insertFeature_addresses inserted)
  have changed := between.store.layers.insertFeature_changed between.now between.names.feature.1
    datasource feature
  rw [inserted] at changed
  cases changed with
  | @committed _ _ timestamp _ is backend =>
    obtain ⟨collection, loaded, rfl⟩ := is
    refine ⟨geoId, collection, rfl, allowed, authorized_of_registry registry allowed, loaded,
      addresses, ?_⟩
    change stored.store.layers.backend.content? datasource = _
    rw [backend, Backend.content?_commit_self]
    rfl

/-! ## Finding -/

theorem exportFeature_of_find? (allowed : gateway.Authorized caller datasource)
    (read : (gateway.store.run (.getLayer datasource) gateway.now gateway.names).1 = .ok collection)
    (found : collection.find? geoId = some feature) :
    (dispatch caller (.exportFeature datasource geoId) gateway).1 = .ok (.feature feature) := by
  change (exportFeature caller datasource geoId gateway).1 = _
  have asked : askStore (.getLayer datasource) gateway =
      (.ok collection, (askStore (.getLayer datasource) gateway).2) :=
    Prod.ext (mapError_eq_ok.2 read) rfl
  rw [exportFeature, run_bind_of_ok (authorize_of_authorized allowed), run_bind_of_ok asked, found]
  rfl

/-- What is found under the address that was answered when a feature was added, if the layer is
read as it was written: the feature itself, with this address if it had none, unless there was a
feature with this address before. -/
theorem exportFeature_of_insertFeature
    (inserted : dispatch caller (.insertFeature datasource feature) gateway =
      (.ok outcome, after)) :
    ∃ geoId collection, outcome = .featureRef datasource geoId ∧
      gateway.Stores caller datasource feature geoId collection after ∧
      ((after.store.run (.getLayer datasource) after.now after.names).1 =
          .ok { collection with
            features := collection.features ++ [feature.addressedBy geoId] } →
        (dispatch caller (.exportFeature datasource geoId) after).1 =
          .ok (.feature ((collection.find? geoId).getD (feature.addressedBy geoId)))) := by
  obtain ⟨geoId, collection, answer, stores⟩ := insertFeature_stores inserted
  refine ⟨geoId, collection, answer, stores, fun read => ?_⟩
  exact exportFeature_of_find? stores.allowed read (collection.find?_snoc stores.addresses)

/-- A feature whose address is a number. -/
def seventh : Feature :=
  .ofAddress (.number (.integer 7))

/-- A gateway with a customer and the layer of that customer, which has one feature. -/
def stocked : Gateway :=
  (dispatch .trusted (.createDatasource (some ⟨"d"⟩) (some ⟨[seventh], .empty⟩))
    (dispatch .trusted (.insertApikey ⟨⟨"k"⟩, [⟨"d"⟩], []⟩) (fresh .inMemory)).2).2

theorem stocked_reachable : stocked.Reachable :=
  .dispatch _ _ (.dispatch _ _ (.start rfl (.inl rfl)))

def adding (feature : Feature) : Turn :=
  ⟨stocked, .keyed ⟨"k"⟩, .insertFeature ⟨"d"⟩ feature⟩

/-- A feature without an address is found under the one that it is given. -/
theorem exportFeature_of_insertFeature_stocked :
    let feature := Feature.ofGeometry (.bool true)
    (adding feature).answer = .ok (.featureRef ⟨"d"⟩ "00000000") ∧
      (dispatch (.keyed ⟨"k"⟩) (.exportFeature ⟨"d"⟩ "00000000") (adding feature).after).1 =
        .ok (.feature (feature.withGeoId "00000000")) := by
  intro feature
  have answered : (adding feature).answer = .ok (.featureRef ⟨"d"⟩ "00000000") := by
    decide +kernel
  obtain ⟨geoId, collection, same, stores, found⟩ :=
    exportFeature_of_insertFeature (Turn.ran answered)
  cases same
  have loaded : stocked.store.layers.load ⟨"d"⟩ = .ok ⟨[seventh], .empty⟩ := by decide +kernel
  cases loaded.symm.trans stores.loaded
  exact ⟨answered, found (by decide +kernel)⟩

/-- A text is not told apart from a number that is printed like it, so what was added is not
found. -/
theorem seventh_found : stocked.Reachable ∧ stocked.Authorized (.keyed ⟨"k"⟩) ⟨"d"⟩ ∧
    let feature := (Feature.ofGeometry (.bool true)).withGeoId "7"
    (adding feature).answer = .ok (.featureRef ⟨"d"⟩ "7") ∧
      (adding feature).after.store.layers.load ⟨"d"⟩ = .ok ⟨[seventh, feature], .empty⟩ ∧
      (dispatch (.keyed ⟨"k"⟩) (.exportFeature ⟨"d"⟩ "7") (adding feature).after).1 =
        .ok (.feature seventh) ∧
      feature ≠ seventh := by
  refine ⟨stocked_reachable, ⟨⟨⟨"k"⟩, [⟨"d"⟩], []⟩, rfl, rfl⟩, ?_⟩
  refine ⟨?_, ?_, ?_, ?_⟩ <;> decide +kernel

end Gateway

end LayerGateway
