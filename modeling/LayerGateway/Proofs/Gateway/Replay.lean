import LayerGateway.Proofs.Gateway.Success
import LayerGateway.Proofs.Geo.Members
import LayerGateway.Proofs.Store.Legible

/-!
# Replaying the journal

An entry about a feature holds all that it takes to do again what the command did to the layer:
the name of the layer, the address that was given, and the feature as it was stored.

* `JournalEntry.replay` does it to features that are known as values only, without asking what the
  store makes of them.
* `replay_inserted` and `replay_edited` say that this is what was done to the layer.
-/

namespace LayerGateway

/-! ## Values -/

namespace Json

/-- The address of a feature that is known as a value only. -/
def address? (feature : Json) : Option String :=
  ((feature.member? "properties").bind (·.member? Feature.addressKey)).bind Feature.addressOf

end Json

namespace Feature

/-- The value of a feature has its address. -/
theorem address?_toJson {feature : Feature} (wellFormed : feature.WellFormed) :
    feature.toJson.address? = feature.geoId? := by
  rw [Json.address?, properties_toJson wellFormed, Option.bind_some, geoId?, address?]
  cases feature.properties <;> rfl

end Feature

/-! ## Layers as values -/

/-- A layer whose features are known as values only. -/
structure Replica where
  features : List Json
  extra : Members
  deriving DecidableEq

def FeatureCollection.replica (collection : FeatureCollection) : Replica :=
  ⟨collection.features.map Feature.toJson, collection.extra⟩

/-- The place of the first feature with an address. -/
def Replica.position? (replica : Replica) (geoId : String) : Option Nat :=
  replica.features.findIdx? fun feature => feature.address? == some geoId

namespace FeatureCollection

variable {collection : FeatureCollection}

theorem wellFormed_of_storable (storable : collection.Storable) :
    ∀ feature ∈ collection.features, feature.WellFormed :=
  (of_parsed (.text _ storable)).1.features

theorem position?_replica (wellFormed : ∀ feature ∈ collection.features, feature.WellFormed)
    (geoId : String) : collection.replica.position? geoId = collection.position? geoId := by
  rw [Replica.position?, replica, position?]
  generalize collection.features = features at wellFormed
  induction features with
  | nil => rfl
  | cons feature features ih =>
    obtain ⟨first, rest⟩ := List.forall_mem_cons.1 wellFormed
    rw [List.map_cons, List.findIdx?_cons, List.findIdx?_cons, Feature.address?_toJson first,
      ih rest]

end FeatureCollection

/-! ## Entries -/

theorem Method.ofName?_name (method : Method) : ofName? method.name = some method := by
  cases method <;> rfl

theorem Method.name_ne {method other : Method} (differ : method ≠ other) :
    method.name ≠ other.name := by
  intro same
  have named := method.ofName?_name
  rw [same, other.ofName?_name] at named
  exact differ (Option.some_inj.1 named).symm

namespace JournalEntry

/-- Does to a layer what an entry says was done to it. -/
def replay (datasource : DatasourceId) (replica : Replica) (entry : JournalEntry) : Replica :=
  match entry.data.member? "datasource", entry.data.member? "feature" with
  | some (.string id), some feature =>
      if id ≠ datasource.text then replica
      else if entry.method = Method.insertFeature.name then
        { replica with features := replica.features ++ [feature] }
      else if entry.method = Method.editFeature.name then
        match entry.data.member? "geo_id" with
        | some (.string geoId) =>
            match replica.position? geoId with
            | some place => { replica with features := replica.features.set place feature }
            | none => replica
        | _ => replica
      else replica
  | _, _ => replica

variable {datasource other : DatasourceId} {replica : Replica} {entry : JournalEntry}

theorem replay_of_method (noInsertion : entry.method ≠ Method.insertFeature.name)
    (noEdit : entry.method ≠ Method.editFeature.name) :
    entry.replay datasource replica = replica := by
  unfold replay
  split
  · rw [if_neg noInsertion, if_neg noEdit, ite_self]
  · rfl

end JournalEntry

namespace Gateway

variable {caller : Caller} {datasource other : DatasourceId} {collection : FeatureCollection}
  {method : Method} {geoId : String} {feature : Feature}

section FeatureEntry

variable (method caller datasource geoId feature)

theorem data_featureEntry :
    (featureEntry method caller datasource geoId feature).data = .ofMembers
      [("apikey", Json.ofText? (caller.key?.map (·.text))), ("datasource", .string datasource.text),
        ("geo_id", .string geoId), ("feature", feature.toJson)] := rfl

theorem datasource_featureEntry :
    (featureEntry method caller datasource geoId feature).data.member? "datasource" =
      some (.string datasource.text) := by
  rw [data_featureEntry]
  exact Json.member?_ofMembers [("apikey", _)] [("geo_id", _), ("feature", _)] (by simp)

theorem geoId_featureEntry :
    (featureEntry method caller datasource geoId feature).data.member? "geo_id" =
      some (.string geoId) := by
  rw [data_featureEntry]
  exact Json.member?_ofMembers [("apikey", _), ("datasource", _)] [("feature", _)] (by simp)

theorem feature_featureEntry :
    (featureEntry method caller datasource geoId feature).data.member? "feature" =
      some feature.toJson := by
  rw [data_featureEntry]
  exact Json.member?_ofMembers [("apikey", _), ("datasource", _), ("geo_id", _)] [] (by simp)

end FeatureEntry

theorem replay_foreign (differ : other ≠ datasource) (replica : Replica) :
    (featureEntry method caller other geoId feature).replay datasource replica = replica := by
  have foreign : other.text ≠ datasource.text := by
    cases other
    cases datasource
    simpa using differ
  simp only [JournalEntry.replay, datasource_featureEntry, feature_featureEntry]
  rw [if_pos foreign]

/-- Replaying an insertion adds the feature. -/
theorem replay_inserted (collection : FeatureCollection) :
    (featureEntry .insertFeature caller datasource geoId feature).replay datasource
        collection.replica =
      { collection with features := collection.features ++ [feature] }.replica := by
  simp only [JournalEntry.replay, datasource_featureEntry, feature_featureEntry]
  simp [featureEntry, layerEntry, FeatureCollection.replica]

/-- Replaying an edit puts the feature in the place of the one that had the address. -/
theorem replay_edited {place : Nat}
    (wellFormed : ∀ feature ∈ collection.features, feature.WellFormed)
    (position : collection.position? geoId = some place) :
    (featureEntry .editFeature caller datasource geoId feature).replay datasource
        collection.replica =
      { collection with features := collection.features.set place feature }.replica := by
  rw [← FeatureCollection.position?_replica wellFormed] at position
  simp only [JournalEntry.replay, datasource_featureEntry, feature_featureEntry,
    geoId_featureEntry, position]
  simp [featureEntry, layerEntry, FeatureCollection.replica, List.map_set, Method.name]

end Gateway

end LayerGateway
