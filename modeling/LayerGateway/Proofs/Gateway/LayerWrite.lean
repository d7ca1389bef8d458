import LayerGateway.Proofs.Gateway.Reconstruction
import LayerGateway.Proofs.Geo.Preservation

/-!
# Writes

What a customer can do to layers, whichever way it is asked for.

* `Json.Sendable` says which features and collections can be sent in every way, and
  `Json.Conveys` what is read of them on the way.
* `LayerWrite` lists the writes, each of which is one command.
* `brings_of_dispatch` says what answer a write brings when it is done.
-/

namespace LayerGateway

/-! ## Values that are sent -/

namespace Json

variable {α : Type} {decoder : Decoder α} {written json : Json} {value : α}

/-- A value that was read and can be sent: its numbers survive, it leaves room for the object of a
request around it, and its text is not too long for a body. -/
structure Sendable (decoder : Decoder α) (written : Json) (value : α) : Prop where
  parsed : Parsed decoder value
  survives : written.Survives
  shallow : written.depth < maxDepth
  short : (Text.encodeChars written.print).length ≤ Http.bodyLimit

/-- A value that is read where it was written, either at once or after it was kept as a free-form
value for a while. -/
structure Conveys (decoder : Decoder α) (written json : Json) (value : α) : Prop where
  decodes : Decodes decoder written value
  keeps : Decodes anyValue written json
  decoded : decodeValue decoder json = .ok value
  printed : ∃ members, written = .object members
  object : ∃ members, json = .object members

theorem Sendable.decode_print (sendable : Sendable decoder written value)
    (conveys : Conveys decoder written json value) :
    decode decoder (.ofBytes (Text.encodeChars written.print)) = .ok value :=
  decode_ofChars sendable.survives (Nat.le_of_lt sendable.shallow) conveys.decodes

theorem Conveys.embedded (conveys : Conveys decoder written json value) (field : String) :
    LayerGateway.embedded field decoder json = .ok value := by
  obtain ⟨members, rfl⟩ := conveys.object
  change (decodeValue decoder (.object members)).mapError _ = _
  rw [conveys.decoded]
  rfl

end Json

theorem Feature.conveys {feature : Feature} (parsed : Json.Parsed decoder feature) :
    Json.Conveys decoder feature.written feature.toJson feature := by
  have wellFormed := (of_parsed parsed).1
  exact ⟨decodes_written wellFormed, decodes_toJson wellFormed, decode_toJson wellFormed,
    ⟨_, rfl⟩, _, rfl⟩

theorem FeatureCollection.conveys {collection : FeatureCollection}
    (parsed : Json.Parsed decoder collection) :
    Json.Conveys decoder collection.written collection.toJson collection := by
  have wellFormed := (of_parsed parsed).1
  exact ⟨decodes_written wellFormed, decodes_toJson wellFormed, decode_toJson wellFormed,
    ⟨_, rfl⟩, _, rfl⟩

/-! ## Writes -/

inductive LayerWrite where
  | create (layer : Option FeatureCollection)
  | delete (datasource : DatasourceId)
  | insert (datasource : DatasourceId) (feature : Feature)
  | edit (datasource : DatasourceId) (geoId : String) (feature : Feature)

namespace LayerWrite

def command : LayerWrite → Command
  | .create layer => .createDatasource none layer
  | .delete datasource => .deleteDatasource datasource
  | .insert datasource feature => .insertFeature datasource feature
  | .edit datasource geoId feature => .editFeature datasource geoId feature

/-- A write that names a layer, if it is about one, and of which the content can be sent. -/
def Fits : LayerWrite → Prop
  | .create layer => ∀ collection ∈ layer,
      Json.Sendable FeatureCollection.decoder collection.written collection
  | .delete datasource => datasource.text ≠ ""
  | .insert datasource feature | .edit datasource _ feature =>
      datasource.text ≠ "" ∧ Json.Sendable Feature.decoder feature.written feature

/-- The answer that a write brings when it is done. -/
inductive Brings : LayerWrite → Outcome → Prop where
  | created {layer : Option FeatureCollection} (datasource : DatasourceId) :
      Brings (.create layer) (.datasource datasource)
  | deleted {datasource : DatasourceId} : Brings (.delete datasource) .done
  | inserted {datasource : DatasourceId} {feature : Feature} (geoId : String) :
      Brings (.insert datasource feature) (.featureRef datasource geoId)
  | edited {datasource : DatasourceId} {geoId : String} {feature : Feature} :
      Brings (.edit datasource geoId feature) (.featureRef datasource geoId)

theorem isMutation_command (write : LayerWrite) : write.command.isMutation = true := by
  cases write <;> rfl

theorem not_isAdministrative_command (write : LayerWrite) :
    write.command.isAdministrative = false := by
  cases write <;> rfl

end LayerWrite

/-! ## Answers -/

namespace Gateway

variable {gateway after : Gateway} {caller : Caller} {datasource : DatasourceId} {feature : Feature}
  {outcome : Outcome}

theorem insertFeature_answer
    (ran : insertFeature caller datasource feature gateway = (.ok outcome, after)) :
    ∃ geoId, outcome = .featureRef datasource geoId := by
  obtain ⟨_, _, _, storing⟩ := ok_of_run_bind ran
  obtain ⟨geoId, _, _, recorded⟩ := ok_of_run_bind storing
  cases recorded
  exact ⟨geoId, rfl⟩

theorem editFeature_answer {geoId : String}
    (ran : editFeature caller datasource geoId feature gateway = (.ok outcome, after)) :
    outcome = .featureRef datasource geoId := by
  obtain ⟨_, _, _, storing⟩ := ok_of_run_bind ran
  obtain ⟨_, _, _, recorded⟩ := ok_of_run_bind storing
  cases recorded
  rfl

theorem brings_of_dispatch {write : LayerWrite}
    (answered : dispatch caller write.command gateway = (.ok outcome, after)) :
    write.Brings outcome := by
  have ran := ok_of_guarded answered
  cases write with
  | create layer =>
    obtain ⟨datasource, rfl, -⟩ := createDatasource_made ran
    exact .created datasource
  | delete datasource =>
    obtain ⟨done, -⟩ | ⟨_, failed, -⟩ := deleteDatasource_cases ran
    · cases done
      exact .deleted
    · cases failed
  | insert datasource feature =>
    obtain ⟨geoId, rfl⟩ := insertFeature_answer ran
    exact .inserted geoId
  | edit datasource geoId feature =>
    obtain rfl := editFeature_answer ran
    exact .edited

end Gateway

end LayerGateway
