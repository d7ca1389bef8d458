import LayerGateway.Proofs.Gateway.LayerWrite
import LayerGateway.Proofs.Http.Encoding
import LayerGateway.Proofs.Http.Permission

/-!
# Writes over HTTP

A write is asked for by a method, a path of encoded names, and a body.

* `Http.Request.AsksFor` says that a request asks for a write, however it is encoded, and
  `respond_of_asksFor` that what is done for it is the command of the write.
* `LayerWrite.request` is such a request, unless the write is an edit of a feature whose address is
  empty: the last name of a path is never empty.
-/

namespace LayerGateway

/-! ## Requests for writes -/

namespace LayerWrite

def httpMethod : LayerWrite → String
  | .create _ | .insert _ _ => "POST"
  | .delete _ => "DELETE"
  | .edit _ _ _ => "PUT"

def resource : LayerWrite → Http.Resource
  | .create _ => .newLayer
  | .delete _ => .layer
  | .insert _ _ => .features
  | .edit _ _ _ => .feature

def parameters : LayerWrite → List String
  | .create _ => []
  | .delete datasource | .insert datasource _ => [datasource.text]
  | .edit datasource geoId _ => [datasource.text, geoId]

/-- The body holds what is written.  Where nothing is, it may be blank, or anything. -/
def HeldBy (body : Bytes) : LayerWrite → Prop
  | .create none => body.all Text.isAsciiBlank = true
  | .create (some layer) =>
      body.all Text.isAsciiBlank = false ∧
        Json.decode FeatureCollection.decoder (.ofBytes body) = .ok layer
  | .delete _ => True
  | .insert _ feature | .edit _ _ feature =>
      Json.decode Feature.decoder (.ofBytes body) = .ok feature

end LayerWrite

namespace Http

/-- A request asks for a write with an access key. -/
structure Request.AsksFor (request : Request) (key : AccessKey) (write : LayerWrite) : Prop where
  shows : request.Shows key
  method : request.method = write.httpMethod
  place : ∃ parameters, Resource.ofPath? request.target.path = some (write.resource, parameters) ∧
    decodeParameters parameters = .ok write.parameters
  body : write.HeldBy request.body
  short : takesBody write.resource write.httpMethod = true → request.body.length ≤ bodyLimit

section AsksFor

variable {request : Request} {key : AccessKey} {write : LayerWrite}

theorem commandOf_of_heldBy {body : Bytes} (held : write.HeldBy body) :
    commandOf write.resource write.httpMethod write.parameters body = .ok write.command := by
  cases write with
  | create layer =>
    cases layer with
    | none => exact if_pos held
    | some layer =>
      obtain ⟨notBlank, read⟩ := held
      change (if body.all Text.isAsciiBlank then _ else _) = _
      rw [notBlank, if_neg Bool.false_ne_true, decodeBody, read]
      rfl
  | delete datasource => rfl
  | insert datasource feature | edit datasource geoId feature =>
    have read : decodeBody "feature" Feature.decoder body = .ok feature :=
      mapError_eq_ok.2 held
    change (decodeBody "feature" Feature.decoder body >>= _) = _
    rw [read]
    rfl

theorem handle_of_heldBy {body : Bytes} (named : key.text ≠ "") (held : write.HeldBy body) :
    handle write.resource write.httpMethod write.parameters (some key.text) body =
      perform (.keyed key) write.command := by
  have called : callerOf (some key.text) = .ok (.keyed key) := if_neg named
  have asked : handle write.resource write.httpMethod write.parameters (some key.text) body = (do
      perform (.keyed key)
        (← commandOf write.resource write.httpMethod write.parameters body)) := by
    rw [handle, called]
    cases write <;> rfl
  rw [asked, commandOf_of_heldBy held]
  rfl

theorem served_of_asksFor (asks : request.AsksFor key write) (superuser : String) :
    served superuser request = runHandler (perform (.keyed key) write.command) := by
  obtain ⟨parameters, found, decoded⟩ := asks.place
  have unguarded : write.resource.isManagement = false := by cases write <;> rfl
  have allowed : write.resource.methods.contains request.method = true := by
    rw [asks.method]
    cases write <;> rfl
  have whole : (takesBody write.resource write.httpMethod &&
      decide (bodyLimit < request.body.length)) = false := by
    cases takes : takesBody write.resource write.httpMethod with
    | false => rfl
    | true => exact decide_eq_false (Nat.not_lt.2 (asks.short takes))
  have admits : admitted write.resource parameters request =
      runHandler (perform (.keyed key) write.command) := by
    rw [admitted, decoded]
    dsimp only
    rw [asks.shows.2, asks.method]
    dsimp only
    rw [whole, if_neg Bool.false_ne_true, handle_of_heldBy asks.shows.1 asks.body]
  rw [served, found]
  dsimp only
  rw [onResource, unguarded, allowed, admits]
  rfl

/-- A request for a write is answered by what the dispatcher answers to it in the name of the key. -/
theorem respond_of_asksFor (asks : request.AsksFor key write) (superuser : String)
    {gateway after : Gateway} {result : Except GatewayError Outcome}
    (ran : Gateway.dispatch (.keyed key) write.command gateway = (result, after)) :
    respond superuser request gateway = (responseTo write.command result, after) := by
  have served : served superuser request gateway = (responseTo write.command result, after) := by
    rw [served_of_asksFor asks, runHandler_perform ran]
  -- Nothing is written by a request that leaves out the body of its response.
  have notHead : request.method ≠ "HEAD" := by
    rw [asks.method]
    cases write <;> simp [LayerWrite.httpMethod]
  obtain ⟨content, text⟩ := responseTo_text write.command result
  rw [respond_of_text text served, Request.sent, if_neg notHead]

end AsksFor

end Http

/-! ## The request of a write -/

namespace LayerWrite

def names (write : LayerWrite) : List (List Char) :=
  ["api".toList, "v1".toList, "layer".toList] ++
    match write with
    | .create _ => []
    | .delete datasource => [Http.encoded datasource.text]
    | .insert datasource _ => [Http.encoded datasource.text, "feature".toList]
    | .edit datasource geoId _ =>
        [Http.encoded datasource.text, "feature".toList, Http.encoded geoId]

/-- The body of a write: the print of what is written. -/
def body : LayerWrite → Bytes
  | .create layer => layer.elim [] FeatureCollection.bytes
  | .delete _ => []
  | .insert _ feature | .edit _ _ feature => Text.encodeChars feature.print

/-- The request for a write with an access key. -/
def request (write : LayerWrite) (key : AccessKey) : Http.Request :=
  ⟨write.httpMethod, ⟨Http.pathOf write.names, Http.queryOf "apikey" key.text⟩, write.body⟩

/-- An address that stands in a path is not empty. -/
def Addressed : LayerWrite → Prop
  | .edit _ geoId _ => geoId ≠ ""
  | .create _ | .delete _ | .insert _ _ => True

section Request

variable {write : LayerWrite} {key : AccessKey}

theorem plainName_names : ∀ name ∈ write.names, Http.PlainName name := by
  have feature : Http.PlainName "feature".toList := by decide
  have encoded := Http.plainName_encoded
  refine List.forall_mem_append.2 ⟨by decide, ?_⟩
  cases write with
  | create layer => exact fun _ member => absurd member List.not_mem_nil
  | delete datasource => exact List.forall_mem_singleton.2 (encoded _)
  | insert datasource _ =>
    exact List.forall_mem_cons.2 ⟨encoded _, List.forall_mem_singleton.2 feature⟩
  | edit datasource geoId _ =>
    exact List.forall_mem_cons.2 ⟨encoded _, List.forall_mem_cons.2
      ⟨feature, List.forall_mem_singleton.2 (encoded _)⟩⟩

/-- The path leads to the resource: what stands for a parameter that comes last is not empty. -/
theorem place_request (fits : write.Fits) (addressed : write.Addressed) :
    ∃ parameters, Http.Resource.ofPath? (write.request key).target.path =
        some (write.resource, parameters) ∧
      Http.decodeParameters parameters = .ok write.parameters := by
  have found := Http.ofPath?_pathOf (@plainName_names write)
  cases write with
  | create layer => exact ⟨[], found, rfl⟩
  | delete datasource =>
    have some := Http.encoded_ne_nil fits
    refine ⟨_, found.trans ?_, Http.decodeParameters_encoded [("ds", datasource.text)]⟩
    simp [names, resource, Http.Resource.all, Http.Resource.path, Http.Resource.match?,
      Http.Resource.ofLayer, some]
  | insert datasource feature =>
    refine ⟨_, found.trans ?_, Http.decodeParameters_encoded [("ds", datasource.text)]⟩
    simp [names, resource, Http.Resource.all, Http.Resource.path, Http.Resource.match?,
      Http.Resource.ofLayer]
  | edit datasource geoId feature =>
    have some := Http.encoded_ne_nil addressed
    refine ⟨_, found.trans ?_, Http.decodeParameters_encoded
      [("ds", datasource.text), ("geo_id", geoId)]⟩
    simp [names, resource, Http.Resource.all, Http.Resource.path, Http.Resource.match?,
      Http.Resource.ofLayer, some]

theorem heldBy_body (fits : write.Fits) :
    write.HeldBy write.body ∧ write.body.length ≤ Http.bodyLimit := by
  have feature {feature : Feature}
      (sendable : Json.Sendable Feature.decoder feature.written feature) :
      Json.decode Feature.decoder (.ofBytes (Text.encodeChars feature.print)) = .ok feature ∧
        (Text.encodeChars feature.print).length ≤ Http.bodyLimit := by
    rw [feature.print_eq]
    exact ⟨sendable.decode_print (Feature.conveys sendable.parsed), sendable.short⟩
  cases write with
  | create layer =>
    cases layer with
    | none => exact ⟨rfl, Nat.zero_le _⟩
    | some layer =>
      have sendable := fits layer rfl
      have printed : (create (some layer)).body = Text.encodeChars layer.written.print := by
        rw [← layer.print_eq]
        rfl
      rw [printed]
      exact ⟨⟨rfl, sendable.decode_print (FeatureCollection.conveys sendable.parsed)⟩,
        sendable.short⟩
  | delete datasource => exact ⟨trivial, Nat.zero_le _⟩
  | insert datasource _ | edit datasource geoId _ => exact feature fits.2

theorem asksFor_request (named : key.text ≠ "") (fits : write.Fits)
    (addressed : write.Addressed) : (write.request key).AsksFor key write where
  shows := ⟨named, Http.formField_queryOf (by decide) (by decide) (by decide) _⟩
  method := rfl
  place := place_request fits addressed
  body := (heldBy_body fits).1
  short _ := (heldBy_body fits).2

theorem addressed_of_asksFor {request : Http.Request} (asks : request.AsksFor key write) :
    write.Addressed := by
  obtain ⟨parameters, found, decoded⟩ := asks.place
  cases write with
  | edit datasource geoId feature =>
    rintro rfl
    exact Http.last_ne_empty found decoded rfl rfl
  | create _ | delete _ | insert _ _ => trivial

/-- A request for a write can be written down, and is what is read then, unless that is too long. -/
theorem plain_request : (write.request key).target.Plain :=
  Http.Target.plain_pathOf (List.cons_ne_nil _ _) plainName_names (by decide) _

end Request

end LayerWrite

end LayerGateway
