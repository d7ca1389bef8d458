import LayerGateway.Decimal.Integer
import LayerGateway.Gateway.Dispatch
import LayerGateway.Http.Message
import LayerGateway.Http.Resource
import LayerGateway.Text.Pieces

/-!
# The HTTP interface

A request is answered by finding its resource, decoding path, query and body, in this
order, and carrying out a command in the name of the key that the query shows.
`Http.respond` is the whole of it.
-/

namespace LayerGateway.Http

inductive Content where
  /-- The data of an outcome inside an envelope. -/
  | data (outcome : Outcome)
  /-- A collection or a feature as it is. -/
  | raw (text : List Char)
  /-- Members beside the status of an envelope. -/
  | note (name value : String)
  | events (view : ConnectionId)

def Content.response : Content → Response
  | .data outcome =>
      .json 200 (Json.ofMembers [("status", .string "ok"), ("data", outcome.toJson)]).print
  | .raw text => .json 200 text
  | .note name value =>
      .json 200 (Json.ofMembers [("status", .string "ok"), (name, .string value)]).print
  | .events view => .stream view

def statusOf : FailureKind → Nat
  | .unauthorized => 401
  | .notFound => 404
  | .badRequest => 400
  | .storage => 500

def errorResponse (error : GatewayError) : Response :=
  .json (statusOf error.kind)
    (Json.ofMembers [("status", .string "error"), ("message", .string error.message)]).print

def callerOf (apikey : Option String) : Except GatewayError Caller :=
  match apikey with
  | some key => if key = "" then .error (.unauthorized .missingKey) else .ok (.keyed ⟨key⟩)
  | none => .error (.unauthorized .missingKey)

def decodeBody {α : Type} (what : String) (decoder : Json.Decoder α) (body : Bytes) :
    Except GatewayError α :=
  (Json.decode decoder (.ofBytes body)).mapError fun cause =>
    .badRequest (.unreadable what cause)

/-- Outcomes that are collections or features are answered as they are. -/
def plainly : Outcome → Content
  | .layer collection => .raw collection.print
  | .feature feature => .raw feature.print
  | outcome => .data outcome

/-- The command of a request on a resource below a layer or for a new one. -/
def commandOf (resource : Resource) (method : String) (parameters : List String)
    (body : Bytes) : Except GatewayError Command :=
  match resource, parameters with
  | .newLayer, _ =>
      if body.all Text.isAsciiBlank then .ok (.createDatasource none none)
      else do
        let layer ← decodeBody "feature collection" FeatureCollection.decoder body
        return .createDatasource none (some layer)
  | .layer, [datasource] =>
      if method = "DELETE" then .ok (.deleteDatasource ⟨datasource⟩)
      else .ok (.exportDatasource ⟨datasource⟩)
  | .timestamps, [datasource] => .ok (.exportSnapshots ⟨datasource⟩)
  | .snapshot, [datasource, text] =>
      match Decimal.int64? text with
      | some timestamp => .ok (.exportSnapshot ⟨datasource⟩ timestamp)
      | none => .error (.badRequest (.badTimestamp text))
  | .features, [datasource] => do
      return .insertFeature ⟨datasource⟩ (← decodeBody "feature" Feature.decoder body)
  | .feature, [datasource, geoId] =>
      if method = "PUT" then do
        return .editFeature ⟨datasource⟩ geoId (← decodeBody "feature" Feature.decoder body)
      else .ok (.exportFeature ⟨datasource⟩ geoId)
  | .newCustomer, _ => .ok .createApikey
  | .customers, _ => .ok .exportApikeys
  | .datasources, _ => .ok .exportDatasources
  | .record, _ => .ok (.exportApikey none)
  | _, _ => .ok .ping

def contentOf (command : Command) (outcome : Outcome) : Content :=
  match command, outcome with
  | .createDatasource _ _, .datasource id => .note "datasource" id.text
  | .deleteDatasource datasource, _ => .note "message" s!"datasource {datasource.text} deleted"
  | _, outcome => plainly outcome

def perform (caller : Caller) (command : Command) : Action Content := do
  return contentOf command (← Gateway.dispatch caller command)

/-- Answers a request on a resource of the interface. -/
def handle (resource : Resource) (method : String) (parameters : List String)
    (apikey : Option String) (body : Bytes) : Action Content := do
  if resource.isManagement || resource = .ping then
    perform .trusted (← commandOf resource method parameters body)
  else
    let caller ← callerOf apikey
    match resource, parameters with
    | .live, [datasource] => return .events (← Gateway.openView caller ⟨datasource⟩)
    | _, _ => perform caller (← commandOf resource method parameters body)

def runHandler (handler : Action Content) : StateM Gateway Response := fun gateway =>
  match handler gateway with
  | (.ok content, gateway) => (content.response, gateway)
  | (.error error, gateway) => (errorResponse error, gateway)

/-- The response to a query with a repeated field. -/
def repeatedResponse (field : RepeatedField) : Response :=
  .plain 400 s!"Failed to deserialize query string: duplicate field `{field.name}`"

def bodyLimit : Nat := 2097152

def takesBody (resource : Resource) (method : String) : Bool :=
  resource = .newLayer || resource = .features || (resource = .feature && method = "PUT")

/-- Answers a request on a resource that it may use: path, query and body are decoded. -/
def admitted (resource : Resource) (parameters : List Resource.Parameter) (request : Request) :
    StateM Gateway Response :=
  match decodeParameters parameters with
  | .error name => return .plain 400 s!"Invalid URL: Invalid UTF-8 in `{name}`"
  | .ok parameters =>
      match formField "apikey" request.target.query with
      | .error field =>
          if resource.isManagement || resource = .ping then
            runHandler (handle resource request.method parameters none request.body)
          else return repeatedResponse field
      | .ok apikey =>
          if takesBody resource request.method && bodyLimit < request.body.length then
            return .plain 413 "Failed to buffer the request body: length limit exceeded"
          else runHandler (handle resource request.method parameters apikey request.body)

def onResource (superuser : String) (resource : Resource)
    (parameters : List Resource.Parameter) (request : Request) : StateM Gateway Response := do
  let allowed := resource.methods.contains request.method
  let inner : StateM Gateway Response :=
    if allowed then admitted resource parameters request else return .empty 405
  let response ←
    if resource.isManagement then
      match formField "authkey" request.target.query with
      | .error field => pure (repeatedResponse field)
      | .ok authkey =>
          if authkey = some superuser then inner
          else pure (errorResponse (.unauthorized .wrongSuperuserKey))
    else inner
  return if allowed then response
    else { response with allow := some (",".intercalate resource.methods) }

/-- Leaves out the body of a response; a live view that nobody can read is closed. -/
def withoutBody (response : Response) : StateM Gateway Response := fun gateway =>
  let gateway :=
    match response.body with
    | .events view => { gateway with hub := gateway.hub.dropView view }
    | .text _ => gateway
  ({ response with body := .text "" }, gateway)

/-- Answers a request; `superuser` is the key that opens the management. -/
def respond (superuser : String) (request : Request) : StateM Gateway Response := do
  let response ←
    match Resource.ofPath? request.target.path with
    | some (resource, parameters) => onResource superuser resource parameters request
    | none => pure (.empty 404)
  if request.method = "HEAD" then withoutBody response else return response

end LayerGateway.Http
