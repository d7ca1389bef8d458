import LayerGateway.Command.Arguments
import LayerGateway.Command.Method
import LayerGateway.Decimal.Integer
import LayerGateway.Geo.Collection

/-!
# Commands

A command is a request of which everything that can be checked without looking into
the gateway has been checked.  `Command.build?` makes one from a method name and
arguments.
-/

namespace LayerGateway

/-- Who asks: a customer, or someone who need not show a key. -/
inductive Caller where
  | keyed (key : AccessKey)
  | trusted
  deriving DecidableEq, Repr

def Caller.key? : Caller → Option AccessKey
  | .keyed key => some key
  | .trusted => none

/-- What the gateway can be asked to do. -/
inductive Command where
  | ping
  | createApikey
  | insertApikey (customer : Customer)
  | exportApikeys
  | exportApikey (apikey : Option AccessKey)
  | assignDatasource (apikey : Option AccessKey) (datasource : DatasourceId)
  | createDatasource (datasource : Option DatasourceId) (layer : Option FeatureCollection)
  | deleteDatasource (datasource : DatasourceId)
  | insertFeature (datasource : DatasourceId) (feature : Feature)
  | editFeature (datasource : DatasourceId) (geoId : String) (feature : Feature)
  | exportDatasources
  | exportDatasource (datasource : DatasourceId)
  | exportFeature (datasource : DatasourceId) (geoId : String)
  | exportSnapshots (datasource : DatasourceId)
  | exportSnapshot (datasource : DatasourceId) (timestamp : Int)
  | importFile (file : String)
  deriving DecidableEq

inductive BadRequest where
  | unknownMethod (name : String)
  | missingField (name : String)
  | unreadable (field : String) (cause : Json.ReadError)
  /-- A timestamp that is none, as it was written. -/
  | badTimestamp (text : String)
  deriving DecidableEq, Repr

def BadRequest.message : BadRequest → String
  | .unknownMethod name => s!"method not found: {name}"
  | .missingField name => s!"missing required field: {name}"
  | .unreadable field cause => s!"invalid {field}: {cause.message}"
  | .badTimestamp text => s!"invalid timestamp: {text}"

def needed {α : Type} (name : String) (value : Option α) : Except BadRequest α :=
  match value with
  | some value => .ok value
  | none => .error (.missingField name)

/-- Decodes an argument, which may also be a text that holds the JSON. -/
def embedded {α : Type} (field : String) (decoder : Json.Decoder α) (value : Json) :
    Except BadRequest α :=
  let result :=
    match value with
    | .string text => Json.decode decoder (.ofText text)
    | value => Json.decodeValue decoder value
  result.mapError (.unreadable field)

namespace Arguments

/-- A scalar argument as text: a text as it is, a number as it is printed. -/
def scalarText? : Json → Option String
  | .string text => some text
  | .number value => some (String.ofList value.text)
  | _ => none

def givenDatasource (arguments : Arguments) : Except BadRequest DatasourceId :=
  needed "datasource" arguments.datasource?

/-- The address of a feature that a command must name, as text. -/
def givenAddress (arguments : Arguments) : Except BadRequest String :=
  needed "geo_id" (arguments.geoId?.bind scalarText?)

/-- The time of a snapshot, a number or a text of digits. -/
def givenTimestamp (arguments : Arguments) : Except BadRequest Int := do
  let value ← needed "timestamp" arguments.timestamp?
  match (scalarText? value).bind Decimal.int64? with
  | some timestamp => return timestamp
  | none => throw (.badTimestamp value.text)

def givenFeature (arguments : Arguments) : Except BadRequest Feature := do
  embedded "feature" Feature.decoder (← needed "feature" arguments.feature?)

def givenLayer (arguments : Arguments) : Except BadRequest (Option FeatureCollection) :=
  match arguments.layer? with
  | none | some .null => .ok none
  | some value => (embedded "layer" FeatureCollection.decoder value).map some

/-- The record of the customer that a command must describe. -/
def givenCustomer (arguments : Arguments) : Except BadRequest Customer := do
  let apikey ← needed "apikey" (arguments.subjectKey?.filter (·.text != ""))
  let data := arguments.data.getD {}
  let datasources ← needed "datasources" data.datasources
  return ⟨apikey, datasources, data.tilelayers.getD []⟩

end Arguments

namespace Command

def method : Command → Method
  | .ping => .ping
  | .createApikey => .createApikey
  | .insertApikey _ => .insertApikey
  | .exportApikeys => .exportApikeys
  | .exportApikey _ => .exportApikey
  | .assignDatasource _ _ => .assignDatasource
  | .createDatasource _ _ => .createDatasource
  | .deleteDatasource _ => .deleteDatasource
  | .insertFeature _ _ => .insertFeature
  | .editFeature _ _ _ => .editFeature
  | .exportDatasources => .exportDatasources
  | .exportDatasource _ => .exportDatasource
  | .exportFeature _ _ => .exportFeature
  | .exportSnapshots _ => .exportSnapshots
  | .exportSnapshot _ _ => .exportSnapshot
  | .importFile _ => .importFile

def datasource? : Command → Option DatasourceId
  | .assignDatasource _ datasource | .deleteDatasource datasource
  | .insertFeature datasource _ | .editFeature datasource _ _
  | .exportDatasource datasource | .exportFeature datasource _
  | .exportSnapshots datasource | .exportSnapshot datasource _ => some datasource
  | .createDatasource datasource _ => datasource
  | _ => none

/-- Whether a command is for trusted callers only. -/
def isAdministrative (command : Command) : Bool :=
  command.method.isAdministrative

def isMutation (command : Command) : Bool :=
  command.method.isMutation

def ofMethod (method : Method) (arguments : Arguments) : Except BadRequest Command := do
  match method with
  | .ping => return .ping
  | .createApikey => return .createApikey
  | .insertApikey => return .insertApikey (← arguments.givenCustomer)
  | .exportApikeys => return .exportApikeys
  | .exportApikey => return .exportApikey arguments.key?
  | .assignDatasource =>
      return .assignDatasource arguments.subjectKey? (← arguments.givenDatasource)
  | .createDatasource =>
      return .createDatasource arguments.datasource? (← arguments.givenLayer)
  | .deleteDatasource => return .deleteDatasource (← arguments.givenDatasource)
  | .insertFeature =>
      return .insertFeature (← arguments.givenDatasource) (← arguments.givenFeature)
  | .editFeature =>
      return .editFeature (← arguments.givenDatasource) (← arguments.givenAddress)
        (← arguments.givenFeature)
  | .exportDatasources => return .exportDatasources
  | .exportDatasource => return .exportDatasource (← arguments.givenDatasource)
  | .exportFeature =>
      return .exportFeature (← arguments.givenDatasource) (← arguments.givenAddress)
  | .exportSnapshots => return .exportSnapshots (← arguments.givenDatasource)
  | .exportSnapshot =>
      return .exportSnapshot (← arguments.givenDatasource) (← arguments.givenTimestamp)
  | .importFile => return .importFile (← needed "file" arguments.file)

/-- The command of a method name with given arguments. -/
def build? (name : String) (arguments : Arguments) : Except BadRequest Command :=
  match Method.ofName? name with
  | some method => ofMethod method arguments
  | none => .error (.unknownMethod name)

end Command

/-! ## Outcomes -/

def version : String := "0.1.0"

/-- What a command that succeeded answers. -/
inductive Outcome where
  | pong (uptime : Nat)
  | customer (record : Customer)
  | accessKeys (keys : List AccessKey)
  | datasource (id : DatasourceId)
  | datasources (ids : List DatasourceId)
  | layer (collection : FeatureCollection)
  | feature (found : Feature)
  | featureRef (id : DatasourceId) (geoId : String)
  | timestamps (times : List Int)
  | done
  deriving DecidableEq

def Outcome.toJson : Outcome → Json
  | .pong uptime =>
      .ofMembers [("message", .string "pong"), ("uptime_secs", .ofInt uptime),
        ("version", .string version)]
  | .customer record => record.toJson
  | .accessKeys keys => .array (keys.map fun key => .string key.text)
  | .datasource id => .ofMembers [("datasource", .string id.text)]
  | .datasources ids => .array (ids.map fun id => .string id.text)
  | .layer collection => collection.toJson
  | .feature found => found.toJson
  | .featureRef id geoId =>
      .ofMembers [("datasource", .string id.text), ("geo_id", .string geoId)]
  | .timestamps times => .array (times.map .ofInt)
  | .done => .null

end LayerGateway
