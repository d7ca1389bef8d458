import LayerGateway.Gateway.Basic

/-!
# Carrying out commands

Every command that changes something first makes the change, then journals it, and then,
if a layer changed, tells the viewers.  A change that fails stops there.
`Gateway.dispatch` carries out a command in the name of a caller.
-/

namespace LayerGateway.Gateway

/-! ## Customers -/

def createApikey : Action Outcome := do
  let customer ← fun gateway =>
    let (result, registry, names) := gateway.registry.create gateway.names
    (result.mapError .registry, { gateway with registry, names })
  journalChange "create_apikey" (.ofMembers [("apikey", .string customer.apikey.text)])
  return .customer customer

def insertApikey (customer : Customer) : Action Outcome := do
  changeRegistry fun registry => .ok ((), registry.put customer)
  let stored ← askRegistry (·.get customer.apikey)
  journalChange "insert_apikey" stored.toJson
  return .customer stored

/-- Answers a record; customers can read their own only. -/
def exportApikey (caller : Caller) (requested : Option AccessKey) : Action Outcome := do
  match caller, requested with
  | .keyed own, requested => do
      if let some requested := requested then
        unless own = requested do throw (.unauthorized (.foreignRecord own requested))
      match ← knownCaller (.keyed own) with
      | some customer => return .customer customer
      | none => throw (.unauthorized (.unknownKey own))
  | .trusted, some requested => return .customer (← askRegistry (·.get requested))
  | .trusted, none => throw (.badRequest (.missingField "apikey"))

/-- Gives a datasource to a customer; customers take it for themselves. -/
def assignDatasource (caller : Caller) (apikey : Option AccessKey) (datasource : DatasourceId) :
    Action Outcome := do
  let target ← match caller, apikey with
    | .keyed key, _ => do
        let _ ← knownCaller caller
        pure key
    | .trusted, some key => pure key
    | .trusted, none => throw (.badRequest (.missingField "apikey"))
  demandLayer datasource
  let customer ← changeRegistry (·.add target datasource)
  journalChange "assign_datasource"
    (.ofMembers [("apikey", .string target.text), ("datasource", .string datasource.text)])
  return .customer customer

/-! ## Layers -/

/-- Makes or replaces a layer.  Customers can only name what they own already. -/
def createDatasource (caller : Caller) (datasource : Option DatasourceId)
    (layer : Option FeatureCollection) : Action Outcome := do
  let customer ← knownCaller caller
  let id ← match datasource, layer with
    | some id, layer => do
        demandOwner customer id
        askStore (.insertLayer id (layer.getD .empty))
        pure id
    | none, some layer => do
        let id ← newDatasource
        askStore (.insertLayer id layer)
        pure id
    | none, none => askStore .newLayer
  grant caller id
  record "create_datasource" caller id []
  return .datasource id

/-- Takes a datasource from customers, going on past failures.  Counts those who lost it
and keeps the first failure. -/
def revokeFrom (datasource : DatasourceId) :
    List AccessKey → Registry → (Nat × Option RegistryError) × Registry
  | [], registry => ((0, none), registry)
  | owner :: others, registry =>
      match registry.remove owner datasource with
      | .ok (_, registry) =>
          let ((revoked, failure), registry) := revokeFrom datasource others registry
          ((revoked + 1, failure), registry)
      | .error error =>
          let ((revoked, _), registry) := revokeFrom datasource others registry
          ((revoked, some error), registry)

def revokeAll (datasource : DatasourceId) (registry : Registry) :
    (Nat × Option RegistryError) × Registry :=
  match registry.ownersOf datasource with
  | .ok owners => revokeFrom datasource owners registry
  | .error error => ((0, some error), registry)

/-- Deletes a layer and takes it from its owners.  Both steps are always tried, and what
was taken is not given back. -/
def deleteDatasource (caller : Caller) (datasource : DatasourceId) : Action Outcome := do
  authorize caller datasource
  let (revoked, failure) ← modifyGet fun gateway =>
    let (result, registry) := revokeAll datasource gateway.registry
    (result, { gateway with registry })
  let deleted ← fun gateway =>
    let (result, store, names) :=
      gateway.store.run (.deleteLayer datasource) gateway.now gateway.names
    (.ok result, { gateway with store, names })
  match failure, deleted with
  | none, .ok () => do
      record "delete_datasource" caller datasource []
      return .done
  | none, .error error =>
      if error.isNotFound then throw (.store error)
      else throw (.incompleteDeletion datasource revoked none (some error))
  | some failure, .ok () =>
      throw (.incompleteDeletion datasource revoked (some failure) none)
  | some failure, .error error =>
      throw (.incompleteDeletion datasource revoked (some failure) (some error))

def importFile (caller : Caller) (path : String) : Action Outcome := do
  let _ ← knownCaller caller
  let collection ← fun gateway =>
    ((FeatureCollection.load gateway.files gateway.converter path).mapError .file, gateway)
  let id ← newDatasource
  askStore (.insertLayer id collection)
  grant caller id
  record "import_file" caller id [("file", .string path)]
  return .datasource id

/-! ## Features -/

def insertFeature (caller : Caller) (datasource : DatasourceId) (feature : Feature) :
    Action Outcome := do
  authorize caller datasource
  let geoId ← askStore (.insertFeature datasource feature)
  let stored := if feature.geoId?.isNone then feature.withGeoId geoId else feature
  record "insert_feature" caller datasource
    [("geo_id", .string geoId), ("feature", stored.toJson)]
  return .featureRef datasource geoId

def editFeature (caller : Caller) (datasource : DatasourceId) (geoId : String)
    (feature : Feature) : Action Outcome := do
  authorize caller datasource
  let stored ← askStore (.editFeature datasource geoId feature)
  record "edit_feature" caller datasource
    [("geo_id", .string geoId), ("feature", stored.toJson)]
  return .featureRef datasource geoId

def exportFeature (caller : Caller) (datasource : DatasourceId) (geoId : String) :
    Action Outcome := do
  authorize caller datasource
  let collection ← askStore (.getLayer datasource)
  match collection.find? geoId with
  | some feature => return .feature feature
  | none => throw (.store (.featureNotFound datasource geoId))

/-! ## All commands -/

/-- Carries out a command in the name of a caller. -/
def dispatch (caller : Caller) (command : Command) : Action Outcome := do
  if command.isAdministrative && caller != .trusted then
    throw (.unauthorized (.needsSuperuser command.method))
  match command with
  | .ping => return .pong (← get).uptime
  | .createApikey => createApikey
  | .insertApikey customer => insertApikey customer
  | .exportApikeys => return .accessKeys (← get).registry.list
  | .exportApikey apikey => exportApikey caller apikey
  | .assignDatasource apikey datasource => assignDatasource caller apikey datasource
  | .createDatasource datasource layer => createDatasource caller datasource layer
  | .deleteDatasource datasource => deleteDatasource caller datasource
  | .insertFeature datasource feature => insertFeature caller datasource feature
  | .editFeature datasource geoId feature => editFeature caller datasource geoId feature
  | .exportDatasources => return .datasources (← askStore .getLayers)
  | .exportDatasource datasource => do
      authorize caller datasource
      return .layer (← askStore (.getLayer datasource))
  | .exportFeature datasource geoId => exportFeature caller datasource geoId
  | .exportSnapshots datasource => do
      authorize caller datasource
      return .timestamps (← askStore (.timeseries datasource))
  | .exportSnapshot datasource timestamp => do
      authorize caller datasource
      return .layer (← askStore (.previous datasource timestamp)).2
  | .importFile path => importFile caller path

/-- Opens a live view of a datasource, with the permission that reading takes. -/
def openView (caller : Caller) (datasource : DatasourceId) : Action ConnectionId := do
  authorize caller datasource
  demandLayer datasource
  modifyGet fun gateway =>
    let (id, hub) := gateway.hub.openView datasource
    (id, { gateway with hub })

end LayerGateway.Gateway
