/-!
# The operation table

Every command has a method name; three of them also have an older name.
-/

namespace LayerGateway

inductive Method where
  | ping
  | createApikey
  | insertApikey
  | exportApikeys
  | exportApikey
  | assignDatasource
  | createDatasource
  | deleteDatasource
  | insertFeature
  | editFeature
  | exportDatasources
  | exportDatasource
  | exportFeature
  | exportSnapshots
  | exportSnapshot
  | importFile
  deriving DecidableEq, Repr

namespace Method

def name : Method → String
  | .ping => "ping"
  | .createApikey => "create_apikey"
  | .insertApikey => "insert_apikey"
  | .exportApikeys => "export_apikeys"
  | .exportApikey => "export_apikey"
  | .assignDatasource => "assign_datasource"
  | .createDatasource => "create_datasource"
  | .deleteDatasource => "delete_datasource"
  | .insertFeature => "insert_feature"
  | .editFeature => "edit_feature"
  | .exportDatasources => "export_datasources"
  | .exportDatasource => "export_datasource"
  | .exportFeature => "export_feature"
  | .exportSnapshots => "export_snapshots"
  | .exportSnapshot => "export_snapshot"
  | .importFile => "import_file"

/-- The method of a name, canonical or older. -/
def ofName? : String → Option Method
  | "ping" => some .ping
  | "create_apikey" => some .createApikey
  | "insert_apikey" => some .insertApikey
  | "export_apikeys" => some .exportApikeys
  | "export_apikey" => some .exportApikey
  | "assign_datasource" => some .assignDatasource
  | "create_datasource" | "insert_layer" => some .createDatasource
  | "delete_datasource" | "delete_layer" => some .deleteDatasource
  | "insert_feature" => some .insertFeature
  | "edit_feature" => some .editFeature
  | "export_datasources" => some .exportDatasources
  | "export_datasource" | "export_layer" => some .exportDatasource
  | "export_feature" => some .exportFeature
  | "export_snapshots" => some .exportSnapshots
  | "export_snapshot" => some .exportSnapshot
  | "import_file" => some .importFile
  | _ => none

/-- The name by which a connection asks for the list of methods; it is no command. -/
def help : String := "help"

/-- Every name that is answered, in the order in which they are listed. -/
def listed : List String :=
  ["ping", help, "create_apikey", "insert_apikey", "export_apikeys", "export_apikey",
   "assign_datasource", "create_datasource", "insert_layer", "delete_datasource",
   "delete_layer", "insert_feature", "edit_feature", "export_datasources",
   "export_datasource", "export_layer", "export_feature", "export_snapshots",
   "export_snapshot", "import_file"]

/-- Methods on the whole registry or store, for trusted callers only. -/
def isAdministrative : Method → Bool
  | .createApikey | .insertApikey | .exportApikeys | .exportDatasources => true
  | _ => false

/-- Methods that change the registry or the store, and are therefore journaled. -/
def isMutation : Method → Bool
  | .createApikey | .insertApikey | .assignDatasource | .createDatasource
  | .deleteDatasource | .insertFeature | .editFeature | .importFile => true
  | _ => false

end Method

end LayerGateway
