import LayerGateway.Command.Basic
import LayerGateway.Import.Basic
import LayerGateway.Registry
import LayerGateway.Store.Error

/-!
# Why the gateway refuses

A command can fail for four kinds of reasons, of which only one is the gateway's own
fault.  What exactly went wrong is kept, and the kind and the wording follow from it.
-/

namespace LayerGateway

inductive FailureKind where
  | unauthorized
  | notFound
  | badRequest
  | storage
  deriving DecidableEq, Repr

/-- Whether a failure of a kind is to be expected of a gateway in order. -/
def FailureKind.isExpected : FailureKind → Bool
  | .storage => false
  | _ => true

inductive Refusal where
  | missingKey
  | wrongSuperuserKey
  | unknownKey (key : AccessKey)
  | needsSuperuser (method : Method)
  | notOwner (key : AccessKey) (datasource : DatasourceId)
  | foreignRecord (key requested : AccessKey)
  deriving DecidableEq, Repr

def Refusal.message : Refusal → String
  | .missingKey => "missing apikey"
  | .wrongSuperuserKey => "invalid authkey"
  | .unknownKey key => s!"unknown access key {key.text}"
  | .needsSuperuser method => s!"{method.name} requires the superuser key"
  | .notOwner key datasource => s!"{key.text} does not own {datasource.text}"
  | .foreignRecord key requested => s!"{key.text} cannot read {requested.text}"

/-- Why a command fails.  A deletion that got stuck says how many customers had already
lost the datasource, and what failed. -/
inductive GatewayError where
  | unauthorized (refusal : Refusal)
  | badRequest (cause : BadRequest)
  | store (error : StoreError)
  | registry (error : RegistryError)
  | file (error : ImportError)
  | incompleteDeletion (datasource : DatasourceId) (revoked : Nat)
      (registry : Option RegistryError) (store : Option StoreError)
  deriving DecidableEq, Repr

namespace GatewayError

def kind : GatewayError → FailureKind
  | .unauthorized _ => .unauthorized
  | .badRequest _ => .badRequest
  | .store error => if error.isNotFound then .notFound else .storage
  | .registry error => if error.isNotFound then .notFound else .storage
  | .file error => if error.isBadRequest then .badRequest else .storage
  | .incompleteDeletion _ _ _ _ => .storage

def detail : GatewayError → String
  | .unauthorized refusal => refusal.message
  | .badRequest cause => cause.message
  | .store error => error.message
  | .registry error => error.message
  | .file error => error.message
  | .incompleteDeletion datasource revoked first second =>
      let failed :=
        (first.map fun error => s!"ownership removal failed: {error.message}").toList
          ++ (second.map fun error => s!"layer deletion failed: {error.message}").toList
      s!"deletion of {datasource.text} incomplete, {revoked} ownership grants removed: "
        ++ "; ".intercalate failed

def message (error : GatewayError) : String :=
  match error.kind with
  | .unauthorized => "unauthorized: " ++ error.detail
  | .storage => "storage failure: " ++ error.detail
  | .notFound | .badRequest => error.detail

end GatewayError

end LayerGateway
