import LayerGateway.Customer

/-!
# Why a store refuses

A layer, feature or snapshot may not be there, which is no fault of the store; the
other errors are.
-/

namespace LayerGateway

inductive StorageFault where
  | keyTooShort
  | keyNotText (fault : Text.Fault)
  | device (message : String)
  deriving DecidableEq, Repr

def StorageFault.message : StorageFault → String
  | .keyTooShort => "snapshot key too short"
  | .keyNotText fault => fault.message
  | .device message => message

inductive StoreError where
  | layerNotFound (datasource : DatasourceId)
  | featureNotFound (datasource : DatasourceId) (geoId : String)
  | snapshotNotFound (datasource : DatasourceId) (timestamp : Int)
  | storage (fault : StorageFault)
  | unreadable (cause : Json.ReadError)
  deriving DecidableEq, Repr

namespace StoreError

def message : StoreError → String
  | .layerNotFound datasource => s!"layer not found: {datasource.text}"
  | .featureNotFound datasource geoId =>
      s!"feature {geoId} not found in layer {datasource.text}"
  | .snapshotNotFound datasource timestamp =>
      s!"no snapshot of layer {datasource.text} at or before {timestamp}"
  | .storage fault => s!"storage error: {fault.message}"
  | .unreadable cause => s!"serialization error: {cause.message}"

def isNotFound : StoreError → Bool
  | .layerNotFound _ | .featureNotFound _ _ | .snapshotNotFound _ _ => true
  | .storage _ | .unreadable _ => false

end StoreError

end LayerGateway
