import LayerGateway.Names

/-!
# The ownership registry

Who owns what: a table from access keys to the records of customers.  Rows are read
anew for every question, and a row that cannot be read makes the question fail.  The
table is in order of its keys, byte by byte.
-/

namespace LayerGateway

inductive RegistryError where
  | customerNotFound (key : AccessKey)
  | keysExhausted
  | unreadable (cause : Json.ReadError)
  deriving DecidableEq, Repr

namespace RegistryError

def message : RegistryError → String
  | .customerNotFound key => s!"customer not found: {key.text}"
  | .keysExhausted => "io error: could not generate a unique access key"
  | .unreadable cause => s!"serialization error: {cause.message}"

def causes : RegistryError → List String
  | .customerNotFound _ => []
  | .keysExhausted => ["could not generate a unique access key"]
  | .unreadable cause => [cause.message]

def isNotFound : RegistryError → Bool
  | .customerNotFound _ => true
  | .keysExhausted | .unreadable _ => false

end RegistryError

/-- The table of customers. -/
structure Registry where
  rows : OrderedMap Bytes Bytes := .empty
  deriving DecidableEq

namespace Registry

/-- How many candidates for a new access key are tried. -/
def keyAttempts : Nat := 8

/-- The record of a customer, if there is a row for the key. -/
def load (registry : Registry) (key : AccessKey) : Except RegistryError (Option Customer) :=
  match registry.rows.get? (Text.encode key.text) with
  | some row => ((Customer.ofBytes row).mapError .unreadable).map some
  | none => .ok none

def get (registry : Registry) (key : AccessKey) : Except RegistryError Customer := do
  match ← registry.load key with
  | some customer => return customer
  | none => throw (.customerNotFound key)

def isOwner (registry : Registry) (key : AccessKey) (datasource : DatasourceId) :
    Except RegistryError Bool := do
  return (← registry.get key).has datasource

/-- All access keys, in order. -/
def list (registry : Registry) : List AccessKey :=
  registry.rows.keys.map fun key => ⟨Text.lossy key⟩

/-- The access keys of those who own a datasource.  Every row must be readable. -/
def ownersOf (registry : Registry) (datasource : DatasourceId) :
    Except RegistryError (List AccessKey) := do
  let customers ← registry.rows.rows.mapM fun row =>
    (Customer.ofBytes row.2).mapError .unreadable
  return (customers.filter (·.has datasource)).map (·.apikey)

/-- Writes a record under the key that is in it. -/
def store (registry : Registry) (customer : Customer) : Registry :=
  ⟨registry.rows.insert (Text.encode customer.apikey.text) customer.bytes⟩

/-- Writes a whole record, every datasource once. -/
def put (registry : Registry) (customer : Customer) : Registry :=
  registry.store customer.dedup

/-- Makes a customer of the first candidate key that is not taken, and says how many
candidates were tried. -/
def createFrom (registry : Registry) :
    List AccessKey → Except RegistryError Customer × Registry × Nat
  | [] => (.error .keysExhausted, registry, 0)
  | key :: others =>
      match registry.load key with
      | .error cause => (.error cause, registry, 1)
      | .ok none => (.ok ⟨key, [], []⟩, registry.store ⟨key, [], []⟩, 1)
      | .ok (some _) =>
          let (result, registry, tried) := createFrom registry others
          (result, registry, tried + 1)

def create (registry : Registry) (names : Names) :
    Except RegistryError Customer × Registry × Names :=
  let (result, registry, tried) := registry.createFrom (names.keyCandidates keyAttempts)
  (result, registry, names.skipKeys tried)

/-- Changes the record of a customer and answers it as it then is.  What stays as it was is
not written. -/
def modify (registry : Registry) (key : AccessKey) (change : Customer → Customer) :
    Except RegistryError (Customer × Registry) := do
  let customer ← registry.get key
  let changed := change customer
  return (changed, if changed = customer then registry else registry.store changed)

def add (registry : Registry) (key : AccessKey) (datasource : DatasourceId) :
    Except RegistryError (Customer × Registry) :=
  registry.modify key (·.add datasource)

def remove (registry : Registry) (key : AccessKey) (datasource : DatasourceId) :
    Except RegistryError (Customer × Registry) :=
  registry.modify key (·.remove datasource)

end Registry

end LayerGateway
