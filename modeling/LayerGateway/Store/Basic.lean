import LayerGateway.Store.Layers

/-!
# The store as the gateway sees it

The gateway cannot rely on its store: any kind of operation may fail before it does
anything.  `Store` is a layer store together with the kinds of operations that fail for
now and a count of how often it was asked.
-/

namespace LayerGateway

inductive StoreCall where
  | newLayer
  | insertLayer
  | getLayer
  | deleteLayer
  | insertFeature
  | editFeature
  | getLayers
  | timeseries
  | previous
  | hasLayer
  deriving DecidableEq, Repr

def LayerOperation.call {α : Type} : LayerOperation α → StoreCall
  | .newLayer => .newLayer
  | .insertLayer _ _ => .insertLayer
  | .getLayer _ => .getLayer
  | .deleteLayer _ => .deleteLayer
  | .insertFeature _ _ => .insertFeature
  | .editFeature _ _ _ => .editFeature
  | .getLayers => .getLayers
  | .timeseries _ => .timeseries
  | .previous _ _ => .previous
  | .hasLayer _ => .hasLayer

/-- A layer store that may fail.  `probesByReading` says that it finds out by reading a
layer whether there is one. -/
structure Store where
  layers : LayerStore
  faults : List (StoreCall × String) := []
  probesByReading : Bool := false
  calls : Nat := 0
  deriving DecidableEq

namespace Store

def fault? (store : Store) (call : StoreCall) : Option String :=
  (store.faults.find? (·.1 == call)).map (·.2)

def attempt {α : Type} (operation : LayerOperation α) (now : Int) (names : Names)
    (store : Store) : Except StoreError α × Store × Names :=
  let asked := { store with calls := store.calls + 1 }
  match store.fault? operation.call with
  | some message => (.error (.storage (.device message)), asked, names)
  | none =>
      let (result, layers, names) := store.layers.run operation now names
      (result, { asked with layers }, names)

def run {α : Type} (operation : LayerOperation α) (now : Int) (names : Names)
    (store : Store) : Except StoreError α × Store × Names :=
  match operation with
  | .hasLayer id =>
      if store.probesByReading then
        match store.attempt (.getLayer id) now names with
        | (.ok _, rest) => (.ok true, rest)
        | (.error (.layerNotFound _), rest) => (.ok false, rest)
        | (.error cause, rest) => (.error cause, rest)
      else store.attempt (.hasLayer id) now names
  | operation => store.attempt operation now names

end Store

end LayerGateway
