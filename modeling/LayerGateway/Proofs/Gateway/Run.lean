import LayerGateway.Gateway.Dispatch

/-!
# Runs of a gateway

What can become of a gateway that starts with no customers and no layers: commands are
carried out, views opened, the tables closed and opened again, and everything that is not
kept in a table may change by itself.

A run is what happened to a gateway from its start on, told turn by turn: in which state of
the gateway who gave which command.  What a command answered, and what it left, follows from
that.
-/

namespace LayerGateway.Gateway

/-! ## Reachable gateways -/

/-- A gateway without customers over some layers. -/
def fresh (layers : LayerStore) : Gateway where
  registry := {}
  store := { layers }
  journal := { capacity := JournalQueue.defaultCapacity }
  hub := { buffer := Hub.defaultBuffer }
  names := .behind [] [] []
  clock := 0
  uptime := 0
  files := {}
  converter := .ofProgram Converter.defaultProgram

/-- The gateways that come about.  `outside` is all that happens to a gateway without its
doing: clocks and names go on, views are read and dropped, the journal is written, files
change, and the store begins or ceases to fail. -/
inductive Reachable : Gateway → Prop where
  | start {gateway : Gateway} (noCustomers : gateway.registry = {})
      (noLayers : gateway.store.layers = .inMemory ∨ gateway.store.layers = .onDisk {}) :
      Reachable gateway
  | dispatch {gateway : Gateway} (caller : Caller) (command : Command) :
      Reachable gateway → Reachable (Gateway.dispatch caller command gateway).2
  | openView {gateway : Gateway} (caller : Caller) (datasource : DatasourceId) :
      Reachable gateway → Reachable (Gateway.openView caller datasource gateway).2
  | outside {gateway next : Gateway} (sameRegistry : next.registry = gateway.registry)
      (sameLayers : next.store.layers = gateway.store.layers) :
      Reachable gateway → Reachable next
  | restarted {gateway : Gateway} : Reachable gateway → Reachable gateway.restarted

/-! ## Runs -/

structure Turn where
  before : Gateway
  caller : Caller
  command : Command

namespace Turn

def answer (turn : Turn) : Except GatewayError Outcome :=
  (dispatch turn.caller turn.command turn.before).1

/-- The gateway when the command has been carried out. -/
def after (turn : Turn) : Gateway :=
  (dispatch turn.caller turn.command turn.before).2

theorem ran {turn : Turn} {outcome : Outcome} (answered : turn.answer = .ok outcome) :
    dispatch turn.caller turn.command turn.before = (.ok outcome, turn.after) :=
  Prod.ext answered rfl

theorem failed {turn : Turn} {error : GatewayError} (answered : turn.answer = .error error) :
    dispatch turn.caller turn.command turn.before = (.error error, turn.after) :=
  Prod.ext answered rfl

end Turn

/-- The runs of a gateway that starts with no customers and no layers, and where they lead. -/
inductive Run : List Turn → Gateway → Prop where
  | start {gateway : Gateway} (noCustomers : gateway.registry = {})
      (noLayers : gateway.store.layers = .inMemory ∨ gateway.store.layers = .onDisk {}) :
      Run [] gateway
  | turn {turns : List Turn} {gateway : Gateway} (caller : Caller) (command : Command)
      (run : Run turns gateway) :
      Run (turns ++ [⟨gateway, caller, command⟩]) (dispatch caller command gateway).2
  | outside {turns : List Turn} {gateway next : Gateway}
      (sameRegistry : next.registry = gateway.registry)
      (sameLayers : next.store.layers = gateway.store.layers) (run : Run turns gateway) :
      Run turns next

theorem Run.reachable {turns : List Turn} {gateway : Gateway} (run : Run turns gateway) :
    gateway.Reachable := by
  induction run with
  | start noCustomers noLayers => exact .start noCustomers noLayers
  | turn caller command run ih => exact .dispatch caller command ih
  | outside sameRegistry sameLayers run ih => exact .outside sameRegistry sameLayers ih

end LayerGateway.Gateway
