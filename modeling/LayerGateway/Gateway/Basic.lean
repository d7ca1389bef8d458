import LayerGateway.Command.Basic
import LayerGateway.Gateway.Error
import LayerGateway.Journal.Writer
import LayerGateway.Live.Hub
import LayerGateway.Store.Basic

/-!
# The gateway

The state of the gateway is that of its parts: the registry of customers, the store of
layers, the journal queue, the hub of live views, and what it sees of the world, namely
clocks, new names, files and a converter.  A command is an `Action` on that state.
An action that fails keeps what it has done until then.

A change of a layer looks at the clock twice, when the store makes the new version and when
the viewers are told.  Nothing says that both readings are the same.  A deletion makes no
version and looks only when the viewers are told.
-/

namespace LayerGateway

/-! ## Clocks -/

/-- What a clock reads in milliseconds since 1970: now, and each time that it has gone on.
Behind the last reading it stands still. -/
structure Clock where
  reading : Int
  later : List Int := []
  deriving DecidableEq, Repr

namespace Clock

/-- A clock that stands still. -/
instance : Coe Int Clock := ⟨fun reading => { reading }⟩

instance (reading : Nat) : OfNat Clock reading := ⟨{ reading }⟩

/-- The time that is read; there is none before 1970. -/
def now (clock : Clock) : Int :=
  max 0 clock.reading

def next (clock : Clock) : Clock :=
  match clock.later with
  | [] => clock
  | reading :: later => { reading, later }

end Clock

/-! ## The state -/

/-- The state of a gateway.  `uptime` counts whole seconds since the gateway was started. -/
structure Gateway where
  registry : Registry
  store : Store
  journal : JournalQueue
  hub : Hub
  names : Names
  clock : Clock
  uptime : Nat
  files : Files
  converter : Converter

/-- Something done on a gateway that may fail. -/
abbrev Action := ExceptT GatewayError (StateM Gateway)

namespace Gateway

def now (gateway : Gateway) : Int :=
  gateway.clock.now

theorem zero_le_now (gateway : Gateway) : 0 ≤ gateway.now :=
  Int.le_max_left _ _

/-! ## Parts -/

/-- Asks the store, which takes the present reading of the clock for a new version. -/
def askStore {α : Type} (operation : LayerOperation α) : Action α := fun gateway =>
  let (result, store, names) := gateway.store.run operation gateway.now gateway.names
  (result.mapError .store, { gateway with store, names })

def askRegistry {α : Type} (question : Registry → Except RegistryError α) : Action α :=
  fun gateway => ((question gateway.registry).mapError .registry, gateway)

/-- Changes the registry, unless the change fails. -/
def changeRegistry {α : Type} (change : Registry → Except RegistryError (α × Registry)) :
    Action α := fun gateway =>
  match change gateway.registry with
  | .ok (value, registry) => (.ok value, { gateway with registry })
  | .error error => (.error (.registry error), gateway)

/-- A new datasource name, taken or not. -/
def newDatasource : Action DatasourceId := fun gateway =>
  let (id, names) := gateway.names.datasource
  (.ok id, { gateway with names })

/-! ## Permission -/

/-- The record of a caller who has one. -/
def knownCaller : Caller → Action (Option Customer)
  | .trusted => return none
  | .keyed key => fun gateway =>
      match gateway.registry.load key with
      | .ok (some customer) => (.ok (some customer), gateway)
      | .ok none => (.error (.unauthorized (.unknownKey key)), gateway)
      | .error error => (.error (.registry error), gateway)

def demandOwner (customer : Option Customer) (datasource : DatasourceId) : Action Unit :=
  match customer with
  | some customer => do
      unless customer.has datasource do
        throw (.unauthorized (.notOwner customer.apikey datasource))
  | none => return ()

/-- Refuses callers who may not deal with a datasource. -/
def authorize (caller : Caller) (datasource : DatasourceId) : Action Unit := do
  demandOwner (← knownCaller caller) datasource

def demandLayer (datasource : DatasourceId) : Action Unit := do
  unless ← askStore (.hasLayer datasource) do
    throw (.store (.layerNotFound datasource))

/-- Gives a datasource to a caller who is a customer. -/
def grant (caller : Caller) (datasource : DatasourceId) : Action Unit :=
  match caller with
  | .keyed key => do
      let _ ← changeRegistry (·.add key datasource)
  | .trusted => return ()

/-! ## Journal and viewers -/

/-- Offers an entry to the journal.  It makes no difference to the command whether the
entry is accepted. -/
def journalChange (method : String) (data : Json) : Action Unit :=
  modify fun gateway =>
    { gateway with journal := (gateway.journal.enqueue ⟨method, data⟩).2 }

/-- Tells the viewers of a datasource that its layer changed.  The clock is read anew, and
goes on before the store is asked again. -/
def announce (method : String) (datasource : DatasourceId) : Action Unit :=
  modify fun gateway =>
    let clock := gateway.clock.next
    { gateway with
      clock := clock.next
      hub := (gateway.hub.broadcast ⟨datasource, method, clock.now⟩).2 }

/-- Journals and announces a change of a layer.  The data name the caller and the
datasource. -/
def record (method : String) (caller : Caller) (datasource : DatasourceId)
    (data : List (String × Json)) : Action Unit := do
  let apikey := Json.ofText? (caller.key?.map (·.text))
  journalChange method <| .ofMembers <|
    [("apikey", apikey), ("datasource", .string datasource.text)] ++ data
  announce method datasource

/-! ## Starting and stopping -/

/-- Writes what waits in the journal to the commit log and counts the entries. -/
def writeJournal (path : String) (gateway : Gateway) : Except LogError Nat × Gateway :=
  let (result, journal, files) := gateway.journal.writeTo path gateway.files
  (result, { gateway with journal, files })

/-- The gateway started again over the same tables, with a new journal and a new hub. -/
def restarted (gateway : Gateway) : Gateway :=
  { gateway with
    store := { gateway.store with layers := gateway.store.layers.reopened }
    journal := { capacity := gateway.journal.capacity }
    hub := { buffer := gateway.hub.buffer }
    uptime := 0 }

end Gateway

end LayerGateway
