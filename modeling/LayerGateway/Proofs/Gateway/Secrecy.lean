import LayerGateway.Proofs.Gateway.Ownership
import LayerGateway.Proofs.Store.Agreement

/-!
# Secrecy

A customer learns nothing about layers of others.  Two gateways in memory that differ only in
layers which the customer does not own carry out a command of the customer in the same way: with
the same answer or the same error, and with the same entry for the journal.  Afterwards they still
differ only in layers that the customer does not own.

* `Blind` is said of actions that make no use of the layers at all.
* `Unseen` is said of actions that make no difference between two stores which agree on the layers
  that are shared.  Every command is one once its permission was asked for.
* `dispatch_unseen` says so of commands.
-/

namespace LayerGateway

/-- The queue after some entries were offered to it. -/
def JournalQueue.offerAll (queue : JournalQueue) (entries : List JournalEntry) : JournalQueue :=
  entries.foldl (fun queue entry => (queue.enqueue entry).2) queue

theorem JournalQueue.offerAll_append (queue : JournalQueue) (entries further : List JournalEntry) :
    queue.offerAll (entries ++ further) = (queue.offerAll entries).offerAll further :=
  List.foldl_append

/-! ## Names that are free -/

theorem firstFrom_of_passes {test : Nat → Bool} {start : Nat}
    (found : ∃ n, start ≤ n ∧ test n = true) (passes : test start = true) :
    firstFrom test start found = start := by
  rw [firstFrom, firstFrom.walk, dif_pos passes]

/-- If the next name is not taken, it is the one that a new layer gets. -/
theorem Names.freeDatasource_of_free {names : Names} {taken : List DatasourceId}
    (free : names.datasource.1 ∉ taken) : names.freeDatasource taken = names.datasource := by
  have next : names.datasources.firstFree taken names.nextDatasource = names.nextDatasource := by
    apply firstFrom_of_passes
    simpa [Names.datasource] using free
  simp only [Names.freeDatasource, next]
  rfl

theorem Backend.sameLayer_of_free {first second : Backend} {id : DatasourceId}
    (firstInMemory : first.isDisk = false) (secondInMemory : second.isDisk = false)
    (firstFree : id ∉ first.taken) (secondFree : id ∉ second.taken) :
    Backend.SameLayer id first second := by
  have absent {held : Memory} (free : id ∉ (Backend.memory held).taken) :
      held.get? id.text = none := by
    cases found : held.get? id.text with
    | none => rfl
    | some layer =>
      have key := List.mem_map_of_mem (f := (·.1)) (held.mem_of_get? found)
      exact absurd (List.mem_map_of_mem (f := DatasourceId.mk) key) free
  cases first with
  | disk tables => cases firstInMemory
  | memory held =>
    cases second with
    | disk tables => cases secondInMemory
    | memory other => exact .memory ((absent firstFree).trans (absent secondFree).symm)

/-! ## Asking the store -/

/-- The store fails or not, whatever its layers are. -/
theorem Store.run_agree {α : Type} (store : Store) {shared : DatasourceId → Prop}
    {first second : LayerStore} {operation : LayerOperation α} {now : Int} {names : Names}
    (ordinary : operation.call ≠ .hasLayer) (agree : LayerStore.Agree shared first second)
    (same : (first.run operation now names).1 = (second.run operation now names).1 ∧
      (first.run operation now names).2.2 = (second.run operation now names).2.2 ∧
      LayerStore.Agree shared (first.run operation now names).2.1
        (second.run operation now names).2.1) :
    ∃ result calls laterNames firstLater secondLater,
      Store.run operation now names { store with layers := first } =
        (result, { store with layers := firstLater, calls }, laterNames) ∧
      Store.run operation now names { store with layers := second } =
        (result, { store with layers := secondLater, calls }, laterNames) ∧
      LayerStore.Agree shared firstLater secondLater := by
  have runs (store : Store) : store.run operation now names = store.attempt operation now names := by
    cases operation with
    | hasLayer id => exact absurd rfl ordinary
    | _ => rfl
  obtain ⟨sameResult, sameNames, later⟩ := same
  rw [runs, runs]
  -- Whether this kind of operations fails is not for the layers to say.
  cases fault : store.fault? operation.call with
  | some message =>
    have failed (layers : LayerStore) :
        Store.attempt operation now names { store with layers } =
          (.error (.storage (.device message)), { store with layers, calls := store.calls + 1 },
            names) := by
      have faultHere : { store with layers }.fault? operation.call = some message := fault
      simp only [Store.attempt, faultHere]
    exact ⟨_, _, _, first, second, failed first, failed second, agree⟩
  | none =>
    have ran (layers : LayerStore) :
        Store.attempt operation now names { store with layers } =
          ((layers.run operation now names).1,
            { store with layers := (layers.run operation now names).2.1, calls := store.calls + 1 },
            (layers.run operation now names).2.2) := by
      have faultHere : { store with layers }.fault? operation.call = none := fault
      simp only [Store.attempt, faultHere]
    have ranSecond := ran second
    rw [← sameResult, ← sameNames] at ranSecond
    exact ⟨_, _, _, _, _, ran first, ranSecond, later⟩

namespace Gateway

variable {α β : Type}

/-- The gateway over other layers and with another journal. -/
def upon (gateway : Gateway) (layers : LayerStore) (journal : JournalQueue) : Gateway :=
  { gateway with store := { gateway.store with layers }, journal }

/-! ## Actions that do not look at layers -/

/-- Whatever the layers and the journal are, the action ends in the same way, leaves the layers
alone and offers the journal the same entries. -/
def Blind (action : Action α) : Prop :=
  ∀ gateway : Gateway, ∃ (result : Except GatewayError α) (later : Gateway)
    (entries : List JournalEntry), ∀ layers journal, action (gateway.upon layers journal) =
      (result, later.upon layers (journal.offerAll entries))

section Blind

theorem blind_pure (value : α) : Blind (pure value) :=
  fun gateway => ⟨.ok value, gateway, [], fun _ _ => rfl⟩

theorem blind_throw (error : GatewayError) : Blind (throw error : Action α) :=
  fun gateway => ⟨.error error, gateway, [], fun _ _ => rfl⟩

theorem Blind.bind {first : Action α} {next : α → Action β} (blind : Blind first)
    (nextBlind : ∀ value, Blind (next value)) : Blind (first >>= next) := by
  intro gateway
  obtain ⟨result, between, entries, ran⟩ := blind gateway
  cases result with
  | error error =>
    refine ⟨.error error, between, entries, fun layers journal => ?_⟩
    exact run_bind_of_error (ran layers journal)
  | ok value =>
    obtain ⟨result, later, further, ranNext⟩ := nextBlind value between
    refine ⟨result, later, entries ++ further, fun layers journal => ?_⟩
    rw [run_bind_of_ok (ran layers journal), ranNext, JournalQueue.offerAll_append]

theorem Blind.ite {condition : Prop} [Decidable condition] {first second : Action α}
    (firstBlind : Blind first) (secondBlind : Blind second) :
    Blind (if condition then first else second) := by
  split
  · exact firstBlind
  · exact secondBlind

theorem blind_knownCaller (caller : Caller) : Blind (knownCaller caller) := by
  cases caller with
  | trusted => exact blind_pure none
  | keyed key =>
    intro gateway
    refine ⟨(knownCaller (.keyed key) gateway).1, gateway, [], fun layers journal => ?_⟩
    simp only [run_knownCaller, upon]
    cases gateway.registry.load key with
    | error cause => rfl
    | ok record => cases record <;> rfl

theorem blind_demandOwner (customer : Option Customer) (datasource : DatasourceId) :
    Blind (demandOwner customer datasource) := by
  cases customer with
  | none => exact blind_pure ()
  | some customer => exact (blind_pure ()).ite (blind_throw _)

theorem blind_authorize (caller : Caller) (datasource : DatasourceId) :
    Blind (authorize caller datasource) :=
  (blind_knownCaller caller).bind fun _ => blind_demandOwner _ _

theorem blind_changeRegistry (change : Registry → Except RegistryError (α × Registry)) :
    Blind (changeRegistry change) := by
  intro gateway
  refine ⟨(changeRegistry change gateway).1, (changeRegistry change gateway).2, [],
    fun layers journal => ?_⟩
  simp only [changeRegistry, upon]
  cases change gateway.registry <;> rfl

theorem blind_grant (caller : Caller) (datasource : DatasourceId) :
    Blind (grant caller datasource) := by
  cases caller with
  | keyed key => exact (blind_changeRegistry _).bind fun _ => blind_pure ()
  | trusted => exact blind_pure ()

theorem blind_journalChange (method : String) (data : Json) : Blind (journalChange method data) :=
  fun gateway => ⟨.ok (), gateway, [⟨method, data⟩], fun _ _ => rfl⟩

theorem blind_announce (method : String) (datasource : DatasourceId) :
    Blind (announce method datasource) := fun gateway =>
  ⟨.ok (), { gateway with
    clock := gateway.clock.next.next
    hub := (gateway.hub.broadcast ⟨datasource, method, gateway.clock.next.now⟩).2 }, [],
    fun _ _ => rfl⟩

theorem blind_record (method : String) (caller : Caller) (datasource : DatasourceId)
    (data : List (String × Json)) : Blind (record method caller datasource data) :=
  (blind_journalChange method _).bind fun _ => blind_announce method datasource

theorem blind_newLayer (caller : Caller) (method : String) (datasource : DatasourceId)
    (data : List (String × Json)) :
    Blind (do
      grant caller datasource
      record method caller datasource data
      return Outcome.datasource datasource) :=
  (blind_grant caller datasource).bind fun _ =>
    (blind_record method caller datasource data).bind fun _ => blind_pure _

end Blind

/-! ## Actions that look at layers in common -/

/-- Over two stores the action ends in the same way, offers the journal the same entries and
leaves stores that agree on what is shared. -/
def Unseen (shared : DatasourceId → Prop) (first second : LayerStore) (gateway : Gateway)
    (action : Action α) : Prop :=
  ∃ (result : Except GatewayError α) (later : Gateway) (entries : List JournalEntry)
      (firstLater secondLater : LayerStore),
    (∀ journal, action (gateway.upon first journal) =
      (result, later.upon firstLater (journal.offerAll entries))) ∧
    (∀ journal, action (gateway.upon second journal) =
      (result, later.upon secondLater (journal.offerAll entries))) ∧
    LayerStore.Agree shared firstLater secondLater

section Unseen

variable {shared : DatasourceId → Prop} {first second : LayerStore} {gateway : Gateway}

theorem Blind.unseen {action : Action α} (blind : Blind action)
    (agree : LayerStore.Agree shared first second) : Unseen shared first second gateway action := by
  obtain ⟨result, later, entries, ran⟩ := blind gateway
  exact ⟨result, later, entries, first, second, ran first, ran second, agree⟩

/-- What comes before may change other things, but leaves the layers alone. -/
theorem Unseen.after {action : Action α} {next : α → Action β} {value : α} {between : Gateway}
    (ran : ∀ layers journal,
      action (gateway.upon layers journal) = (.ok value, between.upon layers journal))
    (unseen : Unseen shared first second between (next value)) :
    Unseen shared first second gateway (action >>= next) := by
  obtain ⟨result, later, entries, firstLater, secondLater, firstRan, secondRan, agree⟩ := unseen
  refine ⟨result, later, entries, firstLater, secondLater, fun journal => ?_, fun journal => ?_,
    agree⟩
  · rw [run_bind_of_ok (ran first journal)]
    exact firstRan journal
  · rw [run_bind_of_ok (ran second journal)]
    exact secondRan journal

/-- A question that is asked before may be refused, and then nothing else is done. -/
theorem Unseen.asked {action : Action α} {next : α → Action β}
    (agree : LayerStore.Agree shared first second) (blind : Blind action)
    (reads : Keeps id action)
    (unseen : ∀ value, (∀ layers journal, action (gateway.upon layers journal) =
      (.ok value, gateway.upon layers journal)) →
        Unseen shared first second gateway (next value)) :
    Unseen shared first second gateway (action >>= next) := by
  obtain ⟨result, later, entries, ran⟩ := blind gateway
  cases result with
  | error error =>
    exact ⟨.error error, later, entries, first, second,
      fun journal => run_bind_of_error (ran first journal),
      fun journal => run_bind_of_error (ran second journal), agree⟩
  | ok value =>
    have answers (layers : LayerStore) (journal : JournalQueue) :
        action (gateway.upon layers journal) = (.ok value, gateway.upon layers journal) := by
      have same := reads.seen (ran layers journal)
      rw [ran]
      exact congrArg _ same
    exact Unseen.after answers (unseen value answers)

theorem Unseen.before {action : Action α} {next : α → Action β}
    (unseen : Unseen shared first second gateway action) (blind : ∀ value, Blind (next value)) :
    Unseen shared first second gateway (action >>= next) := by
  obtain ⟨result, between, entries, firstLater, secondLater, firstRan, secondRan, agree⟩ := unseen
  cases result with
  | error error =>
    exact ⟨.error error, between, entries, firstLater, secondLater,
      fun journal => run_bind_of_error (firstRan journal),
      fun journal => run_bind_of_error (secondRan journal), agree⟩
  | ok value =>
    obtain ⟨result, later, further, ran⟩ := blind value between
    refine ⟨result, later, entries ++ further, firstLater, secondLater, fun journal => ?_,
      fun journal => ?_, agree⟩
    · rw [run_bind_of_ok (firstRan journal), ran, JournalQueue.offerAll_append]
    · rw [run_bind_of_ok (secondRan journal), ran, JournalQueue.offerAll_append]

/-- An operation that goes the same way in both stores makes no difference, whatever is made of
its result. -/
theorem unseen_run {operation : LayerOperation α} (ordinary : operation.call ≠ .hasLayer)
    (agree : LayerStore.Agree shared first second)
    (same : (first.run operation gateway.now gateway.names).1 =
        (second.run operation gateway.now gateway.names).1 ∧
      (first.run operation gateway.now gateway.names).2.2 =
        (second.run operation gateway.now gateway.names).2.2 ∧
      LayerStore.Agree shared (first.run operation gateway.now gateway.names).2.1
        (second.run operation gateway.now gateway.names).2.1)
    (wrap : Except StoreError α → Except GatewayError β) :
    Unseen shared first second gateway (fun gateway =>
      let (result, store, names) := gateway.store.run operation gateway.now gateway.names
      (wrap result, { gateway with store, names }) : Action β) := by
  obtain ⟨result, calls, names, firstLater, secondLater, firstRan, secondRan, later⟩ :=
    gateway.store.run_agree ordinary agree same
  refine ⟨wrap result, { gateway with store := { gateway.store with calls }, names }, [],
    firstLater, secondLater, fun journal => ?_, fun journal => ?_, later⟩
  · exact congrArg (fun ended => (wrap ended.1, { gateway.upon first journal with
      store := ended.2.1, names := ended.2.2 })) firstRan
  · exact congrArg (fun ended => (wrap ended.1, { gateway.upon second journal with
      store := ended.2.1, names := ended.2.2 })) secondRan

theorem unseen_askStore (operation : LayerOperation α) {id : DatasourceId}
    (ordinary : operation.call ≠ .hasLayer) (agree : LayerStore.Agree shared first second)
    (common : shared id) (named : operation.named? = some id) :
    Unseen shared first second gateway (askStore operation) :=
  unseen_run ordinary agree (agree.run common operation gateway.now gateway.names named) (·.mapError .store)

theorem unseen_newLayer (agree : LayerStore.Agree shared first second)
    (common : shared gateway.names.datasource.1)
    (firstFree : gateway.names.datasource.1 ∉ first.backend.taken)
    (secondFree : gateway.names.datasource.1 ∉ second.backend.taken) :
    Unseen shared first second gateway (askStore .newLayer) := by
  have firstNames := Names.freeDatasource_of_free firstFree
  have secondNames := Names.freeDatasource_of_free secondFree
  have ordinary : (LayerOperation.newLayer).call ≠ .hasLayer := nofun
  refine unseen_run ordinary agree (agree.run_newLayer ?_ ?_) (·.mapError .store)
  · rwa [firstNames]
  · rw [firstNames, secondNames]

theorem Unseen.named {next : DatasourceId → Action β}
    (unseen : Unseen shared first second { gateway with names := gateway.names.datasource.2 }
      (next gateway.names.datasource.1)) :
    Unseen shared first second gateway (newDatasource >>= next) :=
  .after (fun _ _ => rfl) unseen

theorem Unseen.guarded {action : Action α} (condition : Bool) (refusal : GatewayError)
    (agree : LayerStore.Agree shared first second)
    (unseen : condition = false → Unseen shared first second gateway action) :
    Unseen shared first second gateway (do
      if condition then throw refusal
      action) := by
  cases condition with
  | true =>
    exact ⟨.error refusal, gateway, [], first, second, fun _ => rfl, fun _ => rfl, agree⟩
  | false => exact unseen rfl

theorem Unseen.revoked {datasource : DatasourceId}
    {next : Nat × Option RegistryError → Action β}
    (unseen : Unseen shared first second
      { gateway with registry := (revokeAll datasource gateway.registry).2 }
      (next (revokeAll datasource gateway.registry).1)) :
    Unseen shared first second gateway ((modifyGet fun gateway =>
      let (result, registry) := revokeAll datasource gateway.registry
      (result, { gateway with registry })) >>= next) :=
  .after (fun _ _ => rfl) unseen

end Unseen

/-! ## Commands -/

/-- The layers that a customer owns, and the one that gets the next name. -/
def OwnOrNext (gateway : Gateway) (key : AccessKey) (id : DatasourceId) : Prop :=
  gateway.registry.Lists key id ∨ id = gateway.names.datasource.1

section Commands

variable {gateway : Gateway} {key : AccessKey} {first second : LayerStore}

theorem Unseen.authorized {datasource : DatasourceId} {next : Action α}
    (agree : LayerStore.Agree (gateway.OwnOrNext key) first second)
    (unseen : gateway.OwnOrNext key datasource →
      Unseen (gateway.OwnOrNext key) first second gateway next) :
    Unseen (gateway.OwnOrNext key) first second gateway (do
      authorize (.keyed key) datasource
      next) := by
  apply Unseen.asked agree (blind_authorize _ _) (reads_authorize _ _)
  intro _ passed
  -- Permission was given, and only an owner gets it.
  have owner := (authorized_of_authorize (passed first gateway.journal)).2
  exact unseen (.inl owner)

theorem unseen_createDatasource (agree : LayerStore.Agree (gateway.OwnOrNext key) first second)
    (firstFree : gateway.names.datasource.1 ∉ first.backend.taken)
    (secondFree : gateway.names.datasource.1 ∉ second.backend.taken)
    (datasource : Option DatasourceId) (layer : Option FeatureCollection) :
    Unseen (gateway.OwnOrNext key) first second gateway
      (createDatasource (.keyed key) datasource layer) := by
  have next : gateway.OwnOrNext key gateway.names.datasource.1 := .inr rfl
  apply Unseen.asked agree (blind_knownCaller _) (reads_knownCaller _)
  intro customer known
  cases datasource with
  | some id =>
    apply Unseen.asked agree (blind_demandOwner _ _) (reads_demandOwner _ _)
    intro _ passed
    -- Who may replace the layer owns it, so both stores keep the same of it.
    have owner := authorized_of_demandOwner (known first gateway.journal)
      (passed first gateway.journal)
    apply Unseen.before (unseen_askStore (.insertLayer id (layer.getD .empty)) nofun agree
      (.inl owner) rfl)
    intro _
    exact (blind_pure id).bind fun _ => blind_newLayer _ _ _ []
  | none =>
    cases layer with
    | some layer =>
      refine Unseen.named ?_
      apply Unseen.before (unseen_askStore (.insertLayer gateway.names.datasource.1 layer) nofun
        agree next rfl)
      intro _
      exact (blind_pure _).bind fun _ => blind_newLayer _ _ _ []
    | none =>
      apply Unseen.before (unseen_newLayer agree next firstFree secondFree)
      intro id
      exact blind_newLayer _ _ id []

theorem unseen_importFile (agree : LayerStore.Agree (gateway.OwnOrNext key) first second)
    (path : String) :
    Unseen (gateway.OwnOrNext key) first second gateway (importFile (.keyed key) path) := by
  have next : gateway.OwnOrNext key gateway.names.datasource.1 := .inr rfl
  apply Unseen.asked agree (blind_knownCaller _) (reads_knownCaller _)
  intro _ _
  have loads : Blind (fun gateway => ((FeatureCollection.load gateway.files gateway.converter
      path).mapError .file, gateway) : Action FeatureCollection) :=
    fun gateway => ⟨(FeatureCollection.load gateway.files gateway.converter path).mapError .file,
      gateway, [], fun _ _ => rfl⟩
  refine Unseen.asked agree loads (fun _ => rfl) ?_
  intro collection _
  refine Unseen.named ?_
  apply Unseen.before (unseen_askStore (.insertLayer gateway.names.datasource.1 collection)
    nofun agree next rfl)
  intro _
  exact blind_newLayer _ _ _ _

theorem unseen_deleteDatasource (agree : LayerStore.Agree (gateway.OwnOrNext key) first second)
    (datasource : DatasourceId) :
    Unseen (gateway.OwnOrNext key) first second gateway
      (deleteDatasource (.keyed key) datasource) := by
  apply Unseen.authorized agree
  intro own
  -- Who else owns the layer is known from the registry alone.
  refine Unseen.revoked ?_
  have ordinary : (LayerOperation.deleteLayer datasource).call ≠ .hasLayer := nofun
  obtain ⟨⟨revoked, failure⟩, registry⟩ := revokeAll datasource gateway.registry
  let between : Gateway := { gateway with registry }
  have same := agree.run own (.deleteLayer datasource) between.now between.names rfl
  refine Unseen.before ?_ fun deleted => ?_
  · exact unseen_run ordinary agree same .ok
  cases failure with
  | none =>
    cases deleted with
    | ok => exact (blind_record _ _ _ []).bind fun _ => blind_pure _
    | error cause => exact (blind_throw _).ite (blind_throw _)
  | some failure =>
    cases deleted with
    | ok => exact blind_throw _
    | error cause => exact blind_throw _

theorem blind_exportApikey (requested : Option AccessKey) :
    Blind (exportApikey (.keyed key) requested) := by
  have answers : Blind (exportApikey (.keyed key) none) := by
    apply (blind_knownCaller _).bind
    intro record
    cases record with
    | none => exact blind_throw _
    | some customer => exact blind_pure _
  cases requested with
  | none => exact answers
  | some requested =>
    -- Another key is refused before anything is looked up.
    by_cases same : key = requested
    · simpa only [exportApikey, if_pos same] using answers
    · simp only [exportApikey, if_neg same]
      exact (blind_throw _).bind fun _ => answers

theorem unseen_change (operation : LayerOperation α) {datasource : DatasourceId}
    (ordinary : operation.call ≠ .hasLayer)
    (agree : LayerStore.Agree (gateway.OwnOrNext key) first second)
    (named : operation.named? = some datasource) {next : α → Action Outcome}
    (blind : ∀ answer, Blind (next answer)) :
    Unseen (gateway.OwnOrNext key) first second gateway (do
      authorize (.keyed key) datasource
      next (← askStore operation)) := by
  apply Unseen.authorized agree
  intro own
  exact (unseen_askStore operation ordinary agree own named).before blind

/-- A customer's command makes no difference between two stores which agree on the layers that the
customer owns and on the one that gets the next name. -/
theorem unseen_dispatch (agree : LayerStore.Agree (gateway.OwnOrNext key) first second)
    (firstFree : gateway.names.datasource.1 ∉ first.backend.taken)
    (secondFree : gateway.names.datasource.1 ∉ second.backend.taken) (command : Command)
    (unassigned : ∀ apikey datasource, command ≠ .assignDatasource apikey datasource) :
    Unseen (gateway.OwnOrNext key) first second gateway (dispatch (.keyed key) command) := by
  refine .guarded _ _ agree fun ordinary => ?_
  cases command with
  | ping =>
    have answers : Blind (do return Outcome.pong (← get).uptime : Action Outcome) :=
      fun gateway => ⟨.ok (.pong gateway.uptime), gateway, [], fun _ _ => rfl⟩
    exact answers.unseen agree
  -- These are for trusted callers, and were refused already.
  | createApikey | insertApikey _ | exportApikeys | exportDatasources => cases ordinary
  | exportApikey requested => exact (blind_exportApikey requested).unseen agree
  | assignDatasource apikey datasource => exact absurd rfl (unassigned apikey datasource)
  | createDatasource datasource layer =>
    exact unseen_createDatasource agree firstFree secondFree datasource layer
  | deleteDatasource datasource => exact unseen_deleteDatasource agree datasource
  | importFile path => exact unseen_importFile agree path
  | insertFeature datasource feature =>
    apply unseen_change (.insertFeature datasource feature) nofun agree rfl
    intro geoId
    exact (blind_record _ _ _ _).bind fun _ => blind_pure _
  | editFeature datasource geoId feature =>
    apply unseen_change (.editFeature datasource geoId feature) nofun agree rfl
    intro stored
    exact (blind_record _ _ _ _).bind fun _ => blind_pure _
  | exportDatasource datasource =>
    exact unseen_change (.getLayer datasource) nofun agree rfl fun _ => blind_pure _
  | exportFeature datasource geoId =>
    apply unseen_change (.getLayer datasource) nofun agree rfl
    intro collection
    split
    · exact blind_pure _
    · exact blind_throw _
  | exportSnapshots datasource =>
    exact unseen_change (.timeseries datasource) nofun agree rfl fun _ => blind_pure _
  | exportSnapshot datasource timestamp =>
    exact unseen_change (.previous datasource timestamp) nofun agree rfl fun _ => blind_pure _

/-- A customer comes to own nothing but the layer that gets the next name. -/
theorem RegistryAfter.ownOrNext {command : Command} {later : Registry} {id : DatasourceId}
    (after : gateway.RegistryAfter (.keyed key) command later)
    (wellKept : gateway.registry.WellKept)
    (free : gateway.names.datasource.1 ∉ gateway.store.layers.backend.taken)
    (unassigned : ∀ apikey datasource, command ≠ .assignDatasource apikey datasource)
    (lists : later.Lists key id) : gateway.OwnOrNext key id := by
  cases after with
  | same => exact .inl lists
  | created trusted _ => cases trusted
  | put trusted _ => cases trusted
  | granted recipient given added =>
    rcases (Registry.lists_add wellKept added).1 lists with ⟨-, rfl⟩ | owned
    · right
      cases command with
      | assignDatasource apikey datasource => exact absurd rfl (unassigned apikey datasource)
      | importFile _ =>
        cases given
        rfl
      | createDatasource named layer =>
        cases named with
        | some datasource => cases given
        | none =>
          cases layer with
          | some layer =>
            cases given
            rfl
          | none =>
            cases given
            rw [Names.freeDatasource_of_free free]
      | _ => cases given
    · exact .inl owned
  -- What is left after a revocation was owned before.
  | revoked _ _ => exact .inl ((Registry.lists_revokeAll wellKept).1 lists).1

end Commands

/-- Of two gateways in memory that differ only in layers which a customer does not own, neither
answers a command of the customer in another way than the other, or journals anything else, and
afterwards they still differ only in layers which the customer does not own.  The one command that
is left out is that by which customers take what is there.  In the gateways `gateway.upon first` and
`gateway.upon second` everything but the layers is the same, and the journal may be any. -/
theorem dispatch_unseen {gateway : Gateway} (reachable : gateway.Reachable) (key : AccessKey)
    (command : Command)
    (unassigned : ∀ apikey datasource, command ≠ .assignDatasource apikey datasource)
    (first second : LayerStore) (firstReached : LayerStore.inMemory.Reached first)
    (secondReached : LayerStore.inMemory.Reached second)
    (firstFree : gateway.names.datasource.1 ∉ first.backend.taken)
    (secondFree : gateway.names.datasource.1 ∉ second.backend.taken)
    (own : ∀ id, gateway.registry.Lists key id →
      Backend.SameLayer id first.backend second.backend) :
    ∃ (result : Except GatewayError Outcome) (later : Gateway) (entries : List JournalEntry)
        (firstLater secondLater : LayerStore),
      (∀ journal, dispatch (.keyed key) command (gateway.upon first journal) =
        (result, later.upon firstLater (journal.offerAll entries))) ∧
      (∀ journal, dispatch (.keyed key) command (gateway.upon second journal) =
        (result, later.upon secondLater (journal.offerAll entries))) ∧
      ∀ id, later.registry.Lists key id →
        Backend.SameLayer id firstLater.backend secondLater.backend := by
  have ofFirst := firstReached.inMemory
  have ofSecond := secondReached.inMemory
  have agree : LayerStore.Agree (gateway.OwnOrNext key) first second := by
    refine ⟨ofFirst, ofSecond, fun id common => ?_⟩
    rcases common with owned | rfl
    · exact own id owned
    · exact Backend.sameLayer_of_free ofFirst.inMemory ofSecond.inMemory firstFree secondFree
  obtain ⟨result, later, entries, firstLater, secondLater, firstRan, secondRan, laterAgree⟩ :=
    unseen_dispatch agree firstFree secondFree command unassigned
  refine ⟨result, later, entries, firstLater, secondLater, firstRan, secondRan, ?_⟩
  intro id lists
  -- The customer may own more than before: the layer that was made, which is in common too.
  have registry := dispatch_registry (gateway.upon first gateway.journal) (.keyed key) command
  rw [Leaves, firstRan] at registry
  exact laterAgree.layers id (registry.ownOrNext reachable.wellKept firstFree unassigned lists)

/-- A gateway in memory with one customer, who owns a layer. -/
def holder : Gateway :=
  (dispatch .trusted (.insertApikey ⟨⟨"k"⟩, [⟨"d"⟩], []⟩) (fresh .inMemory)).2

def alone : LayerStore :=
  (LayerStore.inMemory.insertLayer 5 ⟨"d"⟩ .empty).2

/-- The same layer beside another one. -/
def accompanied : LayerStore :=
  (alone.insertLayer 7 ⟨"e"⟩ .empty).2

theorem dispatch_unseen_accompanied :
    alone ≠ accompanied ∧
      ∃ (result : Except GatewayError Outcome) (later : Gateway) (entries : List JournalEntry)
          (firstLater secondLater : LayerStore),
        (∀ journal, dispatch (.keyed ⟨"k"⟩) (.deleteDatasource ⟨"d"⟩) (holder.upon alone journal) =
          (result, later.upon firstLater (journal.offerAll entries))) ∧
        (∀ journal,
          dispatch (.keyed ⟨"k"⟩) (.deleteDatasource ⟨"d"⟩) (holder.upon accompanied journal) =
            (result, later.upon secondLater (journal.offerAll entries))) ∧
        ∀ id, later.registry.Lists ⟨"k"⟩ id →
          Backend.SameLayer id firstLater.backend secondLater.backend := by
  have reached : LayerStore.inMemory.Reached alone :=
    .run (.insertLayer ⟨"d"⟩ .empty) 5 (.behind [] [] []) .start
  refine ⟨by decide, dispatch_unseen (.dispatch _ _ (.start rfl (.inl rfl))) ⟨"k"⟩
    (.deleteDatasource ⟨"d"⟩) nofun alone accompanied reached
    (.run (.insertLayer ⟨"e"⟩ .empty) 7 (.behind [] [] []) reached) ?_ ?_ ?_⟩
  · decide
  · decide
  · intro id owned
    obtain rfl := List.mem_singleton.1 (Registry.lists_put_self.1 owned)
    exact .memory rfl

end Gateway

end LayerGateway
