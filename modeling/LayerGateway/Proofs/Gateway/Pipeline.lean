import LayerGateway.Proofs.Gateway.Query
import LayerGateway.Proofs.Live.Viewer

/-!
# The write pipeline

A command that changes something offers one entry to the journal, and tells the viewers
once if a layer changed.  Both happen at its very end, when nothing can fail any more, so
that a command which fails, or changes nothing, leaves journal and viewers alone.

* `Hub.Passed` says what an event makes of the inbox of a viewer.
* `Announces` says so of an action; an action has it as soon as what follows its first part
  has it and the first part is quiet.
* `dispatch_announces` says so of every command.
-/

namespace LayerGateway

/-! ## The queue -/

namespace JournalQueue

/-- Whether a queue has a writer and a free place. -/
def Open (queue : JournalQueue) : Prop :=
  queue.writerGone = false ∧ queue.waiting.length < max 1 queue.capacity

theorem accepts_iff (queue : JournalQueue) : queue.accepts = true ↔ queue.Open := by
  simp only [accepts, Bool.and_eq_true, Bool.not_eq_true', decide_eq_true_eq]
  rfl

/-- The queue after an entry was offered to it. -/
inductive Offered (queue : JournalQueue) (entry : JournalEntry) : JournalQueue → Prop where
  | appended (free : queue.Open) :
      Offered queue entry { queue with waiting := queue.waiting ++ [entry] }
  | dropped (blocked : ¬ queue.Open) : Offered queue entry queue

theorem offered_enqueue (queue : JournalQueue) (entry : JournalEntry) :
    queue.Offered entry (queue.enqueue entry).2 := by
  unfold enqueue
  split
  · next accepted => exact .appended ((accepts_iff queue).1 accepted)
  · next refused => exact .dropped fun free => refused ((accepts_iff queue).2 free)

end JournalQueue

/-! ## Viewers -/

namespace Hub

/-- Whether the owner of an inbox views the datasource of an event, and has left room for it. -/
def Reaches (hub : Hub) (event : LayerChanged) (inbox : Inbox) : Prop :=
  (∃ registration, hub.registration? inbox.id = some registration ∧
    event.datasource ∈ registration.datasources) ∧
  inbox.events.length < max 1 hub.buffer

theorem accepts_iff_reaches (hub : Hub) (event : LayerChanged) (inbox : Inbox) :
    hub.accepts inbox event = true ↔ hub.Reaches event inbox := by
  simp only [accepts, Bool.and_eq_true, decide_eq_true_eq, Option.any_eq_true, Registration.views,
    List.contains_eq_mem]
  rfl

/-- An inbox after an event was passed on. -/
inductive Passed (hub : Hub) (event : LayerChanged) (inbox : Inbox) : Inbox → Prop where
  | appended (reached : hub.Reaches event inbox) :
      Passed hub event inbox { inbox with events := inbox.events ++ [event] }
  | missed (unreached : ¬ hub.Reaches event inbox) : Passed hub event inbox inbox

theorem passed_broadcast (hub : Hub) (event : LayerChanged) (id : ConnectionId) :
    Option.Rel (hub.Passed event) (hub.inbox? id) ((hub.broadcast event).2.inbox? id) := by
  rw [inbox?_broadcast]
  cases hub.inbox? id with
  | none => exact .none
  | some inbox =>
    rw [Option.map_some]
    split
    · next accepted => exact .some (.appended ((accepts_iff_reaches hub event inbox).1 accepted))
    · next refused =>
      refine .some (.missed fun reached => refused ?_)
      exact (accepts_iff_reaches hub event inbox).2 reached

end Hub

namespace Gateway

variable {α β : Type}

/-! ## Announcing actions -/

/-- What of a gateway the pipeline can be seen by. -/
def Quiet (action : Action α) : Prop :=
  Keeps (fun gateway => (gateway.journal, gateway.hub, gateway.clock)) action

/-- How journal and viewers are left by a change: one entry was offered, and one event was
passed on if a layer changed.  The time in the event is what the clock reads when the viewers
are told, which is behind the reading that the store took. -/
structure Announced (gateway after : Gateway) (method : Method) (changed : Option DatasourceId) :
    Prop where
  journal : ∃ data, gateway.journal.Offered ⟨method.name, data⟩ after.journal
  hub : after.hub =
    match changed with
    | some datasource =>
        (gateway.hub.broadcast ⟨datasource, method.name, gateway.clock.next.now⟩).2
    | none => gateway.hub
  inboxes : ∀ datasource, changed = some datasource → ∀ id,
    Option.Rel (gateway.hub.Passed ⟨datasource, method.name, gateway.clock.next.now⟩)
      (gateway.hub.inbox? id) (after.hub.inbox? id)

/-- How journal and viewers are left by what changes nothing. -/
structure Unannounced (gateway after : Gateway) : Prop where
  journal : after.journal = gateway.journal
  hub : after.hub = gateway.hub

/-- The action announces a change when it succeeds and nothing when it fails.  An answer that
is a new datasource is the one that changed. -/
def Announces (gateway : Gateway) (method : Method) (changed : Option DatasourceId)
    (action : Action Outcome) : Prop :=
  match action gateway with
  | (.ok outcome, after) =>
      Announced gateway after method changed ∧
        ∀ datasource, outcome = .datasource datasource → changed = some datasource
  | (.error _, after) => Unannounced gateway after

section Announces

variable {gateway : Gateway} {method : Method} {changed : Option DatasourceId}

theorem announces_throw (error : GatewayError) :
    Announces gateway method changed (throw error) :=
  ⟨rfl, rfl⟩

/-- What comes before the pipeline is of no consequence to it. -/
theorem Announces.after {first : Action α} {next : α → Action Outcome} (quiet : Quiet first)
    (announces : ∀ value between, first gateway = (.ok value, between) →
      Announces between method changed (next value)) :
    Announces gateway method changed (first >>= next) := by
  unfold Announces
  rcases ran : first gateway with ⟨error | value, between⟩
  · have seen := quiet gateway
    rw [ran] at seen
    obtain ⟨journal, hub, -⟩ := by simpa using seen
    rw [run_bind_of_error ran]
    exact ⟨journal, hub⟩
  · have seen := quiet gateway
    rw [ran] at seen
    obtain ⟨journal, hub, clock⟩ := by simpa using seen
    have announced := announces value between ran
    rw [run_bind_of_ok ran]
    unfold Announces at announced
    rcases ended : next value between with ⟨error | outcome, after⟩ <;> rw [ended] at announced
    · exact ⟨announced.journal.trans journal, announced.hub.trans hub⟩
    · obtain ⟨⟨offered, broadcast, inboxes⟩, answer⟩ := announced
      rw [journal] at offered
      rw [hub, clock] at broadcast inboxes
      exact ⟨⟨offered, broadcast, inboxes⟩, answer⟩

theorem announces_journalChange {name : String} (own : name = method.name) (data : Json)
    {outcome : Outcome} (answer : ∀ datasource, outcome ≠ .datasource datasource) :
    Announces gateway method none (do journalChange name data; return outcome) := by
  subst own
  exact ⟨⟨⟨data, gateway.journal.offered_enqueue _⟩, rfl, nofun⟩,
    fun datasource same => absurd same (answer datasource)⟩

theorem announces_record {name : String} (own : name = method.name) (caller : Caller)
    (datasource : DatasourceId) (data : List (String × Json)) {outcome : Outcome}
    (answer : ∀ named, outcome = .datasource named → named = datasource) :
    Announces gateway method (some datasource) (do
      record name caller datasource data
      return outcome) := by
  subst own
  refine ⟨⟨⟨_, gateway.journal.offered_enqueue _⟩, rfl, ?_⟩,
    fun named same => congrArg some (answer named same).symm⟩
  intro other same id
  cases same
  exact gateway.hub.passed_broadcast _ id

end Announces

/-! ## Quiet parts -/

theorem quiet_of_reads {action : Action α} (reads : Keeps id action) : Quiet action :=
  keeps_of_reads reads

theorem quiet_askStore (operation : LayerOperation α) : Quiet (askStore operation) :=
  keeps_askStore operation fun _ _ _ => rfl

theorem quiet_newDatasource : Quiet newDatasource :=
  keeps_newDatasource fun _ _ => rfl

theorem quiet_changeRegistry (change : Registry → Except RegistryError (α × Registry)) :
    Quiet (changeRegistry change) :=
  keeps_changeRegistry change fun _ _ => rfl

theorem quiet_grant (caller : Caller) (datasource : DatasourceId) :
    Quiet (grant caller datasource) :=
  keeps_grant caller datasource fun _ _ => rfl

theorem quiet_demandLayer (datasource : DatasourceId) : Quiet (demandLayer datasource) :=
  keeps_demandLayer datasource fun _ _ _ => rfl

/-! ## Commands that change the registry -/

section Commands

variable (gateway : Gateway) (caller : Caller)

theorem createApikey_announces : Announces gateway .createApikey none createApikey :=
  .after (fun _ => rfl) fun _ _ _ => announces_journalChange rfl _ fun _ => nofun

theorem insertApikey_announces (customer : Customer) :
    Announces gateway .insertApikey none (insertApikey customer) := by
  refine .after (quiet_changeRegistry _) fun _ _ _ => ?_
  refine .after (quiet_of_reads (reads_askRegistry _)) fun _ _ _ => ?_
  exact announces_journalChange rfl _ fun _ => nofun

theorem assignDatasource_announces (apikey : Option AccessKey) (datasource : DatasourceId) :
    Announces gateway .assignDatasource none (assignDatasource caller apikey datasource) := by
  have given (target : AccessKey) (between : Gateway) :
      Announces between .assignDatasource none
        (assignDatasource .trusted (some target) datasource) := by
    refine .after (keeps_pure _) fun _ _ _ => ?_
    refine .after (quiet_demandLayer _) fun _ _ _ => ?_
    refine .after (quiet_changeRegistry _) fun _ _ _ => ?_
    exact announces_journalChange rfl _ fun _ => nofun
  cases caller with
  | keyed key =>
    exact .after (quiet_of_reads (reads_knownCaller _)) fun _ between _ => given key between
  | trusted =>
    cases apikey with
    | none => exact announces_throw _
    | some key => exact given key gateway

/-! ## Commands that change a layer -/

/-- The layer that a command changes; a new one has the name that comes next. -/
def changed? : Command → Option DatasourceId
  | .createDatasource (some datasource) _ | .deleteDatasource datasource
  | .insertFeature datasource _ | .editFeature datasource _ _ => some datasource
  | .createDatasource none (some _) | .importFile _ => some gateway.names.datasource.1
  | .createDatasource none none =>
      some (gateway.names.freeDatasource gateway.store.layers.backend.taken).1
  | _ => none

theorem newLayer_answers {gateway between : Gateway} {id : DatasourceId}
    (ran : askStore .newLayer gateway = (.ok id, between)) :
    id = (gateway.names.freeDatasource gateway.store.layers.backend.taken).1 := by
  have answered := congrArg Prod.fst ran
  simp only [askStore, Store.run, Store.attempt] at answered
  split at answered
  · cases answered
  · simp only [LayerStore.run] at answered
    obtain ⟨_, -, named⟩ := map_eq_ok.1 (mapError_eq_ok.1 answered)
    exact named.symm

theorem announces_newLayer {method : Method} {name : String} (own : name = method.name)
    (datasource : DatasourceId) (data : List (String × Json)) :
    Announces gateway method (some datasource) (do
      grant caller datasource
      record name caller datasource data
      return .datasource datasource) :=
  .after (quiet_grant _ _) fun _ _ _ =>
    announces_record own _ _ _ fun _ same => (Outcome.datasource.inj same).symm

theorem createDatasource_announces (datasource : Option DatasourceId)
    (layer : Option FeatureCollection) :
    Announces gateway .createDatasource (changed? gateway (.createDatasource datasource layer))
      (createDatasource caller datasource layer) := by
  have looks := reads_knownCaller caller
  refine .after (quiet_of_reads looks) fun customer between ran => ?_
  have same : between = gateway := by simpa [ran] using looks gateway
  subst same
  cases datasource with
  | some id =>
    refine .after (quiet_of_reads (reads_demandOwner _ _)) fun _ _ _ => ?_
    refine .after (quiet_askStore _) fun _ _ _ => ?_
    exact announces_newLayer _ _ rfl _ _
  | none =>
    cases layer with
    | some layer =>
      refine .after quiet_newDatasource fun id _ named => ?_
      cases named
      refine .after (quiet_askStore _) fun _ _ _ => ?_
      exact announces_newLayer _ _ rfl _ _
    | none =>
      refine .after (quiet_askStore _) fun id _ made => ?_
      obtain rfl := newLayer_answers made
      exact announces_newLayer _ _ rfl _ _

theorem importFile_announces (path : String) :
    Announces gateway .importFile (changed? gateway (.importFile path)) (importFile caller path) := by
  have looks := reads_knownCaller caller
  refine .after (quiet_of_reads looks) fun customer between ran => ?_
  have same : between = gateway := by simpa [ran] using looks gateway
  subst same
  refine .after (fun _ => rfl) fun collection opened loaded => ?_
  have same : between = opened := congrArg Prod.snd loaded
  subst same
  refine .after quiet_newDatasource fun id _ named => ?_
  cases named
  refine .after (quiet_askStore _) fun _ _ _ => ?_
  exact announces_newLayer _ _ rfl _ _

theorem insertFeature_announces (datasource : DatasourceId) (feature : Feature) :
    Announces gateway .insertFeature (some datasource)
      (insertFeature caller datasource feature) := by
  refine .after (quiet_of_reads (reads_authorize _ _)) fun _ _ _ => ?_
  refine .after (quiet_askStore _) fun _ _ _ => ?_
  exact announces_record rfl _ _ _ nofun

theorem editFeature_announces (datasource : DatasourceId) (geoId : String) (feature : Feature) :
    Announces gateway .editFeature (some datasource)
      (editFeature caller datasource geoId feature) := by
  refine .after (quiet_of_reads (reads_authorize _ _)) fun _ _ _ => ?_
  refine .after (quiet_askStore _) fun _ _ _ => ?_
  exact announces_record rfl _ _ _ nofun

theorem deleteDatasource_announces (datasource : DatasourceId) :
    Announces gateway .deleteDatasource (some datasource)
      (deleteDatasource caller datasource) := by
  refine .after (quiet_of_reads (reads_authorize _ _)) fun _ _ _ => ?_
  refine .after (fun _ => rfl) fun (revoked, failure) _ _ => ?_
  refine .after (fun _ => rfl) fun deleted _ _ => ?_
  -- Only if both steps went well is the end reached where something is announced.
  cases failure with
  | none =>
    cases deleted with
    | ok => exact announces_record rfl _ _ _ nofun
    | error cause =>
      cases notFound : cause.isNotFound
      all_goals
        simp only [notFound]
        exact announces_throw _
  | some failure =>
    cases deleted with
    | ok => exact announces_throw _
    | error cause => exact announces_throw _

/-! ## All commands -/

theorem Announces.guarded {gateway : Gateway} {method : Method} {changed : Option DatasourceId}
    {action : Action Outcome} (announces : Announces gateway method changed action)
    (condition : Bool) (refusal : GatewayError) :
    Announces gateway method changed (do
      if condition then throw refusal
      action) := by
  cases condition with
  | true => exact announces_throw _
  | false => exact announces

theorem mutation_announces (command : Command) (mutates : command.isMutation = true) :
    Announces gateway command.method (changed? gateway command) (dispatch caller command) := by
  refine .guarded ?_ _ _
  cases command with
  | createApikey => exact createApikey_announces gateway
  | insertApikey customer => exact insertApikey_announces gateway customer
  | assignDatasource apikey datasource =>
    exact assignDatasource_announces gateway caller apikey datasource
  | createDatasource datasource layer =>
    exact createDatasource_announces gateway caller datasource layer
  | deleteDatasource datasource => exact deleteDatasource_announces gateway caller datasource
  | insertFeature datasource feature =>
    exact insertFeature_announces gateway caller datasource feature
  | editFeature datasource geoId feature =>
    exact editFeature_announces gateway caller datasource geoId feature
  | importFile path => exact importFile_announces gateway caller path
  | ping | exportApikeys | exportApikey _ | exportDatasources | exportDatasource _
  | exportFeature _ _ | exportSnapshots _ | exportSnapshot _ _ => cases mutates

end Commands

/-- A command that changes something and succeeds offers one journal entry under its own
name, and passes one event on if it changed a layer, the one it names or has just made.  A
command that fails, or changes nothing, leaves the queue and the inboxes as they were.

This is so whatever the registry holds, whichever operations of the store fail, and however
full the queue and the inboxes are. -/
theorem dispatch_announces (gateway : Gateway) (caller : Caller) (command : Command) :
    match dispatch caller command gateway with
    | (.ok outcome, after) =>
        if command.isMutation then
          Announced gateway after command.method (changed? gateway command) ∧
            ∀ datasource, outcome = .datasource datasource →
              changed? gateway command = some datasource
        else Unannounced gateway after
    | (.error _, after) => Unannounced gateway after := by
  cases kind : command.isMutation with
  | true =>
    simp only [if_true]
    exact mutation_announces gateway caller command kind
  | false =>
    -- Commands that change nothing cannot be seen by the pipeline.
    have quiet : Quiet (dispatch caller command) :=
      Looks.query (looks_of_blind fun _ _ _ => rfl) caller command kind
    have unannounced : Unannounced gateway (dispatch caller command gateway).2 := by
      obtain ⟨journal, hub, -⟩ := by simpa using quiet gateway
      exact ⟨journal, hub⟩
    split
    · next ran => simpa [ran] using unannounced
    · next ran => simpa [ran] using unannounced

end Gateway

end LayerGateway
