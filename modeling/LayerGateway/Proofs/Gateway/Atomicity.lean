import LayerGateway.Proofs.Gateway.Registry
import LayerGateway.Proofs.Store.Held

/-!
# Commands that fail

A command that fails has done nothing that anybody could notice, unless it is a deletion.
Commands ask first and change afterwards, the layers before the registry, and behind the
first change there is nothing left that can fail: whoever was let in has a record, and a
record that was just written can be read.

* `Unchanged` says what nobody can notice: customers, layers, journal and viewers are as they
  were.
* `Undone` says of an action at a gateway that it leaves the gateway `Unchanged` if it fails, and
  `Completes` that it cannot fail there.  A sequence is undone if all its parts but one keep
  what can be noticed or cannot fail.
* `dispatch_unchanged` says so of every command but a deletion.
-/

namespace LayerGateway

/-! ## Operations that fail -/

namespace LayerStore

variable {store : LayerStore} {id : DatasourceId} {cause : StoreError} {α : Type}

theorem changing_backend_of_error {change : LayerStore → Except StoreError (α × LayerStore)}
    (failed : (store.changing id change).1 = .error cause) :
    (store.changing id change).2.backend = store.backend := by
  cases changed : change (store.withSlot id) with
  | ok answered =>
    rw [changing_ok changed] at failed
    cases failed
  | error refusal =>
    rw [changing_error changed]
    exact withSlot_backend store id

theorem deleteLayer_backend_of_error (failed : (store.deleteLayer id).1 = .error cause) :
    (store.deleteLayer id).2.backend = store.backend := by
  unfold deleteLayer at failed ⊢
  cases demanded : store.demand id with
  | ok found => simp [demanded] at failed
  | error refusal => rfl

theorem deleteLayer_backend_of_ok (deleted : (store.deleteLayer id).1 = .ok ()) :
    (store.deleteLayer id).2.backend = store.backend.remove id := by
  unfold deleteLayer at deleted ⊢
  split at deleted
  · rfl
  · cases deleted

/-- What fails changes no layer.  At most a write slot is left of it. -/
theorem run_backend_of_error {operation : LayerOperation α} {now : Int} {names : Names}
    (failed : (store.run operation now names).1 = .error cause) :
    (store.run operation now names).2.1.backend = store.backend := by
  cases operation with
  | newLayer =>
    have inserted : (store.insertLayer now
        (names.freeDatasource store.backend.taken).1 .empty).1 = .error cause := by
      simp only [run] at failed
      cases result : (store.insertLayer now
          (names.freeDatasource store.backend.taken).1 .empty).1 with
      | error refusal => simpa [result, Except.map] using failed
      | ok => simp [result, Except.map] at failed
    change (store.insertLayer now _ .empty).2.backend = store.backend
    exact changing_backend_of_error inserted
  | insertLayer id collection =>
    change (store.insertLayer now id collection).2.backend = store.backend
    exact changing_backend_of_error failed
  | deleteLayer id => exact deleteLayer_backend_of_error failed
  | insertFeature id feature =>
    change (store.insertFeature now names.feature.1 id feature).2.backend = store.backend
    exact changing_backend_of_error failed
  | editFeature id geoId feature =>
    change (store.editFeature now id geoId feature).2.backend = store.backend
    exact changing_backend_of_error failed
  | getLayer _ | getLayers | timeseries _ | previous _ _ | hasLayer _ => rfl

end LayerStore

namespace Store

variable {store : Store} {cause : StoreError} {α : Type}

theorem attempt_backend_of_error {operation : LayerOperation α} {now : Int} {names : Names}
    (failed : (store.attempt operation now names).1 = .error cause) :
    (store.attempt operation now names).2.1.layers.backend = store.layers.backend := by
  unfold attempt at failed ⊢
  dsimp only at failed ⊢
  cases fault : store.fault? operation.call with
  | some message => rfl
  | none =>
    simp only [fault] at failed
    exact LayerStore.run_backend_of_error failed

theorem run_backend_of_error {operation : LayerOperation α} {now : Int} {names : Names}
    (failed : (store.run operation now names).1 = .error cause) :
    (store.run operation now names).2.1.layers.backend = store.layers.backend := by
  cases operation with
  | hasLayer id =>
    -- Looking changes nothing anyway, and it may be done by reading.
    have looks : store.layers.subject? names (.hasLayer id) = none := rfl
    rw [store.run_layers_of_looking now names looks]
  | newLayer | insertLayer _ _ | getLayer _ | deleteLayer _ | insertFeature _ _
  | editFeature _ _ _ | getLayers | timeseries _ | previous _ _ =>
    change (store.attempt _ now names).2.1.layers.backend = store.layers.backend
    exact attempt_backend_of_error failed

end Store

namespace Registry

theorem createFrom_eq_of_error {registry : Registry} (keys : List AccessKey)
    {cause : RegistryError} (failed : (registry.createFrom keys).1 = .error cause) :
    (registry.createFrom keys).2.1 = registry := by
  induction keys with
  | nil => rfl
  | cons key keys ih =>
    unfold createFrom at failed ⊢
    cases loaded : registry.load key with
    | error unreadable => rfl
    | ok record =>
      simp only [loaded] at failed
      cases record with
      | none => cases failed
      | some customer => exact ih failed

theorem create_eq_of_error {registry : Registry} {names : Names} {cause : RegistryError}
    (failed : (registry.create names).1 = .error cause) :
    (registry.create names).2.1 = registry :=
  createFrom_eq_of_error (names.keyCandidates keyAttempts) failed

theorem add_of_load {registry : Registry} {key : AccessKey} {customer : Customer}
    (loaded : registry.load key = .ok (some customer)) (datasource : DatasourceId) :
    ∃ later, registry.add key datasource = .ok (customer.add datasource, later) := by
  rw [add, modify, bind_of_ok (get_of_load loaded)]
  exact ⟨_, rfl⟩

end Registry

namespace Gateway

variable {α β : Type}

/-! ## What can be noticed -/

/-- All that anybody could notice of a change. -/
def noticeable (gateway : Gateway) : Registry × Backend × JournalQueue × Hub :=
  (gateway.registry, gateway.store.layers.backend, gateway.journal, gateway.hub)

/-- Every record is as it was, every layer has its content and versions, and nothing was put
into the journal or passed on to the viewers. -/
structure Unchanged (gateway after : Gateway) : Prop where
  registry : after.registry = gateway.registry
  backend : after.store.layers.backend = gateway.store.layers.backend
  journal : after.journal = gateway.journal
  hub : after.hub = gateway.hub

theorem unchanged_iff {gateway after : Gateway} :
    gateway.Unchanged after ↔ after.noticeable = gateway.noticeable := by
  simp only [noticeable, Prod.mk.injEq]
  constructor
  · intro same
    exact ⟨same.registry, same.backend, same.journal, same.hub⟩
  · rintro ⟨registry, backend, journal, hub⟩
    exact ⟨registry, backend, journal, hub⟩

theorem Unchanged.trans {first second third : Gateway} (same : first.Unchanged second)
    (further : second.Unchanged third) : first.Unchanged third :=
  unchanged_iff.2 ((unchanged_iff.1 further).trans (unchanged_iff.1 same))

/-- If the action fails at this gateway, nothing is changed. -/
def Undone (gateway : Gateway) (action : Action α) : Prop :=
  ∀ error after, action gateway = (.error error, after) → gateway.Unchanged after

/-- The action cannot fail at this gateway. -/
def Completes (gateway : Gateway) (action : Action α) : Prop :=
  ∃ value after, action gateway = (.ok value, after)

section Sequences

variable {gateway : Gateway}

theorem Keeps.unchanged {action : Action α} (keeps : Keeps noticeable action)
    {after : Gateway} {result : Except GatewayError α} (ran : action gateway = (result, after)) :
    gateway.Unchanged after :=
  unchanged_iff.2 (keeps.seen ran)

theorem Keeps.undone {action : Action α} (keeps : Keeps noticeable action) :
    gateway.Undone action :=
  fun _ _ => keeps.unchanged

theorem undone_throw (error : GatewayError) : gateway.Undone (throw error : Action α) :=
  (keeps_throw error).undone

/-- What only looks may come before an action that is undone. -/
theorem Undone.after {first : Action α} {next : α → Action β} (keeps : Keeps noticeable first)
    (further : ∀ value between, first gateway = (.ok value, between) →
      between.Undone (next value)) : gateway.Undone (first >>= next) := by
  intro error after failed
  rcases bind_cases failed with ⟨cause, stopped, -⟩ | ⟨value, between, passed, failed⟩
  · exact keeps.unchanged stopped
  · have same : gateway.Unchanged between := keeps.unchanged passed
    exact same.trans (further value between passed error after failed)

/-- What cannot fail may come behind it. -/
theorem Undone.before {first : Action α} {next : α → Action β} (undone : gateway.Undone first)
    (completes : ∀ value between, first gateway = (.ok value, between) →
      between.Completes (next value)) : gateway.Undone (first >>= next) := by
  intro error after failed
  rcases bind_cases failed with ⟨cause, stopped, -⟩ | ⟨value, between, passed, failed⟩
  · exact undone cause after stopped
  · obtain ⟨answer, later, done⟩ := completes value between passed
    cases done.symm.trans failed

theorem Undone.guarded {action : Action α} (condition : Bool) (refusal : GatewayError)
    (undone : gateway.Undone action) :
    gateway.Undone (do
      if condition then throw refusal
      action) := by
  cases condition with
  | true => exact undone_throw refusal
  | false => exact undone

theorem Completes.bind {first : Action α} {next : α → Action β}
    (completes : gateway.Completes first)
    (further : ∀ value between, first gateway = (.ok value, between) →
      between.Completes (next value)) : gateway.Completes (first >>= next) := by
  obtain ⟨value, between, ran⟩ := completes
  unfold Completes
  rw [run_bind_of_ok ran]
  exact further value between ran

end Sequences

/-! ## Parts -/

section Parts

variable {gateway : Gateway} {caller : Caller}

theorem looks_noticeable : Looks noticeable := by
  intro α operation looks gateway
  have same := gateway.store.run_layers_of_looking gateway.now gateway.names (looks gateway)
  exact unchanged_iff.1 ⟨rfl, congrArg LayerStore.backend same, rfl, rfl⟩

theorem keepsNoticeable_knownCaller (caller : Caller) : Keeps noticeable (knownCaller caller) :=
  keeps_of_reads (reads_knownCaller caller)

theorem keepsNoticeable_demandLayer (datasource : DatasourceId) :
    Keeps noticeable (demandLayer datasource) :=
  (looks_noticeable fun _ => rfl).bind fun _ => (keeps_pure _).ite (keeps_throw _)

theorem undone_askStore (operation : LayerOperation α) : gateway.Undone (askStore operation) := by
  intro error after failed
  have result := congrArg Prod.fst failed
  have left := congrArg Prod.snd failed
  simp only [askStore] at result left
  cases answered : (gateway.store.run operation gateway.now gateway.names).1 with
  | error cause =>
    rw [← left]
    exact ⟨rfl, Store.run_backend_of_error answered, rfl, rfl⟩
  | ok value =>
    rw [answered] at result
    cases result

theorem undone_changeRegistry (change : Registry → Except RegistryError (α × Registry)) :
    gateway.Undone (changeRegistry change) := by
  intro error after failed
  unfold changeRegistry at failed
  split at failed
  · cases failed
  · cases failed
    exact ⟨rfl, rfl, rfl, rfl⟩

/-- Customers have a record. -/
def Recorded (gateway : Gateway) : Caller → Prop
  | .keyed key => ∃ customer, gateway.registry.load key = .ok (some customer)
  | .trusted => True

theorem recorded_of_knownCaller {customer : Option Customer} {after : Gateway}
    (known : knownCaller caller gateway = (.ok customer, after)) : gateway.Recorded caller := by
  cases caller with
  | trusted => trivial
  | keyed key =>
    rw [run_knownCaller] at known
    split at known
    · next record loaded => exact ⟨record, loaded⟩
    · cases known
    · cases known

theorem completes_grant (recorded : gateway.Recorded caller) (datasource : DatasourceId) :
    gateway.Completes (grant caller datasource) := by
  cases caller with
  | trusted => exact ⟨_, _, rfl⟩
  | keyed key =>
    obtain ⟨customer, loaded⟩ := recorded
    obtain ⟨later, added⟩ := Registry.add_of_load loaded datasource
    have given : changeRegistry (·.add key datasource) gateway =
        (.ok (customer.add datasource), { gateway with registry := later }) := by
      simp only [changeRegistry, added]
    exact Completes.bind ⟨_, _, given⟩ fun _ between _ => ⟨(), between, rfl⟩

/-- Once a layer is stored, its maker is given it and it is recorded, and nothing can fail any
more. -/
theorem completes_newLayer (recorded : gateway.Recorded caller) (method : String)
    (datasource : DatasourceId) (data : List (String × Json)) :
    gateway.Completes (do
      grant caller datasource
      record method caller datasource data
      return Outcome.datasource datasource) :=
  (completes_grant recorded datasource).bind fun _ _ _ => ⟨_, _, rfl⟩

theorem undone_storing (operation : LayerOperation α) {next : α → Action β}
    (recorded : gateway.Recorded caller)
    (completes : ∀ (value : α) (between : Gateway), between.Recorded caller →
      between.Completes (next value)) :
    gateway.Undone (askStore operation >>= next) := by
  refine .before (undone_askStore operation) fun value between stored => ?_
  -- Storing a layer is no business of the registry.
  have sameRegistry : between.registry = gateway.registry :=
    (keepsRegistry_askStore operation).seen stored
  apply completes value between
  cases caller with
  | trusted => trivial
  | keyed key => rwa [Recorded, sameRegistry]

end Parts

/-! ## Commands -/

section Commands

variable (gateway : Gateway) (caller : Caller)

theorem createApikey_undone : gateway.Undone createApikey := by
  refine .before (fun error after failed => ?_) fun _ _ _ => ⟨_, _, rfl⟩
  have result := congrArg Prod.fst failed
  have left := congrArg Prod.snd failed
  cases created : (gateway.registry.create gateway.names).1 with
  | error cause =>
    have same := Registry.create_eq_of_error created
    subst left
    exact ⟨same, rfl, rfl, rfl⟩
  | ok customer =>
    simp only [created] at result
    cases result

theorem insertApikey_undone (customer : Customer) : gateway.Undone (insertApikey customer) := by
  refine .before (undone_changeRegistry _) fun _ between written => ?_
  -- The record that was just written is read back.
  have sameRegistry : between.registry = gateway.registry.put customer :=
    (congrArg (·.2.registry) written).symm
  have stored : between.registry.load customer.apikey = .ok (some customer.dedup) := by
    rw [sameRegistry]
    exact Registry.load_store_self gateway.registry customer.dedup
  have read : askRegistry (·.get customer.apikey) between = (.ok customer.dedup, between) := by
    simp only [askRegistry, Registry.get_of_load stored]
    rfl
  exact .bind ⟨_, _, read⟩ fun _ _ _ => ⟨_, _, rfl⟩

theorem assignDatasource_undone (apikey : Option AccessKey) (datasource : DatasourceId) :
    gateway.Undone (assignDatasource caller apikey datasource) := by
  have given (target : AccessKey) (between : Gateway) :
      between.Undone (assignDatasource .trusted (some target) datasource) := by
    refine .after (keeps_pure _) fun _ _ _ => ?_
    refine .after (keepsNoticeable_demandLayer datasource) fun _ _ _ => ?_
    exact .before (undone_changeRegistry _) fun _ _ _ => ⟨_, _, rfl⟩
  cases caller with
  | keyed key => exact .after (keepsNoticeable_knownCaller _) fun _ between _ => given key between
  | trusted =>
    cases apikey with
    | none => exact undone_throw _
    | some key => exact given key gateway

theorem createDatasource_undone (datasource : Option DatasourceId)
    (layer : Option FeatureCollection) :
    gateway.Undone (createDatasource caller datasource layer) := by
  refine .after (keepsNoticeable_knownCaller caller) fun customer between known => ?_
  obtain rfl := (reads_knownCaller caller).seen known
  have recorded := recorded_of_knownCaller known
  cases datasource with
  | some id =>
    refine .after (keeps_of_reads (reads_demandOwner _ _)) fun _ passedBy passed => ?_
    obtain rfl := (reads_demandOwner _ _).seen passed
    exact undone_storing _ recorded fun _ _ recorded => completes_newLayer recorded _ id _
  | none =>
    cases layer with
    | some layer =>
      -- A name that is drawn is gone even if the layer is not stored.
      refine .after (keeps_newDatasource fun _ _ => rfl) fun id named drawn => ?_
      cases drawn
      exact undone_storing _ recorded fun _ _ recorded => completes_newLayer recorded _ _ _
    | none =>
      exact undone_storing _ recorded fun id _ recorded => completes_newLayer recorded _ id _

theorem importFile_undone (path : String) : gateway.Undone (importFile caller path) := by
  refine .after (keepsNoticeable_knownCaller caller) fun customer between known => ?_
  obtain rfl := (reads_knownCaller caller).seen known
  have recorded := recorded_of_knownCaller known
  refine .after (fun _ => rfl) fun collection opened loaded => ?_
  obtain rfl : opened = between := (congrArg Prod.snd loaded).symm
  refine .after (keeps_newDatasource fun _ _ => rfl) fun id named drawn => ?_
  cases drawn
  exact undone_storing _ recorded fun _ _ recorded => completes_newLayer recorded _ _ _

theorem insertFeature_undone (datasource : DatasourceId) (feature : Feature) :
    gateway.Undone (insertFeature caller datasource feature) := by
  refine .after (keeps_of_reads (reads_authorize _ _)) fun _ _ _ => ?_
  exact .before (undone_askStore _) fun _ _ _ => ⟨_, _, rfl⟩

theorem editFeature_undone (datasource : DatasourceId) (geoId : String) (feature : Feature) :
    gateway.Undone (editFeature caller datasource geoId feature) := by
  refine .after (keeps_of_reads (reads_authorize _ _)) fun _ _ _ => ?_
  exact .before (undone_askStore _) fun _ _ _ => ⟨_, _, rfl⟩

theorem dispatch_undone {command : Command}
    (other : ∀ datasource, command ≠ .deleteDatasource datasource) :
    gateway.Undone (dispatch caller command) := by
  cases kind : command.isMutation with
  | false => exact (looks_noticeable.query caller command kind).undone
  | true =>
    refine .guarded _ _ ?_
    cases command with
    | createApikey => exact createApikey_undone gateway
    | insertApikey customer => exact insertApikey_undone gateway customer
    | assignDatasource apikey datasource =>
      exact assignDatasource_undone gateway caller apikey datasource
    | createDatasource datasource layer =>
      exact createDatasource_undone gateway caller datasource layer
    | deleteDatasource datasource => exact absurd rfl (other datasource)
    | insertFeature datasource feature =>
      exact insertFeature_undone gateway caller datasource feature
    | editFeature datasource geoId feature =>
      exact editFeature_undone gateway caller datasource geoId feature
    | importFile path => exact importFile_undone gateway caller path
    | ping | exportApikeys | exportApikey _ | exportDatasources | exportDatasource _
    | exportFeature _ _ | exportSnapshots _ | exportSnapshot _ _ => cases kind

end Commands

/-- A command other than a deletion that fails, for whatever reason and with whatever the store,
the files and the converter do, changes nothing. -/
theorem dispatch_unchanged {gateway after : Gateway} {caller : Caller} {command : Command}
    {error : GatewayError} (other : ∀ datasource, command ≠ .deleteDatasource datasource)
    (failed : dispatch caller command gateway = (.error error, after)) :
    gateway.Unchanged after :=
  dispatch_undone gateway caller other error after failed

/-- A gateway with one customer, whose store cannot write layers. -/
def unwritable : Gateway :=
  let registered := (dispatch .trusted (.insertApikey ⟨⟨"k"⟩, [], []⟩) (fresh .inMemory)).2
  { registered with
    store := { registered.store with faults := [(.insertLayer, "disk on fire")] } }

/-- The customer makes a layer under a new name: the name is drawn, and nothing else happens. -/
theorem dispatch_unchanged_unwritable :
    (dispatch (.keyed ⟨"k"⟩) (.createDatasource none (some .empty)) unwritable).1 =
        .error (.store (.storage (.device "disk on fire"))) ∧
      unwritable.Unchanged
        (dispatch (.keyed ⟨"k"⟩) (.createDatasource none (some .empty)) unwritable).2 := by
  have failed : (dispatch (.keyed ⟨"k"⟩) (.createDatasource none (some .empty)) unwritable).1 =
      .error (.store (.storage (.device "disk on fire"))) := rfl
  exact ⟨failed, dispatch_unchanged (fun _ => Command.noConfusion) (Prod.ext failed rfl)⟩

end Gateway

end LayerGateway
