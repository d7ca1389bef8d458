import LayerGateway.Gateway.Dispatch
import LayerGateway.Proofs.Registry

/-!
# Running actions

An action runs on a gateway and leaves one behind, whether it fails or not.  Here stand

* the equations by which the parts of an action are run one after the other;
* `Keeps view action`: whatever becomes of the action, it leaves what `view` sees of the
  gateway as it was.  Sequencing keeps this, so an action has it as soon as its parts do;
* `gateway.Leaves view property action`: whatever becomes of the action at that gateway, what
  `view` sees after it has the property;
* `FailsOnly cause action`: every error of the action is one of which `cause` holds;
* for each part of which commands are made, what it keeps and how it fails.
-/

namespace LayerGateway.Gateway

variable {α β : Type}

/-! ## Running the parts -/

@[simp] theorem run_throw (error : GatewayError) (gateway : Gateway) :
    (throw error : Action α) gateway = (.error error, gateway) := rfl

theorem run_bind (first : Action α) (next : α → Action β) (gateway : Gateway) :
    (first >>= next) gateway =
      match first gateway with
      | (.ok value, after) => next value after
      | (.error error, after) => (.error error, after) := by
  change (ExceptT.bindCont next (first gateway).1) (first gateway).2 = _
  rcases first gateway with ⟨_ | _, after⟩ <;> rfl

theorem run_bind_of_ok {first : Action α} {next : α → Action β} {gateway after : Gateway}
    {value : α} (ran : first gateway = (.ok value, after)) :
    (first >>= next) gateway = next value after := by
  rw [run_bind, ran]

theorem run_bind_of_error {first : Action α} {next : α → Action β} {gateway after : Gateway}
    {error : GatewayError} (ran : first gateway = (.error error, after)) :
    (first >>= next) gateway = (.error error, after) := by
  rw [run_bind, ran]

/-- A sequence either stops at its first part or goes on behind it. -/
theorem bind_cases {first : Action α} {next : α → Action β} {gateway after : Gateway}
    {result : Except GatewayError β} (ran : (first >>= next) gateway = (result, after)) :
    (∃ error, first gateway = (.error error, after) ∧ result = .error error) ∨
      ∃ value between, first gateway = (.ok value, between) ∧
        next value between = (result, after) := by
  rcases firstRan : first gateway with ⟨error | value, between⟩
  · rw [run_bind_of_error firstRan] at ran
    cases ran
    exact .inl ⟨error, rfl, rfl⟩
  · rw [run_bind_of_ok firstRan] at ran
    exact .inr ⟨value, between, rfl, ran⟩

/-! ## What an action leaves as it was -/

/-- Whether an action succeeds or fails, `view` sees the same gateway after it. -/
def Keeps {ω : Type} (view : Gateway → ω) (action : Action α) : Prop :=
  ∀ gateway, view (action gateway).2 = view gateway

section Keeps

variable {ω : Type} {view : Gateway → ω}

theorem keeps_pure (value : α) : Keeps view (pure value) := fun _ => rfl

theorem keeps_throw (error : GatewayError) : Keeps view (throw error : Action α) := fun _ => rfl

theorem Keeps.bind {first : Action α} {next : α → Action β} (keeps : Keeps view first)
    (nextKeeps : ∀ value, Keeps view (next value)) : Keeps view (first >>= next) := by
  intro gateway
  rcases ran : first gateway with ⟨error | value, between⟩
  · rw [run_bind_of_error ran]
    simpa [ran] using keeps gateway
  · rw [run_bind_of_ok ran, nextKeeps value between]
    simpa [ran] using keeps gateway

theorem Keeps.ite {condition : Prop} [Decidable condition] {first second : Action α}
    (firstKeeps : Keeps view first) (secondKeeps : Keeps view second) :
    Keeps view (if condition then first else second) := by
  split
  · exact firstKeeps
  · exact secondKeeps

theorem Keeps.seen {action : Action α} (keeps : Keeps view action) {gateway after : Gateway}
    {result : Except GatewayError α} (ran : action gateway = (result, after)) :
    view after = view gateway := by
  have kept := keeps gateway
  rwa [ran] at kept

theorem keeps_of_reads {action : Action α} (reads : Keeps id action) : Keeps view action :=
  fun gateway => congrArg view (reads gateway)

theorem keeps_askStore (operation : LayerOperation α)
    (blind : ∀ gateway store names, view { gateway with store, names } = view gateway) :
    Keeps view (askStore operation) :=
  fun gateway => blind gateway _ _

theorem keeps_newDatasource
    (blind : ∀ gateway names, view { gateway with names } = view gateway) :
    Keeps view newDatasource :=
  fun gateway => blind gateway _

theorem keeps_changeRegistry (change : Registry → Except RegistryError (α × Registry))
    (blind : ∀ gateway registry, view { gateway with registry } = view gateway) :
    Keeps view (changeRegistry change) := by
  intro gateway
  unfold changeRegistry
  split
  · exact blind gateway _
  · rfl

theorem registry_changeRegistry (change : Registry → Except RegistryError (α × Registry))
    (gateway : Gateway) :
    (changeRegistry change gateway).2.registry =
      match change gateway.registry with
      | .ok (_, registry) => registry
      | .error _ => gateway.registry := by
  unfold changeRegistry
  cases change gateway.registry with
  | error cause => rfl
  | ok answered => rfl

theorem keeps_grant (caller : Caller) (datasource : DatasourceId)
    (blind : ∀ gateway registry, view { gateway with registry } = view gateway) :
    Keeps view (grant caller datasource) := by
  cases caller with
  | keyed key => exact (keeps_changeRegistry _ blind).bind fun _ => keeps_pure _
  | trusted => exact keeps_pure _

theorem keeps_demandLayer (datasource : DatasourceId)
    (blind : ∀ gateway store names, view { gateway with store, names } = view gateway) :
    Keeps view (demandLayer datasource) :=
  (keeps_askStore _ blind).bind fun _ => (keeps_pure _).ite (keeps_throw _)

/-- How a deletion ends.  Only what went well altogether is recorded. -/
theorem keeps_deletionEnd (caller : Caller) (datasource : DatasourceId) (revoked : Nat)
    (failure : Option RegistryError) (deleted : Except StoreError Unit)
    (recorded : Keeps view (record "delete_datasource" caller datasource [])) :
    Keeps view (match failure, deleted with
      | none, .ok () => do
          record "delete_datasource" caller datasource []
          return Outcome.done
      | none, .error error =>
          if error.isNotFound then throw (.store error)
          else throw (.incompleteDeletion datasource revoked none (some error))
      | some failure, .ok () =>
          throw (.incompleteDeletion datasource revoked (some failure) none)
      | some failure, .error error =>
          throw (.incompleteDeletion datasource revoked (some failure) (some error))) := by
  cases failure with
  | none =>
    cases deleted with
    | ok => exact recorded.bind fun _ => keeps_pure _
    | error cause => exact (keeps_throw _).ite (keeps_throw _)
  | some failure =>
    cases deleted with
    | ok => exact keeps_throw _
    | error cause => exact keeps_throw _

end Keeps

/-! ## What an action leaves behind -/

/-- Whether an action succeeds or fails, what `view` sees after it has the property. -/
def Leaves {ω : Type} (gateway : Gateway) (view : Gateway → ω) (property : ω → Prop)
    (action : Action α) : Prop :=
  property (view (action gateway).2)

section Leaves

variable {ω : Type} {view : Gateway → ω} {property : ω → Prop} {gateway : Gateway}

theorem Keeps.leaves {action : Action α} (keeps : Keeps view action)
    (before : property (view gateway)) : gateway.Leaves view property action := by
  rw [Leaves, keeps gateway]
  exact before

/-- What comes before the part that counts may keep things as they are. -/
theorem Leaves.after {first : Action α} {next : α → Action β} (keeps : Keeps view first)
    (before : property (view gateway))
    (further : ∀ value between, first gateway = (.ok value, between) →
      between.Leaves view property (next value)) :
    gateway.Leaves view property (first >>= next) := by
  unfold Leaves
  rcases ran : first gateway with ⟨error | value, between⟩
  · have kept := keeps gateway
    rw [ran] at kept
    rw [run_bind_of_error ran, kept]
    exact before
  · rw [run_bind_of_ok ran]
    exact further value between ran

theorem Leaves.before {first : Action α} {next : α → Action β}
    (leaves : gateway.Leaves view property first) (keeps : ∀ value, Keeps view (next value)) :
    gateway.Leaves view property (first >>= next) := by
  unfold Leaves at leaves ⊢
  rcases ran : first gateway with ⟨error | value, between⟩ <;> rw [ran] at leaves
  · rw [run_bind_of_error ran]
    exact leaves
  · rw [run_bind_of_ok ran, keeps value between]
    exact leaves

/-- Behind a gate an action is carried out only if the gate is open. -/
theorem Leaves.guarded {action : Action α} (condition : Bool) (refusal : GatewayError)
    (before : property (view gateway))
    (leaves : condition = false → gateway.Leaves view property action) :
    gateway.Leaves view property (do
      if condition then throw refusal
      action) := by
  cases condition with
  | true => exact before
  | false => exact leaves rfl

end Leaves

/-! ## How an action fails -/

/-- The action fails with no other errors than those of which `cause` holds. -/
def FailsOnly (cause : GatewayError → Prop) (action : Action α) : Prop :=
  ∀ gateway error, (action gateway).1 = .error error → cause error

section FailsOnly

variable {cause : GatewayError → Prop}

theorem failsOnly_pure (value : α) : FailsOnly cause (pure value) :=
  fun _ _ failed => nomatch failed

theorem failsOnly_throw {error : GatewayError} (caused : cause error) :
    FailsOnly cause (throw error : Action α) := by
  intro _ _ failed
  cases failed
  exact caused

theorem FailsOnly.bind {first : Action α} {next : α → Action β} (fails : FailsOnly cause first)
    (nextFails : ∀ value, FailsOnly cause (next value)) : FailsOnly cause (first >>= next) := by
  intro gateway error failed
  rcases ran : first gateway with ⟨_ | value, between⟩
  · rw [run_bind_of_error ran] at failed
    cases failed
    exact fails gateway _ (by rw [ran])
  · rw [run_bind_of_ok ran] at failed
    exact nextFails value between error failed

theorem failsOnly_askStore (operation : LayerOperation α)
    (caused : ∀ error, cause (.store error)) : FailsOnly cause (askStore operation) := by
  intro gateway error failed
  simp only [askStore] at failed
  obtain ⟨cause, -, rfl⟩ := mapError_eq_error.1 failed
  exact caused cause

theorem failsOnly_changeRegistry (change : Registry → Except RegistryError (α × Registry))
    (caused : ∀ error, cause (.registry error)) : FailsOnly cause (changeRegistry change) := by
  intro gateway error failed
  unfold changeRegistry at failed
  split at failed <;> cases failed
  exact caused _

theorem failsOnly_demandLayer (datasource : DatasourceId)
    (caused : ∀ error, cause (.store error)) : FailsOnly cause (demandLayer datasource) := by
  refine (failsOnly_askStore _ caused).bind fun found => ?_
  cases found with
  | false => exact failsOnly_throw (caused _)
  | true => exact failsOnly_pure _

theorem failsOnly_journalChange (method : String) (data : Json) :
    FailsOnly cause (journalChange method data) :=
  fun _ _ failed => nomatch failed

end FailsOnly

/-! ## Actions that only look -/

theorem reads_askRegistry (question : Registry → Except RegistryError α) :
    Keeps id (askRegistry question) := fun _ => rfl

theorem run_knownCaller (key : AccessKey) (gateway : Gateway) :
    knownCaller (.keyed key) gateway =
      match gateway.registry.load key with
      | .ok (some customer) => (.ok (some customer), gateway)
      | .ok none => (.error (.unauthorized (.unknownKey key)), gateway)
      | .error error => (.error (.registry error), gateway) := rfl

theorem reads_knownCaller (caller : Caller) : Keeps id (knownCaller caller) := by
  intro gateway
  cases caller with
  | trusted => rfl
  | keyed key =>
    rw [run_knownCaller]
    split <;> rfl

theorem reads_demandOwner (customer : Option Customer) (datasource : DatasourceId) :
    Keeps id (demandOwner customer datasource) := by
  cases customer with
  | none => exact keeps_pure _
  | some customer => exact (keeps_pure _).ite (keeps_throw _)

theorem reads_authorize (caller : Caller) (datasource : DatasourceId) :
    Keeps id (authorize caller datasource) :=
  (reads_knownCaller caller).bind fun _ => reads_demandOwner _ _

/-! ## Who is let through -/

/-- Whether a caller may deal with a datasource: customers with those they own. -/
def Authorized (gateway : Gateway) (caller : Caller) (datasource : DatasourceId) : Prop :=
  match caller with
  | .keyed key => gateway.registry.Lists key datasource
  | .trusted => True

theorem authorized_of_demandOwner {caller : Caller} {datasource : DatasourceId}
    {customer : Option Customer} {gateway after : Gateway}
    (known : knownCaller caller gateway = (.ok customer, gateway))
    (passed : demandOwner customer datasource gateway = (.ok (), after)) :
    gateway.Authorized caller datasource := by
  cases caller with
  | trusted => trivial
  | keyed key =>
    rw [run_knownCaller] at known
    split at known
    · next record loaded =>
      cases known
      refine ⟨record, loaded, ?_⟩
      cases owns : record.has datasource with
      | true => rfl
      | false =>
        simp only [demandOwner, owns] at passed
        cases passed
    · cases known
    · cases known

theorem authorized_of_authorize {caller : Caller} {datasource : DatasourceId}
    {gateway after : Gateway} (passed : authorize caller datasource gateway = (.ok (), after)) :
    after = gateway ∧ gateway.Authorized caller datasource := by
  refine ⟨(reads_authorize caller datasource).seen passed, ?_⟩
  obtain ⟨error, -, failed⟩ | ⟨customer, between, known, owner⟩ := bind_cases passed
  · cases failed
  · obtain rfl := (reads_knownCaller caller).seen known
    exact authorized_of_demandOwner known owner

end LayerGateway.Gateway
