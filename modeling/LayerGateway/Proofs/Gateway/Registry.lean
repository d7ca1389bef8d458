import LayerGateway.Proofs.Gateway.Layers
import LayerGateway.Proofs.Gateway.Run

/-!
# What commands do to the registry

Whatever becomes of a command, the registry is as it was or one thing was done to it:

* a record was made or written whole, which only trusted callers can do;
* one record got the datasource that the command gives away;
* the datasource that the command deletes was taken from everybody.

So the registry of every gateway that comes about is well kept.
-/

namespace LayerGateway

/-! ## Registries -/

namespace Registry

variable {registry later : Registry} {key : AccessKey} {customer : Customer}
  {datasource : DatasourceId}

theorem add_becomes (wellKept : registry.WellKept)
    (added : registry.add key datasource = .ok (customer, later)) :
    later.WellKept ∧ registry.Becomes (fun other record kept =>
      kept = if other = key then record.add datasource else record) later := by
  obtain ⟨record, answered, -⟩ := ok_of_bind added
  obtain ⟨changed, modified, kept, becomes⟩ := modify_becomes wellKept (·.add datasource)
    (load_of_get answered) (record.apikey_add datasource)
  cases modified.symm.trans added
  exact ⟨kept, becomes⟩

theorem add_of_lists (owns : registry.Lists key datasource) :
    ∃ customer, registry.add key datasource = .ok (customer, registry) := by
  obtain ⟨customer, loaded, has⟩ := owns
  refine ⟨customer, ?_⟩
  rw [add, modify, bind_of_ok (get_of_load loaded)]
  simp only [Customer.add_of_has has, if_true]
  rfl

theorem createFrom_cases (registry : Registry) (keys : List AccessKey) :
    (registry.createFrom keys).2.1 = registry ∨
      ∃ key, registry.load key = .ok none ∧
        (registry.createFrom keys).2.1 = registry.store ⟨key, [], []⟩ := by
  induction keys with
  | nil => exact .inl rfl
  | cons key keys ih =>
    unfold createFrom
    split
    · exact .inl rfl
    · next free => exact .inr ⟨key, free, rfl⟩
    · exact ih

end Registry

namespace Gateway

variable {α : Type}

/-! ## Taking a datasource from its owners -/

-- The induction is on the owners still to be visited; their records stay where they are, which
-- is why none of them is missed.
theorem revokeFrom_becomes (datasource : DatasourceId) {owners : List AccessKey}
    {registry : Registry} (wellKept : registry.WellKept)
    (known : ∀ owner ∈ owners, ∃ customer, registry.load owner = .ok (some customer)) :
    ∃ later, revokeFrom datasource owners registry = ((owners.length, none), later) ∧
      later.WellKept ∧ registry.Becomes (fun key record kept =>
        kept = if key ∈ owners then record.remove datasource else record) later := by
  induction owners generalizing registry with
  | nil => exact ⟨registry, rfl, wellKept, .refl (by simp) registry⟩
  | cons owner owners ih =>
    obtain ⟨customer, loaded⟩ := known owner List.mem_cons_self
    obtain ⟨between, removed, betweenKept, first⟩ := Registry.modify_becomes wellKept
      (·.remove datasource) loaded (customer.apikey_remove datasource)
    have stillKnown : ∀ other ∈ owners, ∃ customer, between.load other = .ok (some customer) := by
      intro other member
      obtain ⟨record, found⟩ := known other (List.mem_cons_of_mem _ member)
      obtain ⟨kept, keptLoaded, -⟩ := first.records other record found
      exact ⟨kept, keptLoaded⟩
    obtain ⟨later, rest, laterKept, further⟩ := ih betweenKept stillKnown
    refine ⟨later, ?_, laterKept, first.trans further ?_⟩
    · simp only [revokeFrom, Registry.remove, removed, rest, List.length_cons]
    · rintro key record _ _ rfl rfl
      by_cases here : key = owner
      · by_cases again : key ∈ owners
        · simp [here, here ▸ again]
        · simp [here, here ▸ again]
      · simp [here]

/-- Everybody loses the datasource, and nobody anything else. -/
theorem revokeAll_becomes (datasource : DatasourceId) {registry : Registry}
    (wellKept : registry.WellKept) :
    ∃ revoked later, revokeAll datasource registry = ((revoked, none), later) ∧
      later.WellKept ∧
        registry.Becomes (fun _ record kept => kept = record.remove datasource) later := by
  obtain ⟨owners, listed, own⟩ := Registry.ownersOf_eq_ok wellKept datasource
  have known : ∀ owner ∈ owners, ∃ customer, registry.load owner = .ok (some customer) := by
    intro owner member
    obtain ⟨customer, loaded, -⟩ := (own owner).1 member
    exact ⟨customer, loaded⟩
  obtain ⟨later, revoked, laterKept, becomes⟩ := revokeFrom_becomes datasource wellKept known
  refine ⟨owners.length, later, ?_, laterKept, becomes.mono ?_⟩
  · rw [revokeAll, listed]
    exact revoked
  · rintro key record _ loaded rfl
    by_cases member : key ∈ owners
    · rw [if_pos member]
    · have foreign : record.has datasource = false := by
        refine Bool.eq_false_iff.2 fun owns => member ?_
        exact (own key).2 ⟨record, loaded, owns⟩
      rw [if_neg member, Customer.remove_of_not_has foreign]

/-! ## What a command may do -/

/-- Who a command gives a datasource to: to the caller, if that is a customer, or to the one
for whom a trusted caller assigns it. -/
def recipient? (caller : Caller) : Command → Option AccessKey
  | .assignDatasource apikey _ => caller.key? <|> apikey
  | _ => caller.key?

def granted? (gateway : Gateway) : Command → Option DatasourceId
  | .assignDatasource _ datasource => some datasource
  | command => gateway.generated? command

/-- What a command may make of the registry. -/
inductive RegistryAfter (gateway : Gateway) (caller : Caller) (command : Command) :
    Registry → Prop where
  | same : gateway.RegistryAfter caller command gateway.registry
  | created {key : AccessKey} (trusted : caller = .trusted)
      (free : gateway.registry.load key = .ok none) :
      gateway.RegistryAfter caller command (gateway.registry.store ⟨key, [], []⟩)
  | put {customer : Customer} (trusted : caller = .trusted)
      (puts : command = .insertApikey customer) :
      gateway.RegistryAfter caller command (gateway.registry.put customer)
  | granted {key : AccessKey} {datasource : DatasourceId} {customer : Customer}
      {later : Registry} (recipient : recipient? caller command = some key)
      (given : gateway.granted? command = some datasource)
      (added : gateway.registry.add key datasource = .ok (customer, later)) :
      gateway.RegistryAfter caller command later
  | revoked {datasource : DatasourceId} (deletes : command = .deleteDatasource datasource)
      (owner : gateway.Authorized caller datasource) :
      gateway.RegistryAfter caller command (revokeAll datasource gateway.registry).2

theorem RegistryAfter.wellKept {gateway : Gateway} {caller : Caller} {command : Command}
    {later : Registry} (after : gateway.RegistryAfter caller command later)
    (wellKept : gateway.registry.WellKept) : later.WellKept := by
  cases after with
  | same => exact wellKept
  | created trusted free => exact wellKept.store _
  | put trusted puts => exact wellKept.store _
  | granted recipient given added => exact (Registry.add_becomes wellKept added).1
  | revoked deletes owner =>
    obtain ⟨revoked, later, ran, kept, -⟩ := revokeAll_becomes _ wellKept
    rw [ran]
    exact kept

/-! ## Parts -/

/-- Actions that leave the registry alone. -/
abbrev KeepsRegistry (action : Action α) : Prop :=
  Keeps (·.registry) action

section Parts

variable {gateway between : Gateway} {caller : Caller} {command : Command} {key : AccessKey}
  {datasource : DatasourceId}

theorem keepsRegistry_askStore (operation : LayerOperation α) :
    KeepsRegistry (askStore operation) :=
  keeps_askStore operation fun _ _ _ => rfl

theorem keepsRegistry_demandLayer (datasource : DatasourceId) :
    KeepsRegistry (demandLayer datasource) :=
  keeps_demandLayer datasource fun _ _ _ => rfl

theorem leaves_add (sameRegistry : between.registry = gateway.registry)
    (recipient : recipient? caller command = some key)
    (given : gateway.granted? command = some datasource) :
    between.Leaves (·.registry) (gateway.RegistryAfter caller command)
      (changeRegistry (·.add key datasource)) := by
  rw [Leaves, registry_changeRegistry, sameRegistry]
  split
  · next added => exact .granted recipient given added
  · exact .same

/-- Who makes a layer is given it, which makes a difference only if it is new. -/
theorem leaves_newLayer (method : String) (data : List (String × Json))
    (sameRegistry : between.registry = gateway.registry)
    (recipient : recipient? caller command = caller.key?)
    (given : gateway.granted? command = some datasource ∨ gateway.Authorized caller datasource) :
    between.Leaves (·.registry) (gateway.RegistryAfter caller command) (do
      grant caller datasource
      record method caller datasource data
      return Outcome.datasource datasource) := by
  refine .before ?_ fun _ _ => rfl
  cases caller with
  | trusted => exact (keeps_pure _).leaves (sameRegistry ▸ .same)
  | keyed key =>
    rcases given with given | owner
    · exact .before (leaves_add sameRegistry recipient given) fun _ => keeps_pure _
    -- An owner is given nothing new.
    · obtain ⟨customer, added⟩ := Registry.add_of_lists owner
      refine .before ?_ fun _ => keeps_pure _
      rw [Leaves, registry_changeRegistry, sameRegistry]
      simp only [added]
      exact .same

end Parts

/-! ## Commands that change the registry -/

section Commands

variable (gateway : Gateway) (caller : Caller)

theorem createApikey_registry (trusted : caller = .trusted) :
    gateway.Leaves (·.registry) (gateway.RegistryAfter caller .createApikey) createApikey := by
  have made : gateway.RegistryAfter caller .createApikey
      (gateway.registry.createFrom (gateway.names.keyCandidates Registry.keyAttempts)).2.1 := by
    rcases gateway.registry.createFrom_cases
      (gateway.names.keyCandidates Registry.keyAttempts) with same | ⟨key, free, created⟩
    · rw [same]
      exact .same
    · rw [created]
      exact .created trusted free
  exact .before made fun _ _ => rfl

theorem insertApikey_registry (customer : Customer) (trusted : caller = .trusted) :
    gateway.Leaves (·.registry) (gateway.RegistryAfter caller (.insertApikey customer))
      (insertApikey customer) := by
  have written : gateway.Leaves (·.registry)
      (gateway.RegistryAfter caller (.insertApikey customer))
      (changeRegistry fun registry => .ok ((), registry.put customer)) := .put trusted rfl
  exact .before written fun _ => (keeps_of_reads (reads_askRegistry _)).bind fun _ _ => rfl

theorem assignDatasource_registry (apikey : Option AccessKey) (datasource : DatasourceId) :
    gateway.Leaves (·.registry)
      (gateway.RegistryAfter caller (.assignDatasource apikey datasource))
      (assignDatasource caller apikey datasource) := by
  have given (target : AccessKey)
      (recipient : recipient? caller (.assignDatasource apikey datasource) = some target) :
      gateway.Leaves (·.registry)
        (gateway.RegistryAfter caller (.assignDatasource apikey datasource))
        (assignDatasource .trusted (some target) datasource) := by
    refine .after (keeps_pure target) .same fun _ between drawn => ?_
    cases drawn
    refine .after (keepsRegistry_demandLayer datasource) .same fun _ between demanded => ?_
    have sameRegistry := (keepsRegistry_demandLayer datasource).seen demanded
    exact .before (leaves_add sameRegistry recipient rfl) fun _ _ => rfl
  cases caller with
  | keyed key =>
    refine .after (keeps_of_reads (reads_knownCaller _)) .same fun _ between known => ?_
    obtain rfl := (reads_knownCaller _).seen known
    exact given key rfl
  | trusted =>
    cases apikey with
    | none => exact (keeps_throw _).leaves .same
    | some key => exact given key rfl

theorem createDatasource_registry (datasource : Option DatasourceId)
    (layer : Option FeatureCollection) :
    gateway.Leaves (·.registry)
      (gateway.RegistryAfter caller (.createDatasource datasource layer))
      (createDatasource caller datasource layer) := by
  refine .after (keeps_of_reads (reads_knownCaller caller)) .same fun customer between known => ?_
  obtain rfl := (reads_knownCaller caller).seen known
  cases datasource with
  | some id =>
    refine .after (keeps_of_reads (reads_demandOwner _ _)) .same fun _ passedBy passed => ?_
    have owner := authorized_of_demandOwner known passed
    obtain rfl := (reads_demandOwner _ _).seen passed
    refine .after (keepsRegistry_askStore _) .same fun _ stored ran => ?_
    exact leaves_newLayer _ [] ((keepsRegistry_askStore _).seen ran) rfl (.inr owner)
  | none =>
    cases layer with
    | some layer =>
      refine .after (fun _ => rfl) .same fun id named drawn => ?_
      cases drawn
      refine .after (keepsRegistry_askStore _) .same fun _ stored ran => ?_
      have sameRegistry := (keepsRegistry_askStore _).seen ran
      exact leaves_newLayer _ [] sameRegistry rfl (.inl rfl)
    | none =>
      refine .after (keepsRegistry_askStore _) .same fun id stored ran => ?_
      have sameRegistry := (keepsRegistry_askStore _).seen ran
      obtain rfl := newLayer_answers ran
      exact leaves_newLayer _ [] sameRegistry rfl (.inl rfl)

theorem importFile_registry (path : String) :
    gateway.Leaves (·.registry) (gateway.RegistryAfter caller (.importFile path))
      (importFile caller path) := by
  refine .after (keeps_of_reads (reads_knownCaller caller)) .same fun customer between known => ?_
  obtain rfl := (reads_knownCaller caller).seen known
  refine .after (fun _ => rfl) .same fun collection opened loaded => ?_
  obtain rfl : opened = between := (congrArg Prod.snd loaded).symm
  refine .after (fun _ => rfl) .same fun id named drawn => ?_
  cases drawn
  refine .after (keepsRegistry_askStore _) .same fun _ stored ran => ?_
  have sameRegistry := (keepsRegistry_askStore _).seen ran
  exact leaves_newLayer _ _ sameRegistry rfl (.inl rfl)

theorem deleteDatasource_registry (datasource : DatasourceId) :
    gateway.Leaves (·.registry) (gateway.RegistryAfter caller (.deleteDatasource datasource))
      (deleteDatasource caller datasource) := by
  refine .after (keeps_of_reads (reads_authorize _ _)) .same fun _ between passed => ?_
  obtain ⟨rfl, owner⟩ := authorized_of_authorize passed
  -- The owners come first, so that what becomes of the layer makes no difference to them.
  have taken : between.RegistryAfter caller (.deleteDatasource datasource)
      (revokeAll datasource between.registry).2 := .revoked rfl owner
  refine .before taken fun (revoked, failure) => ?_
  exact Keeps.bind (fun _ => rfl) fun deleted =>
    keeps_deletionEnd caller datasource revoked failure deleted fun _ => rfl

theorem keepsRegistry_insertFeature (datasource : DatasourceId) (feature : Feature) :
    KeepsRegistry (insertFeature caller datasource feature) := by
  refine Keeps.bind (keeps_of_reads (reads_authorize _ _)) fun _ => ?_
  exact (keepsRegistry_askStore _).bind fun _ _ => rfl

theorem keepsRegistry_editFeature (datasource : DatasourceId) (geoId : String)
    (feature : Feature) : KeepsRegistry (editFeature caller datasource geoId feature) := by
  refine Keeps.bind (keeps_of_reads (reads_authorize _ _)) fun _ => ?_
  exact (keepsRegistry_askStore _).bind fun _ _ => rfl

/-! ## All commands -/

/-- One thing at most is done to the registry, and only what the command and its caller
allow. -/
theorem dispatch_registry (command : Command) :
    gateway.Leaves (·.registry) (gateway.RegistryAfter caller command)
      (dispatch caller command) := by
  cases kind : command.isMutation with
  | false =>
    -- Commands that change nothing only look.
    have looks : Looks (·.registry) := looks_of_blind fun _ _ _ => rfl
    exact (looks.query caller command kind).leaves .same
  | true =>
    refine .guarded _ _ .same fun passed => ?_
    have trusted (administrative : command.isAdministrative = true) : caller = .trusted := by
      simpa [administrative] using passed
    cases command with
    | createApikey => exact createApikey_registry gateway caller (trusted rfl)
    | insertApikey customer =>
      exact insertApikey_registry gateway caller customer (trusted rfl)
    | assignDatasource apikey datasource =>
      exact assignDatasource_registry gateway caller apikey datasource
    | createDatasource datasource layer =>
      exact createDatasource_registry gateway caller datasource layer
    | deleteDatasource datasource => exact deleteDatasource_registry gateway caller datasource
    | insertFeature datasource feature =>
      exact (keepsRegistry_insertFeature caller datasource feature).leaves .same
    | editFeature datasource geoId feature =>
      exact (keepsRegistry_editFeature caller datasource geoId feature).leaves .same
    | importFile path => exact importFile_registry gateway caller path
    | ping | exportApikeys | exportApikey _ | exportDatasources | exportDatasource _
    | exportFeature _ _ | exportSnapshots _ | exportSnapshot _ _ => cases kind

end Commands

theorem keepsRegistry_openView (caller : Caller) (datasource : DatasourceId) :
    KeepsRegistry (openView caller datasource) := by
  refine Keeps.bind (keeps_of_reads (reads_authorize _ _)) fun _ => ?_
  exact (keepsRegistry_demandLayer _).bind fun _ _ => rfl

/-- Nothing that happens to a gateway spoils its registry. -/
theorem Reachable.wellKept {gateway : Gateway} (reachable : gateway.Reachable) :
    gateway.registry.WellKept := by
  induction reachable with
  | start noCustomers noLayers => exact noCustomers ▸ Registry.wellKept_empty
  | @dispatch gateway caller command _ ih =>
    exact (dispatch_registry gateway caller command).wellKept ih
  | @openView gateway caller datasource _ ih =>
    have kept : (Gateway.openView caller datasource gateway).2.registry = gateway.registry :=
      keepsRegistry_openView caller datasource gateway
    rw [kept]
    exact ih
  | outside sameRegistry sameLayers _ ih => exact sameRegistry.symm ▸ ih
  | restarted _ ih => exact ih

end Gateway

end LayerGateway
