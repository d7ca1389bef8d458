import LayerGateway.Proofs.Gateway.Atomicity
import LayerGateway.Proofs.Gateway.Run
import LayerGateway.Proofs.Gateway.Success

/-!
# Ownership is the history of grants and revocations

Who owns what is told by the commands that were given: a record lists a datasource if the
last command that granted the pair or revoked it granted it.  Commands that fail do neither,
but for a deletion, which takes the datasource from everybody as soon as it is allowed,
whatever becomes of the layer.

* `Turn.Grants` and `Turn.Revokes` say which commands do so.
* `Turn.lists_after_iff` is what one command does to one pair.
-/

namespace LayerGateway

/-! ## Tables of records -/

namespace Registry

variable {registry later : Registry} {key other : AccessKey} {customer : Customer}
  {datasource given : DatasourceId}

theorem load_eq_none_iff : registry.load key = .ok none ↔
    Text.encode key.text ∉ registry.rows.keys := by
  constructor
  · intro free member
    obtain ⟨row, rowMember, sameKey⟩ := List.mem_map.1 member
    have found := registry.rows.mem_rows_iff.1 rowMember
    rw [sameKey] at found
    simp only [load, found] at free
    obtain ⟨_, -, impossible⟩ := map_eq_ok.1 free
    cases impossible
  · intro absent
    unfold load
    split
    · next found => exact absurd (List.mem_map_of_mem (registry.rows.mem_of_get? found)) absent
    · rfl

/-- What a later record may have come of. -/
theorem Becomes.origin {may : AccessKey → Customer → Customer → Prop}
    (becomes : registry.Becomes may later) (wellKept : registry.WellKept) {kept : Customer}
    (loaded : later.load key = .ok (some kept)) :
    ∃ record, registry.load key = .ok (some record) ∧ may key record kept := by
  obtain ⟨record, before⟩ := wellKept.readable.load key
  cases record with
  | none =>
    have free : later.load key = .ok none := by
      rw [load_eq_none_iff, becomes.keys]
      exact load_eq_none_iff.1 before
    cases free.symm.trans loaded
  | some record =>
    obtain ⟨_, found, allowed⟩ := becomes.records key record before
    cases found.symm.trans loaded
    exact ⟨record, before, allowed⟩

theorem lists_of_load (loaded : registry.load key = .ok (some customer)) :
    registry.Lists key datasource ↔ customer.has datasource = true := by
  refine ⟨?_, fun owns => ⟨customer, loaded, owns⟩⟩
  rintro ⟨record, found, owns⟩
  cases loaded.symm.trans found
  exact owns

theorem not_lists_of_free (free : registry.load key = .ok none) :
    ¬ registry.Lists key datasource := by
  rintro ⟨record, found, -⟩
  cases free.symm.trans found

theorem lists_store_of_ne (differ : key ≠ customer.apikey) :
    (registry.store customer).Lists key datasource ↔ registry.Lists key datasource := by
  rw [Lists, Lists, load_store_of_ne registry differ]

theorem lists_put_of_ne (differ : key ≠ customer.apikey) :
    (registry.put customer).Lists key datasource ↔ registry.Lists key datasource :=
  @lists_store_of_ne registry key customer.dedup datasource differ

theorem lists_put_self :
    (registry.put customer).Lists customer.apikey datasource ↔
      datasource ∈ customer.datasources :=
  (lists_of_load (load_store_self registry customer.dedup)).trans Customer.has_dedup

/-- A customer without datasources makes no difference to who owns what. -/
theorem lists_store_newcomer (free : registry.load other = .ok none) :
    (registry.store ⟨other, [], []⟩).Lists key datasource ↔ registry.Lists key datasource := by
  by_cases same : key = other
  · subst same
    rw [lists_of_load (load_store_self registry ⟨key, [], []⟩)]
    exact ⟨nofun, fun owns => absurd owns (not_lists_of_free free)⟩
  · exact lists_store_of_ne same

theorem lists_add (wellKept : registry.WellKept)
    (added : registry.add other given = .ok (customer, later)) :
    later.Lists key datasource ↔
      (key = other ∧ datasource = given) ∨ registry.Lists key datasource := by
  have becomes := (add_becomes wellKept added).2
  constructor
  · rintro ⟨kept, loaded, owns⟩
    obtain ⟨record, before, rfl⟩ := becomes.origin wellKept loaded
    split at owns
    · next own =>
      rcases Customer.has_add.1 owns with new | owned
      · exact .inl ⟨own, new⟩
      · exact .inr ⟨record, before, owned⟩
    · exact .inr ⟨record, before, owns⟩
  · rintro (⟨rfl, rfl⟩ | ⟨record, before, owned⟩)
    · obtain ⟨record, answered, -⟩ := ok_of_bind added
      obtain ⟨kept, loaded, rfl⟩ := becomes.records key record (load_of_get answered)
      rw [if_pos rfl] at loaded
      exact ⟨_, loaded, Customer.has_add.2 (.inl rfl)⟩
    · obtain ⟨kept, loaded, rfl⟩ := becomes.records key record before
      refine ⟨_, loaded, ?_⟩
      split
      · exact Customer.has_add.2 (.inr owned)
      · exact owned

theorem lists_revokeAll (wellKept : registry.WellKept) :
    (Gateway.revokeAll given registry).2.Lists key datasource ↔
      registry.Lists key datasource ∧ datasource ≠ given := by
  obtain ⟨revoked, later, ran, -, becomes⟩ := Gateway.revokeAll_becomes given wellKept
  rw [ran]
  constructor
  · rintro ⟨kept, loaded, owns⟩
    obtain ⟨record, before, rfl⟩ := becomes.origin wellKept loaded
    obtain ⟨owned, other⟩ := Customer.has_remove.1 owns
    exact ⟨⟨record, before, owned⟩, other⟩
  · rintro ⟨⟨record, before, owned⟩, other⟩
    obtain ⟨kept, loaded, rfl⟩ := becomes.records key record before
    exact ⟨_, loaded, Customer.has_remove.2 ⟨owned, other⟩⟩

/-- No record lists a datasource twice. -/
def Single (registry : Registry) : Prop :=
  ∀ key customer, registry.load key = .ok (some customer) → customer.datasources.Nodup

theorem single_empty : Single {} := nofun

theorem Single.store (single : registry.Single) (own : customer.datasources.Nodup) :
    (registry.store customer).Single := by
  intro key record loaded
  by_cases same : key = customer.apikey
  · subst same
    cases (load_store_self registry customer).symm.trans loaded
    exact own
  · rw [load_store_of_ne registry same] at loaded
    exact single key record loaded

theorem Single.becomes {may : AccessKey → Customer → Customer → Prop} (single : registry.Single)
    (wellKept : registry.WellKept) (becomes : registry.Becomes may later)
    (keeps : ∀ key record kept, may key record kept → record.datasources.Nodup →
      kept.datasources.Nodup) : later.Single := by
  intro key kept loaded
  obtain ⟨record, before, allowed⟩ := becomes.origin wellKept loaded
  exact keeps key record kept allowed (single key record before)

end Registry

namespace Gateway

theorem RegistryAfter.single {gateway : Gateway} {caller : Caller} {command : Command}
    {later : Registry} (after : gateway.RegistryAfter caller command later)
    (wellKept : gateway.registry.WellKept) (single : gateway.registry.Single) : later.Single := by
  cases after with
  | same => exact single
  | created trusted free => exact single.store List.nodup_nil
  | put trusted puts => exact single.store (Customer.nodup_eraseDups _)
  | granted recipient given added =>
    refine single.becomes wellKept (Registry.add_becomes wellKept added).2 ?_
    rintro key record _ rfl once
    split
    · exact Customer.nodup_add once
    · exact once
  | revoked deletes owner =>
    obtain ⟨revoked, later, ran, -, becomes⟩ := revokeAll_becomes _ wellKept
    rw [ran]
    refine single.becomes wellKept becomes ?_
    rintro key record _ rfl once
    exact once.filter _

/-! ## Grants and revocations -/

namespace Turn

/-- The command gave the datasource to the customer. -/
inductive Grants (turn : Turn) (key : AccessKey) (datasource : DatasourceId) : Prop where
  | listed {customer : Customer} {outcome : Outcome}
      (puts : turn.command = .insertApikey customer) (answered : turn.answer = .ok outcome)
      (own : customer.apikey = key) (lists : datasource ∈ customer.datasources)
  | assigned {apikey : Option AccessKey} {outcome : Outcome}
      (assigns : turn.command = .assignDatasource apikey datasource)
      (answered : turn.answer = .ok outcome) (target : recipient? turn.caller turn.command = some key)
  | created {named : Option DatasourceId} {layer : Option FeatureCollection}
      (creates : turn.command = .createDatasource named layer)
      (answered : turn.answer = .ok (.datasource datasource)) (own : turn.caller = .keyed key)
  | imported {path : String} (imports : turn.command = .importFile path)
      (answered : turn.answer = .ok (.datasource datasource)) (own : turn.caller = .keyed key)

/-- The command took the datasource from the customer.  A deletion that is allowed takes it
from everybody, whatever it answers. -/
inductive Revokes (turn : Turn) (key : AccessKey) (datasource : DatasourceId) : Prop where
  | omitted {customer : Customer} {outcome : Outcome}
      (puts : turn.command = .insertApikey customer) (answered : turn.answer = .ok outcome)
      (own : customer.apikey = key) (omits : datasource ∉ customer.datasources)
  | deleted (deletes : turn.command = .deleteDatasource datasource)
      (allowed : turn.before.Authorized turn.caller datasource)

end Turn

/-- The last of some commands that granted or revoked the pair granted it. -/
def LastGranted (turns : List Turn) (key : AccessKey) (datasource : DatasourceId) : Prop :=
  ∃ earlier turn later, turns = earlier ++ turn :: later ∧ turn.Grants key datasource ∧
    ∀ other ∈ later, ¬ other.Grants key datasource ∧ ¬ other.Revokes key datasource

theorem lastGranted_snoc {turns : List Turn} {turn : Turn} {key : AccessKey}
    {datasource : DatasourceId} :
    LastGranted (turns ++ [turn]) key datasource ↔
      turn.Grants key datasource ∨
        LastGranted turns key datasource ∧ ¬ turn.Revokes key datasource := by
  have stands : LastGranted (turns ++ [turn]) key datasource ↔
      turn.Grants key datasource ∨
        (¬ turn.Grants key datasource ∧ ¬ turn.Revokes key datasource) ∧
          LastGranted turns key datasource :=
    @stands_snoc Turn (fun _ granting => granting.Grants key datasource)
      (fun other => ¬ other.Grants key datasource ∧ ¬ other.Revokes key datasource) turns turn
  rw [stands]
  by_cases grants : turn.Grants key datasource
  · simp only [grants, true_or]
  · simp only [grants, false_or, not_false_eq_true, true_and, and_comm]

/-! ## One command -/

section Commands

variable {gateway : Gateway} {caller : Caller} {key : AccessKey} {datasource : DatasourceId}

theorem authorize_of_authorized (allowed : gateway.Authorized caller datasource) :
    authorize caller datasource gateway = (.ok (), gateway) := by
  cases caller with
  | trusted => rfl
  | keyed key =>
    obtain ⟨customer, loaded, owns⟩ := allowed
    have known : knownCaller (.keyed key) gateway = (.ok (some customer), gateway) := by
      rw [run_knownCaller, loaded]
    rw [authorize, run_bind_of_ok known, demandOwner, owns]
    rfl

/-- A deletion that is allowed takes the datasource from everybody, even if it fails. -/
theorem deleteDatasource_revokes (allowed : gateway.Authorized caller datasource) :
    (dispatch caller (.deleteDatasource datasource) gateway).2.registry =
      (revokeAll datasource gateway.registry).2 := by
  change (deleteDatasource caller datasource gateway).2.registry = _
  rw [deleteDatasource, run_bind_of_ok (authorize_of_authorized allowed)]
  -- The owners come first, and nothing that follows asks the registry again.
  change gateway.Leaves (·.registry) (· = (revokeAll datasource gateway.registry).2) _
  refine .before rfl fun revocation => ?_
  exact Keeps.bind (fun _ => rfl) fun deleted =>
    keeps_deletionEnd caller datasource revocation.1 revocation.2 deleted fun _ => rfl

theorem deleteDatasource_refused (foreign : ¬ gateway.Authorized caller datasource) :
    (dispatch caller (.deleteDatasource datasource) gateway).2.registry = gateway.registry := by
  have after := dispatch_registry gateway caller (.deleteDatasource datasource)
  rw [Leaves] at after
  generalize (dispatch caller (.deleteDatasource datasource) gateway).2.registry = later at after
  cases after with
  | same => rfl
  | created trusted free => exact absurd (trusted ▸ trivial) foreign
  | put trusted puts => cases puts
  | granted recipient given added => cases given
  | revoked deletes owner =>
    cases deletes
    exact absurd owner foreign

theorem given_lists {later : Registry} {made : DatasourceId} (wellKept : gateway.registry.WellKept)
    (given : Given gateway.registry caller made later) :
    later.Lists key datasource ↔
      (caller = .keyed key ∧ datasource = made) ∨ gateway.registry.Lists key datasource := by
  cases caller with
  | trusted =>
    cases given
    simp
  | keyed maker =>
    obtain ⟨customer, added⟩ := given
    rw [Registry.lists_add wellKept added, Caller.keyed.injEq, eq_comm (a := key)]

end Commands

namespace Turn

variable {turn : Turn} {key : AccessKey} {datasource : DatasourceId}

theorem deleted_lists_iff (wellKept : turn.before.registry.WellKept) {deleted : DatasourceId}
    (deletes : turn.command = .deleteDatasource deleted) :
    turn.after.registry.Lists key datasource ↔
      turn.before.registry.Lists key datasource ∧ ¬ turn.Revokes key datasource := by
  obtain ⟨before, caller, command⟩ := turn
  obtain rfl : command = .deleteDatasource deleted := deletes
  have revokes_iff : Turn.Revokes ⟨before, caller, .deleteDatasource deleted⟩ key datasource ↔
      datasource = deleted ∧ before.Authorized caller deleted := by
    constructor
    · rintro (⟨puts, -, -, -⟩ | ⟨deletes, allowed⟩)
      · cases puts
      · cases deletes
        exact ⟨rfl, allowed⟩
    · rintro ⟨rfl, allowed⟩
      exact .deleted rfl allowed
  rw [revokes_iff, after]
  by_cases allowed : before.Authorized caller deleted
  · rw [deleteDatasource_revokes allowed, Registry.lists_revokeAll wellKept]
    simp [allowed]
  · rw [deleteDatasource_refused allowed]
    simp [allowed]

/-- A command that answers, and is neither a deletion nor one that gives something away, is of
no consequence to who owns what. -/
theorem kept_lists_iff
    (noPut : ∀ customer, turn.command ≠ .insertApikey customer)
    (noGrant : turn.before.granted? turn.command = none)
    (noDeletion : ∀ deleted, turn.command ≠ .deleteDatasource deleted) :
    turn.after.registry.Lists key datasource ↔ turn.before.registry.Lists key datasource := by
  have after := dispatch_registry turn.before turn.caller turn.command
  change turn.before.RegistryAfter turn.caller turn.command turn.after.registry at after
  generalize turn.after.registry = later at after
  cases after with
  | same => rfl
  | created trusted free => exact Registry.lists_store_newcomer free
  | put trusted puts => exact absurd puts (noPut _)
  | granted recipient given added => cases noGrant.symm.trans given
  | revoked deletes owner => exact absurd deletes (noDeletion _)

theorem failed_lists_iff {error : GatewayError} (answered : turn.answer = .error error)
    (noDeletion : ∀ deleted, turn.command ≠ .deleteDatasource deleted) :
    turn.after.registry.Lists key datasource ↔
      turn.Grants key datasource ∨
        turn.before.registry.Lists key datasource ∧ ¬ turn.Revokes key datasource := by
  have same : turn.after.registry = turn.before.registry :=
    (dispatch_undone turn.before turn.caller noDeletion _ _ (failed answered)).registry
  have noGrant : ¬ turn.Grants key datasource := by
    rintro (⟨-, succeeded, -, -⟩ | ⟨-, succeeded, -⟩ | ⟨-, succeeded, -⟩ | ⟨-, succeeded, -⟩)
    all_goals cases answered.symm.trans succeeded
  have noRevocation : ¬ turn.Revokes key datasource := by
    rintro (⟨-, succeeded, -, -⟩ | ⟨deletes, -⟩)
    · cases answered.symm.trans succeeded
    · exact noDeletion _ deletes
  simp [same, noGrant, noRevocation]

theorem put_lists_iff {customer : Customer} {outcome : Outcome}
    (puts : turn.command = .insertApikey customer) (answered : turn.answer = .ok outcome) :
    turn.after.registry.Lists key datasource ↔
      turn.Grants key datasource ∨
        turn.before.registry.Lists key datasource ∧ ¬ turn.Revokes key datasource := by
  obtain ⟨before, caller, command⟩ := turn
  obtain rfl : command = .insertApikey customer := puts
  have registry := insertApikey_ok (ok_of_guarded (ran answered))
  by_cases own : customer.apikey = key
  · subst own
    rw [registry, Registry.lists_put_self]
    constructor
    -- A whole record grants what it lists and revokes what it leaves out.
    · exact fun member => .inl (.listed rfl answered rfl member)
    · rintro ((⟨same, -, -, member⟩ | ⟨other, -, -⟩ | ⟨other, -, -⟩ | ⟨other, -, -⟩) | ⟨-, kept⟩)
      · cases same
        exact member
      · cases other
      · cases other
      · cases other
      · exact Decidable.byContradiction fun omits => kept (.omitted rfl answered rfl omits)
  · -- The record of another customer grants and revokes nothing here.
    have noGrant : ¬ Turn.Grants ⟨before, caller, .insertApikey customer⟩ key datasource := by
      rintro (⟨same, -, rfl, -⟩ | ⟨other, -, -⟩ | ⟨other, -, -⟩ | ⟨other, -, -⟩)
      · cases same
        exact own rfl
      all_goals cases other
    have noRevocation : ¬ Turn.Revokes ⟨before, caller, .insertApikey customer⟩ key datasource := by
      rintro (⟨same, -, rfl, -⟩ | ⟨other, -⟩)
      · cases same
        exact own rfl
      · cases other
    rw [registry, Registry.lists_put_of_ne (Ne.symm own)]
    simp [noGrant, noRevocation]

theorem not_revokes (noPut : ∀ customer, turn.command ≠ .insertApikey customer)
    (noDeletion : ∀ deleted, turn.command ≠ .deleteDatasource deleted) :
    ¬ turn.Revokes key datasource := by
  rintro (⟨puts, -, -, -⟩ | ⟨deletes, -⟩)
  · exact noPut _ puts
  · exact noDeletion _ deletes

theorem answered_lists_iff (wellKept : turn.before.registry.WellKept) {outcome : Outcome}
    (answered : turn.answer = .ok outcome)
    (noDeletion : ∀ deleted, turn.command ≠ .deleteDatasource deleted) :
    turn.after.registry.Lists key datasource ↔
      turn.Grants key datasource ∨
        turn.before.registry.Lists key datasource ∧ ¬ turn.Revokes key datasource := by
  by_cases put : ∃ customer, turn.command = .insertApikey customer
  · obtain ⟨customer, puts⟩ := put
    exact put_lists_iff puts answered
  -- What is left can give the pair to somebody, but takes it from nobody.
  have noPut := not_exists.1 put
  have noRevocation : ¬ turn.Revokes key datasource := not_revokes noPut noDeletion
  rw [and_iff_left noRevocation]
  obtain ⟨before, caller, command⟩ := turn
  have ran := ok_of_guarded (ran answered)
  cases command with
  | insertApikey customer => exact absurd rfl (noPut customer)
  | deleteDatasource deleted => exact absurd rfl (noDeletion deleted)
  | assignDatasource apikey given =>
    obtain ⟨target, customer, recipient, added⟩ := assignDatasource_ok ran
    rw [Registry.lists_add wellKept added]
    refine or_congr_left ⟨?_, ?_⟩
    · rintro ⟨rfl, rfl⟩
      exact .assigned rfl answered recipient
    · rintro (⟨other, -, -, -⟩ | ⟨assigns, -, asked⟩ | ⟨other, -, -⟩ | ⟨other, -, -⟩)
      · cases other
      · cases assigns
        cases recipient.symm.trans asked
        exact ⟨rfl, rfl⟩
      · cases other
      · cases other
  | createDatasource named layer =>
    obtain ⟨made, rfl, done⟩ := createDatasource_made ran
    rw [given_lists wellKept done.registry]
    refine or_congr_left ⟨?_, ?_⟩
    · rintro ⟨own, rfl⟩
      exact .created rfl answered own
    · rintro (⟨other, -, -, -⟩ | ⟨other, -, -⟩ | ⟨-, returned, own⟩ | ⟨other, -, -⟩)
      · cases other
      · cases other
      · cases answered.symm.trans returned
        exact ⟨own, rfl⟩
      · cases other
  | importFile path =>
    obtain ⟨made, collection, rfl, -, done⟩ := importFile_made ran
    rw [given_lists wellKept done.registry]
    refine or_congr_left ⟨?_, ?_⟩
    · rintro ⟨own, rfl⟩
      exact .imported rfl answered own
    · rintro (⟨other, -, -, -⟩ | ⟨other, -, -⟩ | ⟨other, -, -⟩ | ⟨-, returned, own⟩)
      · cases other
      · cases other
      · cases other
      · cases answered.symm.trans returned
        exact ⟨own, rfl⟩
  | ping | createApikey | exportApikeys | exportApikey _ | insertFeature _ _ | editFeature _ _ _
  | exportDatasources | exportDatasource _ | exportFeature _ _ | exportSnapshots _
  | exportSnapshot _ _ =>
    refine (kept_lists_iff noPut rfl noDeletion).trans (or_iff_right ?_).symm
    rintro (⟨other, -, -, -⟩ | ⟨other, -, -⟩ | ⟨other, -, -⟩ | ⟨other, -, -⟩)
    all_goals cases other

/-- A command leaves the pair with those who are given it, and with those who had it and do not
lose it. -/
theorem lists_after_iff (wellKept : turn.before.registry.WellKept) :
    turn.after.registry.Lists key datasource ↔
      turn.Grants key datasource ∨
        turn.before.registry.Lists key datasource ∧ ¬ turn.Revokes key datasource := by
  by_cases deletion : ∃ deleted, turn.command = .deleteDatasource deleted
  · obtain ⟨deleted, deletes⟩ := deletion
    have noGrant : ¬ turn.Grants key datasource := by
      rintro (⟨other, -, -, -⟩ | ⟨other, -, -⟩ | ⟨other, -, -⟩ | ⟨other, -, -⟩)
      all_goals cases deletes.symm.trans other
    rw [deleted_lists_iff wellKept deletes, or_iff_right noGrant]
  · have noDeletion : ∀ deleted, turn.command ≠ .deleteDatasource deleted :=
      not_exists.1 deletion
    cases answered : turn.answer with
    | error error => exact failed_lists_iff answered noDeletion
    | ok outcome => exact answered_lists_iff wellKept answered noDeletion

end Turn

/-! ## Runs -/

theorem Run.single {turns : List Turn} {gateway : Gateway} (run : Run turns gateway) :
    gateway.registry.Single := by
  induction run with
  | start noCustomers noLayers => exact noCustomers ▸ Registry.single_empty
  | @turn turns gateway caller command run ih =>
    exact (dispatch_registry gateway caller command).single run.reachable.wellKept ih
  | outside sameRegistry sameLayers run ih => exact sameRegistry.symm ▸ ih

theorem Run.lists_iff {turns : List Turn} {gateway : Gateway} (run : Run turns gateway)
    (key : AccessKey) (datasource : DatasourceId) :
    gateway.registry.Lists key datasource ↔ LastGranted turns key datasource := by
  induction run with
  | start noCustomers noLayers =>
    rw [noCustomers]
    constructor
    · rintro ⟨customer, loaded, -⟩
      cases loaded
    · rintro ⟨earlier, turn, later, split, -, -⟩
      cases List.nil_eq_append_iff.1 split |>.2
  | @turn turns gateway caller command run ih =>
    rw [lastGranted_snoc, ← ih]
    have wellKept : (⟨gateway, caller, command⟩ : Turn).before.registry.WellKept :=
      run.reachable.wellKept
    exact Turn.lists_after_iff wellKept
  | outside sameRegistry sameLayers run ih => rwa [sameRegistry]

/-- After any run a record lists a datasource if the last command that granted or revoked the
pair granted it, and then it lists it once. -/
theorem Run.owns_iff_lastGranted {turns : List Turn} {gateway : Gateway} (run : Run turns gateway)
    (key : AccessKey) (datasource : DatasourceId) :
    (gateway.registry.Lists key datasource ↔ LastGranted turns key datasource) ∧
      ∀ customer, gateway.registry.load key = .ok (some customer) →
        customer.has datasource = true → customer.datasources.count datasource = 1 := by
  refine ⟨run.lists_iff key datasource, fun customer loaded owns => ?_⟩
  have atMost := List.nodup_iff_count.1 (run.single key customer loaded) datasource
  have atLeast := List.count_pos_iff.2 (Customer.has_iff.1 owns)
  omega

/-- Two customers share a datasource of which there is no layer, and one of them deletes it. -/
def quarrel : List Turn :=
  let second := (dispatch .trusted (.insertApikey ⟨⟨"k"⟩, [⟨"d"⟩], []⟩) (fresh .inMemory)).2
  let third := (dispatch .trusted (.insertApikey ⟨⟨"l"⟩, [⟨"e"⟩, ⟨"d"⟩, ⟨"d"⟩], []⟩) second).2
  [⟨fresh .inMemory, .trusted, .insertApikey ⟨⟨"k"⟩, [⟨"d"⟩], []⟩⟩,
    ⟨second, .trusted, .insertApikey ⟨⟨"l"⟩, [⟨"e"⟩, ⟨"d"⟩, ⟨"d"⟩], []⟩⟩,
    ⟨third, .keyed ⟨"l"⟩, .deleteDatasource ⟨"d"⟩⟩]

/-- The deletion fails, both have lost the datasource, and what was granted along with it stays. -/
theorem owns_iff_lastGranted_quarrel : ∃ last : Turn, quarrel.getLast? = some last ∧
    last.answer = .error (.store (.layerNotFound ⟨"d"⟩)) ∧
    last.after.registry.load ⟨"k"⟩ = .ok (some ⟨⟨"k"⟩, [], []⟩) ∧
    last.after.registry.load ⟨"l"⟩ = .ok (some ⟨⟨"l"⟩, [⟨"e"⟩], []⟩) ∧
    Run quarrel last.after ∧
    ¬ LastGranted quarrel ⟨"k"⟩ ⟨"d"⟩ ∧ LastGranted quarrel ⟨"l"⟩ ⟨"e"⟩ := by
  have run : Run quarrel (quarrel.getLast nofun).after :=
    .turn _ _ (.turn _ _ (.turn _ _ (.start rfl (.inl rfl))))
  have lost : (quarrel.getLast nofun).after.registry.load ⟨"k"⟩ = .ok (some ⟨⟨"k"⟩, [], []⟩) := rfl
  have kept : (quarrel.getLast nofun).after.registry.load ⟨"l"⟩ =
      .ok (some ⟨⟨"l"⟩, [⟨"e"⟩], []⟩) := rfl
  refine ⟨_, rfl, rfl, lost, kept, run, fun granted => ?_, ?_⟩
  · obtain ⟨customer, loaded, owns⟩ := (run.owns_iff_lastGranted ⟨"k"⟩ ⟨"d"⟩).1.2 granted
    cases lost.symm.trans loaded
    cases owns
  · exact (run.owns_iff_lastGranted ⟨"l"⟩ ⟨"e"⟩).1.1 ⟨_, kept, by decide⟩

end Gateway

end LayerGateway
