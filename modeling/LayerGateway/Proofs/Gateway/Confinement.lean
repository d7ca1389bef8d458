import LayerGateway.Proofs.Gateway.Registry

/-!
# How far a customer reaches

A command of a customer, whatever becomes of it, leaves alone the layers of others, adds no
customer and removes none, and changes records in two ways only: the customer's own may gain
the datasource that the command gives away, and a datasource that the customer owned and
deletes goes from every record.
-/

namespace LayerGateway.Gateway

/-- What a command of the customer `key` may make of the record of a holder. -/
inductive Confined (gateway : Gateway) (key : AccessKey) (command : Command)
    (holder : AccessKey) (record : Customer) : Customer → Prop where
  | kept : gateway.Confined key command holder record record
  | gained {datasource : DatasourceId} (own : holder = key)
      (given : gateway.granted? command = some datasource)
      (new : datasource ∉ record.datasources) :
      gateway.Confined key command holder record
        { record with datasources := record.datasources ++ [datasource] }
  | lost {datasource : DatasourceId} (deletes : command = .deleteDatasource datasource)
      (owned : gateway.registry.Lists key datasource) :
      gateway.Confined key command holder record
        { record with datasources := record.datasources.filter (· != datasource) }

/-- What a command of the customer `key` may make of a gateway.  A layer that is the same has
the same content, versions and write slot. -/
structure WithinReach (gateway : Gateway) (key : AccessKey) (command : Command)
    (after : Gateway) : Prop where
  layers : ∀ id, gateway.store.layers.backend.Allows id →
    ¬ gateway.registry.Lists key id → gateway.generated? command ≠ some id →
      LayerStore.SameLayer id after.store.layers gateway.store.layers
  keys : after.registry.rows.keys = gateway.registry.rows.keys
  records : ∀ holder record, gateway.registry.load holder = .ok (some record) →
    ∃ later, after.registry.load holder = .ok (some later) ∧
      later.tilelayers = record.tilelayers ∧ gateway.Confined key command holder record later

section WithinReach

variable {gateway : Gateway} {key : AccessKey} {command : Command}

theorem Confined.tilelayers_eq {holder : AccessKey} {record later : Customer}
    (confined : gateway.Confined key command holder record later) :
    later.tilelayers = record.tilelayers := by
  cases confined <;> rfl

theorem recipient?_keyed : recipient? (.keyed key) command = some key := by
  cases command <;> rfl

theorem confined_add {datasource : DatasourceId}
    (given : gateway.granted? command = some datasource) (holder : AccessKey)
    (record : Customer) :
    gateway.Confined key command holder record
      (if holder = key then record.add datasource else record) := by
  by_cases own : holder = key
  · rw [if_pos own, Customer.add]
    by_cases has : record.has datasource = true
    · rw [if_pos has]
      exact .kept
    · rw [if_neg has]
      exact .gained own given fun member => has (List.contains_iff_mem.2 member)
  · rw [if_neg own]
    exact .kept

theorem RegistryAfter.becomes {later : Registry} (wellKept : gateway.registry.WellKept)
    (after : gateway.RegistryAfter (.keyed key) command later) :
    gateway.registry.Becomes (gateway.Confined key command) later := by
  cases after with
  | same => exact .refl (fun _ _ => .kept) _
  | created trusted free => cases trusted
  | put trusted puts => cases trusted
  | granted recipient given added =>
    -- The datasource goes to the customer, whomever the command names.
    cases recipient?_keyed.symm.trans recipient
    refine (Registry.add_becomes wellKept added).2.mono fun holder record kept _ becomes => ?_
    exact becomes ▸ confined_add given holder record
  | revoked deletes owner =>
    obtain ⟨revoked, later, ran, -, becomes⟩ := revokeAll_becomes _ wellKept
    rw [ran]
    refine becomes.mono fun holder record kept _ lost => ?_
    exact lost ▸ .lost deletes owner

theorem LayersAfter.sameLayer {later : LayerStore} {id : DatasourceId}
    (after : gateway.LayersAfter (.keyed key) command later)
    (allowed : ∀ id, gateway.changed? command = some id →
      gateway.store.layers.backend.Allows id)
    (idAllowed : gateway.store.layers.backend.Allows id)
    (foreign : ¬ gateway.registry.Lists key id) (old : gateway.generated? command ≠ some id) :
    LayerStore.SameLayer id later gateway.store.layers := by
  cases after with
  | same => exact .refl _ _
  | @ran α operation names subject about changed permitted =>
    refine LayerStore.run_sameLayer _ operation _ names idAllowed ?_ ?_
    · intro other aboutOther
      cases about.symm.trans aboutOther
      exact allowed subject changed
    · intro aboutId
      cases about.symm.trans aboutId
      exact permitted.elim foreign old

end WithinReach

/-- A customer's command stays within the customer's reach, whether it succeeds or fails.  Layers
that the customer does not own keep their content and all their versions, no record changes but the
customer's own, except that a deleted datasource is taken from everybody, and no key is added.  On
disk the layer that the command changes must have a name without a zero byte. -/
theorem dispatch_withinReach {gateway : Gateway} (reachable : gateway.Reachable)
    (key : AccessKey) (command : Command)
    (allowed : ∀ id, gateway.changed? command = some id →
      gateway.store.layers.backend.Allows id) :
    gateway.WithinReach key command (dispatch (.keyed key) command gateway).2 := by
  have layers := dispatch_layers gateway (.keyed key) command
  have registry := dispatch_registry gateway (.keyed key) command
  have becomes := registry.becomes reachable.wellKept
  refine ⟨fun id => layers.sameLayer allowed, becomes.keys, fun holder record loaded => ?_⟩
  obtain ⟨later, laterLoaded, confined⟩ := becomes.records holder record loaded
  exact ⟨later, laterLoaded, confined.tilelayers_eq, confined⟩

/-- A gateway with a layer and two customers who own it, one of them another layer as well. -/
def shared : Gateway :=
  let first := (dispatch .trusted (.insertApikey ⟨⟨"k"⟩, [⟨"d"⟩], []⟩) (fresh (.onDisk {}))).2
  let second := (dispatch .trusted (.insertApikey ⟨⟨"l"⟩, [⟨"e"⟩, ⟨"d"⟩], []⟩) first).2
  (dispatch .trusted (.createDatasource (some ⟨"d"⟩) none) second).2

theorem shared_reachable : shared.Reachable :=
  .dispatch _ _ (.dispatch _ _ (.dispatch _ _ (.start rfl (.inr rfl))))

/-- One of the customers deletes the layer. -/
theorem dispatch_withinReach_shared :
    shared.WithinReach ⟨"k"⟩ (.deleteDatasource ⟨"d"⟩)
      (dispatch (.keyed ⟨"k"⟩) (.deleteDatasource ⟨"d"⟩) shared).2 := by
  refine dispatch_withinReach shared_reachable ⟨"k"⟩ (.deleteDatasource ⟨"d"⟩) ?_
  intro id changed
  cases changed
  -- What a backend tells apart is settled when it is opened.
  have nulFree : DatasourceId.NulFree ⟨"d"⟩ := by decide
  simp only [shared, allows_dispatch]
  exact nulFree

set_option maxRecDepth 4096 in
/-- The other one loses it too, and keeps the rest. -/
example : (dispatch (.keyed ⟨"k"⟩) (.deleteDatasource ⟨"d"⟩) shared).2.registry.load ⟨"l"⟩ =
    .ok (some ⟨⟨"l"⟩, [⟨"e"⟩], []⟩) := by
  rfl

end LayerGateway.Gateway
