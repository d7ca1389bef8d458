import LayerGateway.Proofs.Gateway.Action
import LayerGateway.Proofs.Gateway.Run
import LayerGateway.Proofs.Registry

/-!
# Permission

Who does not own a datasource gets nothing of it: commands that name it, and live views of
it, are refused before anything is done.  The one exception is how customers come to own
what they have not made: they assign it to themselves.
-/

namespace LayerGateway.Gateway

variable {α β : Type}

/-- The action is refused, and the gateway is left as it was, the store not even asked. -/
def Refuses (gateway : Gateway) (action : Action α) : Prop :=
  ∃ refusal, action gateway = (.error (.unauthorized refusal), gateway)

theorem Refuses.bind {gateway : Gateway} {first : Action α} {next : α → Action β}
    (refuses : gateway.Refuses first) : gateway.Refuses (first >>= next) := by
  obtain ⟨refusal, refused⟩ := refuses
  exact ⟨refusal, run_bind_of_error refused⟩

theorem Refuses.after {gateway : Gateway} {first : Action α} {next : α → Action β} {value : α}
    (looks : first gateway = (.ok value, gateway)) (refuses : gateway.Refuses (next value)) :
    gateway.Refuses (first >>= next) := by
  obtain ⟨refusal, refused⟩ := refuses
  exact ⟨refusal, (run_bind_of_ok looks).trans refused⟩

section Stranger

variable {gateway : Gateway} {key : AccessKey} {datasource : DatasourceId}

theorem knownCaller_refuses (unknown : gateway.registry.load key = .ok none) :
    gateway.Refuses (knownCaller (.keyed key)) :=
  ⟨.unknownKey key, by rw [run_knownCaller, unknown]⟩

/-- A stranger to a datasource is stopped either as unknown or as no owner, so it makes no
difference what a command does after both questions. -/
theorem refuses_of_stranger (readable : gateway.registry.Readable)
    (stranger : ¬ gateway.registry.Lists key datasource)
    {next : Option Customer → Action β}
    (asks : ∀ customer, customer.has datasource = false →
      gateway.Refuses (next (some customer))) :
    gateway.Refuses (knownCaller (.keyed key) >>= next) := by
  obtain ⟨record, loaded⟩ := readable.load key
  cases record with
  | none => exact (knownCaller_refuses loaded).bind
  | some customer =>
    have looks : knownCaller (.keyed key) gateway = (.ok (some customer), gateway) := by
      rw [run_knownCaller, loaded]
    refine .after looks (asks customer ?_)
    exact Bool.eq_false_iff.2 fun owns => stranger ⟨customer, loaded, owns⟩

theorem demandOwner_refuses {customer : Customer} (foreign : customer.has datasource = false) :
    gateway.Refuses (demandOwner (some customer) datasource) :=
  ⟨.notOwner customer.apikey datasource, by simp [demandOwner, foreign]⟩

theorem authorize_refuses (readable : gateway.registry.Readable)
    (stranger : ¬ gateway.registry.Lists key datasource) :
    gateway.Refuses (authorize (.keyed key) datasource) :=
  refuses_of_stranger readable stranger fun _ => demandOwner_refuses

theorem createDatasource_refuses (readable : gateway.registry.Readable)
    (stranger : ¬ gateway.registry.Lists key datasource) (layer : Option FeatureCollection) :
    gateway.Refuses (createDatasource (.keyed key) (some datasource) layer) :=
  refuses_of_stranger readable stranger fun _ foreign => (demandOwner_refuses foreign).bind

theorem assignDatasource_of_known {customer : Customer}
    (known : gateway.registry.load key = .ok (some customer)) (apikey : Option AccessKey) :
    assignDatasource (.keyed key) apikey datasource gateway =
      assignDatasource .trusted (some key) datasource gateway := by
  have looks : knownCaller (.keyed key) gateway = (.ok (some customer), gateway) := by
    rw [run_knownCaller, known]
  exact run_bind_of_ok looks

theorem failsOnly_assignDatasource (target : AccessKey) :
    FailsOnly (fun error => ∀ refusal, error ≠ .unauthorized refusal)
      (assignDatasource .trusted (some target) datasource) := by
  refine (failsOnly_pure target).bind fun _ => ?_
  refine (failsOnly_demandLayer _ fun _ => by simp).bind fun _ => ?_
  refine (failsOnly_changeRegistry _ fun _ => by simp).bind fun _ => ?_
  exact (failsOnly_journalChange _ _).bind fun _ => failsOnly_pure _

/-- Assigning asks a customer for a record and for nothing else, so that nobody with a
record is refused. -/
theorem assignDatasource_refuses_iff (readable : gateway.registry.Readable)
    (apikey : Option AccessKey) :
    gateway.Refuses (assignDatasource (.keyed key) apikey datasource) ↔
      gateway.registry.load key = .ok none := by
  constructor
  · rintro ⟨refusal, refused⟩
    obtain ⟨record, loaded⟩ := readable.load key
    cases record with
    | none => exact loaded
    | some customer =>
      rw [assignDatasource_of_known loaded] at refused
      have failed := congrArg Prod.fst refused
      exact absurd rfl (failsOnly_assignDatasource key gateway _ failed refusal)
  · exact fun unknown => (knownCaller_refuses unknown).bind

end Stranger

/-- Whoever does not own a datasource is refused every command that names it, and every live
view of it, with nothing done.  Only assigning is open to all customers: it is refused to
those who are none. -/
theorem stranger_refused (gateway : Gateway) (key : AccessKey) (datasource : DatasourceId)
    (readable : gateway.registry.Readable) (stranger : ¬ gateway.registry.Lists key datasource) :
    (∀ command : Command, command.datasource? = some datasource →
      (∀ apikey, command ≠ .assignDatasource apikey datasource) →
        gateway.Refuses (dispatch (.keyed key) command)) ∧
    gateway.Refuses (openView (.keyed key) datasource) ∧
    ∀ apikey, gateway.Refuses (dispatch (.keyed key) (.assignDatasource apikey datasource)) ↔
      gateway.registry.load key = .ok none := by
  -- Every command but creating and assigning asks for permission first, just as a view does.
  refine ⟨fun command names other => ?_, (authorize_refuses readable stranger).bind,
    fun apikey => assignDatasource_refuses_iff readable apikey⟩
  have refuses := authorize_refuses readable stranger
  cases command with
  | ping | createApikey | insertApikey _ | exportApikeys | exportApikey _ | exportDatasources
  | importFile _ => cases names
  | assignDatasource apikey named =>
    cases names
    exact absurd rfl (other apikey)
  | createDatasource named layer =>
    cases names
    exact createDatasource_refuses readable stranger layer
  | deleteDatasource named | insertFeature named _ | editFeature named _ _
  | exportDatasource named | exportFeature named _ | exportSnapshots named
  | exportSnapshot named _ =>
    cases names
    exact refuses.bind

/-- A gateway with one customer, who owns nothing, and one layer. -/
def newcomer : Gateway :=
  { fresh (LayerStore.inMemory.insertLayer 0 ⟨"d"⟩ .empty).2 with
    registry := Registry.put {} ⟨⟨"k"⟩, [], []⟩ }

theorem newcomer_readable : newcomer.registry.Readable := by
  have rows : newcomer.registry.rows.rows =
      [(Text.encode "k", (⟨⟨"k"⟩, [], []⟩ : Customer).bytes)] := rfl
  intro row member
  rw [rows, List.mem_singleton] at member
  exact ⟨⟨⟨"k"⟩, [], []⟩, by rw [member]; rfl⟩

theorem newcomer_stranger : ¬ newcomer.registry.Lists ⟨"k"⟩ ⟨"d"⟩ := by
  rintro ⟨customer, loaded, owns⟩
  have known : newcomer.registry.load ⟨"k"⟩ = .ok (some ⟨⟨"k"⟩, [], []⟩) := rfl
  cases known.symm.trans loaded
  cases owns

theorem stranger_refused_newcomer :
    newcomer.registry.Readable ∧ ¬ newcomer.registry.Lists ⟨"k"⟩ ⟨"d"⟩ ∧
      (∀ command : Command, command.datasource? = some ⟨"d"⟩ →
        (∀ apikey, command ≠ .assignDatasource apikey ⟨"d"⟩) →
          newcomer.Refuses (dispatch (.keyed ⟨"k"⟩) command)) ∧
      newcomer.Refuses (openView (.keyed ⟨"k"⟩) ⟨"d"⟩) ∧
      ∀ apikey, newcomer.Refuses (dispatch (.keyed ⟨"k"⟩) (.assignDatasource apikey ⟨"d"⟩)) ↔
        newcomer.registry.load ⟨"k"⟩ = .ok none :=
  ⟨newcomer_readable, newcomer_stranger,
    stranger_refused newcomer ⟨"k"⟩ ⟨"d"⟩ newcomer_readable newcomer_stranger⟩

/-- The newcomer assigns the layer to itself, and has it. -/
theorem newcomer_assigns :
    newcomer.registry.Readable ∧ ¬ newcomer.registry.Lists ⟨"k"⟩ ⟨"d"⟩ ∧
      (Command.assignDatasource none ⟨"d"⟩).datasource? = some ⟨"d"⟩ ∧
      (dispatch (.keyed ⟨"k"⟩) (.assignDatasource none ⟨"d"⟩) newcomer).1 =
        .ok (.customer ⟨⟨"k"⟩, [⟨"d"⟩], []⟩) ∧
      ¬ newcomer.Refuses (dispatch (.keyed ⟨"k"⟩) (.assignDatasource none ⟨"d"⟩)) := by
  have assigned : (dispatch (.keyed ⟨"k"⟩) (.assignDatasource none ⟨"d"⟩) newcomer).1 =
      .ok (.customer ⟨⟨"k"⟩, [⟨"d"⟩], []⟩) := by rfl
  refine ⟨newcomer_readable, newcomer_stranger, rfl, assigned, ?_⟩
  rintro ⟨refusal, refused⟩
  rw [refused] at assigned
  cases assigned

end LayerGateway.Gateway
