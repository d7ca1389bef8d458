import LayerGateway.Proofs.Gateway.Ownership
import LayerGateway.Proofs.Gateway.Permission
import LayerGateway.Proofs.Gateway.Pipeline

/-!
# Deletions

A deletion has two steps that may fail: the datasource is taken from its owners, and the layer
is deleted.  Both are tried, whatever becomes of the other.

* `Deletes` lists how a deletion that is allowed ends, and `deletes_of_authorized` says that it
  ends in one of these ways.
* `Registry.grants` counts the records that list a datasource.
* `deleteDatasource_deletion` says what a deletion does to the store, to the records, to the
  journal and to the viewers, and which answer it gives when.
* `expectedFailure_becomes` says what a deletion has done to the records when it fails in a way
  that is to be expected.
-/

namespace LayerGateway

/-! ## Grants -/

namespace Registry

variable {registry : Registry} {datasource : DatasourceId}

/-- How many records list a datasource. -/
def grants (registry : Registry) (datasource : DatasourceId) : Nat :=
  registry.rows.rows.countP fun row =>
    match Customer.ofBytes row.2 with
    | .ok customer => customer.has datasource
    | .error _ => false

theorem countP_records (datasource : DatasourceId) {rows : List (Bytes × Bytes)}
    {customers : List Customer}
    (read : rows.mapM (fun row => (Customer.ofBytes row.2).mapError RegistryError.unreadable) =
      .ok customers) :
    (∀ row ∈ rows, ∃ customer, Customer.ofBytes row.2 = .ok customer) ∧
      customers.countP (·.has datasource) = rows.countP fun row =>
        match Customer.ofBytes row.2 with
        | .ok customer => customer.has datasource
        | .error _ => false := by
  induction rows generalizing customers with
  | nil =>
    cases read
    exact ⟨nofun, rfl⟩
  | cons row rows ih =>
    rw [List.mapM_cons] at read
    obtain ⟨customer, here, read⟩ := ok_of_bind read
    obtain ⟨others, further, read⟩ := ok_of_bind read
    cases read
    have here := mapError_eq_ok.1 here
    obtain ⟨readable, count⟩ := ih further
    refine ⟨List.forall_mem_cons.2 ⟨⟨customer, here⟩, readable⟩, ?_⟩
    rw [List.countP_cons, List.countP_cons, count, here]

/-- Who can be listed has been read, and every record that lists the datasource counts. -/
theorem grants_of_ownersOf {owners : List AccessKey}
    (listed : registry.ownersOf datasource = .ok owners) :
    registry.Readable ∧ owners.length = registry.grants datasource := by
  obtain ⟨customers, read, given⟩ := ok_of_bind listed
  cases given
  obtain ⟨readable, count⟩ := countP_records datasource read
  refine ⟨readable, ?_⟩
  rw [List.length_map, ← List.countP_eq_length_filter, count, grants]

theorem WellKept.ownersOf_eq_nil (wellKept : registry.WellKept)
    (nobody : ∀ key, ¬ registry.Lists key datasource) : registry.ownersOf datasource = .ok [] := by
  obtain ⟨owners, listed, own⟩ := ownersOf_eq_ok wellKept datasource
  obtain rfl : owners = [] :=
    List.eq_nil_iff_forall_not_mem.2 fun key member => nobody key ((own key).1 member)
  exact listed

theorem WellKept.grants_eq_zero (wellKept : registry.WellKept)
    (nobody : ∀ key, ¬ registry.Lists key datasource) : registry.grants datasource = 0 :=
  (grants_of_ownersOf (wellKept.ownersOf_eq_nil nobody)).2.symm

theorem revokeAll_of_ownersOf {owners : List AccessKey}
    (listed : registry.ownersOf datasource = .ok owners) :
    Gateway.revokeAll datasource registry = Gateway.revokeFrom datasource owners registry := by
  rw [Gateway.revokeAll, listed]

/-- Where somebody's record cannot be read, nobody loses anything. -/
theorem revokeAll_of_not_readable (datasource : DatasourceId) (unreadable : ¬ registry.Readable) :
    ∃ error, Gateway.revokeAll datasource registry = ((0, some error), registry) := by
  unfold Gateway.revokeAll
  cases listed : registry.ownersOf datasource with
  | ok owners => exact absurd (grants_of_ownersOf listed).1 unreadable
  | error error => exact ⟨error, rfl⟩

/-- Everybody who lists the datasource loses it and is counted. -/
theorem revokeAll_counts (datasource : DatasourceId) (wellKept : registry.WellKept) :
    (Gateway.revokeAll datasource registry).1 = (registry.grants datasource, none) := by
  obtain ⟨owners, listed, own⟩ := ownersOf_eq_ok wellKept datasource
  have known : ∀ owner ∈ owners, ∃ customer, registry.load owner = .ok (some customer) := by
    intro owner member
    obtain ⟨customer, loaded, -⟩ := (own owner).1 member
    exact ⟨customer, loaded⟩
  obtain ⟨later, ran, -⟩ := Gateway.revokeFrom_becomes datasource wellKept known
  rw [revokeAll_of_ownersOf listed, ran, (grants_of_ownersOf listed).2]

theorem not_lists_revokeAll (datasource : DatasourceId) (wellKept : registry.WellKept)
    (key : AccessKey) :
    ¬ (Gateway.revokeAll datasource registry).2.Lists key datasource :=
  fun lists => ((lists_revokeAll wellKept).1 lists).2 rfl

/-- The table stays as it is exactly when there is nobody who lists the datasource. -/
theorem revokeAll_eq_self_iff (wellKept : registry.WellKept) :
    (Gateway.revokeAll datasource registry).2 = registry ↔
      ∀ key, ¬ registry.Lists key datasource := by
  constructor
  · intro same key lists
    exact not_lists_revokeAll datasource wellKept key (same.symm ▸ lists)
  · intro nobody
    rw [revokeAll_of_ownersOf (wellKept.ownersOf_eq_nil nobody)]
    rfl

end Registry

/-! ## Deleting the layer -/

namespace Store

variable (store : Store) (id : DatasourceId) (now : Int) (names : Names)

theorem calls_deleteLayer : (store.run (.deleteLayer id) now names).2.1.calls = store.calls + 1 := by
  change (store.attempt (.deleteLayer id) now names).2.1.calls = _
  unfold attempt
  dsimp only
  split <;> rfl

/-- A store that does not fail deletes what there is. -/
theorem answer_deleteLayer : (store.run (.deleteLayer id) now names).1 =
    match store.fault? .deleteLayer with
    | some message => .error (.storage (.device message))
    | none =>
        if store.layers.backend.contains id then .ok () else .error (.layerNotFound id) := by
  change (store.attempt (.deleteLayer id) now names).1 = _
  unfold attempt
  dsimp only [LayerOperation.call]
  cases store.fault? .deleteLayer with
  | some message => rfl
  | none =>
    simp only [LayerStore.run, LayerStore.deleteLayer, LayerStore.demand]
    split <;> next demanded => exact demanded.symm

end Store

namespace Gateway

variable {gateway after : Gateway} {caller : Caller} {datasource : DatasourceId}
  {error : GatewayError}

/-! ## How a deletion ends -/

/-- What becomes of the revocation: how many lost the datasource, and the first failure. -/
def revocation (gateway : Gateway) (datasource : DatasourceId) : Nat × Option RegistryError :=
  (revokeAll datasource gateway.registry).1

/-- What the store answers when the layer is to be deleted. -/
def layerDeletion (gateway : Gateway) (datasource : DatasourceId) : Except StoreError Unit :=
  (gateway.store.run (.deleteLayer datasource) gateway.now gateway.names).1

def withdrawn (gateway : Gateway) (datasource : DatasourceId) : Gateway :=
  let (_, store, names) := gateway.store.run (.deleteLayer datasource) gateway.now gateway.names
  { gateway with registry := (revokeAll datasource gateway.registry).2, store, names }

theorem revocation_of_wellKept (wellKept : gateway.registry.WellKept) :
    (gateway.revocation datasource).2 = none :=
  congrArg Prod.snd (Registry.revokeAll_counts datasource wellKept)

theorem layerDeletion_eq : gateway.layerDeletion datasource =
    match gateway.store.fault? .deleteLayer with
    | some message => .error (.storage (.device message))
    | none =>
        if gateway.store.layers.backend.contains datasource then .ok ()
        else .error (.layerNotFound datasource) :=
  gateway.store.answer_deleteLayer datasource gateway.now gateway.names

theorem layerDeletion_eq_ok_iff : gateway.layerDeletion datasource = .ok () ↔
    gateway.store.fault? .deleteLayer = none ∧
      gateway.store.layers.backend.contains datasource = true := by
  rw [layerDeletion_eq]
  cases gateway.store.fault? .deleteLayer with
  | some message => simp
  | none => cases gateway.store.layers.backend.contains datasource <;> simp

/-- The store says that there is no layer when it does not fail and there is none. -/
theorem layerDeletion_missing_iff :
    (∃ cause, gateway.layerDeletion datasource = .error cause ∧ cause.isNotFound = true) ↔
      gateway.store.fault? .deleteLayer = none ∧
        gateway.store.layers.backend.contains datasource = false := by
  rw [layerDeletion_eq]
  cases gateway.store.fault? .deleteLayer with
  | some message => simp [StoreError.isNotFound]
  | none =>
    cases gateway.store.layers.backend.contains datasource <;> simp [StoreError.isNotFound]

/-- How a deletion that is allowed can end.  It is incomplete if one of the steps failed, unless
there was just no layer. -/
inductive Deletes (gateway : Gateway) (caller : Caller) (datasource : DatasourceId) :
    Except GatewayError Outcome × Gateway → Prop where
  | done (revoked : (gateway.revocation datasource).2 = none)
      (deleted : gateway.layerDeletion datasource = .ok ()) :
      gateway.Deletes caller datasource (.ok .done,
        { gateway.withdrawn datasource with
          journal := (gateway.journal.enqueue (layerEntry .deleteDatasource caller datasource [])).2
          hub := (gateway.hub.broadcast
            ⟨datasource, "delete_datasource", gateway.clock.next.now⟩).2
          clock := gateway.clock.next.next })
  | absent {cause : StoreError} (revoked : (gateway.revocation datasource).2 = none)
      (refused : gateway.layerDeletion datasource = .error cause)
      (missing : cause.isNotFound = true) :
      gateway.Deletes caller datasource (.error (.store cause), gateway.withdrawn datasource)
  | undeleted {cause : StoreError} (revoked : (gateway.revocation datasource).2 = none)
      (refused : gateway.layerDeletion datasource = .error cause)
      (broken : cause.isNotFound = false) :
      gateway.Deletes caller datasource
        (.error (.incompleteDeletion datasource (gateway.revocation datasource).1 none (some cause)),
          gateway.withdrawn datasource)
  | unrevoked {failure : RegistryError} (failed : (gateway.revocation datasource).2 = some failure)
      (cause : Option StoreError)
      (answered : gateway.layerDeletion datasource = cause.elim (.ok ()) .error) :
      gateway.Deletes caller datasource
        (.error (.incompleteDeletion datasource (gateway.revocation datasource).1 (some failure)
          cause), gateway.withdrawn datasource)

/-- Both steps of an allowed deletion are tried, one after the other, and the answer is made of what
became of them. -/
theorem deletes_of_authorized (allowed : gateway.Authorized caller datasource) :
    gateway.Deletes caller datasource
      (dispatch caller (.deleteDatasource datasource) gateway) := by
  change gateway.Deletes caller datasource (deleteDatasource caller datasource gateway)
  rcases ran : deleteDatasource caller datasource gateway with ⟨answer, after⟩
  rw [deleteDatasource, run_bind_of_ok (authorize_of_authorized allowed)] at ran
  -- Neither step can stop the deletion: what became of it is handed on as a value.
  obtain ⟨_, halted, -⟩ | ⟨⟨revoked, failure⟩, took, taken, deleting⟩ := bind_cases ran
  · cases halted
  obtain ⟨_, halted, -⟩ | ⟨deleted, tried, asked, ended⟩ := bind_cases deleting
  · cases halted
  have revocation : gateway.revocation datasource = (revoked, failure) :=
    Except.ok.inj (congrArg (·.1) taken)
  obtain rfl := congrArg Prod.snd taken
  have answered : gateway.layerDeletion datasource = deleted :=
    Except.ok.inj (congrArg (·.1) asked)
  obtain rfl : gateway.withdrawn datasource = tried := congrArg Prod.snd asked
  have failed : (gateway.revocation datasource).2 = failure := congrArg Prod.snd revocation
  obtain rfl : (gateway.revocation datasource).1 = revoked := congrArg Prod.fst revocation
  cases failure with
  | none =>
    cases deleted with
    | ok =>
      cases ended
      exact .done failed answered
    | error cause =>
      dsimp only at ended
      cases missing : cause.isNotFound with
      | true =>
        rw [missing] at ended
        cases ended
        exact .absent failed answered missing
      | false =>
        rw [missing] at ended
        cases ended
        exact .undeleted failed answered missing
  | some failure =>
    cases deleted with
    | ok =>
      cases ended
      exact .unrevoked failed none answered
    | error cause =>
      cases ended
      exact .unrevoked failed (some cause) answered

/-- A deletion is either refused, and does nothing, or ends in one of these ways. -/
theorem deletes_or_refused {answer : Except GatewayError Outcome}
    (ran : deleteDatasource caller datasource gateway = (answer, after)) :
    (∃ error, answer = .error error ∧ after = gateway) ∨
      gateway.Deletes caller datasource (answer, after) := by
  obtain ⟨error, refused, rfl⟩ | ⟨_, between, passed, -⟩ := bind_cases ran
  · exact .inl ⟨error, rfl, (reads_authorize caller datasource).seen refused⟩
  · exact .inr (ran ▸ deletes_of_authorized (authorized_of_authorize passed).2)

namespace Deletes

variable {answer : Except GatewayError Outcome}
  (deletes : gateway.Deletes caller datasource (answer, after))

include deletes

theorem parts : after.registry = (revokeAll datasource gateway.registry).2 ∧
    after.store = (gateway.store.run (.deleteLayer datasource) gateway.now gateway.names).2.1 := by
  cases deletes <;> exact ⟨rfl, rfl⟩

theorem becomes (wellKept : gateway.registry.WellKept) :
    gateway.registry.Becomes (fun _ record kept => kept = record.remove datasource)
      after.registry := by
  obtain ⟨revoked, later, revoking, -, becomes⟩ := revokeAll_becomes datasource wellKept
  rwa [deletes.parts.1, revoking]

theorem done_iff : answer = .ok .done ↔ (gateway.revocation datasource).2 = none ∧
    gateway.layerDeletion datasource = .ok () := by
  cases deletes with
  | done revoked deleted => simp [revoked, deleted]
  | absent revoked refused missing => simp [refused]
  | undeleted revoked refused broken => simp [refused]
  | unrevoked failed cause answered => simp [failed]

theorem absent_iff : (∃ error, answer = .error error ∧ error.kind = .notFound) ↔
    (gateway.revocation datasource).2 = none ∧
      ∃ cause, gateway.layerDeletion datasource = .error cause ∧ cause.isNotFound = true := by
  cases deletes with
  | done revoked deleted => simp [deleted]
  | absent revoked refused missing => simp [GatewayError.kind, revoked, refused, missing]
  | undeleted revoked refused broken => simp [GatewayError.kind, refused, broken]
  | unrevoked failed cause answered => simp [GatewayError.kind, failed]

theorem incomplete {error : GatewayError} (failed : answer = .error error)
    (present : error.kind ≠ .notFound) : error.kind = .storage ∧
      ∃ failure cause, error =
        .incompleteDeletion datasource (gateway.revocation datasource).1 failure cause := by
  cases deletes with
  | done revoked deleted => cases failed
  | absent revoked refused missing =>
    cases failed
    exact absurd (if_pos missing) present
  | undeleted revoked refused broken =>
    cases failed
    exact ⟨rfl, _, _, rfl⟩
  | unrevoked revoking cause answered =>
    cases failed
    exact ⟨rfl, _, _, rfl⟩

theorem of_unrevoked {failure : RegistryError}
    (failed : (gateway.revocation datasource).2 = some failure) :
    ∃ error, answer = .error error ∧ error.kind = .storage := by
  cases deletes with
  | unrevoked revoking cause answered => exact ⟨_, rfl, rfl⟩
  | done revoked _ | absent revoked _ _ | undeleted revoked _ _ =>
    cases revoked.symm.trans failed

theorem of_expected {error : GatewayError} (failed : answer = .error error)
    (expected : error.kind.isExpected = true) : error = .store (.layerNotFound datasource) := by
  cases deletes with
  | done revoked deleted => cases failed
  | @absent cause revoked refused missing =>
    cases failed
    have unfailing := (layerDeletion_missing_iff.1 ⟨cause, refused, missing⟩).1
    rw [layerDeletion_eq, unfailing] at refused
    dsimp only at refused
    split at refused <;> cases refused
    rfl
  | undeleted revoked refused broken | unrevoked revoking cause answered =>
    cases failed
    cases expected

end Deletes

/-! ## Deletions that are allowed -/

/-- What a deletion that is allowed does and answers.  The store is asked once, whatever became of
the records, and the records lose the datasource, whatever becomes of the layer.  The number of
those who lost it can be relied on if every record is under its own key, or if one cannot be
read. -/
structure Deletion (gateway : Gateway) (caller : Caller) (datasource : DatasourceId)
    (answer : Except GatewayError Outcome) (after : Gateway) : Prop where
  store : after.store =
    (gateway.store.run (.deleteLayer datasource) gateway.now gateway.names).2.1
  calls : after.store.calls = gateway.store.calls + 1
  wellKept : gateway.registry.WellKept → (gateway.revocation datasource).2 = none ∧
    gateway.registry.Becomes (fun _ record kept => kept = record.remove datasource)
      after.registry ∧
    ∀ key, ¬ after.registry.Lists key datasource
  unreadable : ¬ gateway.registry.Readable → after.registry = gateway.registry ∧
    ∃ error, answer = .error error ∧ error.kind = .storage
  done_iff : answer = .ok .done ↔ (gateway.revocation datasource).2 = none ∧
    gateway.store.fault? .deleteLayer = none ∧
    gateway.store.layers.backend.contains datasource = true
  absent_iff : (∃ error, answer = .error error ∧ error.kind = .notFound) ↔
    (gateway.revocation datasource).2 = none ∧ gateway.store.fault? .deleteLayer = none ∧
    gateway.store.layers.backend.contains datasource = false
  incomplete : ∀ error, answer = .error error → error.kind ≠ .notFound →
    error.kind = .storage ∧ ∃ revoked failure cause,
      error = .incompleteDeletion datasource revoked failure cause ∧
      (gateway.registry.WellKept ∨ ¬ gateway.registry.Readable →
        after.registry.grants datasource + revoked = gateway.registry.grants datasource)
  announced : match answer with
    | .ok outcome => outcome = .done ∧
        after.journal =
          (gateway.journal.enqueue (layerEntry .deleteDatasource caller datasource [])).2 ∧
        after.hub = (gateway.hub.broadcast
          ⟨datasource, "delete_datasource", gateway.clock.next.now⟩).2
    | .error _ => after.journal = gateway.journal ∧ after.hub = gateway.hub

/-- How many lost the datasource, when that can be told from the records. -/
theorem grants_withdrawn
    (tellable : gateway.registry.WellKept ∨ ¬ gateway.registry.Readable) :
    (gateway.withdrawn datasource).registry.grants datasource + (gateway.revocation datasource).1 =
      gateway.registry.grants datasource := by
  change (revokeAll datasource gateway.registry).2.grants datasource +
    (revokeAll datasource gateway.registry).1.1 = _
  rcases tellable with wellKept | unreadable
  · -- Everybody who is counted has lost it, so there is nobody left to count.
    obtain ⟨revoked, later, ran, laterKept, -⟩ := revokeAll_becomes datasource wellKept
    have nobody := Registry.not_lists_revokeAll datasource wellKept
    rw [Registry.revokeAll_counts datasource wellKept]
    rw [ran] at nobody ⊢
    rw [laterKept.grants_eq_zero nobody, Nat.zero_add]
  · -- Nobody was asked to give it back.
    obtain ⟨error, ran⟩ := Registry.revokeAll_of_not_readable datasource unreadable
    rw [ran, Nat.add_zero]

/-- A deletion that is allowed takes the datasource from everybody and deletes the layer, each step
once and also if the other one fails.  It is done if both steps are, the layer is reported missing
if nothing else went wrong, and any other failure names the steps that failed and says how many lost
the datasource.  That number is right unless a record is under the key of somebody else. -/
theorem deleteDatasource_deletion (allowed : gateway.Authorized caller datasource) :
    gateway.Deletion caller datasource
      (dispatch caller (.deleteDatasource datasource) gateway).1
      (dispatch caller (.deleteDatasource datasource) gateway).2 := by
  have deletes := deletes_of_authorized allowed
  generalize dispatch caller (.deleteDatasource datasource) gateway = ended at deletes ⊢
  obtain ⟨answer, after⟩ := ended
  have ⟨registry, store⟩ := deletes.parts
  constructor
  case store => exact store
  case calls =>
    rw [store]
    exact gateway.store.calls_deleteLayer datasource gateway.now gateway.names
  case wellKept =>
    intro wellKept
    -- Where every row is under its own key, nobody is left who owns the datasource.
    have nobody := Registry.not_lists_revokeAll datasource wellKept
    rw [← registry] at nobody
    exact ⟨revocation_of_wellKept wellKept, deletes.becomes wellKept, nobody⟩
  case unreadable =>
    intro unreadable
    -- Owners cannot be listed where a row cannot be read, so the first step does nothing and fails.
    obtain ⟨failure, ran⟩ := Registry.revokeAll_of_not_readable datasource unreadable
    refine ⟨by rw [registry, ran], ?_⟩
    have failed : (gateway.revocation datasource).2 = some failure := by rw [revocation, ran]
    exact deletes.of_unrevoked failed
  case done_iff => rw [deletes.done_iff, layerDeletion_eq_ok_iff]
  case absent_iff => rw [deletes.absent_iff, layerDeletion_missing_iff]
  case incomplete =>
    intro error failed present
    obtain ⟨kind, failure, cause, same⟩ := deletes.incomplete failed present
    refine ⟨kind, _, failure, cause, same, fun tellable => ?_⟩
    rw [registry]
    exact grants_withdrawn tellable
  case announced =>
    cases deletes with
    | done revoked deleted => exact ⟨rfl, rfl, rfl⟩
    -- Only a deletion that is done is told.
    | absent _ _ _ | undeleted _ _ _ | unrevoked _ _ _ => exact ⟨rfl, rfl⟩

/-- Two customers share a datasource of which there is a layer, and the disk burns. -/
def burning : Gateway :=
  let shared := (dispatch .trusted (.insertApikey ⟨⟨"l"⟩, [⟨"d"⟩], []⟩)
    (dispatch .trusted (.insertApikey ⟨⟨"k"⟩, [⟨"e"⟩, ⟨"d"⟩, ⟨"f"⟩], []⟩)
      (dispatch .trusted (.createDatasource (some ⟨"d"⟩) none) (fresh .inMemory)).2).2).2
  { shared with store := { shared.store with faults := [(.deleteLayer, "disk on fire")] } }

set_option maxRecDepth 4096 in
/-- Both lose the datasource and nothing else, and are counted. -/
theorem deleteDatasource_deletion_burning : burning.Authorized (.keyed ⟨"k"⟩) ⟨"d"⟩ ∧
    burning.Deletion (.keyed ⟨"k"⟩) ⟨"d"⟩
      (.error (.incompleteDeletion ⟨"d"⟩ 2 none (some (.storage (.device "disk on fire")))))
      (dispatch (.keyed ⟨"k"⟩) (.deleteDatasource ⟨"d"⟩) burning).2 ∧
    (dispatch (.keyed ⟨"k"⟩) (.deleteDatasource ⟨"d"⟩) burning).2.registry.load ⟨"k"⟩ =
      .ok (some ⟨⟨"k"⟩, [⟨"e"⟩, ⟨"f"⟩], []⟩) ∧
    (dispatch (.keyed ⟨"k"⟩) (.deleteDatasource ⟨"d"⟩) burning).2.store.layers.backend.contains
      ⟨"d"⟩ = true := by
  have allowed : burning.Authorized (.keyed ⟨"k"⟩) ⟨"d"⟩ :=
    ⟨⟨⟨"k"⟩, [⟨"e"⟩, ⟨"d"⟩, ⟨"f"⟩], []⟩, rfl, rfl⟩
  have answered : (dispatch (.keyed ⟨"k"⟩) (.deleteDatasource ⟨"d"⟩) burning).1 =
      .error (.incompleteDeletion ⟨"d"⟩ 2 none (some (.storage (.device "disk on fire")))) := rfl
  exact ⟨allowed, answered ▸ deleteDatasource_deletion allowed, rfl, rfl⟩

/-- A registry with one record under two keys, neither of them a new one. -/
def misplaced : Registry :=
  ⟨(OrderedMap.empty.insert (Text.encode "X") (Customer.bytes ⟨⟨"Y"⟩, [⟨"d"⟩], []⟩)).insert
    (Text.encode "Y") (Customer.bytes ⟨⟨"Y"⟩, [⟨"d"⟩], []⟩)⟩

/-- The answer says that two customers lost the datasource.  Only one record was written, and the
other one still lists it. -/
theorem misplaced_miscounted :
    (dispatch .trusted (.deleteDatasource ⟨"d"⟩) { burning with registry := misplaced }).1 =
        .error (.incompleteDeletion ⟨"d"⟩ 2 none (some (.storage (.device "disk on fire")))) ∧
      misplaced.Readable ∧ misplaced.grants ⟨"d"⟩ = 2 ∧
      (dispatch .trusted (.deleteDatasource ⟨"d"⟩)
        { burning with registry := misplaced }).2.registry.grants ⟨"d"⟩ = 1 := by
  refine ⟨rfl, fun row member => ?_, rfl, rfl⟩
  rcases Rows.mem_insert member with rfl | member
  · exact ⟨_, Customer.ofBytes_bytes _⟩
  rcases Rows.mem_insert member with rfl | member
  · exact ⟨_, Customer.ofBytes_bytes _⟩
  cases member

/-! ## Failures that are to be expected -/

theorem deleteDatasource_refuses (readable : gateway.registry.Readable)
    (foreign : ¬ gateway.Authorized caller datasource) :
    gateway.Refuses (dispatch caller (.deleteDatasource datasource)) := by
  change gateway.Refuses (deleteDatasource caller datasource)
  cases caller with
  | trusted => exact absurd trivial foreign
  | keyed key => exact (authorize_refuses readable foreign).bind

/-- A deletion that fails in a way that is to be expected was refused, and did nothing, or found no
layer, and has taken the datasource from everybody all the same. -/
theorem expectedFailure_becomes (reachable : gateway.Reachable)
    (ran : dispatch caller (.deleteDatasource datasource) gateway = (.error error, after))
    (expected : error.kind.isExpected = true) :
    (¬ gateway.Authorized caller datasource ∧ error.kind = .unauthorized ∧ after = gateway) ∨
      (gateway.Authorized caller datasource ∧ error = .store (.layerNotFound datasource) ∧
        gateway.registry.Becomes (fun _ record kept => kept = record.remove datasource)
          after.registry ∧
        (after.registry = gateway.registry ↔
          ∀ key, ¬ gateway.registry.Lists key datasource)) := by
  have wellKept := reachable.wellKept
  by_cases allowed : gateway.Authorized caller datasource
  · have deletes := deletes_of_authorized allowed
    rw [ran] at deletes
    refine .inr ⟨allowed, deletes.of_expected rfl expected, deletes.becomes wellKept, ?_⟩
    rw [deletes.parts.1]
    exact Registry.revokeAll_eq_self_iff wellKept
  · obtain ⟨refusal, refused⟩ := deleteDatasource_refuses wellKept.readable allowed
    cases refused.symm.trans ran
    exact .inl ⟨allowed, rfl, rfl⟩

/-- A gateway with a customer who owns a datasource of which there is no layer. -/
def dangling : Gateway :=
  (dispatch .trusted (.insertApikey ⟨⟨"k"⟩, [⟨"d"⟩, ⟨"e"⟩], []⟩) (fresh .inMemory)).2

theorem dangling_reachable : dangling.Reachable :=
  .dispatch _ _ (.start rfl (.inl rfl))

theorem expectedFailure_becomes_dangling :
    ¬ (∀ key, ¬ dangling.registry.Lists key ⟨"d"⟩) ∧
      (dispatch (.keyed ⟨"k"⟩) (.deleteDatasource ⟨"d"⟩) dangling).2.registry ≠
        dangling.registry := by
  have lists : ¬ ∀ key, ¬ dangling.registry.Lists key ⟨"d"⟩ :=
    fun nobody => nobody ⟨"k"⟩ ⟨⟨⟨"k"⟩, [⟨"d"⟩, ⟨"e"⟩], []⟩, rfl, rfl⟩
  have ran : dispatch (.keyed ⟨"k"⟩) (.deleteDatasource ⟨"d"⟩) dangling =
      (.error (.store (.layerNotFound ⟨"d"⟩)), _) := rfl
  obtain ⟨-, kind, -⟩ | ⟨-, -, -, same_iff⟩ :=
    expectedFailure_becomes dangling_reachable ran rfl
  · cases kind
  · exact ⟨lists, fun same => lists (same_iff.1 same)⟩

/-- What is told to the customer as a layer that was not found has cost the customer a grant. -/
theorem dangling_lost : dangling.Reachable ∧
    (dispatch (.keyed ⟨"k"⟩) (.deleteDatasource ⟨"d"⟩) dangling).1 =
        .error (.store (.layerNotFound ⟨"d"⟩)) ∧
      (GatewayError.store (.layerNotFound ⟨"d"⟩)).kind = .notFound ∧
      dangling.registry.load ⟨"k"⟩ = .ok (some ⟨⟨"k"⟩, [⟨"d"⟩, ⟨"e"⟩], []⟩) ∧
      (dispatch (.keyed ⟨"k"⟩) (.deleteDatasource ⟨"d"⟩) dangling).2.registry.load ⟨"k"⟩ =
        .ok (some ⟨⟨"k"⟩, [⟨"e"⟩], []⟩) :=
  ⟨dangling_reachable, rfl, rfl, rfl, rfl⟩

end Gateway

end LayerGateway
