import LayerGateway.Proofs.Gateway.Query

/-!
# Ordinary commands

The commands that are not administrative give no keys and tell nobody who the others are.

* `Untouched view`: the parts of such a command all keep what `view` sees, which the command then
  keeps too.
* `AnswersOnly property action`: of every answer of the action `property` holds.
-/

namespace LayerGateway

/-- The outcomes that list all keys or all datasources. -/
inductive Outcome.Lists : Outcome → Prop where
  | accessKeys (keys : List AccessKey) : Lists (.accessKeys keys)
  | datasources (ids : List DatasourceId) : Lists (.datasources ids)

namespace Gateway

variable {α β : Type}

/-! ## What is kept -/

/-- Nothing that ordinary commands are made of changes what `view` sees. -/
structure Untouched {ω : Type} (view : Gateway → ω) : Prop where
  asked {α : Type} (operation : LayerOperation α) : Keeps view (askStore operation)
  named : Keeps view newDatasource
  registry (gateway : Gateway) (registry : Registry) :
    view { gateway with registry } = view gateway
  journaled (method : String) (data : Json) : Keeps view (journalChange method data)
  announced (method : String) (datasource : DatasourceId) : Keeps view (announce method datasource)

section Untouched

variable {ω : Type} {view : Gateway → ω} {caller : Caller} {command : Command}

theorem Untouched.recorded (untouched : Untouched view) (method : String) (caller : Caller)
    (datasource : DatasourceId) (data : List (String × Json)) :
    Keeps view (record method caller datasource data) :=
  (untouched.journaled _ _).bind fun _ => untouched.announced _ _

theorem Untouched.made (untouched : Untouched view) (method : String) (caller : Caller)
    (datasource : DatasourceId) (data : List (String × Json)) :
    Keeps view (do
      grant caller datasource
      record method caller datasource data
      return Outcome.datasource datasource) := by
  apply (keeps_grant caller datasource untouched.registry).bind
  intro _
  exact (untouched.recorded _ _ _ _).bind fun _ => keeps_pure _

theorem Untouched.assignDatasource (untouched : Untouched view) (apikey : Option AccessKey)
    (datasource : DatasourceId) : Keeps view (assignDatasource caller apikey datasource) := by
  have assigned (target : AccessKey) :
      Keeps view (Gateway.assignDatasource .trusted (some target) datasource) := by
    apply (keeps_pure target).bind
    intro _
    apply Keeps.bind
    · exact (untouched.asked _).bind fun _ => (keeps_pure _).ite (keeps_throw _)
    · intro _
      apply (keeps_changeRegistry _ untouched.registry).bind
      exact fun _ => (untouched.journaled _ _).bind fun _ => keeps_pure _
  -- Whoever calls, what follows is what a trusted caller does who names the key.
  cases caller with
  | keyed key =>
    apply (keeps_of_reads (reads_knownCaller _)).bind
    exact fun _ => assigned key
  | trusted =>
    cases apikey with
    | none => exact keeps_throw _
    | some key => exact assigned key

theorem Untouched.createDatasource (untouched : Untouched view) (datasource : Option DatasourceId)
    (layer : Option FeatureCollection) :
    Keeps view (createDatasource caller datasource layer) := by
  apply (keeps_of_reads (reads_knownCaller _)).bind
  intro customer
  cases datasource with
  | some id =>
    apply (keeps_of_reads (reads_demandOwner _ _)).bind
    exact fun _ => (untouched.asked _).bind fun _ => untouched.made _ _ _ _
  | none =>
    cases layer with
    | some layer =>
      apply untouched.named.bind
      exact fun id => (untouched.asked _).bind fun _ => untouched.made _ _ _ _
    | none => exact (untouched.asked _).bind fun id => untouched.made _ _ _ _

theorem Untouched.importFile (untouched : Untouched view) (path : String) :
    Keeps view (importFile caller path) := by
  apply (keeps_of_reads (reads_knownCaller _)).bind
  intro _
  -- Reading the file leaves the whole gateway as it is.
  apply Keeps.bind fun _ => rfl
  intro collection
  apply untouched.named.bind
  exact fun id => (untouched.asked _).bind fun _ => untouched.made _ _ _ _

theorem Untouched.deleteDatasource (untouched : Untouched view) (datasource : DatasourceId) :
    Keeps view (deleteDatasource caller datasource) := by
  apply (keeps_of_reads (reads_authorize _ _)).bind
  intro _
  apply Keeps.bind fun gateway => untouched.registry gateway _
  intro (revoked, failure)
  -- The layer is deleted as if the store were asked, but a failure does not end the command.
  have deleting (gateway : Gateway) := untouched.asked (.deleteLayer datasource) gateway
  refine Keeps.bind deleting fun deleted => ?_
  exact keeps_deletionEnd caller datasource revoked failure deleted (untouched.recorded _ _ _ _)

theorem Untouched.changed (untouched : Untouched view) (operation : LayerOperation α)
    (method : String) (datasource : DatasourceId) (data : α → List (String × Json))
    (answer : α → Outcome) :
    Keeps view (do
      authorize caller datasource
      let value ← askStore operation
      record method caller datasource (data value)
      return answer value) := by
  apply (keeps_of_reads (reads_authorize _ _)).bind
  intro _
  apply (untouched.asked _).bind
  exact fun _ => (untouched.recorded _ _ _ _).bind fun _ => keeps_pure _

/-- What no part of ordinary commands changes, none of these commands does. -/
theorem Untouched.dispatch (untouched : Untouched view)
    (ordinary : command.isAdministrative = false) : Keeps view (dispatch caller command) := by
  cases kind : command.isMutation with
  | false =>
    have looks : Looks view := fun _ => untouched.asked _
    exact looks.query caller command kind
  | true =>
    cases command with
    | assignDatasource apikey datasource => exact untouched.assignDatasource apikey datasource
    | createDatasource datasource layer => exact untouched.createDatasource datasource layer
    | deleteDatasource datasource => exact untouched.deleteDatasource datasource
    | importFile path => exact untouched.importFile path
    | insertFeature datasource feature | editFeature datasource geoId feature =>
      exact untouched.changed _ _ datasource _ _
    | createApikey | insertApikey _ => cases ordinary
    | ping | exportApikeys | exportApikey _ | exportDatasources | exportDatasource _
    | exportFeature _ _ | exportSnapshots _ | exportSnapshot _ _ => cases kind

theorem Untouched.ofCustomer (untouched : Untouched view) (key : AccessKey) (command : Command) :
    Keeps view (Gateway.dispatch (.keyed key) command) := by
  cases administrative : command.isAdministrative with
  | false => exact untouched.dispatch administrative
  | true =>
    unfold Gateway.dispatch
    rw [administrative]
    exact keeps_throw _

end Untouched

theorem nextKey_askStore (operation : LayerOperation α) :
    Keeps (·.names.nextKey) (askStore operation) := by
  have ran {β : Type} (operation : LayerOperation β) (store : LayerStore) (now : Int)
      (names : Names) : (store.run operation now names).2.2.nextKey = names.nextKey := by
    cases operation with
    | insertFeature id feature =>
      simp only [LayerStore.run]
      split <;> rfl
    | _ => rfl
  have attempted {β : Type} (operation : LayerOperation β) (store : Store) (now : Int)
      (names : Names) : (store.attempt operation now names).2.2.nextKey = names.nextKey := by
    unfold Store.attempt
    dsimp only
    split
    · rfl
    · exact ran operation store.layers now names
  intro gateway
  change (gateway.store.run operation gateway.now gateway.names).2.2.nextKey = _
  cases operation with
  | hasLayer id =>
    -- A store may look for a layer by reading it.
    simp only [Store.run]
    split
    · have read := attempted (.getLayer id) gateway.store gateway.now gateway.names
      split <;> next answered => rwa [answered] at read
    · exact attempted _ gateway.store gateway.now gateway.names
  | _ => exact attempted _ gateway.store gateway.now gateway.names

theorem untouched_nextKey : Untouched (·.names.nextKey) where
  asked := nextKey_askStore
  named _ := rfl
  registry _ _ := rfl
  journaled _ _ _ := rfl
  announced _ _ _ := rfl

theorem untouched_opened : Untouched (·.hub.opened) where
  asked _ _ := rfl
  named _ := rfl
  registry _ _ := rfl
  journaled _ _ _ := rfl
  announced _ _ _ := rfl

theorem hub_openView (caller : Caller) (datasource : DatasourceId) (gateway : Gateway) :
    (openView caller datasource gateway).2.hub = gateway.hub ∨
      (openView caller datasource gateway).2.hub = (gateway.hub.openView datasource).2 := by
  have demands : Keeps (·.hub) (demandLayer datasource) :=
    keeps_demandLayer datasource fun _ _ _ => rfl
  change gateway.Leaves (·.hub)
    (fun hub => hub = gateway.hub ∨ hub = (gateway.hub.openView datasource).2) _
  apply Leaves.after (keeps_of_reads (reads_authorize caller datasource)) (.inl rfl)
  intro _ between passed
  obtain rfl := (reads_authorize caller datasource).seen passed
  apply Leaves.after demands (.inl rfl)
  intro _ found demanded
  have sameHub : found.hub = between.hub := demands.seen demanded
  exact .inr (congrArg (fun hub => (hub.openView datasource).2) sameHub)

/-! ## What is answered -/

/-- The action has no other answers than those of which the property holds. -/
def AnswersOnly (property : α → Prop) (action : Action α) : Prop :=
  ∀ gateway after value, action gateway = (.ok value, after) → property value

section AnswersOnly

variable {property : β → Prop}

theorem answersOnly_pure {value : β} (holds : property value) :
    AnswersOnly property (pure value) := by
  intro gateway after other ran
  cases ran
  exact holds

theorem answersOnly_throw (error : GatewayError) :
    AnswersOnly property (throw error : Action β) := by
  intro gateway after other ran
  cases ran

theorem AnswersOnly.behind {next : α → Action β}
    (answers : ∀ value, AnswersOnly property (next value)) (first : Action α) : AnswersOnly property (first >>= next) := by
  intro gateway after value ran
  obtain ⟨error, -, failed⟩ | ⟨drawn, between, -, goesOn⟩ := bind_cases ran
  · cases failed
  · exact answers drawn between after value goesOn

end AnswersOnly

section Commands

variable {caller : Caller} {command : Command}

/-- Actions that list neither all keys nor all datasources. -/
abbrev Discreet (action : Action Outcome) : Prop :=
  AnswersOnly (fun outcome => ¬ outcome.Lists) action

theorem discreet_exportApikey (requested : Option AccessKey) :
    Discreet (exportApikey caller requested) := by
  cases caller with
  | keyed own =>
    have reading : Discreet (exportApikey (.keyed own) none) := by
      apply AnswersOnly.behind
      intro record
      cases record with
      | none => exact answersOnly_throw _
      | some customer => exact answersOnly_pure nofun
    cases requested with
    | none => exact reading
    | some requested =>
      by_cases same : own = requested
      · simpa only [exportApikey, if_pos same] using reading
      · simp only [exportApikey, if_neg same]
        exact .behind (fun _ => reading) _
  | trusted =>
    cases requested with
    | none => exact answersOnly_throw _
    | some requested => exact .behind (fun _ => answersOnly_pure nofun) _

theorem discreet_assignDatasource (apikey : Option AccessKey) (datasource : DatasourceId) :
    Discreet (assignDatasource caller apikey datasource) := by
  have assigned (target : AccessKey) :
      Discreet (assignDatasource .trusted (some target) datasource) := by
    iterate 4
      apply AnswersOnly.behind
      intro _
    exact answersOnly_pure nofun
  cases caller with
  | keyed key => exact .behind (fun _ => assigned key) _
  | trusted =>
    cases apikey with
    | none => exact answersOnly_throw _
    | some key => exact assigned key

theorem discreet_createDatasource (datasource : Option DatasourceId)
    (layer : Option FeatureCollection) :
    Discreet (createDatasource caller datasource layer) := by
  have made (id : DatasourceId) : Discreet (do
      grant caller id
      record "create_datasource" caller id []
      return Outcome.datasource id) := by
    iterate 2
      apply AnswersOnly.behind
      intro _
    exact answersOnly_pure nofun
  apply AnswersOnly.behind
  intro customer
  cases datasource with
  | some id => exact .behind (fun _ => .behind (fun _ => made id) _) _
  | none =>
    cases layer with
    | some layer => exact .behind (fun id => .behind (fun _ => made id) _) _
    | none => exact .behind made _

theorem discreet_deleteDatasource (datasource : DatasourceId) :
    Discreet (deleteDatasource caller datasource) := by
  iterate 3
    apply AnswersOnly.behind
    intro _
  split
  · exact .behind (fun _ => answersOnly_pure nofun) _
  · split <;> exact answersOnly_throw _
  · exact answersOnly_throw _
  · exact answersOnly_throw _

theorem discreet_exportFeature (datasource : DatasourceId) (geoId : String) :
    Discreet (exportFeature caller datasource geoId) := by
  iterate 2
    apply AnswersOnly.behind
    intro _
  split
  · exact answersOnly_pure nofun
  · exact answersOnly_throw _

/-- Only administrative commands list all keys or all datasources. -/
theorem discreet_dispatch (ordinary : command.isAdministrative = false) :
    Discreet (dispatch caller command) := by
  unfold dispatch
  rw [ordinary]
  cases command with
  | createApikey | insertApikey _ | exportApikeys | exportDatasources => cases ordinary
  | ping => exact .behind (fun _ => answersOnly_pure nofun) _
  | exportApikey requested => exact discreet_exportApikey requested
  | assignDatasource apikey datasource => exact discreet_assignDatasource apikey datasource
  | createDatasource datasource layer => exact discreet_createDatasource datasource layer
  | deleteDatasource datasource => exact discreet_deleteDatasource datasource
  | exportFeature datasource geoId => exact discreet_exportFeature datasource geoId
  | insertFeature _ _ | editFeature _ _ _ =>
    iterate 3
      apply AnswersOnly.behind
      intro _
    exact answersOnly_pure nofun
  | exportDatasource _ | exportSnapshots _ | exportSnapshot _ _ =>
    exact .behind (fun _ => .behind (fun _ => answersOnly_pure nofun) _) _
  | importFile path =>
    iterate 6
      apply AnswersOnly.behind
      intro _
    exact answersOnly_pure nofun

end Commands

end Gateway

end LayerGateway
