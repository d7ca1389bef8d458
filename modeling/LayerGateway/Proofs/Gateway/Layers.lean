import LayerGateway.Proofs.Gateway.Pipeline
import LayerGateway.Store.Basic

/-!
# What commands do to the layers

Whatever becomes of a command, the layers are as they were or one operation was carried out
on them, about the one layer that the command changes.  A customer gets that far only with a
layer that is its own or has just been named for it.
-/

namespace LayerGateway

/-! ## Asking the store -/

namespace Store

variable {α : Type} (store : Store) (now : Int) (names : Names)

theorem attempt_layers (operation : LayerOperation α) :
    (store.attempt operation now names).2.1.layers = store.layers ∨
      (store.attempt operation now names).2.1.layers =
        (store.layers.run operation now names).2.1 := by
  unfold attempt
  dsimp only
  split
  · exact .inl rfl
  · exact .inr rfl

/-- A store that is asked leaves its layers alone or has done with them what it was asked. -/
theorem run_layers (operation : LayerOperation α) :
    (store.run operation now names).2.1.layers = store.layers ∨
      (store.run operation now names).2.1.layers =
        (store.layers.run operation now names).2.1 := by
  cases operation with
  | hasLayer id =>
    simp only [run]
    split
    · -- Looking by reading leaves the layers alone like looking does.
      have looked := or_self_iff.1 (store.attempt_layers now names (.getLayer id))
      split <;> next asked =>
        rw [asked] at looked
        exact .inl looked
    · exact store.attempt_layers now names (.hasLayer id)
  | _ => exact store.attempt_layers now names _

theorem run_layers_of_looking {operation : LayerOperation α}
    (looks : store.layers.subject? names operation = none) :
    (store.run operation now names).2.1.layers = store.layers := by
  rcases store.run_layers now names operation with same | ran
  · exact same
  · have untouched := store.layers.run_touched operation now names
    rw [looks] at untouched
    rw [ran, untouched]

end Store

namespace Gateway

variable {α β : Type}

/-- The name that a command gives to a layer of its own accord. -/
def generated? (gateway : Gateway) : Command → Option DatasourceId
  | .createDatasource none (some _) | .importFile _ => some gateway.names.datasource.1
  | .createDatasource none none =>
      some (gateway.names.freeDatasource gateway.store.layers.backend.taken).1
  | _ => none

/-- What a command may make of the layers.  Between asking for a name and using it the clock
is not looked at, but the names go on. -/
inductive LayersAfter (gateway : Gateway) (caller : Caller) (command : Command) :
    LayerStore → Prop where
  | same : gateway.LayersAfter caller command gateway.store.layers
  | ran {α : Type} {operation : LayerOperation α} {names : Names} {id : DatasourceId}
      (about : gateway.store.layers.subject? names operation = some id)
      (changed : gateway.changed? command = some id)
      (allowed : gateway.Authorized caller id ∨ gateway.generated? command = some id) :
      gateway.LayersAfter caller command
        (gateway.store.layers.run operation gateway.now names).2.1

theorem LayersAfter.allows_iff {gateway : Gateway} {caller : Caller} {command : Command}
    {later : LayerStore} (after : gateway.LayersAfter caller command later) (id : DatasourceId) :
    later.backend.Allows id ↔ gateway.store.layers.backend.Allows id := by
  cases after with
  | same => exact Iff.rfl
  | ran about changed allowed => exact LayerStore.run_allows_iff _ _ _ _ id

/-! ## Parts -/

/-- Actions that leave the layers alone. -/
abbrev KeepsLayers (action : Action α) : Prop :=
  Keeps (·.store.layers) action

section Parts

variable {gateway between : Gateway} {caller : Caller} {command : Command}

theorem keepsLayers_askStore {operation : LayerOperation α}
    (looks : ∀ gateway : Gateway, gateway.store.layers.subject? gateway.names operation = none) :
    KeepsLayers (askStore operation) :=
  fun gateway => gateway.store.run_layers_of_looking gateway.now gateway.names (looks gateway)

theorem keepsLayers_grant (datasource : DatasourceId) : KeepsLayers (grant caller datasource) :=
  keeps_grant caller datasource fun _ _ => rfl

theorem keepsLayers_demandLayer (datasource : DatasourceId) :
    KeepsLayers (demandLayer datasource) :=
  (keepsLayers_askStore fun _ => rfl).bind fun _ => (keeps_pure _).ite (keeps_throw _)

theorem layersAfter_run {operation : LayerOperation α} {id : DatasourceId}
    (sameLayers : between.store.layers = gateway.store.layers) (sameNow : between.now = gateway.now)
    (about : gateway.store.layers.subject? between.names operation = some id)
    (changed : gateway.changed? command = some id)
    (allowed : gateway.Authorized caller id ∨ gateway.generated? command = some id) :
    gateway.LayersAfter caller command
      (between.store.run operation between.now between.names).2.1.layers := by
  rcases between.store.run_layers between.now between.names operation with same | ran
  · rw [same, sameLayers]
    exact .same
  · rw [ran, sameLayers, sameNow]
    exact .ran about changed allowed

theorem leaves_askStore {operation : LayerOperation α} {id : DatasourceId}
    (sameLayers : between.store.layers = gateway.store.layers) (sameNow : between.now = gateway.now)
    (about : gateway.store.layers.subject? between.names operation = some id)
    (changed : gateway.changed? command = some id)
    (allowed : gateway.Authorized caller id ∨ gateway.generated? command = some id) :
    between.Leaves (·.store.layers) (gateway.LayersAfter caller command) (askStore operation) :=
  layersAfter_run sameLayers sameNow about changed allowed

end Parts

/-! ## Commands that change a layer -/

section Commands

variable (gateway : Gateway) (caller : Caller)

theorem keepsLayers_newLayer (method : String) (datasource : DatasourceId)
    (data : List (String × Json)) :
    KeepsLayers (do
      grant caller datasource
      record method caller datasource data
      return Outcome.datasource datasource) :=
  (keepsLayers_grant datasource).bind fun _ _ => rfl

theorem createDatasource_layers (datasource : Option DatasourceId)
    (layer : Option FeatureCollection) :
    gateway.Leaves (·.store.layers)
      (gateway.LayersAfter caller (.createDatasource datasource layer))
      (createDatasource caller datasource layer) := by
  refine .after (keeps_of_reads (reads_knownCaller caller)) .same fun customer between known => ?_
  obtain rfl := (reads_knownCaller caller).seen known
  cases datasource with
  | some id =>
    refine .after (keeps_of_reads (reads_demandOwner _ _)) .same fun _ passedBy passed => ?_
    have owner := authorized_of_demandOwner known passed
    obtain rfl := (reads_demandOwner _ _).seen passed
    exact .before (leaves_askStore rfl rfl rfl rfl (.inl owner)) fun _ =>
      keepsLayers_newLayer caller _ id []
  | none =>
    cases layer with
    | some layer =>
      refine .after (fun _ => rfl) .same fun id named drawn => ?_
      cases drawn
      exact .before (leaves_askStore rfl rfl rfl rfl (.inr rfl)) fun _ =>
        keepsLayers_newLayer caller _ _ []
    | none =>
      exact .before (leaves_askStore rfl rfl rfl rfl (.inr rfl)) fun id =>
        keepsLayers_newLayer caller _ id []

theorem importFile_layers (path : String) :
    gateway.Leaves (·.store.layers) (gateway.LayersAfter caller (.importFile path))
      (importFile caller path) := by
  refine .after (keeps_of_reads (reads_knownCaller caller)) .same fun customer between known => ?_
  obtain rfl := (reads_knownCaller caller).seen known
  refine .after (fun _ => rfl) .same fun collection opened loaded => ?_
  obtain rfl : opened = between := (congrArg Prod.snd loaded).symm
  refine .after (fun _ => rfl) .same fun id named drawn => ?_
  cases drawn
  exact .before (leaves_askStore rfl rfl rfl rfl (.inr rfl)) fun _ =>
    keepsLayers_newLayer caller _ _ _

theorem deleteDatasource_layers (datasource : DatasourceId) :
    gateway.Leaves (·.store.layers) (gateway.LayersAfter caller (.deleteDatasource datasource))
      (deleteDatasource caller datasource) := by
  refine .after (keeps_of_reads (reads_authorize _ _)) .same fun _ between passed => ?_
  obtain ⟨rfl, owner⟩ := authorized_of_authorize passed
  -- Whatever became of the owners, the layer is deleted next.
  refine .after (fun _ => rfl) .same fun (revoked, failure) took taken => ?_
  obtain rfl := congrArg Prod.snd taken
  exact .before (layersAfter_run rfl rfl rfl rfl (.inl owner)) fun deleted =>
    keeps_deletionEnd caller datasource revoked failure deleted fun _ => rfl

theorem insertFeature_layers (datasource : DatasourceId) (feature : Feature) :
    gateway.Leaves (·.store.layers)
      (gateway.LayersAfter caller (.insertFeature datasource feature))
      (insertFeature caller datasource feature) := by
  refine .after (keeps_of_reads (reads_authorize _ _)) .same fun _ between passed => ?_
  obtain ⟨rfl, owner⟩ := authorized_of_authorize passed
  exact .before (leaves_askStore rfl rfl rfl rfl (.inl owner)) fun _ _ => rfl

theorem editFeature_layers (datasource : DatasourceId) (geoId : String) (feature : Feature) :
    gateway.Leaves (·.store.layers)
      (gateway.LayersAfter caller (.editFeature datasource geoId feature))
      (editFeature caller datasource geoId feature) := by
  refine .after (keeps_of_reads (reads_authorize _ _)) .same fun _ between passed => ?_
  obtain ⟨rfl, owner⟩ := authorized_of_authorize passed
  exact .before (leaves_askStore rfl rfl rfl rfl (.inl owner)) fun _ _ => rfl

/-! ## All commands -/

theorem keepsLayers_assignDatasource (apikey : Option AccessKey) (datasource : DatasourceId) :
    KeepsLayers (assignDatasource caller apikey datasource) := by
  have given (target : AccessKey) :
      KeepsLayers (assignDatasource .trusted (some target) datasource) := by
    refine (keeps_pure _).bind fun _ => ?_
    refine (keepsLayers_demandLayer _).bind fun _ => ?_
    exact (keeps_changeRegistry _ fun _ _ => rfl).bind fun _ _ => rfl
  cases caller with
  | keyed key =>
    exact (keeps_of_reads (reads_knownCaller _)).bind fun _ => given key
  | trusted =>
    cases apikey with
    | none => exact keeps_throw _
    | some key => exact given key

theorem keepsLayers_insertApikey (customer : Customer) : KeepsLayers (insertApikey customer) := by
  refine (keeps_changeRegistry _ fun _ _ => rfl).bind fun _ => ?_
  exact (keeps_of_reads (reads_askRegistry _)).bind fun _ _ => rfl

/-- One operation at most is carried out on the layers, about the layer that the command
changes, and only for those who own it unless it is new. -/
theorem dispatch_layers (command : Command) :
    gateway.Leaves (·.store.layers) (gateway.LayersAfter caller command)
      (dispatch caller command) := by
  cases kind : command.isMutation with
  | false =>
    have looks : Looks (·.store.layers) := keepsLayers_askStore
    exact (looks.query caller command kind).leaves .same
  | true =>
    refine .guarded _ _ .same fun _ => ?_
    cases command with
    | createApikey =>
      have keeps : KeepsLayers createApikey := Keeps.bind (fun _ => rfl) fun _ _ => rfl
      exact keeps.leaves .same
    | insertApikey customer => exact (keepsLayers_insertApikey customer).leaves .same
    | assignDatasource apikey datasource =>
      exact (keepsLayers_assignDatasource caller apikey datasource).leaves .same
    | createDatasource datasource layer =>
      exact createDatasource_layers gateway caller datasource layer
    | deleteDatasource datasource => exact deleteDatasource_layers gateway caller datasource
    | insertFeature datasource feature =>
      exact insertFeature_layers gateway caller datasource feature
    | editFeature datasource geoId feature =>
      exact editFeature_layers gateway caller datasource geoId feature
    | importFile path => exact importFile_layers gateway caller path
    | ping | exportApikeys | exportApikey _ | exportDatasources | exportDatasource _
    | exportFeature _ _ | exportSnapshots _ | exportSnapshot _ _ => cases kind

end Commands

theorem allows_dispatch (gateway : Gateway) (caller : Caller) (command : Command)
    (id : DatasourceId) :
    (dispatch caller command gateway).2.store.layers.backend.Allows id ↔
      gateway.store.layers.backend.Allows id := by
  have after := dispatch_layers gateway caller command
  exact after.allows_iff id

end Gateway

end LayerGateway
