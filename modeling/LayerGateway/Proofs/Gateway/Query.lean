import LayerGateway.Proofs.Gateway.Action
import LayerGateway.Proofs.Store.Isolation

/-!
# Commands that change nothing

Such a command asks for permission and looks.  So a view that keeps the same when the store
is asked to look keeps the same when the command is carried out.
-/

namespace LayerGateway.Gateway

variable {ω : Type} {view : Gateway → ω}

/-- Looking at layers keeps what `view` sees. -/
def Looks (view : Gateway → ω) : Prop :=
  ∀ {α : Type} {operation : LayerOperation α},
    (∀ gateway : Gateway, gateway.store.layers.subject? gateway.names operation = none) →
      Keeps view (askStore operation)

theorem looks_of_blind
    (blind : ∀ gateway store names, view { gateway with store, names } = view gateway) :
    Looks view :=
  fun _ => keeps_askStore _ blind

theorem keeps_exportApikey (caller : Caller) (requested : Option AccessKey) :
    Keeps view (exportApikey caller requested) := by
  cases caller with
  | keyed own =>
    have reading : Keeps view (exportApikey (.keyed own) none) := by
      refine Keeps.bind (keeps_of_reads (reads_knownCaller _)) fun record => ?_
      cases record with
      | none => exact keeps_throw _
      | some customer => exact keeps_pure _
    cases requested with
    | none => exact reading
    | some requested =>
      by_cases same : own = requested
      · simpa only [exportApikey, if_pos same] using reading
      · simp only [exportApikey, if_neg same]
        exact Keeps.bind (keeps_throw _) fun _ => reading
  | trusted =>
    cases requested with
    | none => exact keeps_throw _
    | some requested =>
      exact Keeps.bind (keeps_of_reads (reads_askRegistry _)) fun _ => keeps_pure _

theorem Looks.exportFeature (looks : Looks view) (caller : Caller) (datasource : DatasourceId)
    (geoId : String) : Keeps view (exportFeature caller datasource geoId) := by
  refine Keeps.bind (keeps_of_reads (reads_authorize _ _)) fun _ => ?_
  refine Keeps.bind (looks fun _ => rfl) fun collection => ?_
  split
  · exact keeps_pure _
  · exact keeps_throw _

/-- A command that changes nothing keeps what looking keeps. -/
theorem Looks.query (looks : Looks view) (caller : Caller) (command : Command)
    (queries : command.isMutation = false) : Keeps view (dispatch caller command) := by
  have reading {α : Type} (datasource : DatasourceId) {operation : LayerOperation α}
      (answer : α → Outcome)
      (silent : ∀ gateway : Gateway,
        gateway.store.layers.subject? gateway.names operation = none) :
      Keeps view (do
        authorize caller datasource
        return answer (← askStore operation)) := by
    refine Keeps.bind (keeps_of_reads (reads_authorize _ _)) fun _ => ?_
    exact Keeps.bind (looks silent) fun _ => keeps_pure _
  cases command with
  | ping => exact fun _ => rfl
  | exportApikeys =>
    cases caller with
    | keyed key => exact keeps_throw _
    | trusted => exact fun _ => rfl
  | exportApikey requested => exact keeps_exportApikey caller requested
  | exportDatasources =>
    cases caller with
    | keyed key => exact keeps_throw _
    | trusted => exact Keeps.bind (looks fun _ => rfl) fun _ => keeps_pure _
  | exportDatasource datasource => exact reading datasource .layer fun _ => rfl
  | exportFeature datasource geoId => exact looks.exportFeature caller datasource geoId
  | exportSnapshots datasource => exact reading datasource .timestamps fun _ => rfl
  | exportSnapshot datasource timestamp =>
    exact reading datasource (fun answer : Int × FeatureCollection => .layer answer.2) fun _ => rfl
  | createApikey | insertApikey _ | assignDatasource _ _ | createDatasource _ _
  | deleteDatasource _ | insertFeature _ _ | editFeature _ _ _ | importFile _ => cases queries

end LayerGateway.Gateway
