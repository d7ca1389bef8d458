import LayerGateway.Proofs.Gateway.Ownership
import LayerGateway.Proofs.Gateway.Recovery
import LayerGateway.Proofs.Import.Loading
import LayerGateway.Proofs.Store.NewLayers

/-!
# Importing a file

An import asks three times in a row whether it can go on: whether the caller is known, whether the
file is loaded, and whether the store takes the layer.  Where it stops nothing has happened yet.

* `Unused` says of a name what an import takes for granted of the one it draws.
* `Imports` is all that a caller may rely on in a state in which the store does not fail, and
  `importFile_imported` how a file that can be loaded becomes a layer there.
-/

namespace LayerGateway

theorem Store.attempt_of_working {α : Type} {store : Store} (working : store.faults = [])
    (operation : LayerOperation α) (now : Int) (names : Names) :
    store.attempt operation now names =
      let (result, layers, names) := store.layers.run operation now names
      (result, { store with layers, calls := store.calls + 1 }, names) := by
  rw [Store.attempt, Store.fault?, working]
  rfl

namespace Gateway

variable {α β : Type} {gateway after : Gateway} {caller : Caller} {path : String}
  {key : AccessKey} {collection : FeatureCollection} {error : ImportError}

/-! ## Layers that come about -/

theorem keepsLayers_openView (caller : Caller) (datasource : DatasourceId) :
    KeepsLayers (openView caller datasource) := by
  refine (keeps_of_reads (reads_authorize _ _)).bind fun _ => ?_
  exact (keepsLayers_demandLayer _).bind fun _ _ => rfl

theorem LayersAfter.reached {command : Command} {start later : LayerStore}
    (became : gateway.LayersAfter caller command later)
    (reached : start.Reached gateway.store.layers) : start.Reached later := by
  cases became with
  | same => exact reached
  | ran _ _ _ => exact .run _ _ _ reached

theorem Reachable.layers (reachable : gateway.Reachable) :
    ∃ start : LayerStore, (start = .inMemory ∨ start = .onDisk {}) ∧
      start.Reached gateway.store.layers := by
  induction reachable with
  | start _ noLayers => exact ⟨_, noLayers, .start⟩
  | @dispatch gateway caller command _ ih =>
    obtain ⟨start, fresh, reached⟩ := ih
    exact ⟨start, fresh, (dispatch_layers gateway caller command).reached reached⟩
  | @openView gateway caller datasource _ ih =>
    have same : (Gateway.openView caller datasource gateway).2.store.layers =
        gateway.store.layers := keepsLayers_openView caller datasource gateway
    rwa [same]
  | outside _ sameLayers _ ih => rwa [sameLayers]
  | restarted _ ih =>
    obtain ⟨start, fresh, reached⟩ := ih
    exact ⟨start, fresh, reached.reopened⟩

theorem Reachable.tidy (reachable : gateway.Reachable) : gateway.store.layers.Tidy := by
  obtain ⟨start, fresh, reached⟩ := reachable.layers
  exact reached.tidy fresh

/-! ## Loading -/

def openFile (path : String) : Action FeatureCollection := fun gateway =>
  ((FeatureCollection.load gateway.files gateway.converter path).mapError .file, gateway)

theorem importFile_eq (caller : Caller) (path : String) :
    importFile caller path = do
      let _ ← knownCaller caller
      let collection ← openFile path
      let id ← newDatasource
      askStore (.insertLayer id collection)
      grant caller id
      record "import_file" caller id [("file", .string path)]
      return .datasource id :=
  rfl

theorem run_openFile_of_ok
    (loaded : FeatureCollection.load gateway.files gateway.converter path = .ok collection) :
    openFile path gateway = (.ok collection, gateway) := by
  rw [openFile, loaded, mapError_ok]

theorem run_openFile_of_error
    (failed : FeatureCollection.load gateway.files gateway.converter path = .error error) :
    openFile path gateway = (.error (.file error), gateway) := by
  rw [openFile, failed, mapError_error]

/-! ## Actions that do not convert -/

/-- Here the action does the same whatever the converter. -/
def NeverConverts (gateway : Gateway) (action : Action α) : Prop :=
  ∀ converter, action { gateway with converter } =
    ((action gateway).1, { (action gateway).2 with converter })

theorem NeverConverts.bind {first : Action α} {next : α → Action β}
    (here : gateway.NeverConverts first)
    (further : ∀ value between, first gateway = (.ok value, between) →
      between.NeverConverts (next value)) : gateway.NeverConverts (first >>= next) := by
  intro converter
  have same := here converter
  rcases ran : first gateway with ⟨cause | value, between⟩
  · rw [ran] at same
    rw [run_bind_of_error ran, run_bind_of_error same]
  · rw [ran] at same
    rw [run_bind_of_ok ran, run_bind_of_ok same, further value between ran]

theorem neverConverts_knownCaller (caller : Caller) :
    gateway.NeverConverts (knownCaller caller) := by
  intro converter
  cases caller with
  | trusted => rfl
  | keyed key =>
    rw [run_knownCaller, run_knownCaller]
    dsimp only
    rcases gateway.registry.load key with _ | _ | _ <;> rfl

theorem neverConverts_grant (caller : Caller) (datasource : DatasourceId) :
    gateway.NeverConverts (grant caller datasource) := by
  cases caller with
  | trusted => exact fun _ => rfl
  | keyed key =>
    refine .bind (fun converter => ?_) fun _ _ _ _ => rfl
    unfold changeRegistry
    dsimp only
    rcases gateway.registry.add key datasource with _ | ⟨_, _⟩ <;> rfl

theorem neverConverts_newDatasource : gateway.NeverConverts newDatasource :=
  fun _ => rfl

theorem neverConverts_askStore (operation : LayerOperation α) :
    gateway.NeverConverts (askStore operation) := by
  intro converter
  unfold askStore Gateway.now
  dsimp only

theorem neverConverts_record (method : String) (caller : Caller) (datasource : DatasourceId)
    (data : List (String × Json)) :
    gateway.NeverConverts (record method caller datasource data) :=
  fun _ => rfl

theorem neverConverts_openFile
    (noShapefile : ¬ (gateway.files.contains path = .ok true ∧
      FeatureCollection.IsShapefile path)) : gateway.NeverConverts (openFile path) := by
  intro converter
  have same : FeatureCollection.load gateway.files converter path =
      FeatureCollection.load gateway.files gateway.converter path :=
    FeatureCollection.load_of_not_shapefile converter noShapefile
  simp only [openFile, same]

theorem neverConverts_importFile (caller : Caller)
    (noShapefile : ¬ (gateway.files.contains path = .ok true ∧
      FeatureCollection.IsShapefile path)) : gateway.NeverConverts (importFile caller path) := by
  rw [importFile_eq]
  refine .bind (neverConverts_knownCaller caller) fun _ between known => ?_
  obtain rfl : between = gateway := (reads_knownCaller caller).seen known
  refine .bind (neverConverts_openFile noShapefile) fun collection _ _ => ?_
  refine .bind neverConverts_newDatasource fun id _ _ => ?_
  refine .bind (neverConverts_askStore _) fun _ _ _ => ?_
  refine .bind (neverConverts_grant caller id) fun _ _ _ => ?_
  exact .bind (neverConverts_record _ caller id _) fun _ _ _ _ => rfl

/-! ## How far an import gets -/

theorem knownCaller_of_recorded (recorded : gateway.Recorded caller) :
    ∃ customer, knownCaller caller gateway = (.ok customer, gateway) := by
  cases caller with
  | trusted => exact ⟨none, rfl⟩
  | keyed key =>
    obtain ⟨customer, loaded⟩ := recorded
    exact ⟨some customer, by rw [run_knownCaller, loaded]⟩

theorem dispatch_importFile (caller : Caller) (path : String) :
    dispatch caller (.importFile path) = importFile caller path :=
  rfl

theorem importFile_stranger (unknown : gateway.registry.load key = .ok none) (path : String) :
    importFile (.keyed key) path gateway =
      (.error (.unauthorized (.unknownKey key)), gateway) := by
  rw [importFile_eq]
  refine run_bind_of_error ?_
  rw [run_knownCaller, unknown]

theorem importFile_declined (recorded : gateway.Recorded caller)
    (failed : FeatureCollection.load gateway.files gateway.converter path = .error error) :
    importFile caller path gateway = (.error (.file error), gateway) := by
  obtain ⟨customer, known⟩ := knownCaller_of_recorded recorded
  rw [importFile_eq, run_bind_of_ok known, run_bind_of_error (run_openFile_of_error failed)]

/-- Once the layer can be inserted nothing fails any more. -/
theorem importFile_loaded {layers : LayerStore} (recorded : gateway.Recorded caller)
    (working : gateway.store.faults = [])
    (loaded : FeatureCollection.load gateway.files gateway.converter path = .ok collection)
    (inserted : gateway.store.layers.insertLayer gateway.now gateway.names.datasource.1 collection =
      (.ok (), layers)) :
    ∃ after, importFile caller path gateway =
        (.ok (.datasource gateway.names.datasource.1), after) ∧
      after.store.layers = layers ∧
      Given gateway.registry caller gateway.names.datasource.1 after.registry := by
  obtain ⟨customer, known⟩ := knownCaller_of_recorded recorded
  generalize drawn : gateway.names.datasource.1 = id at inserted ⊢
  let named : Gateway := { gateway with names := gateway.names.datasource.2 }
  have naming : newDatasource gateway = (.ok id, named) := by rw [← drawn]; rfl
  let stored : Gateway :=
    { named with store := { gateway.store with layers, calls := gateway.store.calls + 1 } }
  have storing : askStore (.insertLayer id collection) named = (.ok (), stored) := by
    have ran : named.store.run (.insertLayer id collection) named.now named.names =
        (.ok (), stored.store, named.names) := by
      have asked := Store.attempt_of_working working (.insertLayer id collection) gateway.now
        named.names
      simp only [LayerStore.run, inserted] at asked
      exact asked
    rw [askStore, ran]
    rfl
  have recordedLater : stored.Recorded caller := recorded
  -- Permission was checked before and is not lost by storing, so the rest cannot fail.
  obtain ⟨outcome, after, ended⟩ :=
    completes_newLayer recordedLater "import_file" id [("file", .string path)]
  have layersLater : gateway.store.layers.insertLayer gateway.now id collection =
      (.ok (), stored.store.layers) := inserted
  have own : "import_file" = Method.importFile.name := rfl
  obtain ⟨rfl, made⟩ := made_of_stored own layersLater rfl rfl ended
  refine ⟨after, ?_, ?_, made.registry⟩
  · rw [importFile_eq, run_bind_of_ok known, run_bind_of_ok (run_openFile_of_ok loaded),
      run_bind_of_ok naming, run_bind_of_ok storing, ended]
  · cases made.layers.symm.trans inserted
    rfl

/-! ## Imports -/

/-- There is no layer of the name, none of which the versions are taken for versions of it, and
nobody owns it. -/
structure Unused (gateway : Gateway) (id : DatasourceId) : Prop where
  free : gateway.store.layers.backend.contains id = false
  apart : ∀ other, gateway.store.layers.backend.contains other = true →
    gateway.store.layers.backend.Separates other id
  ungranted : ∀ key, ¬ gateway.registry.Lists key id

/-- A file became a layer, of which its maker is the only owner. -/
structure Imported (gateway after : Gateway) (caller : Caller) (path : String) (id : DatasourceId)
    (collection : FeatureCollection) : Prop where
  loaded : FeatureCollection.Loadable gateway.files gateway.converter path collection
  layer : gateway.store.layers.Founds after.store.layers id gateway.now collection
  owners : ∀ key, after.registry.Lists key id ↔ caller = .keyed key
  grants : ∀ key other, other ≠ id →
    (after.registry.Lists key other ↔ gateway.registry.Lists key other)

structure Imports (gateway : Gateway) (caller : Caller) (path : String)
    (answer : Except GatewayError Outcome) (after : Gateway) : Prop where
  succeeds : (∃ outcome, answer = .ok outcome) ↔ gateway.Recorded caller ∧
    ∃ collection, FeatureCollection.Loadable gateway.files gateway.converter path collection
  made : ∀ outcome, answer = .ok outcome → outcome = .datasource gateway.names.datasource.1 ∧
    ∃ collection, gateway.Imported after caller path gateway.names.datasource.1 collection
  declined : gateway.Recorded caller → ∀ blame error,
    FeatureCollection.Unloadable gateway.files gateway.converter path blame error →
      answer = .error (.file error) ∧ (GatewayError.file error).kind = blame
  stranger : ∀ key, caller = .keyed key → gateway.registry.load key = .ok none →
    ∀ files converter, dispatch caller (.importFile path) { gateway with files, converter } =
      (.error (.unauthorized (.unknownKey key)), { gateway with files, converter })
  untouched : ∀ error, answer = .error error → after = gateway
  unconverted : ¬ (gateway.files.contains path = .ok true ∧ FeatureCollection.IsShapefile path) →
    ∀ converter, dispatch caller (.importFile path) { gateway with converter } =
      (answer, { after with converter })

theorem recorded_or_stranger (wellKept : gateway.registry.WellKept) (caller : Caller) :
    gateway.Recorded caller ∨
      ∃ key, caller = .keyed key ∧ gateway.registry.load key = .ok none := by
  cases caller with
  | trusted => exact .inl trivial
  | keyed key =>
    obtain ⟨record, loaded⟩ := wellKept.readable.load key
    cases record with
    | none => exact .inr ⟨key, rfl, loaded⟩
    | some customer => exact .inl ⟨customer, loaded⟩

theorem not_recorded_of_stranger (unknown : gateway.registry.load key = .ok none) :
    ¬ gateway.Recorded (.keyed key) := by
  rintro ⟨customer, loaded⟩
  cases unknown.symm.trans loaded

theorem parsed_of_loadable {files : Files} {converter : Converter}
    (loadable : FeatureCollection.Loadable files converter path collection) :
    Json.Parsed FeatureCollection.decoder collection := by
  cases loadable with
  | geoJson _ _ _ decoded | shapefile _ _ _ decoded => exact .text _ decoded

/-- A file that can be loaded becomes a layer. -/
theorem importFile_imported (reachable : gateway.Reachable) (working : gateway.store.faults = [])
    (unused : gateway.Unused gateway.names.datasource.1)
    (inTime : gateway.now < Decimal.signedBound) (recorded : gateway.Recorded caller)
    (loaded : FeatureCollection.load gateway.files gateway.converter path = .ok collection) :
    ∃ after, importFile caller path gateway =
        (.ok (.datasource gateway.names.datasource.1), after) ∧
      gateway.Imported after caller path gateway.names.datasource.1 collection := by
  have loadable := FeatureCollection.load_eq_ok_iff.1 loaded
  obtain ⟨layers, inserted, founds⟩ := reachable.tidy.insertLayer_founds unused.free unused.apart
    gateway.zero_le_now inTime (parsed_of_loadable loadable)
  obtain ⟨after, ran, rfl, given⟩ := importFile_loaded recorded working loaded inserted
  refine ⟨after, ran, loadable, founds, fun key => ?_, fun key other differ => ?_⟩
  · rw [given_lists reachable.wellKept given, or_iff_left (unused.ungranted key),
      and_iff_left rfl]
  · rw [given_lists reachable.wellKept given]
    simp [differ]

/-- Every import in a state in which the store does not fail, for a name that is not used yet.  It
succeeds if the caller is known and the file can be loaded, and then there is one new layer with one
version, which belongs to the caller alone.  Otherwise nothing is changed, and the error says who is
to blame; a stranger is refused before any file is looked at, and the converter runs for nothing
but a shapefile that is there. -/
theorem dispatch_imports (reachable : gateway.Reachable) (working : gateway.store.faults = [])
    (unused : gateway.Unused gateway.names.datasource.1)
    (inTime : gateway.now < Decimal.signedBound) (caller : Caller) (path : String) :
    gateway.Imports caller path (dispatch caller (.importFile path) gateway).1
      (dispatch caller (.importFile path) gateway).2 := by
  have unconverted (noShapefile : ¬ (gateway.files.contains path = .ok true ∧
      FeatureCollection.IsShapefile path)) (converter : Converter) :
      dispatch caller (.importFile path) { gateway with converter } =
        ((importFile caller path gateway).1,
          { (importFile caller path gateway).2 with converter }) := by
    rw [dispatch_importFile]
    exact neverConverts_importFile caller noShapefile converter
  have stranger (key : AccessKey) (own : caller = .keyed key)
      (unknown : gateway.registry.load key = .ok none) (files : Files) (converter : Converter) :
      dispatch caller (.importFile path) { gateway with files, converter } =
        (.error (.unauthorized (.unknownKey key)), { gateway with files, converter }) := by
    subst own
    rw [dispatch_importFile]
    apply importFile_stranger
    exact unknown
  rw [dispatch_importFile]
  -- A stranger is refused before the file is looked at; for all others the file decides.
  rcases recorded_or_stranger reachable.wellKept caller with recorded | ⟨key, rfl, unknown⟩
  · cases loaded : FeatureCollection.load gateway.files gateway.converter path with
    | error error =>
      rw [importFile_declined recorded loaded] at unconverted ⊢
      refine ⟨⟨nofun, ?_⟩, nofun, ?_, stranger, fun _ _ => rfl, unconverted⟩
      · rintro ⟨-, collection, loadable⟩
        cases loaded.symm.trans (FeatureCollection.load_of_loadable loadable)
      · intro _ blame cause unloadable
        cases loaded.symm.trans (FeatureCollection.load_of_unloadable unloadable)
        exact ⟨rfl, unloadable.kind_eq⟩
    | ok collection =>
      obtain ⟨after, ran, imported⟩ :=
        importFile_imported reachable working unused inTime recorded loaded
      rw [ran] at unconverted ⊢
      refine ⟨⟨fun _ => ⟨recorded, collection, imported.loaded⟩, fun _ => ⟨_, rfl⟩⟩, ?_, ?_,
        stranger, ?_, unconverted⟩
      · rintro outcome ⟨⟩
        exact ⟨rfl, collection, imported⟩
      · intro _ blame cause unloadable
        cases loaded.symm.trans (FeatureCollection.load_of_unloadable unloadable)
      · rintro error ⟨⟩
  · have refused := not_recorded_of_stranger unknown
    rw [importFile_stranger unknown] at unconverted ⊢
    exact ⟨⟨nofun, fun both => absurd both.1 refused⟩, nofun,
      fun recorded => absurd recorded refused, stranger, fun _ _ => rfl, unconverted⟩

/-- A gateway with one customer, whose converter has an output at hand. -/
def converting (output : Bytes) : Gateway :=
  let registered := (dispatch .trusted (.insertApikey ⟨⟨"k"⟩, [], []⟩) (fresh (.onDisk {}))).2
  { registered with
    clock := 5
    files := ⟨[(["roads.tar.SHP"], .file [] 0o644)], []⟩
    converter := fun _ _ => .ok (.ok output) }

/-- The text of a collection whose only feature has this number for its address. -/
def numberedText (number : String) : Bytes :=
  Text.encodeChars <|
    "\x7b\"type\":\"FeatureCollection\",\"features\":[\x7b\"type\":\"Feature\",".toList ++
      "\"geometry\":null,\"properties\":\x7b\"geo_id\":".toList ++ number.toList ++
      "\x7d\x7d]\x7d".toList

theorem converting_reachable (output : Bytes) : (converting output).Reachable := by
  have registered : (dispatch .trusted (.insertApikey ⟨⟨"k"⟩, [], []⟩)
      (fresh (.onDisk {}))).2.Reachable := .dispatch _ _ (.start rfl (.inr rfl))
  refine .outside ?_ ?_ registered <;> rfl

theorem converting_unused (output : Bytes) (id : DatasourceId) : (converting output).Unused id where
  free := rfl
  apart other there := by cases there
  ungranted key := by
    have unknown : Registry.load {} ⟨"k"⟩ = .ok none := by rfl
    change ¬ (Registry.store {} ⟨⟨"k"⟩, [], []⟩).Lists key id
    rw [Registry.lists_store_newcomer unknown]
    exact Registry.not_lists_of_free rfl

/-- A customer imports a shapefile and owns what was in it. -/
theorem dispatch_imports_converting :
    let gateway := converting (numberedText "7")
    let ended := dispatch (.keyed ⟨"k"⟩) (.importFile "/./roads.tar.SHP") gateway
    let id := gateway.names.datasource.1
    ended.1 = .ok (.datasource id) ∧
      ended.2.store.layers.timeseries id = .ok [5] ∧
      ended.2.store.layers.load id = .ok ⟨[addressed (.number (.integer 7))], .empty⟩ ∧
      ended.2.registry.Lists ⟨"k"⟩ id := by
  intro gateway ended id
  have imports := dispatch_imports (converting_reachable _) rfl (converting_unused _ id) (by decide)
    (.keyed ⟨"k"⟩) "/./roads.tar.SHP"
  have recorded : gateway.Recorded (.keyed ⟨"k"⟩) := ⟨⟨⟨"k"⟩, [], []⟩, by decide +kernel⟩
  have kind : FeatureCollection.IsShapefile "/./roads.tar.SHP" := by
    refine ⟨"roads.tar", "SHP", ?_, ?_, ?_, ?_⟩ <;> decide +kernel
  have decoded : FeatureCollection.ofBytes (numberedText "7") =
      .ok ⟨[addressed (.number (.integer 7))], .empty⟩ := by
    decide +kernel
  have loadable : FeatureCollection.Loadable gateway.files gateway.converter "/./roads.tar.SHP"
      ⟨[addressed (.number (.integer 7))], .empty⟩ := .shapefile (by decide +kernel) kind rfl decoded
  obtain ⟨outcome, answered⟩ := imports.succeeds.2 ⟨recorded, _, loadable⟩
  obtain ⟨rfl, collection, imported⟩ := imports.made outcome answered
  -- The file is loaded as one collection only.
  obtain rfl : collection = ⟨[addressed (.number (.integer 7))], .empty⟩ := by
    have loaded := FeatureCollection.load_of_loadable imported.loaded
    cases loaded.symm.trans (FeatureCollection.load_of_loadable loadable)
    rfl
  have survives : Json.Survives <|
      FeatureCollection.written ⟨[addressed (.number (.integer 7))], .empty⟩ := by
    refine FeatureCollection.survives_written_iff.2 ⟨?_, nofun⟩
    refine List.forall_mem_singleton.2 (.object trivial (Feature.forall_members.2 ?_))
    exact ⟨.string _, nofun, .null,
      .object trivial (List.forall_mem_singleton.2 (.number (by decide))), nofun⟩
  exact ⟨answered, imported.layer.times, (imported.layer.tells survives).content _ rfl,
    (imported.owners ⟨"k"⟩).2 rfl⟩

/-- The file is imported, and what the layer is read as is not what the file was. -/
theorem imported_not_held :
    ¬ ∀ (gateway : Gateway) caller path collection, gateway.Reachable →
      gateway.store.faults = [] → gateway.Unused gateway.names.datasource.1 →
      gateway.now < Decimal.signedBound →
      FeatureCollection.Loadable gateway.files gateway.converter path collection →
      (dispatch caller (.importFile path) gateway).1 =
        .ok (.datasource gateway.names.datasource.1) →
      (dispatch caller (.importFile path) gateway).2.store.layers.load
        gateway.names.datasource.1 = .ok collection := by
  intro claim
  have kind : FeatureCollection.IsShapefile "/roads.tar.SHP" := by
    refine ⟨"roads.tar", "SHP", ?_, ?_, ?_, ?_⟩ <;> decide +kernel
  have decoded : FeatureCollection.ofBytes (numberedText "30e22") =
      .ok ⟨[addressed (.number heavy)], .empty⟩ := by
    decide +kernel
  have held := claim (converting (numberedText "30e22")) .trusted "/roads.tar.SHP" _
    (converting_reachable _) rfl (converting_unused _ _) (by decide)
    (.shapefile (by decide +kernel) kind rfl decoded) (by decide +kernel)
  revert held
  decide +kernel

end Gateway

end LayerGateway
