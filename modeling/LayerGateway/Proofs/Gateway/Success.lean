import LayerGateway.Proofs.Gateway.Registry

/-!
# Commands that succeed

What a command has done when it answers: what it asked of the layers and what it made of them,
who was given what, and which entry it offered to the journal.

* `Made` says so of the two commands that make a layer;
* `insertFeature_ok` and `editFeature_ok` of those that change a feature;
* `insertApikey_ok` and `assignDatasource_ok` of those that change a record.
-/

namespace LayerGateway

namespace Store

variable {α : Type} {store later : Store} {operation : LayerOperation α} {now : Int}
  {names further : Names} {value : α}

/-- A store that answers did not fail, and its layers were asked. -/
theorem run_of_attempt (answered : store.attempt operation now names = (.ok value, later, further)) :
    store.layers.run operation now names = (.ok value, later.layers, further) := by
  unfold attempt at answered
  dsimp only at answered
  split at answered
  · cases answered
  · obtain ⟨result, rest⟩ := Prod.mk.inj answered
    obtain ⟨rfl, rfl⟩ := Prod.mk.inj rest
    exact Prod.ext result rfl

end Store

namespace Gateway

variable {α β : Type} {gateway between after : Gateway} {caller : Caller} {method : Method}
  {datasource : DatasourceId} {outcome : Outcome}

/-! ## Parts -/

theorem ok_of_run_bind {first : Action α} {next : α → Action β} {value : β}
    (ran : (first >>= next) gateway = (.ok value, after)) :
    ∃ drawn between, first gateway = (.ok drawn, between) ∧
      next drawn between = (.ok value, after) := by
  obtain ⟨error, -, failed⟩ | went := bind_cases ran
  · cases failed
  · exact went

/-- The store was asked and answered, and nothing else happened. -/
structure Asked (gateway : Gateway) (operation : LayerOperation α) (value : α) (after : Gateway) :
    Prop where
  layers : gateway.store.layers.run operation gateway.now gateway.names =
    (.ok value, after.store.layers, after.names)
  registry : after.registry = gateway.registry
  journal : after.journal = gateway.journal

theorem asked_of_attempt {operation : LayerOperation α} {value : α}
    (whole : gateway.store.run operation gateway.now gateway.names =
      gateway.store.attempt operation gateway.now gateway.names)
    (ran : askStore operation gateway = (.ok value, after)) :
    gateway.Asked operation value after := by
  rcases answered : gateway.store.attempt operation gateway.now gateway.names
    with ⟨result, store, names⟩
  simp only [askStore, whole, answered] at ran
  obtain ⟨answer, rfl⟩ := Prod.mk.inj ran
  rw [mapError_eq_ok.1 answer] at answered
  exact ⟨Store.run_of_attempt answered, rfl, rfl⟩

/-- A layer went to its maker, if that is a customer. -/
def Given (registry : Registry) (caller : Caller) (datasource : DatasourceId)
    (later : Registry) : Prop :=
  match caller with
  | .keyed key => ∃ customer, registry.add key datasource = .ok (customer, later)
  | .trusted => later = registry

theorem changeRegistry_ok {change : Registry → Except RegistryError (α × Registry)} {value : α}
    (ran : changeRegistry change gateway = (.ok value, after)) :
    ∃ registry, change gateway.registry = .ok (value, registry) ∧
      after = { gateway with registry } := by
  unfold changeRegistry at ran
  split at ran
  · next changed =>
    cases ran
    exact ⟨_, changed, rfl⟩
  · cases ran

theorem grant_ok (ran : grant caller datasource gateway = (.ok (), after)) :
    ∃ registry, Given gateway.registry caller datasource registry ∧
      after = { gateway with registry } := by
  cases caller with
  | trusted =>
    cases ran
    exact ⟨_, rfl, rfl⟩
  | keyed key =>
    obtain ⟨customer, changed, adding, passed⟩ := ok_of_run_bind ran
    cases passed
    obtain ⟨registry, added, rfl⟩ := changeRegistry_ok adding
    exact ⟨registry, ⟨customer, added⟩, rfl⟩

/-- What a change of a layer tells the journal. -/
def layerEntry (method : Method) (caller : Caller) (datasource : DatasourceId)
    (data : List (String × Json)) : JournalEntry :=
  ⟨method.name, .ofMembers <|
    [("apikey", Json.ofText? (caller.key?.map (·.text))), ("datasource", .string datasource.text)]
      ++ data⟩

/-! ## New layers -/

/-- A layer was stored, given to its maker and recorded. -/
structure Made (gateway : Gateway) (caller : Caller) (method : Method) (datasource : DatasourceId)
    (layer : FeatureCollection) (data : List (String × Json)) (after : Gateway) : Prop where
  registry : Given gateway.registry caller datasource after.registry
  layers : gateway.store.layers.insertLayer gateway.now datasource layer =
    (.ok (), after.store.layers)
  journal : after.journal = (gateway.journal.enqueue (layerEntry method caller datasource data)).2

/-- Behind the store nothing is left to do but to give the layer away and to record it. -/
theorem made_of_stored {layer : FeatureCollection} {data : List (String × Json)} {name : String}
    (own : name = method.name)
    (layers : gateway.store.layers.insertLayer gateway.now datasource layer =
      (.ok (), between.store.layers))
    (registry : between.registry = gateway.registry) (journal : between.journal = gateway.journal)
    (ran : (do
      grant caller datasource
      record name caller datasource data
      return Outcome.datasource datasource) between = (.ok outcome, after)) :
    outcome = .datasource datasource ∧ gateway.Made caller method datasource layer data after := by
  subst own
  obtain ⟨_, granted, giving, recorded⟩ := ok_of_run_bind ran
  obtain ⟨later, given, rfl⟩ := grant_ok giving
  cases recorded
  exact ⟨rfl, registry ▸ given, layers, journal ▸ rfl⟩

theorem made_of_asked {layer : FeatureCollection} {data : List (String × Json)} {name : String}
    {names : Names} (own : name = method.name)
    (asked : { gateway with names }.Asked (.insertLayer datasource layer) () between)
    (ran : (do
      grant caller datasource
      record name caller datasource data
      return Outcome.datasource datasource) between = (.ok outcome, after)) :
    outcome = .datasource datasource ∧ gateway.Made caller method datasource layer data after := by
  have layers : gateway.store.layers.insertLayer gateway.now datasource layer =
      (.ok (), between.store.layers) :=
    Prod.ext (congrArg (·.1) asked.layers) (congrArg (·.2.1) asked.layers)
  exact made_of_stored own layers asked.registry asked.journal ran

theorem createDatasource_made {named : Option DatasourceId} {layer : Option FeatureCollection}
    (ran : createDatasource caller named layer gateway = (.ok outcome, after)) :
    ∃ datasource, outcome = .datasource datasource ∧
      gateway.Made caller .createDatasource datasource (layer.getD .empty) [] after := by
  obtain ⟨customer, between, known, allowed⟩ := ok_of_run_bind ran
  obtain rfl : between = gateway := (reads_knownCaller caller).seen known
  cases named with
  | some id =>
    obtain ⟨_, passedBy, passed, storing⟩ := ok_of_run_bind allowed
    obtain rfl : passedBy = between := (reads_demandOwner _ _).seen passed
    obtain ⟨_, stored, asked, further⟩ := ok_of_run_bind storing
    exact ⟨id, made_of_asked rfl (asked_of_attempt rfl asked) further⟩
  | none =>
    cases layer with
    | some layer =>
      obtain ⟨id, named, drawn, storing⟩ := ok_of_run_bind allowed
      cases drawn
      obtain ⟨_, stored, asked, further⟩ := ok_of_run_bind storing
      exact ⟨_, made_of_asked rfl (asked_of_attempt rfl asked) further⟩
    | none =>
      obtain ⟨id, stored, asked, further⟩ := ok_of_run_bind allowed
      have asked := asked_of_attempt rfl asked
      -- The store draws the name itself and then stores an empty layer.
      have layers : between.store.layers.insertLayer between.now id .empty =
          (.ok (), stored.store.layers) := by
        have drew := asked.layers
        simp only [LayerStore.run, Prod.mk.injEq] at drew
        obtain ⟨answer, layers, -⟩ := drew
        obtain ⟨_, inserted, rfl⟩ := map_eq_ok.1 answer
        exact Prod.ext inserted layers
      exact ⟨id, made_of_stored rfl layers asked.registry asked.journal further⟩

theorem importFile_made {path : String}
    (ran : importFile caller path gateway = (.ok outcome, after)) :
    ∃ datasource collection, outcome = .datasource datasource ∧
      FeatureCollection.load gateway.files gateway.converter path = .ok collection ∧
      gateway.Made caller .importFile datasource collection [("file", .string path)] after := by
  obtain ⟨customer, between, known, loading⟩ := ok_of_run_bind ran
  obtain rfl : between = gateway := (reads_knownCaller caller).seen known
  obtain ⟨collection, opened, opening, naming⟩ := ok_of_run_bind loading
  obtain ⟨loaded, rfl⟩ := Prod.mk.inj opening
  obtain ⟨id, named, drawn, storing⟩ := ok_of_run_bind naming
  cases drawn
  obtain ⟨_, stored, asked, further⟩ := ok_of_run_bind storing
  have own : "import_file" = Method.importFile.name := rfl
  have ⟨answer, made⟩ := made_of_asked own (asked_of_attempt rfl asked) further
  exact ⟨_, collection, answer, mapError_eq_ok.1 loaded, made⟩

/-! ## Features -/

/-- What a change of a feature tells the journal. -/
def featureEntry (method : Method) (caller : Caller) (datasource : DatasourceId) (geoId : String)
    (feature : Feature) : JournalEntry :=
  layerEntry method caller datasource [("geo_id", .string geoId), ("feature", feature.toJson)]

theorem insertFeature_ok {feature : Feature}
    (ran : insertFeature caller datasource feature gateway = (.ok outcome, after)) :
    ∃ geoId,
      gateway.store.layers.insertFeature gateway.now gateway.names.feature.1 datasource feature =
        (.ok geoId, after.store.layers) ∧
      after.journal = (gateway.journal.enqueue (featureEntry .insertFeature caller datasource geoId
        (if feature.geoId?.isNone then feature.withGeoId geoId else feature))).2 := by
  obtain ⟨_, between, passed, storing⟩ := ok_of_run_bind ran
  obtain ⟨rfl, -⟩ := authorized_of_authorize passed
  obtain ⟨geoId, stored, asked, recorded⟩ := ok_of_run_bind storing
  have asked := asked_of_attempt rfl asked
  cases recorded
  refine ⟨geoId, ?_, asked.journal ▸ rfl⟩
  exact Prod.ext (congrArg (·.1) asked.layers) (congrArg (·.2.1) asked.layers)

theorem editFeature_ok {geoId : String} {feature : Feature}
    (ran : editFeature caller datasource geoId feature gateway = (.ok outcome, after)) :
    ∃ stored,
      gateway.store.layers.editFeature gateway.now datasource geoId feature =
        (.ok stored, after.store.layers) ∧
      after.journal =
        (gateway.journal.enqueue (featureEntry .editFeature caller datasource geoId stored)).2 := by
  obtain ⟨_, between, passed, storing⟩ := ok_of_run_bind ran
  obtain ⟨rfl, -⟩ := authorized_of_authorize passed
  obtain ⟨stored, changed, asked, recorded⟩ := ok_of_run_bind storing
  have asked := asked_of_attempt rfl asked
  cases recorded
  refine ⟨stored, ?_, asked.journal ▸ rfl⟩
  exact Prod.ext (congrArg (·.1) asked.layers) (congrArg (·.2.1) asked.layers)

/-! ## Records -/

theorem insertApikey_ok {customer : Customer}
    (ran : insertApikey customer gateway = (.ok outcome, after)) :
    after.registry = gateway.registry.put customer := by
  obtain ⟨_, written, wrote, reading⟩ := ok_of_run_bind ran
  obtain ⟨stored, between, read, recorded⟩ := ok_of_run_bind reading
  obtain rfl : between = written := (reads_askRegistry _).seen read
  cases wrote
  cases recorded
  rfl

theorem assignDatasource_ok {apikey : Option AccessKey}
    (ran : assignDatasource caller apikey datasource gateway = (.ok outcome, after)) :
    ∃ target customer, recipient? caller (.assignDatasource apikey datasource) = some target ∧
      gateway.registry.add target datasource = .ok (customer, after.registry) := by
  have given (target : AccessKey)
      (assigned : assignDatasource .trusted (some target) datasource gateway =
        (.ok outcome, after)) :
      ∃ customer, gateway.registry.add target datasource = .ok (customer, after.registry) := by
    obtain ⟨_, between, drawn, demanding⟩ := ok_of_run_bind assigned
    cases drawn
    obtain ⟨_, demanded, passed, adding⟩ := ok_of_run_bind demanding
    have sameRegistry : demanded.registry = gateway.registry :=
      (keepsRegistry_demandLayer datasource).seen passed
    obtain ⟨customer, changed, changing, recorded⟩ := ok_of_run_bind adding
    obtain ⟨later, added, rfl⟩ := changeRegistry_ok changing
    cases recorded
    exact ⟨customer, sameRegistry ▸ added⟩
  cases caller with
  | keyed key =>
    obtain ⟨_, between, known, assigning⟩ := ok_of_run_bind ran
    obtain rfl : between = gateway := (reads_knownCaller _).seen known
    obtain ⟨customer, added⟩ := given key assigning
    exact ⟨key, customer, rfl, added⟩
  | trusted =>
    cases apikey with
    | none => cases ran
    | some key =>
      obtain ⟨customer, added⟩ := given key ran
      exact ⟨key, customer, rfl, added⟩

/-- A command that answers was let in. -/
theorem ok_of_guarded {action : Action α} {condition : Bool} {refusal : GatewayError} {value : α}
    (ran : (do
      if condition then throw refusal
      action) gateway = (.ok value, after)) : action gateway = (.ok value, after) := by
  cases condition with
  | true => cases ran
  | false => exact ran

end Gateway

end LayerGateway
