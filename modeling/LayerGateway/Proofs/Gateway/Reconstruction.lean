import LayerGateway.Proofs.Gateway.Recovery
import Mathlib.Logic.Function.Basic

/-!
# What the commit log leaves open

An entry about a deletion or about a feature says all that was done to the layers.  One about a
layer that was made, empty, of a given collection or of a file, says only that it was made.

* `JournalEntry.redo` does what an entry says to all layers, known by their bytes; where a layer is
  made it takes the next of the collections that were given along with the log.
* `Run.reconstructed` says that the log of a run, with the collections that were brought in it,
  gives the layers in which the run ended.
* `Run.content_determined` says that runs with the same log end in the same layers if the same
  collections were brought, and `content_undetermined` that otherwise they need not.
-/

namespace LayerGateway

/-! ## Layers by their bytes -/

/-- The bytes of all layers, and the collections of which layers are still to be made. -/
structure Reconstruction where
  content : DatasourceId → Option Bytes
  given : List FeatureCollection

namespace Reconstruction

/-- Sets what a layer is, if it is to be one. -/
def set (state : Reconstruction) (id : DatasourceId) (content : Option Bytes) : Reconstruction :=
  { state with content := Function.update state.content id content }

def make (state : Reconstruction) (id : DatasourceId) : Reconstruction :=
  match state.given with
  | collection :: given => { state.set id (some collection.bytes) with given }
  | [] => state

/-- Changes the collection that is read of a layer. -/
def change (state : Reconstruction) (id : DatasourceId)
    (changed : FeatureCollection → FeatureCollection) : Reconstruction :=
  match (state.content id).map FeatureCollection.ofBytes with
  | some (.ok collection) => state.set id (some (changed collection).bytes)
  | _ => state

end Reconstruction

namespace FeatureCollection

def adding (feature : Feature) (collection : FeatureCollection) : FeatureCollection :=
  { collection with features := collection.features ++ [feature] }

/-- The collection with a feature in the place of the one with an address. -/
def exchanging (geoId : String) (feature : Feature) (collection : FeatureCollection) :
    FeatureCollection :=
  match collection.position? geoId with
  | some place => { collection with features := collection.features.set place feature }
  | none => collection

end FeatureCollection

/-! ## Entries -/

def Command.feature? : Command → Option Feature
  | .insertFeature _ feature | .editFeature _ _ feature => some feature
  | _ => none

def Method.changesLayers : Method → Bool
  | .createDatasource | .deleteDatasource | .insertFeature | .editFeature | .importFile => true
  | _ => false

namespace JournalEntry

def datasource? (entry : JournalEntry) : Option DatasourceId :=
  match entry.data.member? "datasource" with
  | some (.string id) => some ⟨id⟩
  | _ => none

/-- The address of a feature that an entry names. -/
def geoId? (entry : JournalEntry) : Option String :=
  match entry.data.member? "geo_id" with
  | some (.string geoId) => some geoId
  | _ => none

def feature? (entry : JournalEntry) : Option Feature :=
  match (entry.data.member? "feature").map (Json.decodeValue Feature.decoder) with
  | some (.ok feature) => some feature
  | _ => none

/-- Does to the layers what an entry says was done to them. -/
def redo (state : Reconstruction) (entry : JournalEntry) : Reconstruction :=
  match entry.datasource?, Method.ofName? entry.method with
  | some id, some .createDatasource | some id, some .importFile => state.make id
  | some id, some .deleteDatasource => state.set id none
  | some id, some .insertFeature =>
      match entry.feature? with
      | some feature => state.change id (.adding feature)
      | none => state
  | some id, some .editFeature =>
      match entry.feature?, entry.geoId? with
      | some feature, some geoId => state.change id (.exchanging geoId feature)
      | _, _ => state
  | _, _ => state

end JournalEntry

/-! ## Layers -/

namespace Backend

variable (backend : Backend) (id : DatasourceId)

theorem content?_commit (timestamp : Int) (content : Bytes) :
    (backend.commit id timestamp content).content? =
      Function.update backend.content? id (some content) := by
  funext other
  by_cases own : other = id
  · rw [own, content?_commit_self, Function.update_self]
  · rw [content?_commit_of_ne _ own, Function.update_of_ne own]

theorem content?_remove :
    (backend.remove id).content? = Function.update backend.content? id none := by
  funext other
  by_cases own : other = id
  · rw [own, content?_remove_self, Function.update_self]
  · rw [content?_remove_of_ne _ own, Function.update_of_ne own]

end Backend

namespace LayerStore

variable {store : LayerStore} {id : DatasourceId} {collection : FeatureCollection}

theorem ofBytes_of_load (loaded : store.load id = .ok collection) :
    (store.backend.content? id).map FeatureCollection.ofBytes = some (.ok collection) := by
  unfold load at loaded
  cases held : store.backend.content? id with
  | none =>
    rw [held] at loaded
    cases loaded
  | some content =>
    rw [held] at loaded
    exact congrArg some (mapError_eq_ok.1 loaded)

theorem wellFormed_of_load (loaded : store.load id = .ok collection) : collection.WellFormed := by
  obtain ⟨content, -, read⟩ := Option.map_eq_some_iff.1 (ofBytes_of_load loaded)
  exact (FeatureCollection.of_parsed (.text _ read)).1

end LayerStore

namespace Gateway

/-! ## Redoing entries -/

section Redo

variable {caller : Caller} {datasource : DatasourceId} {method : Method} {geoId : String}
  {feature : Feature} {data : List (String × Json)} (state : Reconstruction)

theorem datasource?_layerEntry (absent : ∀ member ∈ data, member.1 ≠ "datasource") :
    (layerEntry method caller datasource data).datasource? = some datasource := by
  have found : (layerEntry method caller datasource data).data.member? "datasource" =
      some (.string datasource.text) :=
    Json.member?_ofMembers [("apikey", _)] data absent
  rw [JournalEntry.datasource?, found]

theorem datasource?_featureEntry :
    (featureEntry method caller datasource geoId feature).datasource? = some datasource :=
  datasource?_layerEntry (by simp)

theorem geoId?_featureEntry :
    (featureEntry method caller datasource geoId feature).geoId? = some geoId := by
  rw [JournalEntry.geoId?, geoId_featureEntry]

theorem feature?_featureEntry (wellFormed : feature.WellFormed) :
    (featureEntry method caller datasource geoId feature).feature? = some feature := by
  rw [JournalEntry.feature?, feature_featureEntry, Option.map_some,
    Feature.decode_toJson wellFormed]

theorem redo_made (makes : method = .createDatasource ∨ method = .importFile)
    (absent : ∀ member ∈ data, member.1 ≠ "datasource") :
    JournalEntry.redo state (layerEntry method caller datasource data) = state.make datasource := by
  rcases makes with rfl | rfl <;> rw [JournalEntry.redo, datasource?_layerEntry absent] <;> rfl

theorem redo_deleted :
    JournalEntry.redo state (layerEntry .deleteDatasource caller datasource []) =
      state.set datasource none := by
  rw [JournalEntry.redo, datasource?_layerEntry (by simp)]
  rfl

theorem redo_inserted (wellFormed : feature.WellFormed) :
    JournalEntry.redo state (featureEntry .insertFeature caller datasource geoId feature) =
      state.change datasource (.adding feature) := by
  rw [JournalEntry.redo, datasource?_featureEntry, feature?_featureEntry wellFormed]
  rfl

theorem redo_edited (wellFormed : feature.WellFormed) :
    JournalEntry.redo state (featureEntry .editFeature caller datasource geoId feature) =
      state.change datasource (.exchanging geoId feature) := by
  rw [JournalEntry.redo, datasource?_featureEntry, feature?_featureEntry wellFormed,
    geoId?_featureEntry]
  rfl

theorem redo_aside {entry : JournalEntry} (about : entry.method = method.name)
    (aside : method.changesLayers = false) : entry.redo state = state := by
  rw [JournalEntry.redo, about, Method.ofName?_name]
  cases entry.datasource? with
  | none => rfl
  | some id =>
    cases method with
    | createDatasource | importFile | deleteDatasource | insertFeature | editFeature => cases aside
    | _ => rfl

end Redo

/-! ## Deletions -/

section Deletion

variable {gateway after : Gateway} {caller : Caller} {datasource : DatasourceId}

/-- A deletion that succeeds has removed the layer and offered its entry.  One that fails leaves
the layers as they were, unless somebody's record was in the way. -/
theorem deleteDatasource_cases {result : Except GatewayError Outcome}
    (ran : deleteDatasource caller datasource gateway = (result, after)) :
    (result = .ok .done ∧
      after.store.layers.backend = gateway.store.layers.backend.remove datasource ∧
      after.journal =
        (gateway.journal.enqueue (layerEntry .deleteDatasource caller datasource [])).2) ∨
    ∃ error, result = .error error ∧
      (after.store.layers.backend = gateway.store.layers.backend ∨
        (revokeAll datasource gateway.registry).1.2 ≠ none) := by
  obtain ⟨error, rfl, rfl⟩ | deletes := deletes_or_refused ran
  · exact .inr ⟨error, rfl, .inl rfl⟩
  cases deletes with
  | done revoked deleted =>
    have gone : gateway.store.layers.run (.deleteLayer datasource) gateway.now gateway.names =
        (.ok (), (gateway.withdrawn datasource).store.layers,
          (gateway.withdrawn datasource).names) :=
      Store.run_of_attempt (Prod.ext deleted rfl)
    have removed := LayerStore.deleteLayer_backend_of_ok (congrArg (·.1) gone)
    exact .inl ⟨rfl, (congrArg (·.2.1.backend) gone).symm.trans removed, rfl⟩
  | absent _ refused _ | undeleted _ refused _ =>
    exact .inr ⟨_, rfl, .inl (Store.run_backend_of_error refused)⟩
  | unrevoked failed =>
    exact .inr ⟨_, rfl, .inr (failed ▸ Option.some_ne_none _)⟩

end Deletion

/-! ## Commands -/

namespace Turn

variable {turn : Turn}

/-- The collection of which the command made a layer, if it made one. -/
def brought (turn : Turn) : List FeatureCollection :=
  match turn.answer with
  | .ok (.datasource made) => (turn.given? made).toList
  | _ => []

/-- The entries of the command, redone with what it brought, do what it did. -/
def Redone (turn : Turn) : Prop :=
  ∀ more, turn.logged.foldl JournalEntry.redo ⟨turn.before.content?, turn.brought ++ more⟩ =
    ⟨turn.after.content?, more⟩

theorem brought_of_unmade (unmade : ∀ datasource, turn.given? datasource = none) :
    turn.brought = [] := by
  unfold brought
  split
  · next made _ => exact congrArg Option.toList (unmade made)
  · rfl

theorem redone_of_entry {entry : JournalEntry} (logged : turn.logged = [entry])
    (redoes : ∀ more, entry.redo ⟨turn.before.content?, turn.brought ++ more⟩ =
      ⟨turn.after.content?, more⟩) : turn.Redone := by
  intro more
  rw [logged]
  exact redoes more

theorem redone_of_aside (nothing : turn.brought = [])
    (same : turn.after.content? = turn.before.content?)
    (idle : ∀ entry ∈ turn.logged, ∀ state, entry.redo state = state) : turn.Redone := by
  intro more
  rw [nothing, same]
  generalize turn.logged = entries at idle
  induction entries with
  | nil => rfl
  | cons entry entries ih =>
    obtain ⟨first, rest⟩ := List.forall_mem_cons.1 idle
    rw [List.foldl_cons, first]
    exact ih rest

theorem failed_redone {error : GatewayError} (wellKept : turn.before.registry.WellKept)
    (answered : turn.answer = .error error) : turn.Redone := by
  have nothing : turn.brought = [] := by
    rw [brought, answered]
  have same : turn.after.store.layers.backend = turn.before.store.layers.backend := by
    by_cases deletion : ∃ deleted, turn.command = .deleteDatasource deleted
    · obtain ⟨deleted, deletes⟩ := deletion
      have ran : deleteDatasource turn.caller deleted turn.before = (.error error, turn.after) :=
        (congrArg (dispatch turn.caller · turn.before) deletes).symm.trans (failed answered)
      obtain ⟨success, -⟩ | ⟨_, -, same | stuck⟩ := deleteDatasource_cases ran
      · cases success
      · exact same
      · exact absurd (revocation_of_wellKept wellKept) stuck
    · exact (dispatch_undone turn.before turn.caller (not_exists.1 deletion) error turn.after
        (failed answered)).backend
  refine redone_of_aside nothing (congrArg Backend.content? same) ?_
  rw [logged_of_failed answered]
  exact fun entry member => absurd member List.not_mem_nil

theorem aside_redone (noLayer : turn.before.changed? turn.command = none)
    (unmade : ∀ datasource, turn.given? datasource = none)
    (aside : turn.command.method.changesLayers = false) : turn.Redone := by
  refine redone_of_aside (brought_of_unmade unmade) ?_ fun entry member state => ?_
  · funext datasource
    refine content?_of_other ?_
    rw [noLayer]
    exact (Option.some_ne_none _).symm
  · exact redo_aside state (turn.method_of_logged entry member) aside

theorem deleted_redone (kept : ¬ turn.Drops) {outcome : Outcome} {deleted : DatasourceId}
    (deletes : turn.command = .deleteDatasource deleted) (answered : turn.answer = .ok outcome) :
    turn.Redone := by
  have ran := ok_of_guarded (ran_command deletes answered)
  obtain ⟨success, removed, enqueued⟩ | ⟨_, failure, -⟩ := deleteDatasource_cases ran
  · cases success
    have logged := logged_of_enqueue kept (by rw [deletes]; rfl) answered enqueued
    refine redone_of_entry logged fun more => ?_
    have content : turn.after.content? = Function.update turn.before.content? deleted none :=
      (congrArg Backend.content? removed).trans (Backend.content?_remove _ _)
    rw [redo_deleted, brought, answered, content]
    rfl
  · cases failure

theorem made_redone (kept : ¬ turn.Drops) {made : DatasourceId} {layer : FeatureCollection}
    {method : Method} {data : List (String × Json)}
    (answered : turn.answer = .ok (.datasource made)) (given : turn.given? made = some layer)
    (mutates : turn.command.isMutation = true)
    (makes : method = .createDatasource ∨ method = .importFile)
    (absent : ∀ member ∈ data, member.1 ≠ "datasource")
    (done : turn.before.Made turn.caller method made layer data turn.after) : turn.Redone := by
  refine redone_of_entry (logged_of_enqueue kept mutates answered done.journal) fun more => ?_
  have content : turn.after.content? =
      Function.update turn.before.content? made (some layer.bytes) := by
    funext datasource
    rw [done.content? datasource]
    by_cases own : datasource = made
    · rw [own, if_pos rfl, Function.update_self]
    · rw [if_neg (Ne.symm own), Function.update_of_ne own]
  have brought : turn.brought = [layer] := by
    rw [Turn.brought, answered]
    exact congrArg Option.toList given
  rw [redo_made _ makes absent, content, brought]
  rfl

theorem created_redone (kept : ¬ turn.Drops) {outcome : Outcome} {named : Option DatasourceId}
    {layer : Option FeatureCollection} (creates : turn.command = .createDatasource named layer)
    (answered : turn.answer = .ok outcome) : turn.Redone := by
  have ran := ok_of_guarded (ran_command creates answered)
  obtain ⟨made, rfl, done⟩ := createDatasource_made ran
  refine made_redone kept answered ?_ (by rw [creates]; rfl) (.inl rfl) (by simp) done
  rw [given?, creates, answered]
  exact if_pos rfl

theorem imported_redone (kept : ¬ turn.Drops) {outcome : Outcome} {path : String}
    (imports : turn.command = .importFile path) (answered : turn.answer = .ok outcome) :
    turn.Redone := by
  have ran := ok_of_guarded (ran_command imports answered)
  obtain ⟨made, collection, rfl, loaded, done⟩ := importFile_made ran
  refine made_redone kept answered ?_ (by rw [imports]; rfl) (.inr rfl) (by simp) done
  simp only [given?, imports, answered, loaded]
  rfl

/-- What was changed in a layer is redone if it is redone in the collection. -/
theorem changed_redone {entry : JournalEntry} (logged : turn.logged = [entry])
    (nothing : turn.brought = []) {datasource : DatasourceId} {timestamp : Int}
    {former collection : FeatureCollection} {changed : FeatureCollection → FeatureCollection}
    (loaded : turn.before.store.layers.load datasource = .ok former)
    (backend : turn.after.store.layers.backend =
      turn.before.store.layers.backend.commit datasource timestamp collection.bytes)
    (redoes : ∀ state, entry.redo state = state.change datasource changed)
    (same : changed former = collection) : turn.Redone := by
  subst same
  refine redone_of_entry logged fun more => ?_
  have content : turn.after.content? =
      Function.update turn.before.content? datasource (some (changed former).bytes) :=
    (congrArg Backend.content? backend).trans (Backend.content?_commit _ _ _ _)
  have read : (turn.before.content? datasource).map FeatureCollection.ofBytes =
      some (.ok former) := LayerStore.ofBytes_of_load loaded
  rw [redoes, Reconstruction.change]
  dsimp only
  rw [read, content, nothing]
  rfl

theorem inserted_redone (kept : ¬ turn.Drops) {outcome : Outcome} {datasource : DatasourceId}
    {feature : Feature} (wellFormed : feature.WellFormed)
    (inserts : turn.command = .insertFeature datasource feature)
    (answered : turn.answer = .ok outcome) : turn.Redone := by
  have ran := ok_of_guarded (ran_command inserts answered)
  obtain ⟨geoId, stored, enqueued⟩ := insertFeature_ok ran
  have logged := logged_of_enqueue kept (by rw [inserts]; rfl) answered enqueued
  have nothing : turn.brought = [] := brought_of_unmade fun _ => by rw [given?, inserts]
  have changed := turn.before.store.layers.insertFeature_changed turn.before.now
    turn.before.names.feature.1 datasource feature
  rw [stored] at changed
  cases changed with
  | committed is backend =>
    obtain ⟨former, loaded, rfl⟩ := is
    refine changed_redone logged nothing loaded backend (fun state => redo_inserted state ?_) rfl
    split
    · exact wellFormed.withGeoId geoId
    · exact wellFormed

theorem edited_redone (kept : ¬ turn.Drops) {outcome : Outcome} {datasource : DatasourceId}
    {geoId : String} {feature : Feature} (wellFormed : feature.WellFormed)
    (edits : turn.command = .editFeature datasource geoId feature)
    (answered : turn.answer = .ok outcome) : turn.Redone := by
  have ran := ok_of_guarded (ran_command edits answered)
  obtain ⟨stored, wrote, enqueued⟩ := editFeature_ok ran
  have logged := logged_of_enqueue kept (by rw [edits]; rfl) answered enqueued
  have nothing : turn.brought = [] := brought_of_unmade fun _ => by rw [given?, edits]
  have changed := turn.before.store.layers.editFeature_changed turn.before.now datasource geoId
    feature
  rw [wrote] at changed
  cases changed with
  | committed is backend =>
    obtain ⟨former, place, replaced, loaded, position, among, rfl, rfl⟩ := is
    have formerWellFormed := LayerStore.wellFormed_of_load loaded
    refine changed_redone logged nothing loaded backend
      (fun state => redo_edited state
        (wellFormed.replacing (formerWellFormed.features replaced among))) ?_
    rw [FeatureCollection.exchanging, position]

/-- The features that the command brings are well formed, as is whatever was read as one. -/
def WellFormed (turn : Turn) : Prop :=
  ∀ feature, turn.command.feature? = some feature → feature.WellFormed

/-- Each command does to the layers what its entry says, with the collection that it brought. -/
theorem redone (wellKept : turn.before.registry.WellKept) (wellFormed : turn.WellFormed)
    (kept : ¬ turn.Drops) : turn.Redone := by
  cases answered : turn.answer with
  | error error => exact failed_redone wellKept answered
  | ok outcome =>
    obtain ⟨before, caller, command⟩ := turn
    cases command with
    | insertFeature given feature =>
      exact inserted_redone kept (wellFormed feature rfl) rfl answered
    | editFeature given geoId feature =>
      exact edited_redone kept (wellFormed feature rfl) rfl answered
    | deleteDatasource deleted => exact deleted_redone kept rfl answered
    | createDatasource named layer => exact created_redone kept rfl answered
    | importFile path => exact imported_redone kept rfl answered
    | ping | createApikey | insertApikey _ | exportApikeys | exportApikey _ | assignDatasource _ _
    | exportDatasources | exportDatasource _ | exportFeature _ _ | exportSnapshots _
    | exportSnapshot _ _ => exact aside_redone rfl (fun _ => rfl) rfl

end Turn

/-! ## Runs -/

/-- By induction on the run.  Every command takes from the collections exactly those that it
brought, which leaves the others to the commands behind it. -/
theorem Run.reconstructed {turns : List Turn} {gateway : Gateway} (run : Run turns gateway)
    (kept : ∀ turn ∈ turns, ¬ turn.Drops) (wellFormed : ∀ turn ∈ turns, turn.WellFormed)
    (more : List FeatureCollection) :
    (turns.flatMap Turn.logged).foldl JournalEntry.redo
      ⟨fun _ => none, turns.flatMap Turn.brought ++ more⟩ = ⟨gateway.content?, more⟩ := by
  induction run generalizing more with
  | @start gateway noCustomers noLayers =>
    have content : gateway.content? = fun _ => none := by
      funext datasource
      rw [content?]
      rcases noLayers with inMemory | onDisk
      · rw [inMemory]
        rfl
      · rw [onDisk]
        rfl
    rw [content]
    rfl
  | @outside turns gateway next sameRegistry sameLayers run ih =>
    have content : next.content? = gateway.content? := by
      funext datasource
      rw [content?, sameLayers, content?]
    rw [content]
    exact ih kept wellFormed more
  | @turn turns gateway caller command run ih =>
    obtain ⟨earlierKept, lastKept⟩ := List.forall_mem_append.1 kept
    obtain ⟨earlier, last⟩ := List.forall_mem_append.1 wellFormed
    have redone : (⟨gateway, caller, command⟩ : Turn).Redone :=
      Turn.redone run.reachable.wellKept (last _ List.mem_cons_self) (lastKept _ List.mem_cons_self)
    rw [List.flatMap_append, List.flatMap_append, List.flatMap_singleton, List.flatMap_singleton,
      List.foldl_append, List.append_assoc, ih earlierKept earlier]
    exact redone more

/-- Runs in which no entry was dropped, which left the same log and in which layers were made of the
same collections, one after the other, leave the same layers with the same content. -/
theorem Run.content_determined {turns others : List Turn} {gateway other : Gateway}
    (run : Run turns gateway) (otherRun : Run others other)
    (kept : ∀ turn ∈ turns ++ others, ¬ turn.Drops)
    (wellFormed : ∀ turn ∈ turns ++ others, turn.WellFormed)
    (sameLog : turns.flatMap Turn.logged = others.flatMap Turn.logged)
    (sameBrought : turns.flatMap Turn.brought = others.flatMap Turn.brought) :
    gateway.content? = other.content? := by
  obtain ⟨keptHere, keptThere⟩ := List.forall_mem_append.1 kept
  obtain ⟨here, there⟩ := List.forall_mem_append.1 wellFormed
  have first := run.reconstructed keptHere here []
  have second := otherRun.reconstructed keptThere there []
  rw [sameLog, sameBrought] at first
  exact congrArg Reconstruction.content (first.symm.trans second)

/-- What `making` and `exchanging` do, on a disk. -/
def exchangingOnDisk : List Turn :=
  let create : Turn := { making with before := { fresh (.onDisk {}) with clock := 5 } }
  [create, { exchanging with before := create.after }]

theorem content_determined_onDisk :
    Run [making, exchanging] exchanging.after ∧
      Run exchangingOnDisk (exchangingOnDisk.getLast nofun).after ∧
      exchanging.after.content? = (exchangingOnDisk.getLast nofun).after.content? := by
  have run : Run [making, exchanging] exchanging.after :=
    .turn _ _ (.turn _ _ (.start rfl (.inl rfl)))
  have otherRun : Run exchangingOnDisk (exchangingOnDisk.getLast nofun).after :=
    .turn _ _ (.turn _ _ (.start rfl (.inr rfl)))
  have undropped : ∀ turn ∈ [making, exchanging] ++ exchangingOnDisk, ¬ turn.Drops := by
    rintro turn member ⟨-, -, blocked⟩
    have accepts : ∀ turn ∈ [making, exchanging] ++ exchangingOnDisk,
        turn.before.journal.accepts = true := by
      decide +kernel
    exact blocked ((JournalQueue.accepts_iff _).1 (accepts turn member))
  have wellFormed : ∀ turn ∈ [making, exchanging] ++ exchangingOnDisk, turn.WellFormed := by
    have renamed := (Feature.wellFormed_ofGeometry (.bool true)).withGeoId "renamed"
    intro turn member feature given
    simp only [exchangingOnDisk, List.mem_append, List.mem_cons, List.not_mem_nil, or_false]
      at member
    rcases member with (rfl | rfl) | rfl | rfl <;> cases given <;> exact renamed
  exact ⟨run, otherRun, run.content_determined otherRun undropped wellFormed
    (by decide +kernel) (by decide +kernel)⟩

/-! ## A log that says too little -/

/-- What `making` does, but without a feature. -/
def makingEmpty : Turn :=
  { making with command := .createDatasource (some ⟨"d"⟩) none }

/-- The log alone does not say what is in a layer that was made of a collection. -/
theorem content_undetermined :
    ¬ ∀ turns others gateway other, Run turns gateway → Run others other →
      (∀ turn ∈ turns ++ others, ¬ turn.Drops) →
      (∀ turn ∈ turns ++ others, ∀ error, turn.answer = .error error →
        error.kind ≠ .storage) →
      turns.flatMap Turn.logged = others.flatMap Turn.logged →
      gateway.content? = other.content? := by
  intro claim
  have run : Run [making] making.after := .turn _ _ (.start rfl (.inl rfl))
  have otherRun : Run [makingEmpty] makingEmpty.after := .turn _ _ (.start rfl (.inl rfl))
  have undropped : ∀ turn ∈ [making] ++ [makingEmpty], ¬ turn.Drops := by
    rintro turn member ⟨-, -, blocked⟩
    have accepts : ∀ turn ∈ [making] ++ [makingEmpty], turn.before.journal.accepts = true := by
      decide +kernel
    exact blocked ((JournalQueue.accepts_iff _).1 (accepts turn member))
  have answered : ∀ turn ∈ [making] ++ [makingEmpty],
      turn.answer = .ok (.datasource ⟨"d"⟩) := by
    decide +kernel
  have same := claim _ _ _ _ run otherRun undropped
    (fun turn member error failed => by cases (answered turn member).symm.trans failed)
    (by decide +kernel)
  have differ : making.after.content? ⟨"d"⟩ ≠ makingEmpty.after.content? ⟨"d"⟩ := by
    decide +kernel
  exact differ (congrFun same _)

end Gateway

end LayerGateway
