import LayerGateway.Proofs.Gateway.Deletion
import LayerGateway.Proofs.Gateway.Replay

/-!
# The commit log follows the store

Whoever has the collection that a layer was made of, and the log, can tell what is in the layer,
as long as the log has every entry and the store reads what it wrote.

* `Turn.Writes` says what a command writes to a layer, and `Turn.Follows` how its entry follows.
* `Run.content_replayed` says that what is replayed of a run is what is in the layer.
* `drifting` is a run after which it is not: the store read another number than it wrote.
-/

namespace LayerGateway.Gateway

def content? (gateway : Gateway) (datasource : DatasourceId) : Option Bytes :=
  gateway.store.layers.backend.content? datasource

namespace Turn

/-! ## Commands and their entries -/

/-- The entries that the journal took of the command. -/
def logged (turn : Turn) : List JournalEntry :=
  turn.after.journal.waiting.drop turn.before.journal.waiting.length

/-- The command had an entry that the journal did not take. -/
structure Drops (turn : Turn) : Prop where
  mutates : turn.command.isMutation = true
  answered : ∃ outcome, turn.answer = .ok outcome
  blocked : ¬ turn.before.journal.Open

/-- The collection of which the command made the layer. -/
def given? (turn : Turn) (datasource : DatasourceId) : Option FeatureCollection :=
  match turn.command, turn.answer with
  | .createDatasource _ layer, .ok (.datasource made) =>
      if made = datasource then some (layer.getD .empty) else none
  | .importFile path, .ok (.datasource made) =>
      if made = datasource then
        (FeatureCollection.load turn.before.files turn.before.converter path).toOption
      else none
  | _, _ => none

inductive Writes (turn : Turn) (datasource : DatasourceId) : FeatureCollection → Prop where
  | made {collection : FeatureCollection} (given : turn.given? datasource = some collection) :
      turn.Writes datasource collection
  | inserted {feature : Feature} {geoId : String} {former : FeatureCollection} {outcome : Outcome}
      (inserts : turn.command = .insertFeature datasource feature)
      (answered : turn.answer = .ok outcome)
      (stores : (turn.before.store.layers.insertFeature turn.before.now
        turn.before.names.feature.1 datasource feature).1 = .ok geoId)
      (loaded : turn.before.store.layers.load datasource = .ok former) :
      turn.Writes datasource { former with
        features := former.features ++
          [if feature.geoId?.isNone then feature.withGeoId geoId else feature] }
  | edited {geoId : String} {feature stored : Feature} {former : FeatureCollection} {place : Nat}
      {outcome : Outcome} (edits : turn.command = .editFeature datasource geoId feature)
      (answered : turn.answer = .ok outcome)
      (stores : (turn.before.store.layers.editFeature turn.before.now datasource geoId
        feature).1 = .ok stored)
      (loaded : turn.before.store.layers.load datasource = .ok former)
      (position : former.position? geoId = some place) :
      turn.Writes datasource { former with features := former.features.set place stored }

/-- What the entries of the command make of a layer. -/
def replay (turn : Turn) (datasource : DatasourceId) (replica : Replica) : Replica :=
  match turn.given? datasource with
  | some collection => collection.replica
  | none => turn.logged.foldl (JournalEntry.replay datasource) replica

section Logged

variable {turn : Turn} {datasource : DatasourceId} {entry : JournalEntry}

theorem logged_of_unchanged (same : turn.after.journal = turn.before.journal) :
    turn.logged = [] := by
  rw [logged, same, List.drop_length]

theorem logged_of_offered (offered : turn.before.journal.Offered entry turn.after.journal) :
    turn.logged = [entry] ∨ turn.logged = [] := by
  unfold logged
  generalize turn.after.journal = after at offered
  cases offered with
  | appended free => exact .inl List.drop_left
  | dropped blocked => exact .inr List.drop_length

theorem logged_of_enqueue (kept : ¬ turn.Drops) (mutates : turn.command.isMutation = true)
    {outcome : Outcome} (answered : turn.answer = .ok outcome)
    (enqueued : turn.after.journal = (turn.before.journal.enqueue entry).2) :
    turn.logged = [entry] := by
  have offered := turn.before.journal.offered_enqueue entry
  rw [← enqueued] at offered
  unfold logged
  generalize turn.after.journal = after at offered
  cases offered with
  | appended free => exact List.drop_left
  | dropped blocked => exact absurd ⟨mutates, ⟨outcome, answered⟩, blocked⟩ kept

theorem journal_of_query (query : turn.command.isMutation = false) :
    turn.after.journal = turn.before.journal := by
  have quiet : Quiet (dispatch turn.caller turn.command) :=
    Looks.query (looks_of_blind fun _ _ _ => rfl) turn.caller turn.command query
  exact congrArg (·.1) (quiet turn.before)

theorem logged_of_failed {error : GatewayError} (answered : turn.answer = .error error) :
    turn.logged = [] := by
  refine logged_of_unchanged ?_
  cases kind : turn.command.isMutation with
  | false => exact journal_of_query kind
  | true =>
    have announces := mutation_announces turn.before turn.caller turn.command kind
    rw [Announces, failed answered] at announces
    exact announces.journal

/-- Commands log under their own names. -/
theorem method_of_logged (turn : Turn) :
    ∀ entry ∈ turn.logged, entry.method = turn.command.method.name := by
  cases answered : turn.answer with
  | error error =>
    rw [logged_of_failed answered]
    nofun
  | ok outcome =>
    cases kind : turn.command.isMutation with
    | false =>
      rw [logged_of_unchanged (journal_of_query kind)]
      nofun
    | true =>
      have announces := mutation_announces turn.before turn.caller turn.command kind
      rw [Announces, ran answered] at announces
      obtain ⟨data, offered⟩ := announces.1.journal
      rcases logged_of_offered offered with one | none
      · rw [one]
        exact List.forall_mem_singleton.2 rfl
      · rw [none]
        nofun

theorem foldl_replay_of_method (noInsertion : turn.command.method ≠ .insertFeature)
    (noEdit : turn.command.method ≠ .editFeature) (replica : Replica) :
    turn.logged.foldl (JournalEntry.replay datasource) replica = replica := by
  have named := turn.method_of_logged
  generalize turn.logged = entries at named
  induction entries with
  | nil => rfl
  | cons entry entries ih =>
    obtain ⟨first, rest⟩ := List.forall_mem_cons.1 named
    have ignored : entry.replay datasource replica = replica := by
      refine JournalEntry.replay_of_method ?_ ?_ <;> rw [first]
      · exact Method.name_ne noInsertion
      · exact Method.name_ne noEdit
    rw [List.foldl_cons, ignored, ih rest]

end Logged

end Turn

/-! ## Commands and the layer -/

section Content

variable {gateway : Gateway} {caller : Caller} {command : Command} {datasource made : DatasourceId}

theorem LayersAfter.content?_eq {later : LayerStore}
    (after : gateway.LayersAfter caller command later)
    (other : gateway.changed? command ≠ some datasource) :
    later.backend.content? datasource = gateway.content? datasource := by
  cases after with
  | same => rfl
  | @ran α operation names id about changed allowed =>
    have differ : datasource ≠ id := by
      rintro rfl
      exact other changed
    have touched := gateway.store.layers.run_touched operation gateway.now names
    rw [about] at touched
    rcases touched.backend with same | ⟨timestamp, content, committed⟩ | removed
    · rw [same]
      rfl
    · rw [committed, Backend.content?_commit_of_ne _ differ]
      rfl
    · rw [removed, Backend.content?_remove_of_ne _ differ]
      rfl

theorem deleteLayer_backend_cases {store : LayerStore} (id : DatasourceId) :
    (store.deleteLayer id).2.backend = store.backend ∨
      (store.deleteLayer id).2.backend = store.backend.remove id := by
  unfold LayerStore.deleteLayer
  split
  · exact .inr rfl
  · exact .inl rfl

/-- A deletion removes the layer or leaves it as it is, whatever it answers. -/
theorem deleteDatasource_backend (gateway : Gateway) (caller : Caller) (made : DatasourceId) :
    gateway.Leaves (·.store.layers.backend)
      (fun later => later = gateway.store.layers.backend ∨
        later = gateway.store.layers.backend.remove made)
      (dispatch caller (.deleteDatasource made)) := by
  rw [Leaves]
  rcases ran : dispatch caller (.deleteDatasource made) gateway with ⟨answer, after⟩
  obtain ⟨error, -, rfl⟩ | deletes := deletes_or_refused ran
  · exact .inl rfl
  rw [deletes.parts.2]
  rcases gateway.store.run_layers gateway.now gateway.names (.deleteLayer made) with same | ran
  · exact .inl (congrArg LayerStore.backend same)
  · exact (deleteLayer_backend_cases made).imp (congrArg LayerStore.backend ran).trans
      (congrArg LayerStore.backend ran).trans

theorem Made.content? {layer : FeatureCollection} {method : Method} {data : List (String × Json)}
    {after : Gateway} (done : gateway.Made caller method made layer data after)
    (datasource : DatasourceId) :
    after.content? datasource =
      if made = datasource then some layer.bytes else gateway.content? datasource := by
  have changed := gateway.store.layers.insertLayer_changed gateway.now made layer
  rw [done.layers] at changed
  cases changed with
  | committed is backend =>
    subst is
    rw [Gateway.content?, backend]
    split
    · next same => rw [same, Backend.content?_commit_self]
    · next other => exact Backend.content?_commit_of_ne _ (Ne.symm other) _ _

end Content

/-! ## Entries follow commands -/

namespace Turn

variable {turn : Turn} {datasource : DatasourceId}

/-- What the command did to the layer, and what is replayed of it. -/
inductive Follows (turn : Turn) (datasource : DatasourceId) : Prop where
  | made {collection : FeatureCollection} (given : turn.given? datasource = some collection)
      (content : turn.after.content? datasource = some collection.bytes)
  | changed {former collection : FeatureCollection} (unmade : turn.given? datasource = none)
      (loaded : turn.before.store.layers.load datasource = .ok former)
      (writes : turn.Writes datasource collection)
      (content : turn.after.content? datasource = some collection.bytes)
      (replays : former.Storable → turn.replay datasource former.replica = collection.replica)
  | untouched (unmade : turn.given? datasource = none)
      (content : turn.after.content? datasource = turn.before.content? datasource ∨
        turn.after.content? datasource = none)
      (replays : ∀ replica, turn.replay datasource replica = replica)

theorem replay_of_unmade (unmade : turn.given? datasource = none) (replica : Replica) :
    turn.replay datasource replica =
      turn.logged.foldl (JournalEntry.replay datasource) replica := by
  rw [replay, unmade]

theorem ran_command {command : Command} {outcome : Outcome} (is : turn.command = command)
    (answered : turn.answer = .ok outcome) :
    dispatch turn.caller command turn.before = (.ok outcome, turn.after) :=
  is ▸ ran answered

theorem content?_of_other (other : turn.before.changed? turn.command ≠ some datasource) :
    turn.after.content? datasource = turn.before.content? datasource :=
  (dispatch_layers turn.before turn.caller turn.command).content?_eq other

theorem deleted_follows {deleted : DatasourceId}
    (deletes : turn.command = .deleteDatasource deleted) : turn.Follows datasource := by
  have unmade : turn.given? datasource = none := by
    rw [given?, deletes]
  refine .untouched unmade ?_ fun replica => ?_
  · have backend := deleteDatasource_backend turn.before turn.caller deleted
    rw [← deletes] at backend
    change turn.after.store.layers.backend = _ ∨ turn.after.store.layers.backend = _ at backend
    unfold content?
    rcases backend with same | removed
    · exact .inl (congrArg (·.content? datasource) same)
    · rw [removed]
      by_cases own : deleted = datasource
      · exact .inr (own ▸ Backend.content?_remove_self _ _)
      · exact .inl (Backend.content?_remove_of_ne _ (Ne.symm own))
  · rw [replay_of_unmade unmade]
    refine foldl_replay_of_method ?_ ?_ replica <;> rw [deletes] <;> nofun

theorem failed_follows {error : GatewayError} (answered : turn.answer = .error error)
    (noDeletion : ∀ deleted, turn.command ≠ .deleteDatasource deleted) :
    turn.Follows datasource := by
  have unmade : turn.given? datasource = none := by
    rw [given?, answered]
    cases turn.command <;> rfl
  refine .untouched unmade (.inl ?_) fun replica => ?_
  · have undone := dispatch_undone turn.before turn.caller noDeletion error turn.after
      (failed answered)
    rw [content?, undone.backend, content?]
  · rw [replay_of_unmade unmade, logged_of_failed answered]
    rfl

/-- What made a layer of a collection has no entry about features. -/
theorem made_follows {made : DatasourceId} {layer : FeatureCollection} {method : Method}
    {data : List (String × Json)}
    (given : turn.given? datasource = if made = datasource then some layer else none)
    (done : turn.before.Made turn.caller method made layer data turn.after)
    (noInsertion : turn.command.method ≠ .insertFeature)
    (noEdit : turn.command.method ≠ .editFeature) : turn.Follows datasource := by
  have content := done.content? datasource
  by_cases own : made = datasource
  · rw [if_pos own] at given content
    exact .made given content
  · rw [if_neg own] at given content
    refine .untouched given (.inl content) fun replica => ?_
    rw [replay_of_unmade given]
    exact foldl_replay_of_method noInsertion noEdit replica

/-- A command about a feature of another layer leaves this one alone, and says so in its entry. -/
theorem foreign_follows {other : DatasourceId} {method : Method} {geoId : String}
    {feature : Feature} (about : turn.before.changed? turn.command = some other)
    (differ : other ≠ datasource) (unmade : turn.given? datasource = none)
    (logged : turn.logged = [featureEntry method turn.caller other geoId feature]) :
    turn.Follows datasource := by
  refine .untouched unmade (.inl (content?_of_other ?_)) fun replica => ?_
  · rw [about]
    exact fun same => differ (Option.some_inj.1 same)
  · rw [replay_of_unmade unmade, logged]
    exact replay_foreign differ replica

theorem inserted_follows (kept : ¬ turn.Drops) {outcome : Outcome} {given : DatasourceId}
    {feature : Feature} (inserts : turn.command = .insertFeature given feature)
    (answered : turn.answer = .ok outcome) : turn.Follows datasource := by
  have ran := ok_of_guarded (ran_command inserts answered)
  obtain ⟨geoId, stored, enqueued⟩ := insertFeature_ok ran
  have logged := logged_of_enqueue kept (by rw [inserts]; rfl) answered enqueued
  have unmade : turn.given? datasource = none := by
    rw [Turn.given?, inserts]
  by_cases own : given = datasource
  · subst own
    have changed := turn.before.store.layers.insertFeature_changed turn.before.now
      turn.before.names.feature.1 given feature
    have stores := congrArg Prod.fst stored
    rw [stored] at changed
    cases changed with
    | committed is backend =>
      obtain ⟨former, loaded, rfl⟩ := is
      refine .changed unmade loaded (.inserted inserts answered stores loaded) ?_ fun _ => ?_
      · rw [content?, backend, Backend.content?_commit_self]
      · rw [replay_of_unmade unmade, logged]
        exact replay_inserted former
  · exact foreign_follows (by rw [inserts]; rfl) own unmade logged

theorem edited_follows (kept : ¬ turn.Drops) {outcome : Outcome} {given : DatasourceId}
    {geoId : String} {feature : Feature} (edits : turn.command = .editFeature given geoId feature)
    (answered : turn.answer = .ok outcome) : turn.Follows datasource := by
  have ran := ok_of_guarded (ran_command edits answered)
  obtain ⟨stored, wrote, enqueued⟩ := editFeature_ok ran
  have logged := logged_of_enqueue kept (by rw [edits]; rfl) answered enqueued
  have unmade : turn.given? datasource = none := by
    rw [Turn.given?, edits]
  by_cases own : given = datasource
  · subst own
    have changed := turn.before.store.layers.editFeature_changed turn.before.now given geoId feature
    have stores := congrArg Prod.fst wrote
    rw [wrote] at changed
    cases changed with
    | committed is backend =>
      obtain ⟨former, place, replaced, loaded, position, -, -, rfl⟩ := is
      have writes := Writes.edited edits answered stores loaded position
      refine .changed unmade loaded writes ?_ fun storable => ?_
      · rw [content?, backend, Backend.content?_commit_self]
      · rw [replay_of_unmade unmade, logged]
        exact replay_edited (FeatureCollection.wellFormed_of_storable storable) position
  · exact foreign_follows (by rw [edits]; rfl) own unmade logged

/-- What is about no layer leaves this one alone, and has no entry about a feature. -/
theorem aside_follows (noLayer : turn.before.changed? turn.command = none)
    (unmade : turn.given? datasource = none) (noInsertion : turn.command.method ≠ .insertFeature)
    (noEdit : turn.command.method ≠ .editFeature) : turn.Follows datasource := by
  refine .untouched unmade (.inl (content?_of_other ?_)) fun replica => ?_
  · rw [noLayer]
    nofun
  · rw [replay_of_unmade unmade]
    exact foldl_replay_of_method noInsertion noEdit replica

theorem createDatasource_follows {named : Option DatasourceId} {layer : Option FeatureCollection}
    {outcome : Outcome} (creates : turn.command = .createDatasource named layer)
    (answered : turn.answer = .ok outcome) : turn.Follows datasource := by
  have ran := ok_of_guarded (ran_command creates answered)
  obtain ⟨made, rfl, done⟩ := createDatasource_made ran
  refine made_follows ?_ done ?_ ?_
  · rw [Turn.given?, creates, answered]
  · rw [creates]
    nofun
  · rw [creates]
    nofun

theorem importFile_follows {path : String} {outcome : Outcome}
    (imports : turn.command = .importFile path) (answered : turn.answer = .ok outcome) :
    turn.Follows datasource := by
  have ran := ok_of_guarded (ran_command imports answered)
  obtain ⟨made, collection, rfl, loaded, done⟩ := importFile_made ran
  refine made_follows ?_ done ?_ ?_
  · simp only [Turn.given?, imports, answered, loaded]
    rfl
  · rw [imports]
    nofun
  · rw [imports]
    nofun

/-- Each command does to the layer what its entry says. -/
theorem follows (turn : Turn) (kept : ¬ turn.Drops) (datasource : DatasourceId) :
    turn.Follows datasource := by
  by_cases deletion : ∃ deleted, turn.command = .deleteDatasource deleted
  · obtain ⟨deleted, deletes⟩ := deletion
    exact deleted_follows deletes
  have noDeletion := not_exists.1 deletion
  cases answered : turn.answer with
  | error error => exact failed_follows answered noDeletion
  | ok outcome =>
    obtain ⟨before, caller, command⟩ := turn
    cases command with
    | insertFeature given feature => exact inserted_follows kept rfl answered
    | editFeature given geoId feature => exact edited_follows kept rfl answered
    | createDatasource named layer => exact createDatasource_follows rfl answered
    | importFile path => exact importFile_follows rfl answered
    | deleteDatasource deleted => exact absurd rfl (noDeletion deleted)
    | ping | createApikey | insertApikey _ | exportApikeys | exportApikey _ | assignDatasource _ _
    | exportDatasources | exportDatasource _ | exportFeature _ _ | exportSnapshots _
    | exportSnapshot _ _ => exact aside_follows rfl rfl nofun nofun

end Turn

/-! ## Runs -/

/-- The commands since the last one that made the layer. -/
def sinceMade (datasource : DatasourceId) (turns : List Turn) : List Turn :=
  turns.foldl (fun since turn =>
    if (turn.given? datasource).isSome then [turn] else since ++ [turn]) []

/-- What is replayed of a layer: the collection of which it was made, and the entries since. -/
def replayed (datasource : DatasourceId) (turns : List Turn) : Replica :=
  turns.foldl (fun replica turn => turn.replay datasource replica) ⟨[], .empty⟩

section Runs

variable {turns : List Turn} {gateway : Gateway} {datasource : DatasourceId}

theorem sinceMade_snoc (turn : Turn) :
    sinceMade datasource (turns ++ [turn]) =
      if (turn.given? datasource).isSome then [turn] else sinceMade datasource turns ++ [turn] := by
  simp [sinceMade]

theorem replayed_snoc (turn : Turn) :
    replayed datasource (turns ++ [turn]) =
      turn.replay datasource (replayed datasource turns) := by
  simp [replayed]

theorem content?_of_load {store : LayerStore} {collection : FeatureCollection}
    (loaded : store.load datasource = .ok collection) :
    ∃ content, store.backend.content? datasource = some content :=
  Option.isSome_iff_exists.1 (LayerStore.contains_of_load loaded)

theorem mem_sinceMade_snoc (turn : Turn) : turn ∈ sinceMade datasource (turns ++ [turn]) := by
  rw [sinceMade_snoc]
  split <;> simp

/-- By induction on the run.  What was in the layer before a command is what the store reads when
it carries the command out, because what was written last is storable. -/
theorem Run.content_storable (run : Run turns gateway) (kept : ∀ turn ∈ turns, ¬ turn.Drops)
    (storable : ∀ turn ∈ sinceMade datasource turns, ∀ collection,
      turn.Writes datasource collection → collection.Storable)
    {content : Bytes} (there : gateway.content? datasource = some content) :
    ∃ collection : FeatureCollection, collection.Storable ∧ collection.bytes = content ∧
      collection.replica = replayed datasource turns := by
  induction run generalizing content with
  | start noCustomers noLayers =>
    rw [content?] at there
    rcases noLayers with inMemory | onDisk
    · rw [inMemory] at there
      cases there
    · rw [onDisk] at there
      cases there
  | outside sameRegistry sameLayers run ih =>
    rw [content?, sameLayers] at there
    exact ih kept storable there
  | @turn turns gateway caller command run ih =>
    obtain ⟨earlier, last⟩ := List.forall_mem_append.1 kept
    have here := storable _ (mem_sinceMade_snoc ⟨gateway, caller, command⟩)
    have before (unmade : (⟨gateway, caller, command⟩ : Turn).given? datasource = none) :
        ∀ turn ∈ sinceMade datasource turns, ∀ collection,
          turn.Writes datasource collection → collection.Storable := by
      intro turn member
      refine storable turn ?_
      rw [sinceMade_snoc, unmade]
      exact List.mem_append_left _ member
    rw [replayed_snoc]
    cases Turn.follows ⟨gateway, caller, command⟩ (last _ List.mem_cons_self) datasource with
    | @made collection given content =>
      cases there.symm.trans content
      refine ⟨collection, here collection (.made given), rfl, ?_⟩
      rw [Turn.replay, given]
    | @changed former collection unmade loaded writes content replays =>
      cases there.symm.trans content
      refine ⟨collection, here collection writes, rfl, ?_⟩
      -- What the store read of the layer is what was written last, and so what is replayed.
      obtain ⟨held, was⟩ := content?_of_load loaded
      obtain ⟨kept, wasStorable, rfl, same⟩ := ih earlier (before unmade) was
      obtain rfl : former = kept :=
        Except.ok.inj (loaded.symm.trans (LayerStore.load_of_storable was wasStorable))
      rw [← same, replays wasStorable]
    | untouched unmade content replays =>
      rw [replays]
      rcases content with same | none
      · exact ih earlier (before unmade) (same.symm.trans there)
      · cases none.symm.trans there

/-- After a run in which no entry was dropped, and in which only storable collections were written
to a layer since it was made, what is replayed of the layer is what is in it: the features with
their addresses as they are, their properties and further members, and those of the layer. -/
theorem Run.content_replayed (run : Run turns gateway) (kept : ∀ turn ∈ turns, ¬ turn.Drops)
    (storable : ∀ turn ∈ sinceMade datasource turns, ∀ collection,
      turn.Writes datasource collection → collection.Storable)
    (there : gateway.store.layers.backend.contains datasource = true) :
    ∃ collection, gateway.store.layers.load datasource = .ok collection ∧
      collection.replica = replayed datasource turns := by
  obtain ⟨content, there⟩ := Option.isSome_iff_exists.1 there
  obtain ⟨collection, readable, rfl, same⟩ := run.content_storable kept storable there
  exact ⟨collection, LayerStore.load_of_storable there readable, same⟩

end Runs

theorem mem_of_mem_sinceMade {turns : List Turn} {datasource : DatasourceId} {turn : Turn}
    (member : turn ∈ sinceMade datasource turns) : turn ∈ turns := by
  have each (since : List Turn) (among : turn ∈ turns.foldl (fun since turn =>
      if (turn.given? datasource).isSome then [turn] else since ++ [turn]) since) :
      turn ∈ since ∨ turn ∈ turns := by
    clear member
    induction turns generalizing since with
    | nil => exact .inl among
    | cons first later ih =>
      rcases ih _ among with next | last
      · dsimp only at next
        split at next
        · exact .inr (List.mem_singleton.1 next ▸ List.mem_cons_self)
        · refine (List.mem_append.1 next).imp_right fun new => ?_
          exact List.mem_singleton.1 new ▸ List.mem_cons_self
      · exact .inr (List.mem_cons_of_mem _ last)
  exact (each [] member).resolve_left List.not_mem_nil

/-- A feature with a geometry and a number for its address. -/
def numbered (geometry : Json) : Feature :=
  (Feature.ofGeometry geometry).withProperty Feature.addressKey (.number (.integer 42))

/-- A trusted caller makes a layer of one feature. -/
def making : Turn where
  before := fresh .inMemory
  caller := .trusted
  command := .createDatasource (some ⟨"d"⟩) (some ⟨[numbered .null], .empty⟩)

/-- The caller puts a feature with another address in its place. -/
def exchanging : Turn where
  before := making.after
  caller := .trusted
  command := .editFeature ⟨"d"⟩ "42" ((Feature.ofGeometry (.bool true)).withGeoId "renamed")

theorem storable_exchanging : ∀ turn ∈ [making, exchanging], ∀ collection,
    turn.Writes ⟨"d"⟩ collection → collection.Storable := by
  have storable (geometry : Bool) : FeatureCollection.Storable
      ⟨[numbered (if geometry then .bool true else .null)], .empty⟩ := by
    unfold FeatureCollection.Storable
    revert geometry
    decide +kernel
  rw [List.forall_mem_cons, List.forall_mem_singleton]
  constructor
  · rintro collection (given | ⟨inserts, -, -, -⟩ | ⟨edits, -, -, -, -⟩)
    · have made : making.given? ⟨"d"⟩ = some ⟨[numbered .null], .empty⟩ := by decide +kernel
      cases made.symm.trans given
      exact storable false
    · cases inserts
    · cases edits
  · rintro collection (given | ⟨inserts, -, -, -⟩ | ⟨edits, -, stores, loaded, position⟩)
    · cases given
    · cases inserts
    · cases edits
      have held : exchanging.before.store.layers.load ⟨"d"⟩ = .ok ⟨[numbered .null], .empty⟩ := by
        decide +kernel
      have answers : (exchanging.before.store.layers.editFeature exchanging.before.now ⟨"d"⟩ "42"
          ((Feature.ofGeometry (.bool true)).withGeoId "renamed")).1 =
            .ok (numbered (.bool true)) := by
        decide +kernel
      have place : FeatureCollection.position? ⟨[numbered .null], .empty⟩ "42" = some 0 := by
        decide +kernel
      cases held.symm.trans loaded
      cases answers.symm.trans stores
      cases place.symm.trans position
      exact storable true

theorem content_replayed_exchanging : Run [making, exchanging] exchanging.after ∧
    ∃ collection, exchanging.after.store.layers.load ⟨"d"⟩ = .ok collection ∧
      collection.replica = replayed ⟨"d"⟩ [making, exchanging] ∧
      replayed ⟨"d"⟩ [making, exchanging] = ⟨[(numbered (.bool true)).toJson], .empty⟩ := by
  have run : Run [making, exchanging] exchanging.after :=
    .turn _ _ (.turn _ _ (.start rfl (.inl rfl)))
  have kept : ∀ turn ∈ [making, exchanging], ¬ turn.Drops := by
    rintro turn member ⟨-, -, blocked⟩
    have accepts : ∀ turn ∈ [making, exchanging], turn.before.journal.accepts = true := by
      decide +kernel
    exact blocked ((JournalQueue.accepts_iff _).1 (accepts turn member))
  have held : exchanging.after.store.layers.load ⟨"d"⟩ =
      .ok ⟨[numbered (.bool true)], .empty⟩ := by
    decide +kernel
  have there : exchanging.after.store.layers.backend.contains ⟨"d"⟩ = true :=
    Option.isSome_iff_exists.2 (content?_of_load held)
  obtain ⟨collection, loaded, same⟩ := run.content_replayed kept
    (fun turn member => storable_exchanging turn (mem_of_mem_sinceMade member)) there
  exact ⟨run, collection, loaded, same, by decide +kernel⟩

/-! ## A number that is not kept -/

/-- A number that is read of the text 30e22, but not of its own. -/
def heavy : Number :=
  .real ⟨false, 8940696716308594, 25⟩

/-- The number that is read of the text of `heavy`. -/
def lighter : Number :=
  .real ⟨false, 8940696716308593, 25⟩

def addressed (address : Json) : Feature :=
  (Feature.ofGeometry .null).withProperty Feature.addressKey address

/-- A trusted caller makes a layer, and adds a feature with this number for its address, and then
another one. -/
def drifting : List Turn :=
  let create : Turn := ⟨fresh .inMemory, .trusted, .createDatasource (some ⟨"d"⟩) none⟩
  let insert : Turn := ⟨create.after, .trusted, .insertFeature ⟨"d"⟩ (addressed (.number heavy))⟩
  [create, insert, ⟨insert.after, .trusted, .insertFeature ⟨"d"⟩ (addressed (.string "b"))⟩]

/-- It is not enough that a layer is storable in the end: by then the store may have written
another number, which it reads, in the place of one that it does not. -/
theorem storable_not_replayed :
    ¬ ∀ turns gateway datasource collection, Run turns gateway →
      (∀ turn ∈ turns, ¬ turn.Drops) →
      gateway.store.layers.load datasource = .ok collection → collection.Storable →
      collection.replica = replayed datasource turns := by
  intro claim
  have run : Run drifting (drifting.getLast nofun).after :=
    .turn _ _ (.turn _ _ (.turn _ _ (.start rfl (.inl rfl))))
  have kept : ∀ turn ∈ drifting, ¬ turn.Drops := by
    rintro turn member ⟨-, -, blocked⟩
    have accepts : ∀ turn ∈ drifting, turn.before.journal.accepts = true := by decide +kernel
    exact blocked ((JournalQueue.accepts_iff _).1 (accepts turn member))
  let content : FeatureCollection :=
    ⟨[addressed (.number lighter), addressed (.string "b")], .empty⟩
  have loaded : (drifting.getLast nofun).after.store.layers.load ⟨"d"⟩ = .ok content := by
    decide +kernel
  have storable : content.Storable := by
    unfold FeatureCollection.Storable
    decide +kernel
  have differ : content.replica ≠ replayed ⟨"d"⟩ drifting := by decide +kernel
  exact differ (claim drifting _ ⟨"d"⟩ content run kept loaded storable)

example : Json.decode Json.anyValue (.ofText "30e22") = .ok (.number heavy) := by
  decide +kernel

example : Json.decode Json.anyValue (.ofText (String.ofList heavy.text)) =
    .ok (.number lighter) := by
  decide +kernel

end LayerGateway.Gateway
