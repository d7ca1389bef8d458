import LayerGateway.Proofs.Gateway.Layers
import LayerGateway.Proofs.Gateway.Run
import LayerGateway.Proofs.Gateway.Success
import LayerGateway.Proofs.Store.Snapshots

/-!
# The time in an event

An event has the time that the clock reads when the viewers are told.  The version that the change
made is older: the clock was read for it before, and if it had not gone on since the last version,
the new one comes one millisecond behind that.  So the time in the event addresses the change
exactly if the time of the version is not behind it; otherwise what is found at the time of the
event is what was found there before.

* `Gateway.Undisturbed` says of which gateways this holds for a layer, whatever their clock did.
* `LayerStore.commit_dated` says what a commit leaves to be read at a time.
* `Gateway.Dated` says what an event and the layer have to do with each other, and
  `Undisturbed.dispatch_dated` that this is so for every command that gives a layer new content.
-/

namespace LayerGateway

/-! ## Versions and times -/

namespace LayerStore

variable {store later : LayerStore} {id : DatasourceId} {now told : Int} {spare : Nat}
  {commits : List (Int × FeatureCollection)} {collection : FeatureCollection}

/-- The time of the last version of a layer. -/
def newest? (store : LayerStore) (id : DatasourceId) : Option Int :=
  match store.timeseries id with
  | .ok times => times.getLast?
  | .error _ => none

/-- A commit for which the clock read `now`, and what is found at the time `told`.  The version
has the time `now` if that is behind the last version, and if not, it comes right behind that one.
Where it is reached, the layer is found as it is read now, and where it is not, as it was found
before. -/
structure Dates (store later : LayerStore) (id : DatasourceId) (now told stamp : Int)
    (stored : Bytes) : Prop where
  content : later.backend.content? id = some stored
  newest : later.newest? id = some stamp
  passed : (∀ last, store.newest? id = some last → last < now) → stamp = now
  waiting : ∀ last, store.newest? id = some last → now ≤ last → stamp = last + 1
  reached : stamp ≤ told → later.previous id told = (later.load id).map (stamp, ·)
  unreached : told < stamp → later.previous id told =
    if (store.newest? id).isSome then store.previous id told
    else .error (.snapshotNotFound id told)

theorem Holds.newest?_eq (holds : store.Holds id commits spare) :
    store.newest? id = lastTime? (stamped commits) := by
  unfold newest? lastTime?
  by_cases stored : commits = []
  · have refused : store.timeseries id = .error (.layerNotFound id) := by
      rw [timeseries, holds.demand_eq, if_pos stored]
      rfl
    rw [refused, stored]
    rfl
  · rw [holds.timeseries_eq stored]
    exact List.getLast?_map

theorem Holds.newest?_isSome_iff (holds : store.Holds id commits spare) :
    (store.newest? id).isSome ↔ commits ≠ [] := by
  rw [holds.newest?_eq, lastTime?, Option.isSome_map, List.getLast?_isSome]
  cases commits with
  | nil => simp [stamped]
  | cons commit commits => simp [stamped]

/-- A commit dates its version by the reading that it was given, or right behind the last version if
the clock is not past that.  What is found at another reading depends on which of the two is later. -/
theorem commit_dated (holds : store.Holds id commits (spare + 1)) (notBefore : 0 ≤ now)
    (inTime : now + spare < Decimal.signedBound) (small : told < Decimal.signedBound)
    (committed : (store.withSlot id).commit now id collection = .ok later) :
    ∃ stamp, store.Dates later id now told stamp collection.bytes := by
  obtain ⟨_, sameCommit, laterHolds⟩ := commit_holds holds.withSlot notBefore inTime collection
  cases committed.symm.trans sameCommit
  have versions := stamped_snoc commits now collection
  rw [← holds.newest?_eq] at versions
  have nonempty : commits ++ [(now, collection)] ≠ [] := List.append_ne_nil_of_right_ne_nil _ nofun
  have previous := laterHolds.previous_eq_read nonempty small
  -- The versions are those that were there and the new one, which comes last.
  have content : later.backend.content? id = some collection.bytes := by
    rw [laterHolds.content?_eq, List.getLast?_concat]
    rfl
  refine ⟨nextStamp now (store.newest? id), content, ?newest, ?passed, ?waiting, ?reached, ?unreached⟩
  case newest =>
    rw [laterHolds.newest?_eq, versions, lastTime?, List.getLast?_concat]
    rfl
  case passed =>
    intro passed
    cases known : store.newest? id with
    | none => rfl
    | some last => exact if_neg (by have := passed last known; omega)
  case waiting =>
    intro last known waiting
    rw [known]
    exact if_pos waiting
  case reached =>
    intro reached
    rw [previous, versions, List.filter_append, List.filter_cons_of_pos (by simpa using reached),
      List.filter_nil, List.getLast?_concat, load, content]
  case unreached =>
    intro unreached
    -- Without the new version, what is asked for is what was asked for before.
    rw [previous, versions, List.filter_append, List.filter_cons_of_neg (by simpa using unreached),
      List.filter_nil, List.append_nil]
    by_cases stored : commits = []
    · rw [if_neg fun known => holds.newest?_isSome_iff.1 known stored, stored]
      rfl
    · rw [if_pos (holds.newest?_isSome_iff.2 stored), holds.previous_eq_read stored small]

end LayerStore

/-- Whether a command gives a layer new content. -/
def Command.commits : Command → Bool
  | .createDatasource _ _ | .insertFeature _ _ | .editFeature _ _ _ | .importFile _ => true
  | _ => false

theorem Command.isMutation_of_commits {command : Command} (commits : command.commits = true) :
    command.isMutation = true := by
  cases command with
  | createDatasource _ _ | insertFeature _ _ | editFeature _ _ _ | importFile _ => rfl
  | ping | createApikey | insertApikey _ | exportApikeys | exportApikey _ | assignDatasource _ _
  | deleteDatasource _ | exportDatasources | exportDatasource _ | exportFeature _ _
  | exportSnapshots _ | exportSnapshot _ _ => cases commits

namespace Gateway

variable {gateway after : Gateway} {caller : Caller} {command : Command} {id : DatasourceId}
  {spare : Nat} {outcome : Outcome}

/-! ## Layers that are left alone -/

/-- The gateways that come about where no other layer is changed of which the versions are taken
for versions of this one.  The clock may go on or back or stand still; it leaves time for `spare`
more versions. -/
inductive Undisturbed (id : DatasourceId) : Nat → Gateway → Prop where
  | start {gateway : Gateway} (spare : Nat)
      (noLayers : gateway.store.layers = .inMemory ∨ gateway.store.layers = .onDisk {}) :
      Undisturbed id spare gateway
  | turn {gateway : Gateway} {spare : Nat} (caller : Caller) (command : Command)
      (separates : ∀ other, gateway.changed? command = some other → id ≠ other →
        gateway.store.layers.backend.Separates other id)
      (inTime : gateway.now + spare < Decimal.signedBound) :
      Undisturbed id (spare + 1) gateway →
        Undisturbed id spare (dispatch caller command gateway).2
  | outside {gateway next : Gateway} {spare : Nat}
      (sameLayers : next.store.layers = gateway.store.layers) :
      Undisturbed id spare gateway → Undisturbed id spare next
  | restarted {gateway : Gateway} {spare : Nat} :
      Undisturbed id spare gateway → Undisturbed id spare gateway.restarted

/-- A command leaves the versions of a layer in order. -/
theorem LayersAfter.holds {later : LayerStore} {commits : List (Int × FeatureCollection)}
    (after : gateway.LayersAfter caller command later)
    (holds : gateway.store.layers.Holds id commits (spare + 1))
    (separates : ∀ other, gateway.changed? command = some other → id ≠ other →
      gateway.store.layers.backend.Separates other id)
    (inTime : gateway.now + spare < Decimal.signedBound) :
    ∃ commits, later.Holds id commits spare := by
  cases after with
  | same => exact ⟨commits, holds.fewer⟩
  | @ran _ operation names subject about changed _ =>
    have separated : ∀ other, gateway.store.layers.subject? names operation = some other →
        id ≠ other → gateway.store.layers.backend.Separates other id := by
      intro other same
      cases about.symm.trans same
      exact separates subject changed
    obtain ⟨commits, -, held⟩ :=
      LayerStore.run_grown_of_separates holds separated gateway.zero_le_now inTime
    exact ⟨commits, held⟩

theorem Undisturbed.holds (undisturbed : gateway.Undisturbed id spare) :
    ∃ commits, gateway.store.layers.Holds id commits spare := by
  induction undisturbed with
  | start spare noLayers => exact ⟨[], holds_of_fresh noLayers id spare⟩
  | turn caller command separates inTime _ ih =>
    obtain ⟨commits, holds⟩ := ih
    exact (dispatch_layers _ caller command).holds holds separates inTime
  | outside sameLayers _ ih => rwa [sameLayers]
  | restarted _ ih =>
    obtain ⟨commits, holds⟩ := ih
    exact ⟨commits, holds.reopened⟩

/-! ## Events -/

theorem announced_of_ok (commits : command.commits = true)
    (ran : dispatch caller command gateway = (.ok outcome, after)) :
    Announced gateway after command.method (gateway.changed? command) ∧
      ∀ datasource, outcome = .datasource datasource →
        gateway.changed? command = some datasource := by
  have announced := dispatch_announces gateway caller command
  simpa only [ran, Command.isMutation_of_commits commits, if_true] using announced

/-- Who gives a layer new content commits it once, at the time of the command. -/
theorem commit_of_ok (commits : command.commits = true) (about : gateway.changed? command = some id)
    (ran : dispatch caller command gateway = (.ok outcome, after)) :
    ∃ collection, (gateway.store.layers.withSlot id).commit gateway.now id collection =
      .ok after.store.layers := by
  -- What is answered for a new layer is its name.
  have named (datasource : DatasourceId) (answer : outcome = .datasource datasource) :
      datasource = id :=
    Option.some_inj.1 (((announced_of_ok commits ran).2 datasource answer).symm.trans about)
  cases command with
  | createDatasource datasource layer =>
    obtain ⟨made, answer, done⟩ := createDatasource_made ran
    obtain rfl := named made answer
    exact ⟨_, LayerStore.insertLayer_commits done.layers⟩
  | importFile path =>
    obtain ⟨made, collection, answer, -, done⟩ := importFile_made ran
    obtain rfl := named made answer
    exact ⟨_, LayerStore.insertLayer_commits done.layers⟩
  | insertFeature datasource feature =>
    cases about
    obtain ⟨geoId, inserted, -⟩ := insertFeature_ok ran
    exact LayerStore.insertFeature_commits inserted
  | editFeature datasource geoId feature =>
    cases about
    obtain ⟨stored, edited, -⟩ := editFeature_ok ran
    exact LayerStore.editFeature_commits edited
  | ping | createApikey | insertApikey _ | exportApikeys | exportApikey _ | assignDatasource _ _
  | deleteDatasource _ | exportDatasources | exportDatasource _ | exportFeature _ _
  | exportSnapshots _ | exportSnapshot _ _ => cases commits

/-- The event of a command, and what is found at the time in it.  For the version the clock had its
present reading, for the event the next one. -/
structure Dated (gateway after : Gateway) (command : Command) (id : DatasourceId) (stamp : Int)
    (collection : FeatureCollection) : Prop where
  event : after.hub =
    (gateway.hub.broadcast ⟨id, command.method.name, gateway.clock.next.now⟩).2
  dates : gateway.store.layers.Dates after.store.layers id gateway.clock.now
    gateway.clock.next.now stamp collection.bytes

/-- Every command that gives a layer new content announces it with what the clock reads then, after
it was read for the version.  The content is found at the time in the event if and only if the
version is not behind it; in particular it is if the clock was behind the last version and has not
gone back since. -/
theorem Undisturbed.dispatch_dated (undisturbed : gateway.Undisturbed id 1)
    (inTime : gateway.clock.now < Decimal.signedBound)
    (toldInTime : gateway.clock.next.now < Decimal.signedBound) (commits : command.commits = true)
    (about : gateway.changed? command = some id)
    (ran : dispatch caller command gateway = (.ok outcome, after)) :
    ∃ stamp collection, gateway.Dated after command id stamp collection := by
  obtain ⟨collection, committed⟩ := commit_of_ok commits about ran
  obtain ⟨_, holds⟩ := undisturbed.holds
  have inTimeStill : gateway.clock.now + (0 : Nat) < Decimal.signedBound := by omega
  obtain ⟨stamp, dates⟩ :=
    LayerStore.commit_dated holds gateway.zero_le_now inTimeStill toldInTime committed
  refine ⟨stamp, collection, ?_, dates⟩
  rw [(announced_of_ok commits ran).1.hub, about]

/-- A gateway with an empty layer that somebody views, made when the clock read 5. -/
def viewed (layers : LayerStore) : Gateway :=
  let making := { fresh layers with clock := 5 }
  (openView .trusted ⟨"d"⟩ (dispatch .trusted (.createDatasource (some ⟨"d"⟩) none) making).2).2

theorem undisturbed_viewed {layers : LayerStore}
    (noLayers : layers = .inMemory ∨ layers = .onDisk {}) :
    (viewed layers).Undisturbed ⟨"d"⟩ 1 := by
  have started : { fresh layers with clock := 5 }.Undisturbed ⟨"d"⟩ 2 := .start 2 noLayers
  refine .outside ?_ (.turn .trusted (.createDatasource (some ⟨"d"⟩) none) ?_ ?_ started)
  · rcases noLayers with rfl | rfl <;> decide +kernel
  · intro other about differ
    cases about
    exact absurd rfl differ
  · change (5 : Int) + 1 < Decimal.signedBound
    decide

def dot : Feature :=
  (Feature.ofGeometry .null).withGeoId "g"

def addingDot (layers : LayerStore) (clock : Clock) : Turn :=
  ⟨{ viewed layers with clock }, .trusted, .insertFeature ⟨"d"⟩ dot⟩

/-- The clock has gone on when the feature is added, and goes on until the viewer is told; so the
version has another time than the event, and is found at that of the event. -/
theorem dispatch_dated_viewed :
    let turn := addingDot (.onDisk {}) ⟨9, [10]⟩
    turn.answer = .ok (.featureRef ⟨"d"⟩ "g") ∧
      turn.after.hub = (turn.before.hub.broadcast ⟨⟨"d"⟩, "insert_feature", 10⟩).2 ∧
      turn.after.store.layers.load ⟨"d"⟩ = .ok ⟨[dot], .empty⟩ ∧
      turn.after.store.layers.previous ⟨"d"⟩ 10 = .ok (9, ⟨[dot], .empty⟩) := by
  intro turn
  have made : (viewed (.onDisk {})).Undisturbed ⟨"d"⟩ 1 := undisturbed_viewed (.inr rfl)
  have undisturbed : turn.before.Undisturbed ⟨"d"⟩ 1 := .outside (by rfl) made
  have answered : turn.answer = .ok (.featureRef ⟨"d"⟩ "g") := by decide +kernel
  have loaded : turn.after.store.layers.load ⟨"d"⟩ = .ok ⟨[dot], .empty⟩ := by decide +kernel
  have newest : turn.before.store.layers.newest? ⟨"d"⟩ = some 5 := by decide +kernel
  obtain ⟨stamp, collection, dated⟩ :=
    undisturbed.dispatch_dated (by decide) (by decide) rfl rfl (Turn.ran answered)
  have stamped : stamp = 9 := by
    refine dated.dates.passed fun last known => ?_
    cases newest.symm.trans known
    decide
  subst stamped
  have found := dated.dates.reached (by decide)
  rw [loaded] at found
  exact ⟨answered, dated.event, loaded, found⟩

/-- The clock stands still when the feature is added, and so the viewer does not find it at the
time that it is told. -/
theorem viewed_standing :
    let turn := addingDot .inMemory 5
    turn.before.Undisturbed ⟨"d"⟩ 1 ∧ turn.answer = .ok (.featureRef ⟨"d"⟩ "g") ∧
      turn.after.hub.inbox? ⟨1⟩ = some ⟨⟨1⟩, [⟨⟨"d"⟩, "insert_feature", 5⟩]⟩ ∧
      turn.after.store.layers.load ⟨"d"⟩ = .ok ⟨[dot], .empty⟩ ∧
      turn.after.store.layers.previous ⟨"d"⟩ 5 = .ok (5, .empty) := by
  have made : (viewed .inMemory).Undisturbed ⟨"d"⟩ 1 := undisturbed_viewed (.inl rfl)
  refine ⟨.outside (by rfl) made, ?_⟩
  refine ⟨?_, ?_, ?_, ?_⟩ <;> decide +kernel

end Gateway

end LayerGateway
