import LayerGateway.Proofs.Live.Delivery

/-!
# The books of a hub

How many connections a hub has, and how many of them view a datasource, can be told from what was
done to it: a connection that was opened is there until something ends it.  Numbers are given in
order and never twice, so what is done to a number is done to one connection only.

* `HubHistory.isOpen`, `HubHistory.isSubscribed` and `HubHistory.isAbandoned` tell the state of a
  connection from the history of a hub alone.
* `Hub.Told` says that a hub and its history agree on a connection, and `Told.act` that they still
  do after one more operation.
* `Hub.issued_eq` lists the numbers that are given out.
* `Hub.Accounted` is what the books say, and `run_accounted` that they say it after every run.
-/

namespace LayerGateway

/-! ## Histories -/

namespace HubOperation

/-- Whether an operation ends a connection.  An event ends those that are found without a
receiver. -/
def ends (id : ConnectionId) (bereft : DatasourceId → Bool) : HubOperation → Bool
  | .unsubscribe other | .dropView other => other == id
  | .closeAll => true
  | .broadcast event => bereft event.datasource
  | .connect | .openView _ | .subscribe _ _ | .dropInbox _ | .receive _ => false

/-- Whether a connection that is opened views a datasource from the first. -/
def views (datasource : DatasourceId) : HubOperation → Bool
  | .openView viewed => viewed = datasource
  | _ => false

/-- Whether a connection that is open is to view a datasource. -/
def subscribes (id : ConnectionId) (datasource : DatasourceId) : HubOperation → Bool
  | .subscribe other viewed => other = id && viewed = datasource
  | _ => false

/-- Whether the receiver of a connection goes. -/
def abandons (id : ConnectionId) : HubOperation → Bool
  | .dropInbox other | .dropView other => other == id
  | _ => false

end HubOperation

/-- What was done to a hub, the last operation first. -/
abbrev HubHistory := List HubOperation

namespace HubHistory

/-- How many connections were opened. -/
def opened : HubHistory → Nat
  | [] => 0
  | operation :: earlier => opened earlier + operation.opens

/-- Whether a connection is opened by an operation. -/
def opens (id : ConnectionId) (earlier : HubHistory) (operation : HubOperation) : Bool :=
  operation.opens == 1 && earlier.opened + 1 == id.number

/-- Whether the receiver of a connection has gone since the connection was opened. -/
def isAbandoned (id : ConnectionId) : HubHistory → Bool
  | [] => false
  | operation :: earlier =>
      if opens id earlier operation then false
      else isAbandoned id earlier || operation.abandons id

mutual

/-- Whether a connection was opened and has not been ended since. -/
def isOpen (id : ConnectionId) : HubHistory → Bool
  | [] => false
  | operation :: earlier =>
      if opens id earlier operation then true
      else isOpen id earlier &&
        !operation.ends id fun datasource =>
          isSubscribed id datasource earlier && isAbandoned id earlier

/-- Whether a connection was subscribed to a datasource and has not been ended since. -/
def isSubscribed (id : ConnectionId) (datasource : DatasourceId) : HubHistory → Bool
  | [] => false
  | operation :: earlier =>
      if opens id earlier operation then operation.views datasource
      else (isSubscribed id datasource earlier ||
          isOpen id earlier && operation.subscribes id datasource) &&
        !operation.ends id fun datasource =>
          isSubscribed id datasource earlier && isAbandoned id earlier

end

variable {id : ConnectionId} {datasource : DatasourceId}

theorem opened_of_isOpen {history : HubHistory} (found : history.isOpen id = true) :
    0 < id.number ∧ id.number ≤ history.opened := by
  induction history with
  | nil => cases found
  | cons operation earlier ih =>
    rw [isOpen] at found
    rw [opened]
    split at found
    · next new =>
      obtain ⟨one, next⟩ := Bool.and_eq_true_iff.1 new
      have one := beq_iff_eq.1 one
      have next := beq_iff_eq.1 next
      omega
    · have before := ih (Bool.and_eq_true_iff.1 found).1
      omega

end HubHistory

namespace Hub

/-! ## Numbers -/

def opensId (hub : Hub) : HubOperation → Option ConnectionId
  | .connect => some hub.connect.1
  | .openView datasource => some (hub.openView datasource).1
  | _ => none

/-- The connections that are opened in the course of some operations, in this order. -/
def issued : Hub → List HubOperation → List ConnectionId
  | _, [] => []
  | hub, operation :: later => (hub.opensId operation).toList ++ issued (hub.act operation) later

theorem opensId_eq (hub : Hub) (operation : HubOperation) :
    (hub.opensId operation).toList =
      (List.range' (hub.opened + 1) operation.opens).map ConnectionId.mk := by
  cases operation <;> rfl

theorem opened_run (hub : Hub) (operations : List HubOperation) :
    (hub.run operations).opened = hub.opened + (issued hub operations).length := by
  induction operations generalizing hub with
  | nil => rfl
  | cons operation later ih =>
    change ((hub.act operation).run later).opened = _
    rw [ih, opened_act, issued, List.length_append, opensId_eq, List.length_map,
      List.length_range', Nat.add_assoc]

/-- Numbers are given out one after the other. -/
theorem issued_eq (hub : Hub) (operations : List HubOperation) :
    issued hub operations =
      (List.range' (hub.opened + 1) (issued hub operations).length).map ConnectionId.mk := by
  induction operations generalizing hub with
  | nil => rfl
  | cons operation later ih =>
    have rest := ih (hub.act operation)
    rw [opened_act, Nat.add_right_comm] at rest
    rw [issued, opensId_eq, List.length_append, List.length_map, List.length_range',
      ← List.range'_append_1, List.map_append]
    exact congrArg (_ ++ ·) rest

theorem mem_issued {hub : Hub} {operations : List HubOperation} {id : ConnectionId} :
    id ∈ issued hub operations ↔
      hub.opened < id.number ∧ id.number ≤ (hub.run operations).opened := by
  rw [issued_eq, opened_run]
  simp only [List.mem_map, List.mem_range'_1, ConnectionId.mk_eq_iff, exists_eq_right]
  omega

theorem issued_increasing (hub : Hub) (operations : List HubOperation) :
    (issued hub operations).Pairwise (·.number < ·.number) := by
  rw [issued_eq]
  exact List.pairwise_map.2 List.pairwise_lt_range'

theorem issued_nodup (hub : Hub) (operations : List HubOperation) :
    (issued hub operations).Nodup :=
  (issued_increasing hub operations).imp fun less => by
    rintro rfl
    exact Nat.lt_irrefl _ less

/-! ## What an operation leaves of a viewer -/

end Hub

def Viewer.isSubscribed (viewer : Viewer) (datasource : DatasourceId) : Bool :=
  viewer.views.any (·.contains datasource)

/-- Whether a viewer views a datasource and does not receive anything any more. -/
def Viewer.isBereft (viewer : Viewer) (datasource : DatasourceId) : Bool :=
  viewer.isSubscribed datasource && viewer.unread.isNone

namespace Hub

section Old

open HubOperation

variable {hub : Hub} {id : ConnectionId} {operation : HubOperation}

theorem isOpen_act (sound : hub.Sound) (old : operation.opens = 1 → hub.opened + 1 ≠ id.number) :
    ((hub.act operation).viewer id).views.isSome =
      ((hub.viewer id).views.isSome && !operation.ends id (hub.viewer id).isBereft) := by
  rw [viewer_act sound]
  cases operation with
  | connect | openView _ => simp [concerns, ends, old rfl]
  | subscribe other _ | unsubscribe other | dropView other | dropInbox other | receive other =>
    by_cases own : other = id <;> simp [concerns, ends, Viewer.act, own]
  | closeAll => simp [concerns, ends, Viewer.act]
  | broadcast event =>
    -- Whoever views the datasource stays if there is somebody to receive the event.
    cases views : (hub.viewer id).views with
    | none => simp [concerns, ends, Viewer.act, views]
    | some datasources =>
      by_cases viewed : event.datasource ∈ datasources <;>
        cases gone : (hub.viewer id).unread <;>
        simp [concerns, ends, Viewer.act, Viewer.isBereft, Viewer.isSubscribed, views, viewed,
          gone, Option.filter]

theorem isSubscribed_act (sound : hub.Sound)
    (old : operation.opens = 1 → hub.opened + 1 ≠ id.number) (datasource : DatasourceId) :
    ((hub.act operation).viewer id).isSubscribed datasource =
      (((hub.viewer id).isSubscribed datasource ||
        (hub.viewer id).views.isSome && operation.subscribes id datasource) &&
          !operation.ends id (hub.viewer id).isBereft) := by
  rw [viewer_act sound]
  cases operation with
  | connect | openView _ => simp [concerns, ends, subscribes, old rfl]
  | subscribe other viewed =>
    by_cases own : other = id
    · cases views : (hub.viewer id).views <;>
        simp [concerns, ends, subscribes, Viewer.act, Viewer.isSubscribed, own, views, Bool.or_comm,
          eq_comm]
    · simp [concerns, ends, subscribes, own]
  | unsubscribe other | dropView other | dropInbox other | receive other =>
    by_cases own : other = id <;>
      simp [concerns, ends, subscribes, Viewer.act, Viewer.isSubscribed, own]
  | closeAll => simp [concerns, ends, subscribes, Viewer.act, Viewer.isSubscribed]
  | broadcast event =>
    cases views : (hub.viewer id).views with
    | none => simp [concerns, ends, subscribes, Viewer.act, Viewer.isSubscribed, views]
    | some datasources =>
      by_cases viewed : event.datasource ∈ datasources <;>
        cases gone : (hub.viewer id).unread <;>
        simp [concerns, ends, subscribes, Viewer.act, Viewer.isBereft, Viewer.isSubscribed, views,
          viewed, gone, Option.filter]

theorem isAbandoned_act (sound : hub.Sound)
    (old : operation.opens = 1 → hub.opened + 1 ≠ id.number) :
    ((hub.act operation).viewer id).unread.isNone =
      ((hub.viewer id).unread.isNone || operation.abandons id) := by
  rw [viewer_act sound]
  cases operation with
  | connect | openView _ => simp [concerns, abandons, old rfl]
  | subscribe other _ | unsubscribe other | dropView other | dropInbox other | receive other =>
    by_cases own : other = id <;> simp [concerns, abandons, Viewer.act, own]
  | closeAll | broadcast _ => simp [concerns, abandons, Viewer.act]

end Old

/-! ## A hub and its history -/

/-- A hub has of a connection what its history tells of it. -/
structure Told (hub : Hub) (history : HubHistory) (id : ConnectionId) : Prop where
  opened : hub.opened = history.opened
  isOpen : (hub.viewer id).views.isSome = history.isOpen id
  isSubscribed : ∀ datasource,
    (hub.viewer id).isSubscribed datasource = history.isSubscribed id datasource
  /-- Who went away after the hub had forgotten it does not matter any more. -/
  isAbandoned : history.isOpen id = true →
    (hub.viewer id).unread.isNone = history.isAbandoned id

section Told

variable {hub : Hub} {history : HubHistory} {id : ConnectionId} {operation : HubOperation}

theorem Told.opened_act (told : Told hub history id) :
    (hub.act operation).opened = HubHistory.opened (operation :: history) := by
  rw [Hub.opened_act, told.opened, HubHistory.opened]

theorem Told.isBereft (told : Told hub history id) :
    (hub.viewer id).isBereft =
      fun datasource => history.isSubscribed id datasource && history.isAbandoned id := by
  funext datasource
  rw [Viewer.isBereft, told.isSubscribed]
  cases found : history.isOpen id with
  | true => rw [told.isAbandoned found]
  | false =>
    have forgotten : (hub.viewer id).views = none := by
      rw [← Option.not_isSome_iff_eq_none, told.isOpen, found]
      exact Bool.false_ne_true
    have unsubscribed : history.isSubscribed id datasource = false := by
      rw [← told.isSubscribed, Viewer.isSubscribed, forgotten]
      rfl
    rw [unsubscribed]
    rfl

/-- A connection that is opened starts anew. -/
theorem Told.of_opens (sound : hub.Sound) (told : Told hub history id)
    (new : history.opens id operation = true) :
    Told (hub.act operation) (operation :: history) id := by
  obtain ⟨one, next⟩ := Bool.and_eq_true_iff.1 new
  have concerned : hub.opened + 1 = id.number := by
    rw [told.opened]
    exact beq_iff_eq.1 next
  have viewer : (hub.act operation).viewer id = _ := viewer_act sound operation
  have opened : (hub.act operation).opened = _ := told.opened_act
  cases operation with
  | connect | openView _ =>
    rw [HubOperation.concerns, if_pos (beq_iff_eq.2 concerned)] at viewer
    constructor <;>
      simp [viewer, Viewer.act, Viewer.isSubscribed, HubOperation.views, opened, HubHistory.isOpen,
        HubHistory.isSubscribed, HubHistory.isAbandoned, new, eq_comm]
  | subscribe _ _ | unsubscribe _ | dropView _ | dropInbox _ | broadcast _ | receive _
  | closeAll => cases one

/-- The history goes on telling what a hub has of a connection. -/
theorem Told.act (sound : hub.Sound) (told : Told hub history id) (operation : HubOperation) :
    Told (hub.act operation) (operation :: history) id := by
  by_cases new : history.opens id operation = true
  · exact told.of_opens sound new
  have old : operation.opens = 1 → hub.opened + 1 ≠ id.number := by
    simpa [HubHistory.opens, told.opened] using new
  refine ⟨told.opened_act, ?_, fun datasource => ?_, fun found => ?_⟩
  · rw [isOpen_act sound old, told.isBereft, told.isOpen, HubHistory.isOpen, if_neg new]
  · rw [isSubscribed_act sound old, told.isBereft, told.isOpen, told.isSubscribed,
      HubHistory.isSubscribed, if_neg new]
  · rw [HubHistory.isOpen, if_neg new] at found
    rw [isAbandoned_act sound old, told.isAbandoned (Bool.and_eq_true_iff.1 found).1,
      HubHistory.isAbandoned, if_neg new]

theorem told_empty (buffer : Nat) (id : ConnectionId) : Told { buffer } [] id :=
  ⟨rfl, rfl, fun _ => rfl, nofun⟩

theorem Told.run (sound : hub.Sound) (told : Told hub history id)
    (operations : List HubOperation) :
    Told (hub.run operations) (operations.reverse ++ history) id := by
  induction operations generalizing hub history with
  | nil => exact told
  | cons operation later ih =>
    rw [List.reverse_cons, List.append_assoc]
    exact ih (sound.act operation) (told.act sound operation)

end Told

/-! ## Counting connections -/

section Counts

variable {hub : Hub} {id : ConnectionId}

theorem registration?_of_mem (sound : hub.Sound) {registration : Registration}
    (member : registration ∈ hub.registered) :
    hub.registration? registration.id = some registration :=
  find?_of_mem_key sound.registered.nodup member

theorem mem_registered (sound : hub.Sound) (id : ConnectionId) :
    id ∈ hub.registered.map (·.id) ↔ (hub.viewer id).views.isSome = true := by
  rw [viewer, Option.isSome_map]
  constructor
  · intro member
    obtain ⟨registration, among, rfl⟩ := List.mem_map.1 member
    rw [registration?_of_mem sound among]
    rfl
  · intro found
    obtain ⟨registration, found⟩ := Option.isSome_iff_exists.1 found
    obtain rfl : registration.id = id := key_of_find? found
    exact List.mem_map_of_mem (List.mem_of_find?_eq_some found)

theorem isSubscribed_of_registered {registration : Registration}
    (found : hub.registration? id = some registration) (datasource : DatasourceId) :
    (hub.viewer id).isSubscribed datasource = registration.views datasource := by
  rw [Viewer.isSubscribed, viewer, found]
  rfl

theorem mem_viewing (sound : hub.Sound) (id : ConnectionId) (datasource : DatasourceId) :
    id ∈ (hub.registered.filter (·.views datasource)).map (·.id) ↔
      (hub.viewer id).isSubscribed datasource = true := by
  constructor
  · intro member
    obtain ⟨registration, viewing, rfl⟩ := List.mem_map.1 member
    obtain ⟨among, views⟩ := List.mem_filter.1 viewing
    rwa [isSubscribed_of_registered (registration?_of_mem sound among)]
  · intro subscribed
    obtain ⟨registration, found⟩ : ∃ registration, hub.registration? id = some registration := by
      refine Option.isSome_iff_exists.1 ?_
      simpa [viewer] using Option.isSome_of_any subscribed
    rw [isSubscribed_of_registered found] at subscribed
    obtain rfl : registration.id = id := key_of_find? found
    exact List.mem_map_of_mem (List.mem_filter.2 ⟨List.mem_of_find?_eq_some found, subscribed⟩)

/-- As many are in one list as in another if the same are. -/
theorem length_of_mem_iff {ids others : List ConnectionId} (nodup : ids.Nodup)
    (nodupOthers : others.Nodup) (same : ∀ id, id ∈ ids ↔ id ∈ others) :
    ids.length = others.length :=
  ((List.perm_ext_iff_of_nodup nodup nodupOthers).2 same).length_eq

end Counts

section Accounts

variable {buffer : Nat} {operations : List HubOperation}

theorem told_run (buffer : Nat) (operations : List HubOperation) (id : ConnectionId) :
    Told (Hub.run { buffer } operations) operations.reverse id := by
  have told := (told_empty buffer id).run (sound_empty buffer) operations
  rwa [List.append_nil] at told

theorem mem_issued_of_isOpen {id : ConnectionId}
    (found : HubHistory.isOpen id operations.reverse = true) :
    id ∈ issued { buffer } operations := by
  have numbered := HubHistory.opened_of_isOpen found
  rw [mem_issued, (told_run buffer operations id).opened]
  exact numbered

theorem connectionCount_run (buffer : Nat) (operations : List HubOperation) :
    (Hub.run { buffer } operations).connectionCount =
      ((issued { buffer } operations).filter
        (HubHistory.isOpen · operations.reverse)).length := by
  have sound := (sound_empty buffer).run operations
  rw [connectionCount, ← List.length_map (·.id)]
  refine length_of_mem_iff sound.registered.nodup ((issued_nodup _ _).filter _) fun id => ?_
  rw [mem_registered sound, (told_run buffer operations id).isOpen, List.mem_filter]
  exact ⟨fun found => ⟨mem_issued_of_isOpen found, found⟩, And.right⟩

theorem viewerCount_run (buffer : Nat) (operations : List HubOperation)
    (datasource : DatasourceId) :
    (Hub.run { buffer } operations).viewerCount datasource =
      ((issued { buffer } operations).filter
        (HubHistory.isSubscribed · datasource operations.reverse)).length := by
  have sound := (sound_empty buffer).run operations
  have told := told_run buffer operations
  rw [viewerCount, ← List.length_map (·.id)]
  refine length_of_mem_iff (sound.registered.nodup.sublist (List.filter_sublist.map _))
    ((issued_nodup _ _).filter _) fun id => ?_
  rw [mem_viewing sound, (told id).isSubscribed, List.mem_filter]
  refine ⟨fun subscribed => ⟨mem_issued_of_isOpen ?_, subscribed⟩, And.right⟩
  rw [← (told id).isSubscribed, Viewer.isSubscribed] at subscribed
  rw [← (told id).isOpen]
  exact Option.isSome_of_any subscribed

end Accounts

/-! ## The books -/

/-- What is true of a hub after some operations, as it is told by these operations. -/
structure Accounted (buffer : Nat) (operations : List HubOperation) : Prop where
  /-- Numbers rise, so none is given twice. -/
  increasing : (issued { buffer } operations).Pairwise (·.number < ·.number)
  connections : (Hub.run { buffer } operations).connectionCount =
    ((issued { buffer } operations).filter (HubHistory.isOpen · operations.reverse)).length
  viewers : ∀ datasource, (Hub.run { buffer } operations).viewerCount datasource =
    ((issued { buffer } operations).filter
      (HubHistory.isSubscribed · datasource operations.reverse)).length
  /-- Whoever asks to view a datasource is told whether the connection is open. -/
  subscribes : ∀ id datasource,
    let hub := Hub.run { buffer } operations
    (hub.subscribe id datasource).1 = HubHistory.isOpen id operations.reverse ∧
      ((hub.subscribe id datasource).1 = false → (hub.subscribe id datasource).2 = hub)
  /-- A view that is dropped, at any time after it was opened, takes its own connection with it
  if that is still open, and nothing else. -/
  drops : ∀ before datasource between, operations = before ++ .openView datasource :: between →
    let hub := Hub.run { buffer } operations
    let id := ((Hub.run { buffer } before).openView datasource).1
    issued { buffer } operations =
        issued { buffer } before ++ id ::
          issued (Hub.run { buffer } (before ++ [.openView datasource])) between ∧
      (hub.dropView id).registered.map (·.id) = (hub.registered.map (·.id)).erase id ∧
      (HubHistory.isOpen id operations.reverse = false →
        (hub.dropView id).registered = hub.registered) ∧
      ∀ other, other ≠ id → (hub.dropView id).viewer other = hub.viewer other
  /-- An event ends the connections that it should go to and that nobody receives from. -/
  prunes : ∀ event,
    let hub := Hub.run { buffer } operations
    (hub.broadcast event).2.registered.map (·.id) =
      (hub.registered.map (·.id)).filter fun id =>
        !(HubHistory.isSubscribed id event.datasource operations.reverse &&
          HubHistory.isAbandoned id operations.reverse)
  /-- Whoever has not read for too long misses an event, and stays. -/
  full : ∀ event id events,
    let hub := Hub.run { buffer } operations
    (hub.viewer id).unread = some events → hub.room ≤ events.length →
      (hub.broadcast event).2.viewer id = hub.viewer id

section Accounted

variable {hub : Hub} {id : ConnectionId}

theorem issued_append (hub : Hub) (before later : List HubOperation) :
    issued hub (before ++ later) = issued hub before ++ issued (hub.run before) later := by
  induction before generalizing hub with
  | nil => rfl
  | cons operation before ih =>
    rw [List.cons_append, issued, issued, ih, List.append_assoc]
    rfl

theorem issued_openView (hub : Hub) (before between : List HubOperation)
    (datasource : DatasourceId) :
    issued hub (before ++ .openView datasource :: between) =
      issued hub before ++ ((hub.run before).openView datasource).1 ::
        issued (hub.run (before ++ [.openView datasource])) between := by
  rw [issued_append, issued, run, run, List.foldl_append]
  rfl

theorem ne_of_forgotten {registration : Registration} (forgotten : hub.registration? id = none)
    (member : registration ∈ hub.registered) : registration.id ≠ id := by
  simpa using List.find?_eq_none.1 forgotten registration member

theorem subscribe_of_forgotten (forgotten : hub.registration? id = none)
    (datasource : DatasourceId) : (hub.subscribe id datasource).2 = hub := by
  have same : (hub.subscribe id datasource).2.registered = hub.registered := by
    refine (List.map_congr_left fun registration member => ?_).trans (List.map_id _)
    exact if_neg (ne_of_forgotten forgotten member)
  exact congrArg (fun registered => { hub with registered }) same

theorem dropView_of_forgotten (forgotten : hub.registration? id = none) :
    (hub.dropView id).registered = hub.registered :=
  List.filter_eq_self.2 fun _ member => bne_iff_ne.2 (ne_of_forgotten forgotten member)

theorem ids_dropView (sound : hub.Sound) (id : ConnectionId) :
    (hub.dropView id).registered.map (·.id) = (hub.registered.map (·.id)).erase id := by
  rw [sound.registered.nodup.erase_eq_filter, List.filter_map]
  rfl

theorem ids_broadcast (sound : hub.Sound) (event : LayerChanged) :
    (hub.broadcast event).2.registered.map (·.id) =
      (hub.registered.map (·.id)).filter fun id => !(hub.viewer id).isBereft event.datasource := by
  rw [List.filter_map]
  refine congrArg (List.map _) (List.filter_congr fun registration member => ?_)
  have found := registration?_of_mem sound member
  rw [Function.comp_apply, Viewer.isBereft, isSubscribed_of_registered found]
  simp [viewer, Bool.not_and]

theorem viewer_broadcast_of_full (sound : hub.Sound) (event : LayerChanged)
    {events : List LayerChanged} (unread : (hub.viewer id).unread = some events)
    (full : hub.room ≤ events.length) : (hub.broadcast event).2.viewer id = hub.viewer id := by
  rw [viewer_broadcast sound]
  have refused : (hub.viewer id).accepts hub.room event = false := by
    simp [Viewer.accepts, unread, full]
  refine Viewer.ext ?_ ?_
  · simp only [Viewer.act, unread, Option.isSome_some, Bool.or_true]
    cases (hub.viewer id).views <;> rfl
  · simp [Viewer.act, refused]

end Accounted

/-- After every run of a hub its books are right: which connections were opened, which of them are
still there and which datasource each views is what the history of the hub says.  A view that is
dropped late takes nothing with it but its own connection, an event ends the connections of those
who have gone, and whoever has only fallen behind stays. -/
theorem run_accounted (buffer : Nat) (operations : List HubOperation) :
    Accounted buffer operations := by
  have sound := (sound_empty buffer).run operations
  have told := told_run buffer operations
  constructor
  case increasing => exact issued_increasing _ _
  case connections => exact connectionCount_run buffer operations
  case viewers => exact viewerCount_run buffer operations
  case subscribes =>
    intro id datasource hub
    refine ⟨?_, fun refused => ?_⟩
    · -- What the history tells of a connection is what the hub has of it.
      rw [← (told id).isOpen]
      exact (Option.isSome_map ..).symm
    · have refused : (hub.registration? id).isSome = false := refused
      exact subscribe_of_forgotten (by simpa using refused) datasource
  case drops =>
    intro before datasource between split hub id
    refine ⟨split ▸ issued_openView _ before between datasource, ids_dropView sound id,
      fun ended => dropView_of_forgotten ?_, fun other foreign => ?_⟩
    · rw [← (told id).isOpen, viewer, Option.isSome_map] at ended
      simpa using ended
    · exact (viewer_act sound (.dropView id)).trans
        (if_neg (by simpa [HubOperation.concerns] using foreign.symm))
  case prunes =>
    intro event hub
    rw [ids_broadcast sound]
    exact List.filter_congr fun id _ => by rw [(told id).isBereft]
  case full => exact fun event id events => viewer_broadcast_of_full sound event

/-- A view that an event has ended is dropped late: the other one stays. -/
example :
    let operations : List HubOperation := [.openView ⟨"d"⟩, .dropInbox ⟨1⟩, .openView ⟨"d"⟩,
      .broadcast ⟨⟨"d"⟩, "edit_feature", 1⟩, .dropView ⟨1⟩]
    HubHistory.isOpen ⟨1⟩ operations.reverse = false ∧
      HubHistory.isSubscribed ⟨2⟩ ⟨"d"⟩ operations.reverse = true ∧
      (Hub.run { buffer := 1 } operations).viewerCount ⟨"d"⟩ = 1 := by
  decide

end Hub

end LayerGateway
