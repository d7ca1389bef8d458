import LayerGateway.Proofs.Live.Viewer

/-!
# Every viewer gets its own events

What a viewer has read, followed by what it still has to read, is what was due to it: the
events about datasources that it was subscribed to when they were passed on, while it was
registered and there was room in its inbox.  Nobody else's doings matter to it, and what is in
its inbox can be read whether it is still registered or not.

* `Hub.received` and `Hub.due` are the two sides, told along a run.
* `Hub.balance_act` is the balance of one operation.
-/

namespace LayerGateway

def Viewer.reads (viewer : Viewer) : HubOperation → Option LayerChanged
  | .receive _ => viewer.unread.bind (·.head?)
  | _ => none

/-- What a viewer reads by some operations that concern it. -/
def Viewer.received (room : Nat) : Viewer → List HubOperation → List LayerChanged
  | _, [] => []
  | viewer, operation :: later =>
      (viewer.reads operation).toList ++ received room (viewer.act room operation) later

namespace Hub

/-! ## Read and due -/

def reads (hub : Hub) (id : ConnectionId) : HubOperation → Option LayerChanged
  | .receive other => if other = id then (hub.receive id).1 else none
  | _ => none

/-- What is due to a viewer when an operation is carried out. -/
def owes (hub : Hub) (id : ConnectionId) : HubOperation → Option LayerChanged
  | .broadcast event => if (hub.viewer id).accepts (max 1 hub.buffer) event then some event else none
  | _ => none

/-- What a viewer reads in the course of some operations. -/
def received (id : ConnectionId) : Hub → List HubOperation → List LayerChanged
  | _, [] => []
  | hub, operation :: later =>
      (hub.reads id operation).toList ++ received id (hub.act operation) later

/-- What is due to a viewer in the course of some operations. -/
def due (id : ConnectionId) : Hub → List HubOperation → List LayerChanged
  | _, [] => []
  | hub, operation :: later =>
      (hub.owes id operation).toList ++ due id (hub.act operation) later

section Balance

variable {hub : Hub} {id : ConnectionId}

theorem viewer_of_unopened (sound : hub.Sound) (new : hub.opened < id.number) :
    hub.viewer id = ⟨none, none⟩ := by
  have registration : hub.registration? id = none := find?_key_none (sound.registered.not_mem new)
  have inbox : hub.inbox? id = none := find?_key_none (sound.inboxes.not_mem new)
  rw [viewer, registration, inbox]
  rfl

theorem reads_eq (hub : Hub) (id : ConnectionId) (operation : HubOperation) :
    hub.reads id operation =
      if operation.concerns id hub.opened then (hub.viewer id).reads operation else none := by
  cases operation with
  | receive other =>
    simp only [reads, HubOperation.concerns, beq_iff_eq, Viewer.reads, receive, viewer,
      Option.bind_map]
    rfl
  | connect | openView _ | subscribe _ _ | unsubscribe _ | dropView _ | dropInbox _ | broadcast _
  | closeAll => simp [reads, Viewer.reads]

/-- An inbox that is gone does not come back. -/
theorem unread_act_of_gone (sound : hub.Sound) (opened : id.number ≤ hub.opened)
    (gone : (hub.viewer id).unread = none) (operation : HubOperation) :
    ((hub.act operation).viewer id).unread = none := by
  rw [viewer_act sound]
  split
  · next concerned =>
    cases operation with
    | connect | openView _ =>
      -- The numbers of connections that are opened are new.
      have new := beq_iff_eq.1 concerned
      omega
    | dropView _ | dropInbox _ => rfl
    | subscribe _ _ | unsubscribe _ | closeAll => exact gone
    | broadcast _ | receive _ => simp only [Viewer.act, gone, Option.map_none]
  · exact gone

theorem unread_run_of_gone (sound : hub.Sound) (opened : id.number ≤ hub.opened)
    (gone : (hub.viewer id).unread = none) (operations : List HubOperation) :
    ((hub.run operations).viewer id).unread = none := by
  induction operations generalizing hub with
  | nil => exact gone
  | cons operation later ih =>
    have stillOpened : id.number ≤ (hub.act operation).opened := by
      rw [opened_act]
      omega
    exact ih (sound.act operation) stillOpened (unread_act_of_gone sound opened gone operation)

/-- What is due is put into the inbox, and what is read is taken out of it. -/
theorem balance_act (sound : hub.Sound) (operation : HubOperation) {events : List LayerChanged}
    (kept : ((hub.act operation).viewer id).unread = some events) :
    (hub.viewer id).unread.getD [] ++ (hub.owes id operation).toList =
      (hub.reads id operation).toList ++ events := by
  rw [viewer_act sound] at kept
  rw [reads_eq]
  by_cases concerned : operation.concerns id hub.opened = true
  · rw [if_pos concerned] at kept ⊢
    cases operation with
    | connect | openView _ =>
      have new := beq_iff_eq.1 concerned
      rw [viewer_of_unopened sound (by omega)]
      cases kept
      rfl
    | subscribe _ _ | unsubscribe _ | closeAll =>
      have same : (hub.viewer id).unread = some events := kept
      simp [same, owes, Viewer.reads]
    | dropView _ | dropInbox _ => cases kept
    | broadcast event =>
      obtain ⟨before, unread, rfl⟩ := Option.map_eq_some_iff.1 kept
      by_cases accepted : (hub.viewer id).accepts (max 1 hub.buffer) event = true
      · simp [unread, owes, Viewer.reads, room, accepted]
      · simp [unread, owes, Viewer.reads, room, accepted]
    | receive other =>
      obtain ⟨before, unread, rfl⟩ := Option.map_eq_some_iff.1 kept
      cases before <;> simp [unread, owes, Viewer.reads]
  · rw [if_neg concerned] at kept ⊢
    -- Events concern everybody.
    have nothing : hub.owes id operation = none := by
      cases operation with
      | broadcast event => exact absurd rfl concerned
      | connect | openView _ | subscribe _ _ | unsubscribe _ | dropView _ | dropInbox _
      | receive _ | closeAll => rfl
    simp [kept, nothing]

theorem balance_of_unopened (sound : hub.Sound) (new : hub.opened < id.number)
    (operation : HubOperation) : hub.owes id operation = none ∧ hub.reads id operation = none := by
  have nobody := viewer_of_unopened sound new
  constructor
  · cases operation with
    | broadcast event => simp [owes, nobody, Viewer.accepts]
    | connect | openView _ | subscribe _ _ | unsubscribe _ | dropView _ | dropInbox _
    | receive _ | closeAll => rfl
  · rw [reads_eq, nobody]
    cases operation <;> simp [Viewer.reads]

theorem balance_run (sound : hub.Sound) (operations : List HubOperation)
    {events : List LayerChanged} (kept : ((hub.run operations).viewer id).unread = some events) :
    (hub.viewer id).unread.getD [] ++ due id hub operations =
      received id hub operations ++ events := by
  induction operations generalizing hub with
  | nil =>
    have same : (hub.viewer id).unread = some events := kept
    simp [same, due, received]
  | cons operation later ih =>
    have rest := ih (sound.act operation) kept
    cases now : ((hub.act operation).viewer id).unread with
    | some between =>
      rw [now, Option.getD_some] at rest
      rw [due, received, ← List.append_assoc, balance_act sound operation now, List.append_assoc,
        List.append_assoc, rest]
    | none =>
      -- It was not dropped, since it is there in the end; so it is still to be opened.
      have new : (hub.act operation).opened < id.number := by
        refine Nat.lt_of_not_le fun opened => ?_
        cases (unread_run_of_gone (sound.act operation) opened now later).symm.trans kept
      have newBefore : hub.opened < id.number := by
        rw [opened_act] at new
        omega
      obtain ⟨nothingDue, nothingRead⟩ := balance_of_unopened sound newBefore operation
      rw [now] at rest
      rw [viewer_of_unopened sound newBefore, due, received, nothingDue, nothingRead]
      exact rest

/-- What a viewer reads is told by the operations that concern it. -/
theorem received_eq (sound : hub.Sound) (operations : List HubOperation) :
    received id hub operations =
      (hub.viewer id).received hub.room (concerning id hub.opened operations) := by
  induction operations generalizing hub with
  | nil => rfl
  | cons operation later ih =>
    have rest := ih (sound.act operation)
    rw [room_act, opened_act, viewer_act sound] at rest
    rw [received, rest, reads_eq, concerning]
    split
    · rfl
    · rfl

end Balance

/-! ## Reading on -/

section Ending

variable {hub : Hub} {id : ConnectionId}

theorem hasEnded_eq (hub : Hub) (id : ConnectionId) :
    hub.hasEnded id = ((hub.viewer id).views.isNone && (hub.viewer id).unread.all (·.isEmpty)) := by
  simp only [hasEnded, viewer, Option.isNone_map, Option.all_map]

theorem viewer_act_ending (sound : hub.Sound) {ending : HubOperation}
    (ends : ending = .unsubscribe id ∨ ending = .closeAll) :
    (hub.act ending).viewer id = ⟨none, (hub.viewer id).unread⟩ := by
  rw [viewer_act sound]
  rcases ends with rfl | rfl
  · simp [HubOperation.concerns, Viewer.act]
  · rfl

/-- A viewer that the hub has forgotten reads what is in its inbox and nothing more. -/
theorem received_of_forgotten (sound : hub.Sound) {events : List LayerChanged}
    (forgotten : hub.viewer id = ⟨none, some events⟩) (count : Nat) :
    received id hub (List.replicate count (.receive id)) = events.take count ∧
      (hub.run (List.replicate count (.receive id))).viewer id =
        ⟨none, some (events.drop count)⟩ := by
  induction count generalizing hub events with
  | zero => exact ⟨rfl, forgotten⟩
  | succ count ih =>
    have next : (hub.act (.receive id)).viewer id = ⟨none, some events.tail⟩ := by
      rw [viewer_act sound, forgotten]
      simp [HubOperation.concerns, Viewer.act]
    have first : hub.reads id (.receive id) = events.head? := by
      rw [reads_eq, forgotten]
      simp [HubOperation.concerns, Viewer.reads]
    obtain ⟨read, left⟩ := ih (sound.act (.receive id)) next
    rw [List.replicate_succ]
    refine ⟨?_, ?_⟩
    · rw [received, first, read]
      cases events <;> simp
    · refine left.trans ?_
      cases events <;> simp

end Ending

/-! ## Counting -/

section Counting

variable {hub : Hub}

theorem find?_of_mem_key {α : Type} {key : α → ConnectionId} {items : List α} {item : α}
    (nodup : (items.map key).Nodup) (member : item ∈ items) :
    items.find? (key · == key item) = some item := by
  induction items with
  | nil => cases member
  | cons first items ih =>
    obtain ⟨once, nodup⟩ := List.nodup_cons.1 nodup
    rcases List.mem_cons.1 member with rfl | among
    · simp
    · have other : key first ≠ key item := fun same =>
        once (same ▸ List.mem_map_of_mem among)
      simp [other, ih nodup among]

/-- An event is counted once for each connection that has it in its inbox afterwards. -/
theorem broadcast_count (sound : hub.Sound) (event : LayerChanged) :
    (hub.broadcast event).1 =
      ((hub.inboxes.map (·.id)).filter fun id =>
        ((hub.broadcast event).2.viewer id).unread =
          (hub.viewer id).unread.map (· ++ [event])).length := by
  rw [List.filter_map, List.length_map]
  change (hub.inboxes.filter (hub.accepts · event)).length = _
  refine congrArg List.length (List.filter_congr fun inbox member => ?_)
  have found : hub.inbox? inbox.id = some inbox := find?_of_mem_key sound.inboxes.nodup member
  have events : (hub.viewer inbox.id).unread = some inbox.events := by
    rw [viewer, found, Option.map_some]
  have after := congrArg Viewer.unread (viewer_broadcast sound inbox.id event)
  rw [Function.comp_apply, after, accepts_eq found]
  cases accepted : (hub.viewer inbox.id).accepts hub.room event <;>
    simp [Viewer.act, events, accepted]

end Counting

/-! ## All of it -/

/-- What a viewer with an inbox has of a hub after some operations. -/
structure Serves (buffer : Nat) (operations : List HubOperation) (id : ConnectionId)
    (events : List LayerChanged) : Prop where
  /-- It has read, or has still to read, what was due to it. -/
  exact : received id { buffer } operations ++ events = due id { buffer } operations
  /-- Only what concerns it makes a difference to it. -/
  apart : ∀ others, concerning id 0 others = concerning id 0 operations →
    received id { buffer } others = received id { buffer } operations ∧
      (Hub.run { buffer } others).viewer id = (Hub.run { buffer } operations).viewer id
  /-- What is in its inbox can be read after the connection is forgotten, and it learns of the
  end when that has been read. -/
  readable : ∀ ending, ending = .unsubscribe id ∨ ending = .closeAll → ∀ count,
    let closed := (Hub.run { buffer } operations).act ending
    let reading := List.replicate count (.receive id)
    received id closed reading = events.take count ∧
      ((closed.run reading).hasEnded id = true ↔ events.length ≤ count)
  /-- It does not learn of an end as long as there is something to read. -/
  ended : (Hub.run { buffer } operations).hasEnded id = true → events = []
  /-- The hub knows how many connections took an event. -/
  counted : ∀ event,
    let hub := Hub.run { buffer } operations
    (hub.inboxes.map (·.id)).Nodup ∧
      (hub.broadcast event).1 =
        ((hub.inboxes.map (·.id)).filter fun other =>
          ((hub.broadcast event).2.viewer other).unread =
            (hub.viewer other).unread.map (· ++ [event])).length

/-- Whatever happens to a hub, whoever has an inbox is served.  What was read and what is still to
be read make up what was due: the events of the datasource while it was viewed, up to those for
which there was no room.  What others do makes no difference, what is in the inbox survives the end
of the connection, and the count that a broadcast answers is that of the inboxes which took it. -/
theorem serves_of_inbox {buffer : Nat} {operations : List HubOperation} {id : ConnectionId}
    {inbox : Inbox} (kept : (Hub.run { buffer } operations).inbox? id = some inbox) :
    Serves buffer operations id inbox.events := by
  have fresh : Sound { buffer } := sound_empty buffer
  have sound := fresh.run operations
  have unread : ((Hub.run { buffer } operations).viewer id).unread = some inbox.events := by
    rw [viewer, kept, Option.map_some]
  constructor
  case exact => exact (balance_run fresh operations unread).symm
  case apart =>
    intro others same
    constructor
    · rw [received_eq fresh, received_eq fresh, same]
    · rw [viewer_run fresh, viewer_run fresh, same]
  case readable =>
    intro ending ends count
    have forgotten : ((Hub.run { buffer } operations).act ending).viewer id =
        ⟨none, some inbox.events⟩ := by
      rw [viewer_act_ending sound ends, unread]
    obtain ⟨read, left⟩ := received_of_forgotten (sound.act ending) forgotten count
    refine ⟨read, ?_⟩
    rw [hasEnded_eq, left]
    simp
  case ended =>
    intro ended
    rw [hasEnded_eq, unread] at ended
    simpa using (Bool.and_eq_true_iff.1 ended).2
  case counted => exact fun event => ⟨sound.inboxes.nodup, broadcast_count sound event⟩

/-- Two viewers of one datasource: one reads and leaves, the other does not read. -/
def twoViewers : List HubOperation :=
  [.connect, .subscribe ⟨1⟩ ⟨"d"⟩, .openView ⟨"d"⟩, .broadcast ⟨⟨"d"⟩, "edit_feature", 1⟩,
    .receive ⟨1⟩, .broadcast ⟨⟨"d"⟩, "edit_feature", 2⟩, .broadcast ⟨⟨"e"⟩, "edit_feature", 3⟩,
    .unsubscribe ⟨1⟩, .broadcast ⟨⟨"d"⟩, "edit_feature", 4⟩]

/-- There is room for one event.  The first viewer has read one and not the next, the other one
has missed all but the first. -/
theorem serves_of_inbox_twoViewers :
    Serves 0 twoViewers ⟨1⟩ [⟨⟨"d"⟩, "edit_feature", 2⟩] ∧
      received ⟨1⟩ { buffer := 0 } twoViewers = [⟨⟨"d"⟩, "edit_feature", 1⟩] ∧
      Serves 0 twoViewers ⟨2⟩ [⟨⟨"d"⟩, "edit_feature", 1⟩] := by
  have first : (Hub.run { buffer := 0 } twoViewers).inbox? ⟨1⟩ =
      some ⟨⟨1⟩, [⟨⟨"d"⟩, "edit_feature", 2⟩]⟩ := rfl
  have second : (Hub.run { buffer := 0 } twoViewers).inbox? ⟨2⟩ =
      some ⟨⟨2⟩, [⟨⟨"d"⟩, "edit_feature", 1⟩]⟩ := rfl
  exact ⟨serves_of_inbox first, rfl, serves_of_inbox second⟩

end Hub

end LayerGateway
