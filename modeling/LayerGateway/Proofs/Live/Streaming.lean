import LayerGateway.Proofs.Http.EventStream
import LayerGateway.Proofs.Live.Delivery

/-!
# Live streams

A stream asks the hub for the next event of its view whenever it can write, and writes one frame
for each.  It is over when the hub has nothing more for it.

* `Hub.poll` is one such question, and `Hub.streamed` all that is written in the course of some
  operations.
* `hasEnded_act` and `ended_run` say that a stream that is over stays so.
* `Hub.Streams` is what a client may rely on, for any operations on the hub.
-/

namespace LayerGateway

open Http (eventFrame eventText)
open Http.EventStream (Message)

namespace Hub

/-! ## Asking for more -/

/-- What a stream learns when it asks for more. -/
inductive Poll where
  | frame (text : List Char)
  | pending
  | ended
  deriving DecidableEq, Repr

def poll (hub : Hub) (id : ConnectionId) : Poll :=
  match (hub.receive id).1 with
  | some event => .frame (eventFrame event)
  | none => if hub.hasEnded id then .ended else .pending

def writes (hub : Hub) (id : ConnectionId) : HubOperation → List Char
  | .receive other =>
      if other = id then
        match hub.poll id with
        | .frame text => text
        | .pending | .ended => []
      else []
  | _ => []

/-- What a stream writes in the course of some operations. -/
def streamed (id : ConnectionId) : Hub → List HubOperation → List Char
  | _, [] => []
  | hub, operation :: later => hub.writes id operation ++ streamed id (hub.act operation) later

variable {hub : Hub} {id : ConnectionId}

theorem writes_eq (hub : Hub) (id : ConnectionId) (operation : HubOperation) :
    hub.writes id operation = eventText (hub.reads id operation).toList := by
  cases operation with
  | receive other =>
    rw [writes, reads]
    split
    · rw [poll]
      cases (hub.receive id).1 with
      | some event => simp [eventText]
      | none => cases hub.hasEnded id <;> rfl
    · rfl
  | connect | openView _ | subscribe _ _ | unsubscribe _ | dropView _ | dropInbox _ | broadcast _
  | closeAll => rfl

theorem streamed_eq (hub : Hub) (id : ConnectionId) (operations : List HubOperation) :
    streamed id hub operations = eventText (received id hub operations) := by
  induction operations generalizing hub with
  | nil => rfl
  | cons operation later ih =>
    rw [streamed, received, writes_eq, ih, eventText, eventText, eventText, List.flatMap_append]

/-! ## What is read was passed on -/

theorem mem_of_due {event : LayerChanged} {operations : List HubOperation}
    (member : event ∈ due id hub operations) : .broadcast event ∈ operations := by
  induction operations generalizing hub with
  | nil => cases member
  | cons operation later ih =>
    rcases List.mem_append.1 member with now | further
    · cases operation with
      | broadcast other =>
        rw [owes] at now
        split at now
        · obtain rfl := List.mem_singleton.1 now
          exact List.mem_cons_self
        · cases now
      | _ => cases now
    · exact List.mem_cons_of_mem _ (ih further)

theorem received_due {buffer : Nat} {operations : List HubOperation} {inbox : Inbox}
    (kept : (Hub.run { buffer } operations).inbox? id = some inbox) :
    received id { buffer } operations ++ inbox.events = due id { buffer } operations := by
  have unread : ((Hub.run { buffer } operations).viewer id).unread = some inbox.events := by
    rw [viewer, kept, Option.map_some]
  exact (balance_run (sound_empty buffer) operations unread).symm

theorem opened_of_inbox (sound : hub.Sound) {inbox : Inbox} (kept : hub.inbox? id = some inbox) :
    id.number ≤ hub.opened := by
  refine Nat.le_of_not_lt fun new => ?_
  have unread := congrArg Viewer.unread (viewer_of_unopened sound new)
  rw [viewer, kept] at unread
  cases unread

/-! ## The end -/

theorem poll_eq_ended_iff (hub : Hub) (id : ConnectionId) :
    hub.poll id = .ended ↔ hub.hasEnded id = true := by
  have next : (hub.receive id).1 = (hub.inbox? id).bind (·.events.head?) := rfl
  rw [poll, next]
  cases found : hub.inbox? id with
  | none => simp
  | some inbox => cases events : inbox.events <;> simp [hasEnded, found, events]

theorem hasEnded_iff_of_inbox {inbox : Inbox} (kept : hub.inbox? id = some inbox) :
    hub.hasEnded id = true ↔ hub.registration? id = none ∧ inbox.events = [] := by
  simp [hasEnded, kept]

theorem hasEnded_iff (hub : Hub) (id : ConnectionId) : hub.hasEnded id = true ↔
    (hub.viewer id).views = none ∧ ∀ events, (hub.viewer id).unread = some events → events = [] := by
  rw [hasEnded_eq]
  cases (hub.viewer id).unread <;> simp

/-- A stream that is over stays so, since no connection is opened twice. -/
theorem hasEnded_act (sound : hub.Sound) (opened : id.number ≤ hub.opened)
    (ended : hub.hasEnded id = true) (operation : HubOperation) :
    (hub.act operation).hasEnded id = true := by
  rw [hasEnded_iff] at ended ⊢
  obtain ⟨forgotten, nothing⟩ := ended
  rw [viewer_act sound]
  split
  · next concerned =>
    cases operation with
    | connect | openView _ =>
      have new := beq_iff_eq.1 concerned
      omega
    | subscribe _ _ => exact ⟨by rw [Viewer.act, forgotten, Option.map_none], nothing⟩
    | unsubscribe _ | closeAll => exact ⟨rfl, nothing⟩
    | dropView _ => exact ⟨rfl, fun events left => by cases left⟩
    | dropInbox _ => exact ⟨forgotten, fun events left => by cases left⟩
    | broadcast event =>
      have refused : (hub.viewer id).accepts hub.room event = false := by
        rw [Viewer.accepts, forgotten, Option.any_none, Bool.false_and]
      simp only [Viewer.act, forgotten, refused]
      exact ⟨rfl, by simpa using nothing⟩
    | receive _ =>
      refine ⟨forgotten, fun events left => ?_⟩
      obtain ⟨before, unread, rfl⟩ := Option.map_eq_some_iff.1 left
      rw [nothing before unread, List.tail_nil]
  · exact ⟨forgotten, nothing⟩

theorem reads_of_hasEnded (ended : hub.hasEnded id = true) (operation : HubOperation) :
    hub.reads id operation = none := by
  obtain ⟨-, nothing⟩ := (hasEnded_iff hub id).1 ended
  rw [reads_eq]
  split
  · cases operation with
    | receive _ =>
      rw [Viewer.reads]
      cases unread : (hub.viewer id).unread with
      | none => rfl
      | some events => rw [nothing events unread, Option.bind_some, List.head?_nil]
    | connect | openView _ | subscribe _ _ | unsubscribe _ | dropView _ | dropInbox _
    | broadcast _ | closeAll => rfl
  · rfl

/-- A stream that is over stays over, since no number is given to a connection twice. -/
theorem ended_run (sound : hub.Sound) (opened : id.number ≤ hub.opened)
    (ended : hub.hasEnded id = true) (operations : List HubOperation) :
    (hub.run operations).hasEnded id = true ∧ received id hub operations = [] := by
  induction operations generalizing hub with
  | nil => exact ⟨ended, rfl⟩
  | cons operation later ih =>
    have stillOpened : id.number ≤ (hub.act operation).opened := by
      rw [opened_act]
      omega
    obtain ⟨still, nothing⟩ :=
      ih (sound.act operation) stillOpened (hasEnded_act sound opened ended operation)
    refine ⟨still, ?_⟩
    rw [received, reads_of_hasEnded ended, nothing]
    rfl

/-! ## All of it -/

/-- What the stream of a view has written in the course of some operations, of which some events
are not yet read. -/
structure Streams (buffer : Nat) (operations : List HubOperation) (id : ConnectionId)
    (unread : List LayerChanged) : Prop where
  /-- It has written one frame for each event that it has read. -/
  text : streamed id { buffer } operations =
    (received id { buffer } operations).flatMap fun event =>
      Http.EventStream.frame "layer_changed" event.print
  /-- It has read what was due to the view, up to what it has still to read. -/
  order : received id { buffer } operations ++ unread = due id { buffer } operations
  /-- A client reads these events off the text, and nothing else. -/
  read : List.Forall₂ Message.Tells (Http.EventStream.read (streamed id { buffer } operations))
    (received id { buffer } operations)
  /-- So it does when there are comments among them. -/
  commented : ∀ parts : List (Option LayerChanged),
    parts.reduceOption = received id { buffer } operations →
      List.Forall₂ Message.Tells (Http.EventStream.read (parts.flatMap Http.EventStream.written))
        (received id { buffer } operations)
  /-- No other events have this text. -/
  unambiguous : ∀ events : List LayerChanged, (∀ event ∈ events, event.Timed) →
    eventText events = streamed id { buffer } operations →
      events = received id { buffer } operations
  /-- The stream is over when the hub has forgotten the view and all that was due is written. -/
  ended : (Hub.run { buffer } operations).poll id = .ended ↔
    (Hub.run { buffer } operations).registration? id = none ∧
      streamed id { buffer } operations = eventText (due id { buffer } operations)
  /-- Then it stays over. -/
  final : (Hub.run { buffer } operations).poll id = .ended → ∀ later,
    ((Hub.run { buffer } operations).run later).poll id = .ended ∧
      streamed id (Hub.run { buffer } operations) later = []

/-- What is written on the stream of a view is read back as the events that the view has read, one
message for each, whatever stands in the names and however many comments lie between them.  The
stream is over when the hub has forgotten the view and all that was due is written, and then for
good. -/
theorem streams_of_inbox {buffer : Nat} {operations : List HubOperation} {id : ConnectionId}
    {inbox : Inbox} (kept : (Hub.run { buffer } operations).inbox? id = some inbox)
    (timed : ∀ event, .broadcast event ∈ operations → event.Timed) :
    Streams buffer operations id inbox.events := by
  have sound : (Hub.run { buffer } operations).Sound := (sound_empty buffer).run operations
  have balance := received_due kept
  have written := streamed_eq { buffer } id operations
  have receivedTimed : ∀ event ∈ received id { buffer } operations, event.Timed := by
    intro event member
    have wasDue : event ∈ due id { buffer } operations := by
      rw [← balance]
      exact List.mem_append_left _ member
    exact timed event (mem_of_due wasDue)
  constructor
  case text => exact written.trans (Http.EventStream.eventText_eq _)
  case order => exact balance
  case read =>
    rw [written, Http.EventStream.read_eventText]
    exact Http.EventStream.forall₂_messageOf receivedTimed
  case commented =>
    intro parts among
    rw [Http.EventStream.read_written, among]
    exact Http.EventStream.forall₂_messageOf receivedTimed
  case unambiguous =>
    intro events eventsTimed same
    exact Http.EventStream.eventText_injective eventsTimed receivedTimed (same.trans written)
  case ended =>
    rw [poll_eq_ended_iff, hasEnded_iff_of_inbox kept, written, ← balance,
      Http.EventStream.eventText_append, List.self_eq_append_right,
      Http.EventStream.eventText_eq_nil_iff]
  case final =>
    intro ended later
    have opened : id.number ≤ (Hub.run { buffer } operations).opened :=
      opened_of_inbox sound kept
    obtain ⟨still, nothing⟩ := ended_run sound opened ((poll_eq_ended_iff _ _).1 ended) later
    refine ⟨(poll_eq_ended_iff _ _).2 still, ?_⟩
    rw [streamed_eq, nothing]
    rfl

/-- Names that would end lines and frames, if they were written as they are. -/
def awkward : LayerChanged :=
  ⟨⟨"d\r\n\n\"ü"⟩, "edit_feature\n\nevent: other\ndata: [", -1⟩

/-- A view is read once, and the hub is closed while there is another event for it. -/
def awkwardView : List HubOperation :=
  [.openView awkward.datasource, .broadcast awkward, .broadcast awkward, .receive ⟨1⟩, .closeAll]

theorem streams_of_inbox_awkwardView :
    (Hub.run { buffer := 8 } awkwardView).inbox? ⟨1⟩ = some ⟨⟨1⟩, [awkward]⟩ ∧
      Streams 8 awkwardView ⟨1⟩ [awkward] := by
  have kept : (Hub.run { buffer := 8 } awkwardView).inbox? ⟨1⟩ = some ⟨⟨1⟩, [awkward]⟩ := by
    decide
  have timed : ∀ event, .broadcast event ∈ awkwardView → event.Timed := by
    intro event member
    have same : event = awkward := by simpa [awkwardView] using member
    rw [same]
    decide
  exact ⟨kept, streams_of_inbox kept timed⟩

end Hub

end LayerGateway
