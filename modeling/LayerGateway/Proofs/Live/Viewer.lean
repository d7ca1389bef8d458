import LayerGateway.Live.Hub

/-!
# One viewer of a hub

A hub serves its viewers one by one.  What it has of one viewer is a `Viewer`: what that is
subscribed to, and what it has not read.  An operation on the hub either concerns the viewer,
and then `Viewer.act` says what it does to it, or leaves it as it was.

* `HubOperation.concerns` says which operations concern a viewer: those that name it or open
  it, events, and the closing of the hub.
* `Hub.viewer_act` is that projection for one operation, `Hub.viewer_run` for many.
-/

namespace LayerGateway

/-! ## Operations -/

theorem ConnectionId.mk_eq_iff {number : Nat} {id : ConnectionId} :
    ConnectionId.mk number = id ↔ number = id.number := by
  cases id
  simp

/-- What can happen to a hub, by its own doing or by that of a viewer. -/
inductive HubOperation where
  | connect
  | openView (datasource : DatasourceId)
  | subscribe (id : ConnectionId) (datasource : DatasourceId)
  | unsubscribe (id : ConnectionId)
  | dropView (id : ConnectionId)
  | dropInbox (id : ConnectionId)
  | broadcast (event : LayerChanged)
  | receive (id : ConnectionId)
  | closeAll
  deriving DecidableEq, Repr

namespace HubOperation

def opens : HubOperation → Nat
  | .connect | .openView _ => 1
  | _ => 0

/-- Whether an operation has to do with a connection, on a hub with so many connections
opened before. -/
def concerns (id : ConnectionId) (opened : Nat) : HubOperation → Bool
  | .connect | .openView _ => opened + 1 == id.number
  | .subscribe other _ | .unsubscribe other | .dropView other | .dropInbox other
  | .receive other => other == id
  | .broadcast _ | .closeAll => true

end HubOperation

namespace Hub

def act (hub : Hub) : HubOperation → Hub
  | .connect => hub.connect.2
  | .openView datasource => (hub.openView datasource).2
  | .subscribe id datasource => (hub.subscribe id datasource).2
  | .unsubscribe id => hub.unsubscribe id
  | .dropView id => hub.dropView id
  | .dropInbox id => hub.dropInbox id
  | .broadcast event => (hub.broadcast event).2
  | .receive id => (hub.receive id).2
  | .closeAll => hub.closeAll.2

def run (hub : Hub) (operations : List HubOperation) : Hub :=
  operations.foldl act hub

/-- The operations that have to do with a connection. -/
def concerning (id : ConnectionId) : Nat → List HubOperation → List HubOperation
  | _, [] => []
  | opened, operation :: later =>
      let further := concerning id (opened + operation.opens) later
      if operation.concerns id opened then operation :: further else further

theorem room_act (hub : Hub) (operation : HubOperation) :
    (hub.act operation).room = hub.room := by
  cases operation <;> rfl

theorem opened_act (hub : Hub) (operation : HubOperation) :
    (hub.act operation).opened = hub.opened + operation.opens := by
  cases operation <;> rfl

/-! ## Sound hubs -/

/-- No connection occurs twice, and no number is higher than that of the last one opened. -/
structure Numbered (ids : List ConnectionId) (opened : Nat) : Prop where
  nodup : ids.Nodup
  below : ∀ id ∈ ids, id.number ≤ opened

section Numbered

variable {ids others : List ConnectionId} {opened : Nat}

theorem Numbered.concat (numbered : Numbered ids opened) :
    Numbered (ids ++ [ConnectionId.mk (opened + 1)]) (opened + 1) where
  nodup := by
    refine List.nodup_append.2 ⟨numbered.nodup, List.nodup_cons.2 ⟨nofun, List.nodup_nil⟩, ?_⟩
    rintro id member _ new rfl
    obtain rfl := List.mem_singleton.1 new
    exact absurd (numbered.below _ member) (Nat.not_succ_le_self opened)
  below id member := by
    rcases List.mem_append.1 member with old | new
    · exact Nat.le_succ_of_le (numbered.below id old)
    · obtain rfl := List.mem_singleton.1 new
      exact Nat.le_refl _

theorem Numbered.sublist (numbered : Numbered ids opened) (fewer : others.Sublist ids) :
    Numbered others opened where
  nodup := fewer.nodup numbered.nodup
  below id member := numbered.below id (fewer.subset member)

theorem Numbered.not_mem (numbered : Numbered ids opened) {id : ConnectionId}
    (new : opened < id.number) : id ∉ ids := fun member =>
  absurd (numbered.below id member) (Nat.not_le_of_lt new)

end Numbered

/-- The number of a connection stands for that connection for good, at both ends. -/
structure Sound (hub : Hub) : Prop where
  registered : Numbered (hub.registered.map (·.id)) hub.opened
  inboxes : Numbered (hub.inboxes.map (·.id)) hub.opened

theorem sound_empty (buffer : Nat) : Sound { buffer } :=
  ⟨⟨List.nodup_nil, nofun⟩, ⟨List.nodup_nil, nofun⟩⟩

section Sound

variable {hub : Hub}

theorem ids_map {α : Type} {key : α → ConnectionId} {change : α → α} (items : List α)
    (keepsId : ∀ item, key (change item) = key item) :
    (items.map change).map key = items.map key := by
  simp [keepsId]

theorem ids_registered_subscribe (hub : Hub) (id : ConnectionId) (datasource : DatasourceId) :
    (hub.subscribe id datasource).2.registered.map (·.id) = hub.registered.map (·.id) := by
  refine ids_map _ fun registration => ?_
  split <;> rfl

theorem ids_inboxes_broadcast (hub : Hub) (event : LayerChanged) :
    (hub.broadcast event).2.inboxes.map (·.id) = hub.inboxes.map (·.id) := by
  refine ids_map _ fun inbox => ?_
  split <;> rfl

theorem ids_inboxes_receive (hub : Hub) (id : ConnectionId) :
    (hub.receive id).2.inboxes.map (·.id) = hub.inboxes.map (·.id) := by
  refine ids_map _ fun inbox => ?_
  split <;> rfl

theorem Sound.connect (sound : hub.Sound) : hub.connect.2.Sound where
  registered := by simpa [Hub.connect] using sound.registered.concat
  inboxes := by simpa [Hub.connect] using sound.inboxes.concat

theorem Sound.subscribe (sound : hub.Sound) (id : ConnectionId) (datasource : DatasourceId) :
    (hub.subscribe id datasource).2.Sound :=
  ⟨(ids_registered_subscribe hub id datasource).symm ▸ sound.registered, sound.inboxes⟩

theorem Sound.act (sound : hub.Sound) (operation : HubOperation) :
    (hub.act operation).Sound := by
  have fewer {α : Type} (key : α → ConnectionId) (keep : α → Bool) (items : List α) :
      ((items.filter keep).map key).Sublist (items.map key) :=
    List.filter_sublist.map key
  cases operation with
  | connect => exact sound.connect
  | openView datasource => exact sound.connect.subscribe _ datasource
  | subscribe id datasource => exact sound.subscribe id datasource
  | unsubscribe id => exact ⟨sound.registered.sublist (fewer _ _ _), sound.inboxes⟩
  | dropView id =>
    exact ⟨sound.registered.sublist (fewer _ _ _), sound.inboxes.sublist (fewer _ _ _)⟩
  | dropInbox id => exact ⟨sound.registered, sound.inboxes.sublist (fewer _ _ _)⟩
  | broadcast event =>
    exact ⟨sound.registered.sublist (fewer _ _ _),
      (ids_inboxes_broadcast hub event).symm ▸ sound.inboxes⟩
  | receive id => exact ⟨sound.registered, (ids_inboxes_receive hub id).symm ▸ sound.inboxes⟩
  | closeAll => exact ⟨⟨List.nodup_nil, nofun⟩, sound.inboxes⟩

theorem Sound.run (sound : hub.Sound) (operations : List HubOperation) :
    (hub.run operations).Sound := by
  induction operations generalizing hub with
  | nil => exact sound
  | cons operation later ih => exact ih (sound.act operation)

end Sound

end Hub

/-! ## What a hub has of a viewer -/

/-- What a viewer is subscribed to while it is registered, and what it has not read while it
has an inbox. -/
@[ext]
structure Viewer where
  views : Option (List DatasourceId)
  unread : Option (List LayerChanged)
  deriving DecidableEq, Repr

namespace Viewer

/-- Whether an event is put into the inbox of the viewer. -/
def accepts (room : Nat) (viewer : Viewer) (event : LayerChanged) : Bool :=
  viewer.views.any (·.contains event.datasource) && viewer.unread.any (·.length < room)

def act (room : Nat) (viewer : Viewer) : HubOperation → Viewer
  | .connect => ⟨some [], some []⟩
  | .openView datasource => ⟨some [datasource], some []⟩
  | .subscribe _ datasource => { viewer with views := viewer.views.map (·.insert datasource) }
  | .unsubscribe _ | .closeAll => { viewer with views := none }
  | .dropView _ => ⟨none, none⟩
  | .dropInbox _ => { viewer with unread := none }
  | .broadcast event =>
      { views := viewer.views.filter fun datasources =>
          !datasources.contains event.datasource || viewer.unread.isSome
        unread := viewer.unread.map fun events =>
          if viewer.accepts room event then events ++ [event] else events }
  | .receive _ => { viewer with unread := viewer.unread.map (·.tail) }

end Viewer

namespace Hub

def viewer (hub : Hub) (id : ConnectionId) : Viewer where
  views := (hub.registration? id).map (·.datasources)
  unread := (hub.inbox? id).map (·.events)

section Lookup

variable {α : Type} {key : α → ConnectionId} {items : List α} {id : ConnectionId}

theorem find?_map_key {change : α → α} (keepsId : ∀ item, key (change item) = key item) :
    (items.map change).find? (key · == id) = (items.find? (key · == id)).map change := by
  rw [List.find?_map]
  congr 2
  funext item
  exact congrArg (· == id) (keepsId item)

theorem find?_map_own (key : α → ConnectionId) {other : ConnectionId} {change : α → α}
    (keepsId : ∀ item, key (change item) = key item) :
    (items.map fun item => if key item = other then change item else item).find? (key · == id) =
      if other = id then (items.find? (key · == id)).map change
      else items.find? (key · == id) := by
  have keeps : ∀ item, key (if key item = other then change item else item) = key item := by
    intro item
    split
    · exact keepsId item
    · rfl
  rw [find?_map_key keeps]
  cases found : items.find? (key · == id) with
  | none => simp
  | some item =>
    have own : key item = id := by simpa using List.find?_some found
    by_cases same : other = id
    · simp [own, same]
    · simp [own, same, Ne.symm same]

theorem find?_filter_key (nodup : (items.map key).Nodup) (keep : α → Bool) :
    (items.filter keep).find? (key · == id) = (items.find? (key · == id)).filter keep := by
  induction items with
  | nil => rfl
  | cons item items ih =>
    obtain ⟨once, nodup⟩ := List.nodup_cons.1 nodup
    have rest := ih nodup
    by_cases here : key item = id
    · -- Nothing else has this key, so what is left of the others has it neither.
      have others : (items.filter keep).find? (key · == id) = none := by
        refine List.find?_eq_none.2 fun other member same => once ?_
        rw [here, ← beq_iff_eq.1 same]
        exact List.mem_map_of_mem (List.mem_filter.1 member).1
      cases kept : keep item <;> simp [here, kept, others, Option.filter]
    · cases kept : keep item <;> simp [here, kept, rest]

theorem find?_key_none (absent : id ∉ items.map key) : items.find? (key · == id) = none := by
  refine List.find?_eq_none.2 fun item member same => absent ?_
  rw [← beq_iff_eq.1 same]
  exact List.mem_map_of_mem member

theorem key_of_find? {item : α} (found : items.find? (key · == id) = some item) :
    key item = id := by
  simpa using List.find?_some found

theorem find?_filter_ne (nodup : (items.map key).Nodup) (id other : ConnectionId) :
    (items.filter (key · != other)).find? (key · == id) =
      if other = id then none else items.find? (key · == id) := by
  rw [find?_filter_key nodup]
  cases found : items.find? (key · == id) with
  | none => simp
  | some item =>
    have own := key_of_find? found
    by_cases same : other = id
    · simp [own, same, Option.filter]
    · simp [own, same, Ne.symm same, Option.filter]

theorem find?_concat_key (id : ConnectionId) (item : α) (absent : key item ∉ items.map key) :
    (items ++ [item]).find? (key · == id) =
      if key item = id then some item else items.find? (key · == id) := by
  rw [List.find?_append]
  by_cases new : key item = id
  · rw [find?_key_none (new ▸ absent), if_pos new]
    simp [new]
  · rw [if_neg new]
    simp [new]

end Lookup

section Act

variable {hub : Hub} {id : ConnectionId}

/-- Where an operation on one end leaves the others alone, it leaves alone what the hub has of
their viewers. -/
theorem viewer_ext {hub later : Hub} {id : ConnectionId}
    (registration : later.registration? id = hub.registration? id)
    (inbox : later.inbox? id = hub.inbox? id) : later.viewer id = hub.viewer id := by
  rw [viewer, viewer, registration, inbox]

theorem viewer_connect (sound : hub.Sound) :
    hub.connect.2.viewer id =
      if hub.opened + 1 = id.number then ⟨some [], some []⟩ else hub.viewer id := by
  have newRegistration := find?_concat_key id (⟨⟨hub.opened + 1⟩, []⟩ : Registration)
    (sound.registered.not_mem (Nat.lt_succ_self _))
  have newInbox := find?_concat_key id (⟨⟨hub.opened + 1⟩, []⟩ : Inbox)
    (sound.inboxes.not_mem (Nat.lt_succ_self _))
  simp only [ConnectionId.mk_eq_iff] at newRegistration newInbox
  simp only [viewer, registration?, inbox?, connect, newRegistration, newInbox]
  split <;> rfl

theorem viewer_subscribe (other : ConnectionId) (datasource : DatasourceId) :
    (hub.subscribe other datasource).2.viewer id =
      if other = id then (hub.viewer id).act hub.room (.subscribe other datasource)
      else hub.viewer id := by
  have changed : (hub.subscribe other datasource).2.registration? id =
      if other = id then (hub.registration? id).map fun registration =>
        { registration with datasources := registration.datasources.insert datasource }
      else hub.registration? id :=
    find?_map_own Registration.id (fun _ => rfl)
  by_cases own : other = id
  · rw [if_pos own] at changed ⊢
    refine Viewer.ext ?_ rfl
    simp only [viewer, changed, Viewer.act, Option.map_map]
    rfl
  · rw [if_neg own] at changed ⊢
    exact viewer_ext changed rfl

theorem viewer_openView (sound : hub.Sound) (datasource : DatasourceId) :
    (hub.openView datasource).2.viewer id =
      if hub.opened + 1 = id.number then ⟨some [datasource], some []⟩ else hub.viewer id := by
  change (hub.connect.2.subscribe ⟨hub.opened + 1⟩ datasource).2.viewer id = _
  rw [viewer_subscribe, viewer_connect sound]
  simp only [ConnectionId.mk_eq_iff]
  by_cases new : hub.opened + 1 = id.number
  · rw [if_pos new, if_pos new, if_pos new]
    simp [Viewer.act]
  · rw [if_neg new, if_neg new, if_neg new]

theorem registration?_unsubscribe (sound : hub.Sound) (id other : ConnectionId) :
    (hub.unsubscribe other).registration? id =
      if other = id then none else hub.registration? id :=
  find?_filter_ne sound.registered.nodup id other

theorem inbox?_dropInbox (sound : hub.Sound) (id other : ConnectionId) :
    (hub.dropInbox other).inbox? id = if other = id then none else hub.inbox? id :=
  find?_filter_ne sound.inboxes.nodup id other

theorem viewer_receive (other : ConnectionId) :
    (hub.receive other).2.viewer id =
      if other = id then (hub.viewer id).act hub.room (.receive other) else hub.viewer id := by
  have changed : (hub.receive other).2.inbox? id =
      if other = id then (hub.inbox? id).map fun inbox =>
        { inbox with events := inbox.events.tail }
      else hub.inbox? id :=
    find?_map_own Inbox.id (fun _ => rfl)
  by_cases own : other = id
  · rw [if_pos own] at changed ⊢
    refine Viewer.ext rfl ?_
    simp only [viewer, changed, Viewer.act, Option.map_map]
    rfl
  · rw [if_neg own] at changed ⊢
    exact viewer_ext rfl changed

/-- Whether an inbox takes an event depends on nobody but its viewer. -/
theorem accepts_eq {inbox : Inbox} (found : hub.inbox? id = some inbox) (event : LayerChanged) :
    hub.accepts inbox event = (hub.viewer id).accepts hub.room event := by
  have own : inbox.id = id := key_of_find? found
  simp only [accepts, Viewer.accepts, viewer, found, own]
  cases hub.registration? id <;> simp [Registration.views]

theorem inbox?_broadcast (hub : Hub) (id : ConnectionId) (event : LayerChanged) :
    (hub.broadcast event).2.inbox? id = (hub.inbox? id).map fun inbox =>
      if hub.accepts inbox event then { inbox with events := inbox.events ++ [event] }
      else inbox := by
  refine find?_map_key fun inbox => ?_
  split <;> rfl

theorem viewer_broadcast (sound : hub.Sound) (id : ConnectionId) (event : LayerChanged) :
    (hub.broadcast event).2.viewer id = (hub.viewer id).act hub.room (.broadcast event) := by
  have registration : (hub.broadcast event).2.registration? id =
      (hub.registration? id).filter fun registration =>
        !registration.views event.datasource || (hub.inbox? registration.id).isSome :=
    find?_filter_key sound.registered.nodup _
  have inbox := inbox?_broadcast hub id event
  have views : ((hub.broadcast event).2.viewer id).views =
      ((hub.viewer id).act hub.room (.broadcast event)).views := by
    simp only [viewer, Viewer.act, registration, Option.isSome_map]
    cases found : hub.registration? id with
    | none => rfl
    | some registration =>
      have own : registration.id = id := key_of_find? found
      simp only [Option.filter, Option.map_some, own, Registration.views]
      exact apply_ite (Option.map Registration.datasources) _ _ _
  have unread : ((hub.broadcast event).2.viewer id).unread =
      ((hub.viewer id).act hub.room (.broadcast event)).unread := by
    cases found : hub.inbox? id with
    | none => simp only [Viewer.act, viewer, inbox, found, Option.map_none]
    | some kept =>
      have same := accepts_eq found event
      have events : (hub.viewer id).unread = some kept.events := by
        simp only [viewer, found, Option.map_some]
      simp only [Viewer.act, events, Option.map_some, ← same]
      simp only [viewer, inbox, found, Option.map_some]
      split <;> rfl
  exact Viewer.ext views unread

/-- An operation does to a viewer what it says if it concerns the viewer, and nothing if
not. -/
theorem viewer_act (sound : hub.Sound) (operation : HubOperation) :
    (hub.act operation).viewer id =
      if operation.concerns id hub.opened then (hub.viewer id).act hub.room operation
      else hub.viewer id := by
  cases operation with
  | connect =>
    simp only [HubOperation.concerns, beq_iff_eq]
    exact viewer_connect sound
  | openView datasource =>
    simp only [HubOperation.concerns, beq_iff_eq]
    exact viewer_openView sound datasource
  | subscribe other datasource =>
    simp only [HubOperation.concerns, beq_iff_eq]
    exact viewer_subscribe other datasource
  -- The hub alone forgets the connection; what is in its inbox stays.
  | unsubscribe other =>
    have registration := registration?_unsubscribe sound id other
    simp only [HubOperation.concerns, beq_iff_eq]
    split
    · next own =>
      rw [if_pos own] at registration
      exact Viewer.ext (congrArg (Option.map _) registration) rfl
    · next foreign =>
      rw [if_neg foreign] at registration
      exact viewer_ext registration rfl
  | dropView other =>
    have registration : (hub.dropView other).registration? id = _ :=
      registration?_unsubscribe sound id other
    have inbox : (hub.dropView other).inbox? id = _ := inbox?_dropInbox sound id other
    simp only [HubOperation.concerns, beq_iff_eq]
    split
    · next own =>
      rw [if_pos own] at registration inbox
      exact Viewer.ext (congrArg (Option.map _) registration) (congrArg (Option.map _) inbox)
    · next foreign =>
      rw [if_neg foreign] at registration inbox
      exact viewer_ext registration inbox
  -- The viewer goes, and the hub does not know.
  | dropInbox other =>
    have inbox := inbox?_dropInbox sound id other
    simp only [HubOperation.concerns, beq_iff_eq]
    split
    · next own =>
      rw [if_pos own] at inbox
      exact Viewer.ext rfl (congrArg (Option.map _) inbox)
    · next foreign =>
      rw [if_neg foreign] at inbox
      exact viewer_ext rfl inbox
  | broadcast event => exact viewer_broadcast sound id event
  | receive other =>
    simp only [HubOperation.concerns, beq_iff_eq]
    exact viewer_receive other
  | closeAll => rfl

/-- What becomes of a viewer is told by the operations that concern it. -/
theorem viewer_run (sound : hub.Sound) (operations : List HubOperation) :
    (hub.run operations).viewer id =
      (concerning id hub.opened operations).foldl (Viewer.act hub.room) (hub.viewer id) := by
  induction operations generalizing hub with
  | nil => rfl
  | cons operation later ih =>
    have rest := ih (sound.act operation)
    rw [room_act, opened_act, viewer_act sound] at rest
    change ((hub.act operation).run later).viewer id = _
    rw [rest, concerning]
    split <;> rfl

end Act

end Hub

end LayerGateway
