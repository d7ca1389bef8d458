import LayerGateway.Live.Event

/-!
# The hub of live views

The hub passes change events to those who view a datasource.  A connection has two
ends.  At the hub's end it is *registered* and subscribed to datasources; at the
viewer's end there is an *inbox* with the events not yet read.  Each end can go away
without the other: a closed hub leaves inboxes that can still be read, and a viewer
who went away is noticed only at the next event.  An inbox holds a limited number of
events; whoever does not read misses the events that find it full.
-/

namespace LayerGateway

structure ConnectionId where
  number : Nat
  deriving DecidableEq, Repr, Inhabited

def ConnectionId.text (id : ConnectionId) : String :=
  s!"conn-{id.number}"

structure Registration where
  id : ConnectionId
  datasources : List DatasourceId
  deriving DecidableEq, Repr

def Registration.views (registration : Registration) (datasource : DatasourceId) : Bool :=
  registration.datasources.contains datasource

/-- The viewer's end of a connection, the events oldest first. -/
structure Inbox where
  id : ConnectionId
  events : List LayerChanged
  deriving DecidableEq, Repr

/-- The hub: how many events an inbox holds at most, how many connections were ever
opened, and both ends of those that are left. -/
structure Hub where
  buffer : Nat
  opened : Nat := 0
  registered : List Registration := []
  inboxes : List Inbox := []
  deriving DecidableEq, Repr

namespace Hub

/-- How many events viewers can leave unread, unless told otherwise. -/
def defaultBuffer : Nat := 64

/-- How many events an inbox holds; it holds at least one. -/
def room (hub : Hub) : Nat :=
  max 1 hub.buffer

def registration? (hub : Hub) (id : ConnectionId) : Option Registration :=
  hub.registered.find? (·.id == id)

def inbox? (hub : Hub) (id : ConnectionId) : Option Inbox :=
  hub.inboxes.find? (·.id == id)

def connect (hub : Hub) : ConnectionId × Hub :=
  let id : ConnectionId := ⟨hub.opened + 1⟩
  (id, { hub with
    opened := hub.opened + 1
    registered := hub.registered ++ [⟨id, []⟩]
    inboxes := hub.inboxes ++ [⟨id, []⟩] })

/-- Subscribes a connection to a datasource, if it is registered. -/
def subscribe (hub : Hub) (id : ConnectionId) (datasource : DatasourceId) : Bool × Hub :=
  ((hub.registration? id).isSome, { hub with
    registered := hub.registered.map fun registration =>
      if registration.id = id then
        { registration with datasources := registration.datasources.insert datasource }
      else registration })

def unsubscribe (hub : Hub) (id : ConnectionId) : Hub :=
  { hub with registered := hub.registered.filter (·.id != id) }

def openView (hub : Hub) (datasource : DatasourceId) : ConnectionId × Hub :=
  let (id, hub) := hub.connect
  (id, (hub.subscribe id datasource).2)

/-- The viewer goes away, and nobody tells the hub. -/
def dropInbox (hub : Hub) (id : ConnectionId) : Hub :=
  { hub with inboxes := hub.inboxes.filter (·.id != id) }

def dropView (hub : Hub) (id : ConnectionId) : Hub :=
  (hub.unsubscribe id).dropInbox id

/-- Whether an event would be put into an inbox: its connection is registered and views
the datasource, and there is room. -/
def accepts (hub : Hub) (inbox : Inbox) (event : LayerChanged) : Bool :=
  (hub.registration? inbox.id).any (·.views event.datasource) && inbox.events.length < hub.room

/-- Passes an event on and counts the inboxes that took it.  Connections that view the
datasource and have no inbox any more are forgotten. -/
def broadcast (hub : Hub) (event : LayerChanged) : Nat × Hub :=
  ((hub.inboxes.filter (hub.accepts · event)).length, { hub with
    registered := hub.registered.filter fun registration =>
      !registration.views event.datasource || (hub.inbox? registration.id).isSome
    inboxes := hub.inboxes.map fun inbox =>
      if hub.accepts inbox event then { inbox with events := inbox.events ++ [event] }
      else inbox })

def receive (hub : Hub) (id : ConnectionId) : Option LayerChanged × Hub :=
  ((hub.inbox? id).bind (·.events.head?), { hub with
    inboxes := hub.inboxes.map fun inbox =>
      if inbox.id = id then { inbox with events := inbox.events.tail } else inbox })

def drain (hub : Hub) (id : ConnectionId) : List LayerChanged × Hub :=
  (((hub.inbox? id).map (·.events)).getD [], { hub with
    inboxes := hub.inboxes.map fun inbox =>
      if inbox.id = id then { inbox with events := [] } else inbox })

/-- Whether a viewer has nothing more to expect: the hub has forgotten the connection and
all its events were read. -/
def hasEnded (hub : Hub) (id : ConnectionId) : Bool :=
  (hub.registration? id).isNone && (hub.inbox? id).all (·.events.isEmpty)

def connectionCount (hub : Hub) : Nat :=
  hub.registered.length

def viewerCount (hub : Hub) (datasource : DatasourceId) : Nat :=
  (hub.registered.filter (·.views datasource)).length

def closeAll (hub : Hub) : Nat × Hub :=
  (hub.registered.length, { hub with registered := [] })

end Hub

end LayerGateway
