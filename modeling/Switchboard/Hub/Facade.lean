import Switchboard.Hub.Config
import Switchboard.Hub.Dispatcher

/-!
# The hub as its users see it

Producers, transports and subscribers work on a `Hub`: its settings, its dispatcher, and the journal
lines that nobody has collected yet. A call either fails and leaves the hub as it was, but for a
handle that it was given, or stamps one request and enqueues it.
-/

namespace Switchboard.Hub

/-- Why a call on a hub fails. -/
inductive HubError where
  /-- The dispatcher is gone; the lane is the one that the request would have taken. -/
  | dispatcherStopped (lane : String)
  /-- The value to deliver has no JSON text. -/
  | serialization (cause : String)
deriving DecidableEq, Repr

/-- The wording of an error. -/
def HubError.message : HubError → String
  | .dispatcherStopped lane => "Dispatcher stopped: " ++ lane ++ " queue is closed"
  | .serialization cause => "Failed to serialize payload: " ++ cause

end Hub

open Hub

/-- A hub. -/
structure Hub where
  config : HubConfig
  dispatcher : Dispatcher
  /-- The serial number of the next connection. -/
  nextConnection : Nat := 0
  journal : List Entry := []
  /-- The connections that the dispatcher has pushed to or let go of since somebody looked. -/
  touched : List ConnectionId := []

namespace Hub

/-- A new hub, whose dispatcher has started. -/
def create (config : HubConfig) : Hub where
  config
  dispatcher := .create config.policies config.registerQueue.toNat config.unregisterQueue.toNat
    config.fanoutQueue.toNat
  journal := [.started config.policies]

/-- How many events the hub's channel is asked to keep: as many as the settings say, or one. -/
def eventCapacity (hub : Hub) : Nat := max 1 hub.config.presenceChannel.toNat

/-- The state behind the hub. -/
def state (hub : Hub) : State := hub.dispatcher.state

/-- The hub with a changed state. -/
def changeState (hub : Hub) (change : State → State) : Hub :=
  { hub with dispatcher := { hub.dispatcher with state := change hub.dispatcher.state } }

/-- Adds lines to the journal. -/
def write (hub : Hub) (lines : List Entry) : Hub := { hub with journal := hub.journal ++ lines }

/-- Lets the dispatcher apply everything that waits. -/
def settle (hub : Hub) : Hub :=
  let (dispatcher, happenings) := hub.dispatcher.settle
  { hub with
    dispatcher
    journal := hub.journal ++ happenings.flatMap Happening.entries
    touched := hub.touched ++ happenings.flatMap Happening.touched }

/-! ## Calls that submit a request -/

/-- Stamps a request and enqueues it, once its lane has room. -/
def enqueue (hub : Hub) (request : Request) : Hub × Except HubError Unit :=
  if hub.dispatcher.stage = .stopped then
    (hub, .error (.dispatcherStopped (Dispatcher.laneOf request).name))
  else
    let ready := if hub.dispatcher.isFull (Dispatcher.laneOf request) then hub.settle else hub
    ({ ready with dispatcher := ready.dispatcher.enter request }, .ok ())

/-- Makes a connection with an outbox of a given size. -/
def createConnection (hub : Hub) (user : UserId) (capacity : Nat) : Hub × Handle :=
  let connection : ConnectionId := ⟨hub.nextConnection⟩
  ({ hub.changeState (·.addOutbox connection (.create user capacity)) with
      nextConnection := hub.nextConnection + 1 },
    ⟨connection, user⟩)

/-- Makes a connection with an outbox of the size that the settings give. -/
def connect (hub : Hub) (user : UserId) : Hub × Handle :=
  hub.createConnection user hub.config.outboxCapacity.toNat

/-- Lets go of a connection that was made but never handed to the hub: handle and writer are gone. -/
def discard (hub : Hub) (handle : Handle) : Hub :=
  hub.changeState fun state =>
    (state.release handle.connection).changeOutbox handle.connection Outbox.abandon

/-- Hands a connection to the hub, which owns the handle from then on. -/
def register (hub : Hub) (handle : Handle) : Hub × Except HubError Unit :=
  match hub.enqueue (.register handle) with
  | (after, .ok ()) => (after, .ok ())
  | (after, .error error) => (after.changeState (·.release handle.connection), .error error)

/-- Asks for a connection to be dropped if it is the registered one of that user. -/
def unregister (hub : Hub) (user : UserId) (connection : ConnectionId) :
    Hub × Except HubError Unit :=
  hub.enqueue (.unregister user connection)

/-- Submits a fan-out request; one without recipients is no work. -/
def submit (hub : Hub) (request : FanoutRequest) : Hub × Except HubError Unit :=
  if request.recipients.isEmpty then (hub, .ok ()) else hub.enqueue (.fanout request)

/-- Delivers a payload to users. -/
def deliver (hub : Hub) (users : List UserId) (payload : Payload) : Hub × Except HubError Unit :=
  hub.submit (.to users payload)

/-- Delivers a value as JSON text to users, if it has one. -/
def deliverJson (hub : Hub) (users : List UserId) (kind : String) (text : Except String String) :
    Hub × Except HubError Unit :=
  match text with
  | .error cause => (hub, .error (.serialization cause))
  | .ok text => hub.submit ((FanoutRequest.to users text.toUTF8).withKind kind)

/-- Delivers a payload to one user. -/
def sendToUser (hub : Hub) (user : UserId) (payload : Payload) : Hub × Except HubError Unit :=
  hub.deliver [user] payload

/-- Delivers a value as JSON text to one user. -/
def sendJson (hub : Hub) (user : UserId) (kind : String) (text : Except String String) :
    Hub × Except HubError Unit :=
  hub.deliverJson [user] kind text

/-! ## Questions -/

/-- Whether a user is reachable. -/
def isOnline (hub : Hub) (user : UserId) : Bool := hub.state.online.contains user

/-- The reachable users in ascending order. -/
def listOnline (hub : Hub) : List UserId := hub.state.online.toList

/-- How many users are reachable. -/
def count (hub : Hub) : Nat := hub.state.online.size

/-- What has happened how often. -/
def stats (hub : Hub) : Counters := hub.state.counters

/-- A subscription to the events from now on. -/
def subscribe (hub : Hub) : Subscription := ⟨hub.state.published.length⟩

/-- What a subscriber can read now; `ended` says that nobody can publish any more. -/
def readEvents (hub : Hub) (subscription : Subscription) (ended : Bool) :
    List Notice × Subscription :=
  subscription.read (keptEvents hub.eventCapacity) hub.state.published ended

/-! ## The end -/

/-- Kills the dispatcher's task. -/
def kill (hub : Hub) : Hub := { hub with dispatcher := hub.dispatcher.kill }

/-- Says whether anybody can still submit requests. -/
def setReachable (hub : Hub) (reachable : Bool) : Hub :=
  { hub with dispatcher := { hub.dispatcher with reachable } }

/-- Whether the dispatcher is gone. -/
def hasStopped (hub : Hub) : Bool := hub.dispatcher.stage = .stopped

end Hub

end Switchboard
