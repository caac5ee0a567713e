import Std.Data.ExtTreeMap
import Switchboard.Hub.Counters
import Switchboard.Hub.Outbox
import Switchboard.Hub.Policy
import Switchboard.Hub.Presence

/-!
# The state of a hub

The registry of live connections, the presence view beside it, the counters, every outbox and the
events published so far. What a request makes of it is made up of small changes (`Change`).
-/

namespace Switchboard.Hub

/-- The right to push to an outbox, and whose it is. -/
structure Handle where
  connection : ConnectionId
  user : UserId
deriving DecidableEq, Repr

/-- Everything that a hub knows. -/
structure State where
  registry : Std.ExtTreeMap UserId Handle := ∅
  online : PresenceView := ∅
  counters : Counters := {}
  outboxes : Std.ExtTreeMap ConnectionId Outbox := ∅
  /-- All events so far, the oldest first. -/
  published : List PresenceEvent := []

namespace State

/-! ## Small changes -/

/-- Counts one occurrence. -/
def record (state : State) (occurrence : Occurrence) : State :=
  { state with counters := state.counters.record occurrence }

/-- Tells the subscribers. -/
def publish (state : State) (event : PresenceEvent) : State :=
  { state with published := state.published ++ [event] }

/-- Makes a handle the registered one of its user. -/
def enter (state : State) (handle : Handle) : State :=
  { state with registry := state.registry.insert handle.user handle }

/-- Takes a user's handle out of the registry. -/
def leave (state : State) (user : UserId) : State :=
  { state with registry := state.registry.erase user }

/-- Shows a user as reachable. -/
def markOnline (state : State) (user : UserId) : State :=
  { state with online := state.online.insert user }

/-- Shows a user as unreachable. -/
def markOffline (state : State) (user : UserId) : State :=
  { state with online := state.online.erase user }

/-- Changes one outbox. -/
def changeOutbox (state : State) (connection : ConnectionId) (change : Outbox → Outbox) : State :=
  { state with outboxes := state.outboxes.modify connection change }

/-- Lets go of a handle. -/
def release (state : State) (connection : ConnectionId) : State :=
  state.changeOutbox connection Outbox.release

/-- A new outbox, for a connection that has none. -/
def addOutbox (state : State) (connection : ConnectionId) (outbox : Outbox) : State :=
  { state with outboxes := state.outboxes.insert connection outbox }

/-- Whether a connection has a writer. -/
def attended (state : State) (connection : ConnectionId) : Bool :=
  match state.outboxes[connection]? with
  | some outbox => outbox.attended
  | none => false

/-- Why nothing can be pushed to a connection now, if so; without an outbox there is no writer. -/
def fault? (state : State) (connection : ConnectionId) : Option PushFault :=
  match state.outboxes[connection]? with
  | some outbox => outbox.fault?
  | none => some .closed

/-- Pushes a payload to a connection. -/
def push (state : State) (connection : ConnectionId) (payload : Payload) :
    Except PushFault State :=
  match state.fault? connection with
  | some fault => .error fault
  | none => .ok (state.changeOutbox connection (·.append payload))

end State

/-! ## Changes as data -/

/-- A small change of a state. -/
inductive Change where
  | count (occurrence : Occurrence)
  | enter (handle : Handle)
  | leave (user : UserId)
  | markOnline (user : UserId)
  | markOffline (user : UserId)
  | release (connection : ConnectionId)
  | append (connection : ConnectionId) (payload : Payload)
  | publish (event : PresenceEvent)
deriving DecidableEq

/-- The state after a small change. -/
def State.change (state : State) : Change → State
  | .count occurrence => state.record occurrence
  | .enter handle => state.enter handle
  | .leave user => state.leave user
  | .markOnline user => state.markOnline user
  | .markOffline user => state.markOffline user
  | .release connection => state.release connection
  | .append connection payload => state.changeOutbox connection (·.append payload)
  | .publish event => state.publish event

end Switchboard.Hub
