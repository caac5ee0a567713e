import Switchboard.Hub.Handlers

/-!
# The journal

The lines that a hub writes about what it does.
-/

namespace Switchboard.Hub

/-- How much a line matters. -/
inductive Level where
  | trace
  | debug
  | info
  | warn
  | error
deriving DecidableEq, Repr

/-- The word for a level. -/
def Level.name : Level → String
  | .trace => "trace"
  | .debug => "debug"
  | .info => "info"
  | .warn => "warn"
  | .error => "error"

/-- A value in a line. -/
inductive FieldValue where
  | number (value : Int)
  | text (value : String)
  | connection (id : ConnectionId)
deriving DecidableEq, Repr

/-- One line: its level, what it says, and the values that go with it. -/
structure Entry where
  level : Level
  message : String
  fields : List (String × FieldValue) := []
deriving DecidableEq, Repr

namespace Entry

/-- The field that names a user. -/
def user (id : UserId) : String × FieldValue := ("user_id", .number id.toInt)

/-- The field that names a connection. -/
def connection (id : ConnectionId) : String × FieldValue := ("connection_id", .connection id)

/-- The line that a hub starts with. -/
def started (policies : Policies) : Entry :=
  ⟨.info, "Dispatcher started",
    [("overflow_policy", .text policies.overflow.name),
      ("duplicate_policy", .text policies.duplicate.name)]⟩

/-- The line that a hub ends with. -/
def stopping (connections : Nat) : Entry :=
  ⟨.info, "All hub handles dropped, dispatcher stopping", [("connections", .number connections)]⟩

/-- The line about a registration; `total` is the number of registered connections after it. -/
def ofAdmission (handle : Handle) (total : Nat) : Admission → Entry
  | .ignored =>
    ⟨.debug, "Connection closed before registration, ignoring",
      [user handle.user, connection handle.connection]⟩
  | .inserted =>
    ⟨.info, "User connected",
      [user handle.user, connection handle.connection, ("total", .number total)]⟩
  | .replaced previous =>
    ⟨.info, "User reconnected, previous connection closed",
      [user handle.user, connection handle.connection, ("previous", .connection previous),
        ("total", .number total)]⟩
  | .rejected =>
    ⟨.info, "User already connected, new connection rejected",
      [user handle.user, connection handle.connection]⟩

/-- The line about a removal. -/
def ofDeparture (id : UserId) (gone : ConnectionId) (total : Nat) : Departure → Entry
  | .removed => ⟨.info, "User disconnected", [user id, connection gone, ("total", .number total)]⟩
  | .stale =>
    ⟨.debug, "Unregister for a connection that is not current, ignoring",
      [user id, connection gone]⟩

/-- The line about a payload for one recipient, unless that was offline. -/
def ofDelivery? (kind : String) (id : UserId) : Delivery → Option Entry
  | .offline => none
  | .delivered => some ⟨.trace, "Payload queued", [user id, ("kind", .text kind)]⟩
  | .evicted =>
    some ⟨.warn, "Outbox full, evicting slow connection", [user id, ("kind", .text kind)]⟩
  | .dropped => some ⟨.warn, "Outbox full, dropping payload", [user id, ("kind", .text kind)]⟩
  | .closed => some ⟨.debug, "Writer gone before unregister, removing", [user id]⟩

/-- The line that sums up a fan-out. -/
def summary (request : FanoutRequest) (outcomes : List (UserId × Delivery)) : Entry :=
  let count (delivery : Delivery) : Int := (outcomes.filter fun pair => pair.2 = delivery).length
  ⟨.debug, "Fan-out processed",
    [("kind", .text request.kindTag), ("recipients", .number request.recipients.length),
      ("delivered", .number (count .delivered)), ("offline", .number (count .offline)),
      ("bytes", .number request.payload.size)]⟩

/-- The lines about a request that was applied, `after` being the state it led to. -/
def ofVerdict (after : State) : Request → Verdict → List Entry
  | .register handle, .registration admission =>
    [ofAdmission handle after.registry.size admission]
  | .unregister id gone, .removal departure =>
    [ofDeparture id gone after.registry.size departure]
  | .fanout request, .deliveries outcomes =>
    (outcomes.filterMap fun (id, delivery) => ofDelivery? request.kindTag id delivery) ++
      [summary request outcomes]
  | _, _ => []

end Entry

end Switchboard.Hub
