import Switchboard.Hub.Fanout

/-!
# Outboxes

An outbox holds the payloads on their way from the hub to one connection's writer. It has two ends:
a handle, held by whoever may push, and a writer, who takes payloads out. Either may go first.
-/

namespace Switchboard.Hub

/-- A bounded buffer between a handle and a writer, the oldest payload first. -/
structure Outbox where
  owner : UserId
  capacity : Nat
  buffer : List Payload := []
  /-- The handle still exists. -/
  held : Bool := true
  /-- The writer still exists. -/
  attended : Bool := true
deriving DecidableEq

/-- Why a payload cannot be pushed. -/
inductive PushFault where
  | full
  | closed
deriving DecidableEq, Repr

/-- What a writer sees. -/
inductive Reception where
  | payload (payload : Payload)
  /-- Nothing now, but a payload may still come. -/
  | pending
  /-- Nothing any more. -/
  | closed
deriving DecidableEq

namespace Outbox

/-- A new outbox with room for at least one payload. -/
def create (owner : UserId) (capacity : Nat) : Outbox := { owner, capacity := max 1 capacity }

/-- Why nothing can be pushed now, if so. A missing writer is noticed before a full buffer. -/
def fault? (outbox : Outbox) : Option PushFault :=
  if !outbox.attended then some .closed
  else if outbox.capacity ≤ outbox.buffer.length then some .full
  else none

/-- The outbox with one more payload. -/
def append (outbox : Outbox) (payload : Payload) : Outbox :=
  { outbox with buffer := outbox.buffer ++ [payload] }

/-- Lets go of the handle; what is buffered can still be taken. -/
def release (outbox : Outbox) : Outbox := { outbox with held := false }

/-- Lets go of the writer, and with it of what is buffered. -/
def abandon (outbox : Outbox) : Outbox := { outbox with attended := false, buffer := [] }

/-- What the writer sees next, and the outbox after that. -/
def receive (outbox : Outbox) : Reception × Outbox :=
  match outbox.buffer with
  | payload :: rest => (.payload payload, { outbox with buffer := rest })
  | [] => (if outbox.held then .pending else .closed, outbox)

/-- Takes up to `count` payloads that are there, the oldest first. -/
def take (outbox : Outbox) (count : Nat) : List Payload × Outbox :=
  (outbox.buffer.take count, { outbox with buffer := outbox.buffer.drop count })

end Outbox

end Switchboard.Hub
