import Std.Data.ExtTreeSet
import Switchboard.Hub.Identity

/-!
# Presence

Who is reachable, and the events that tell of changes. Subscribers share a channel that keeps a
number of events; one that falls behind loses the oldest.
-/

namespace Switchboard.Hub

/-- Why a connection is no longer, or never was, the registered one. -/
inductive OfflineReason where
  | disconnected
  | replaced
  | evicted
  | rejected
  | closed
deriving DecidableEq, Repr

/-- The word for a reason. -/
def OfflineReason.name : OfflineReason → String
  | .disconnected => "disconnected"
  | .replaced => "replaced"
  | .evicted => "evicted"
  | .rejected => "rejected"
  | .closed => "closed"

/-- A change of who is reachable over what. -/
inductive PresenceEvent where
  | online (user : UserId) (connection : ConnectionId)
  | offline (user : UserId) (connection : ConnectionId) (reason : OfflineReason)
deriving DecidableEq, Repr

/-- The user that an event is about. -/
def PresenceEvent.user : PresenceEvent → UserId
  | .online user _ => user
  | .offline user _ _ => user

/-- The connection that an event is about. -/
def PresenceEvent.connection : PresenceEvent → ConnectionId
  | .online _ connection => connection
  | .offline _ connection _ => connection

/-- The users with a registered connection. -/
abbrev PresenceView := Std.ExtTreeSet UserId

/-- A reader of the published events, who has read the first `next` of them. -/
structure Subscription where
  next : Nat
deriving DecidableEq, Repr

/-- What a subscriber reads. -/
inductive Notice where
  | event (event : PresenceEvent)
  /-- That many events are lost. -/
  | lagged (count : Nat)
  /-- No event can come any more. -/
  | ended
deriving DecidableEq, Repr

/-- The least power of two that is at least `n`, for `n` up to `2^fuel`. -/
def powerOfTwoFrom (n : Nat) : (fuel : Nat) → (candidate : Nat) → Nat
  | 0, candidate => candidate
  | fuel + 1, candidate =>
    if n ≤ candidate then candidate else powerOfTwoFrom n fuel (2 * candidate)

/-- How many events a channel keeps that is asked to keep `n`: the next power of two. -/
def keptEvents (n : Nat) : Nat := powerOfTwoFrom n 64 1

/-- Everything a subscriber can read, of all events published so far. -/
def Subscription.read (subscription : Subscription) (kept : Nat) (published : List PresenceEvent)
    (ended : Bool) : List Notice × Subscription :=
  let lost := published.length - subscription.next - kept
  let notices :=
    (if 0 < lost then [.lagged lost] else []) ++
      (published.drop (subscription.next + lost)).map .event ++
      (if ended then [.ended] else [])
  (notices, ⟨published.length⟩)

end Switchboard.Hub
