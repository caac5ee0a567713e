import Std.Data.ExtTreeSet
import Switchboard.Hub.Identity

/-!
# Fan-out requests

One payload for a set of users. Main statement: `mem_distinct`, the recipients are the users that
were named, each once.
-/

namespace Switchboard.Hub

/-- The bytes that a client is to receive. -/
abbrev Payload := ByteArray

/-- Payloads are compared byte by byte. -/
instance decidableEqPayload : DecidableEq ByteArray
  | ⟨a⟩, ⟨b⟩ => decidable_of_decidable_of_iff (p := a = b) (by simp)

/-- The payload as text, if it is UTF-8. -/
def Payload.asText? (payload : Payload) : Option String := String.fromUTF8? payload

/-- The users met so far, as a set and in reverse order. -/
structure Roll where
  seen : Std.ExtTreeSet UserId
  inOrder : List UserId
  mem_seen : ∀ user, user ∈ seen ↔ user ∈ inOrder
  nodup : inOrder.Nodup

/-- Nobody met. -/
def Roll.empty : Roll := ⟨∅, [], by simp, List.nodup_nil⟩

/-- Meets a user, unless that happened before. -/
def Roll.meet (roll : Roll) (user : UserId) : Roll :=
  if known : user ∈ roll.seen then roll
  else
    ⟨roll.seen.insert user, user :: roll.inOrder,
      fun other => by
        rw [Std.ExtTreeSet.mem_insert, List.mem_cons, roll.mem_seen, Std.compare_eq_iff_eq]
        exact or_congr ⟨Eq.symm, Eq.symm⟩ Iff.rfl,
      List.nodup_cons.mpr ⟨fun member => known ((roll.mem_seen user).mpr member), roll.nodup⟩⟩

/-- The users of a list, each once, in the order in which they first occur. -/
def distinct (users : List UserId) : List UserId :=
  (users.foldl Roll.meet .empty).inOrder.reverse

theorem nodup_distinct (users : List UserId) : (distinct users).Nodup :=
  List.pairwise_reverse.mpr ((users.foldl Roll.meet .empty).nodup.imp Ne.symm)

theorem mem_inOrder_meet (roll : Roll) (user other : UserId) :
    other ∈ (roll.meet user).inOrder ↔ other = user ∨ other ∈ roll.inOrder := by
  unfold Roll.meet
  split
  next known =>
    refine ⟨Or.inr, fun member => member.elim (fun same => ?_) id⟩
    exact same ▸ (roll.mem_seen user).mp known
  next => simp

/-- The recipients are the users that were named. -/
theorem mem_distinct {users : List UserId} {user : UserId} :
    user ∈ distinct users ↔ user ∈ users := by
  have folded (roll : Roll) :
      user ∈ (users.foldl Roll.meet roll).inOrder ↔ user ∈ users ∨ user ∈ roll.inOrder := by
    induction users generalizing roll with
    | nil => simp
    | cons first rest step =>
      rw [List.foldl_cons, step, mem_inOrder_meet, List.mem_cons, or_left_comm, or_assoc]
  simpa [distinct, Roll.empty] using folded .empty

/-- A payload for distinct users, with a word for the journal. -/
structure FanoutRequest where
  recipients : List UserId
  nodup : recipients.Nodup
  payload : Payload
  kind : Option String := none
deriving DecidableEq

/-- A request for the users named, duplicates collapsed. -/
def FanoutRequest.to (users : List UserId) (payload : Payload) : FanoutRequest where
  recipients := distinct users
  nodup := nodup_distinct users
  payload

/-- The request with another kind. -/
def FanoutRequest.withKind (request : FanoutRequest) (kind : String) : FanoutRequest :=
  { request with kind := some kind }

/-- The kind, or a word for none. -/
def FanoutRequest.kindTag (request : FanoutRequest) : String := request.kind.getD "untyped"

end Switchboard.Hub
