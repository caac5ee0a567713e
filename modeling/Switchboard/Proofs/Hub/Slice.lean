import Switchboard.Proofs.Hub.Invariant

/-!
# One user's slice of a hub

What a hub's state holds for one user: the registered connection, whether the user is shown as
reachable, the outboxes of the user's connections, and the events about the user. A delivery to one
user acts on that user's slice alone (`slice_deliver_of_ne`) and depends on nothing else
(`slice_deliver`). So a fan-out does to a slice what a single delivery does, or nothing
(`slice_fanOut`).
-/

namespace Switchboard.Hub

/-- What a hub's state holds for one user. -/
@[ext]
structure Slice where
  registered : Option Handle
  online : Bool
  outboxes : ConnectionId → Option Outbox
  events : List PresenceEvent

/-- A user's slice of a state. -/
def State.slice (state : State) (user : UserId) : Slice where
  registered := state.registry[user]?
  online := state.online.contains user
  outboxes connection := (state.outboxes[connection]?).filter fun outbox => outbox.owner = user
  events := state.published.filter fun event => event.user = user

namespace Slice

/-- The slice with one outbox changed. -/
def changeOutbox (slice : Slice) (connection : ConnectionId) (change : Outbox → Outbox) : Slice :=
  { slice with
    outboxes := fun other =>
      if connection = other then (slice.outboxes other).map change else slice.outboxes other }

/-- The slice without its registered connection. -/
def discard (slice : Slice) (user : UserId) (connection : ConnectionId) (reason : OfflineReason) :
    Slice :=
  { slice.changeOutbox connection Outbox.release with
    registered := none
    online := false
    events := slice.events ++ [.offline user connection reason] }

/-- A delivery, as it acts on the recipient's slice. -/
def deliver (policy : OverflowPolicy) (payload : Payload) (slice : Slice) (user : UserId) :
    Slice × Delivery :=
  match slice.registered with
  | none => (slice, .offline)
  | some handle =>
    match slice.outboxes handle.connection with
    | none => (slice.discard user handle.connection .closed, .closed)
    | some outbox =>
      if outbox.attended then
        if outbox.buffer.length < outbox.capacity then
          (slice.changeOutbox handle.connection (·.append payload), .delivered)
        else
          match policy with
          | .evict => (slice.discard user handle.connection .evicted, .evicted)
          | .dropNewest => (slice, .dropped)
      else (slice.discard user handle.connection .closed, .closed)

end Slice

/-! ## Slices after small changes -/

namespace State

variable {past : List Operation} {state : State}

/-- What is counted shows in no slice. -/
@[simp] theorem slice_record (state : State) (occurrence : Occurrence) (user : UserId) :
    (state.record occurrence).slice user = state.slice user := rfl

/-- Changing an outbox that belongs to somebody else changes nothing. -/
theorem slice_changeOutbox_of_ne {connection : ConnectionId} (change : Outbox → Outbox)
    (owner : ∀ outbox, (change outbox).owner = outbox.owner) {user : UserId}
    (foreign : ∀ outbox, state.outboxes[connection]? = some outbox → outbox.owner ≠ user) :
    (state.changeOutbox connection change).slice user = state.slice user := by
  refine Slice.ext rfl rfl (funext fun other => ?_) rfl
  simp only [slice, getElem?_changeOutbox]
  split
  next same =>
    subst same
    cases found : state.outboxes[connection]? with
    | none => rfl
    | some outbox =>
      have elsewhere := foreign outbox found
      simp [Option.filter, owner, elsewhere]
  next => rfl

/-- A change of an outbox shows in the slice of its owner. -/
theorem slice_changeOutbox (state : State) (connection : ConnectionId)
    (change : Outbox → Outbox) (owner : ∀ outbox, (change outbox).owner = outbox.owner)
    (user : UserId) :
    (state.changeOutbox connection change).slice user =
      (state.slice user).changeOutbox connection change := by
  refine Slice.ext rfl rfl (funext fun other => ?_) rfl
  simp only [slice, Slice.changeOutbox, getElem?_changeOutbox]
  split
  next same => cases state.outboxes[other]? <;> simp [Option.filter, owner, apply_ite]
  next => rfl

/-- Letting go of a user's connection does not show in the slice of another. -/
theorem slice_discard_of_ne {user other : UserId} (different : user ≠ other)
    {connection : ConnectionId}
    (owned : ∀ outbox, state.outboxes[connection]? = some outbox → outbox.owner = user)
    (reason : OfflineReason) :
    (state.discard user connection reason).slice other = state.slice other := by
  have released : (state.release connection).slice other = state.slice other :=
    slice_changeOutbox_of_ne Outbox.release (fun _ => rfl) fun outbox found => by
      rw [owned outbox found]; exact different
  have outboxes := congrArg Slice.outboxes released
  refine Slice.ext ?_ ?_ outboxes ?_
  · simp [slice, discard, leave, release, changeOutbox, markOffline, publish,
      Std.ExtTreeMap.getElem?_erase, different]
  · simp [slice, discard, leave, release, changeOutbox, markOffline, publish, different]
  · simp [slice, discard, leave, release, changeOutbox, markOffline, publish,
      PresenceEvent.user, different]

/-- It shows in the user's own. -/
theorem slice_discard_self (state : State) (user : UserId) (connection : ConnectionId)
    (reason : OfflineReason) :
    (state.discard user connection reason).slice user =
      (state.slice user).discard user connection reason := by
  have released : (state.release connection).slice user =
      (state.slice user).changeOutbox connection Outbox.release :=
    state.slice_changeOutbox connection Outbox.release (fun _ => rfl) user
  have outboxes := congrArg Slice.outboxes released
  refine Slice.ext ?_ ?_ outboxes ?_
  · simp [slice, discard, leave, release, changeOutbox, markOffline, publish, Slice.discard]
  · simp [slice, discard, leave, release, changeOutbox, markOffline, publish, Slice.discard]
  · simp [slice, discard, leave, release, changeOutbox, markOffline, publish, Slice.discard,
      PresenceEvent.user]

/-! ## Deliveries -/

/-- The outbox of a registered handle belongs to its user. -/
theorem owner_of_registered (sound : Sound past none state) (lawful : Lawful past)
    {user : UserId} {handle : Handle} (registered : state.registry[user]? = some handle)
    {outbox : Outbox} (found : state.outboxes[handle.connection]? = some outbox) :
    outbox.owner = user := by
  have isMade := lawful.made_of_spent (mem_spent_of_register (sound.given registered))
  rw [sound.owner_eq lawful isMade found, sound.user_eq registered]

/-- A delivery to one user leaves the slices of the others alone. -/
theorem slice_deliver_of_ne (sound : Sound past none state) (lawful : Lawful past)
    (policy : OverflowPolicy) (payload : Payload) {user other : UserId} (different : user ≠ other) :
    (state.deliver policy payload user).1.slice other = state.slice other := by
  have outcome := state.deliver_cases policy payload user
  generalize state.deliver policy payload user = result at outcome
  cases outcome with
  | offline absent => rfl
  | delivered registered found attended room =>
    rw [slice_record]
    refine slice_changeOutbox_of_ne (·.append payload) (fun _ => rfl) fun outbox present => ?_
    rw [owner_of_registered sound lawful registered present]
    exact different
  | evicted registered found attended full chosen =>
    exact slice_discard_of_ne different
      (fun outbox present => owner_of_registered sound lawful registered present) _
  | dropped registered found attended full chosen => rfl
  | closed registered gone =>
    exact slice_discard_of_ne different
      (fun outbox present => owner_of_registered sound lawful registered present) _

/-- A delivery acts on the recipient's slice, and ends, as a function of that slice. -/
theorem slice_deliver (sound : Sound past none state) (lawful : Lawful past)
    (policy : OverflowPolicy) (payload : Payload) (user : UserId) :
    ((state.deliver policy payload user).1.slice user, (state.deliver policy payload user).2) =
      (state.slice user).deliver policy payload user := by
  have outcome := state.deliver_cases policy payload user
  have outbox_of_registered {handle : Handle} {outbox : Outbox}
      (registered : state.registry[user]? = some handle)
      (found : state.outboxes[handle.connection]? = some outbox) :
      (state.slice user).outboxes handle.connection = some outbox := by
    simp [slice, found, owner_of_registered sound lawful registered found]
  have registered_of {handle : Handle} (registered : state.registry[user]? = some handle) :
      (state.slice user).registered = some handle := registered
  generalize state.deliver policy payload user = result at outcome
  cases outcome with
  | offline absent =>
    have nobody : (state.slice user).registered = none := absent
    simp only [Slice.deliver, nobody, slice_record]
  | delivered registered found attended room =>
    simp only [Slice.deliver, registered_of registered, outbox_of_registered registered found,
      attended, room, ↓reduceIte, slice_record]
    exact Prod.ext (state.slice_changeOutbox _ (·.append payload) (fun _ => rfl) user) rfl
  | evicted registered found attended full chosen =>
    simp only [Slice.deliver, registered_of registered, outbox_of_registered registered found,
      attended, Nat.not_lt.mpr full, chosen, ↓reduceIte]
    exact Prod.ext ((state.record .evicted).slice_discard_self user _ _) rfl
  | dropped registered found attended full chosen =>
    simp only [Slice.deliver, registered_of registered, outbox_of_registered registered found,
      attended, Nat.not_lt.mpr full, chosen, ↓reduceIte, slice_record]
  | @closed handle registered gone =>
    cases found : state.outboxes[handle.connection]? with
    | none =>
      have missing : (state.slice user).outboxes handle.connection = none := by
        simp [slice, found]
      simp only [Slice.deliver, registered_of registered, missing]
      exact Prod.ext (state.slice_discard_self user _ _) rfl
    | some outbox =>
      have unattended : outbox.attended = false := by
        simpa only [State.attended, found] using gone
      simp only [Slice.deliver, registered_of registered, outbox_of_registered registered found,
        unattended, Bool.false_eq_true, ↓reduceIte]
      exact Prod.ext (state.slice_discard_self user _ _) rfl

/-- Deliveries leave the slices of users alone to whom nothing is delivered. -/
theorem slice_deliveries_of_not_mem (sound : Sound past none state) (lawful : Lawful past)
    (policy : OverflowPolicy) (payload : Payload) {users : List UserId} {user : UserId}
    (absent : user ∉ users) :
    (users.foldl (fun state user => (state.deliver policy payload user).1) state).slice user =
      state.slice user := by
  induction users generalizing state with
  | nil => rfl
  | cons first rest ih =>
    have different : first ≠ user := (List.ne_of_not_mem_cons absent).symm
    have after := sound.deliver lawful policy payload first
    rw [List.foldl_cons, ih after (List.not_mem_of_not_mem_cons absent),
      slice_deliver_of_ne sound lawful policy payload different]

/-- Deliveries to distinct users do to each one's slice what a single delivery does. -/
theorem slice_deliveries (sound : Sound past none state) (lawful : Lawful past)
    (policy : OverflowPolicy) (payload : Payload) {users : List UserId} (nodup : users.Nodup)
    (user : UserId) :
    (users.foldl (fun state user => (state.deliver policy payload user).1) state).slice user =
      if user ∈ users then ((state.slice user).deliver policy payload user).1
      else state.slice user := by
  induction users generalizing state with
  | nil => simp
  | cons first rest ih =>
    obtain ⟨absent, nodup⟩ := List.nodup_cons.mp nodup
    have after := sound.deliver lawful policy payload first
    rw [List.foldl_cons]
    by_cases same : first = user
    · subst same
      rw [slice_deliveries_of_not_mem after lawful policy payload absent,
        ← slice_deliver sound lawful, if_pos List.mem_cons_self]
    · rw [ih after nodup, slice_deliver_of_ne sound lawful policy payload same]
      simp [Ne.symm same]

/-- A fan-out does to a recipient's slice what a single delivery does, and nothing to others. -/
theorem slice_fanOut (sound : Sound past none state) (lawful : Lawful past)
    (policy : OverflowPolicy) (request : FanoutRequest) (user : UserId) :
    (state.fanOut policy request).1.slice user =
      if user ∈ request.recipients then
        ((state.slice user).deliver policy request.payload user).1
      else state.slice user := by
  rw [fanOut_eq_foldl, slice_deliveries (sound.record .fanout) lawful policy request.payload
    request.nodup, slice_record]

end State

end Switchboard.Hub
