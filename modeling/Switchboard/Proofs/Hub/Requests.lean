import Switchboard.Proofs.Hub.Run

/-!
# What a request does

For each kind of request, the cases that its handler distinguishes: when a case applies, what it
answers, and the state it leads to. The fan-out is a fold of single deliveries. Later modules argue
by these cases and do not open the handlers again.
-/

namespace Switchboard.Hub

namespace State

/-! ## Pushing -/

/-- Only the outbox that is meant changes. -/
theorem getElem?_changeOutbox (state : State) (connection other : ConnectionId)
    (change : Outbox → Outbox) :
    (state.changeOutbox connection change).outboxes[other]? =
      if connection = other then (state.outboxes[other]?).map change
      else state.outboxes[other]? := by
  simp only [changeOutbox, Std.ExtTreeMap.getElem?_modify, Std.compare_eq_iff_eq]
  split
  next same => rw [same]
  next => rfl

/-- An outbox after a change is the changed one or another. -/
theorem changeOutbox_cases {state : State} {connection other : ConnectionId}
    {change : Outbox → Outbox} {outbox : Outbox}
    (found : (state.changeOutbox connection change).outboxes[other]? = some outbox) :
    (∃ before, connection = other ∧ state.outboxes[other]? = some before ∧
        change before = outbox) ∨
      connection ≠ other ∧ state.outboxes[other]? = some outbox := by
  rw [getElem?_changeOutbox] at found
  by_cases same : connection = other
  · rw [if_pos same] at found
    obtain ⟨before, present, changed⟩ := Option.map_eq_some_iff.mp found
    exact .inl ⟨before, same, present, changed⟩
  · rw [if_neg same] at found
    exact .inr ⟨same, found⟩

/-- What a push meets. -/
inductive Met (state : State) (connection : ConnectionId) : Option PushFault → Prop where
  | free {outbox : Outbox} (found : state.outboxes[connection]? = some outbox)
      (attended : outbox.attended = true) (room : outbox.buffer.length < outbox.capacity) :
      Met state connection none
  | full {outbox : Outbox} (found : state.outboxes[connection]? = some outbox)
      (attended : outbox.attended = true) (full : outbox.capacity ≤ outbox.buffer.length) :
      Met state connection (some .full)
  | closed (gone : state.attended connection = false) : Met state connection (some .closed)

/-- An outbox is closed, or full, or has room. -/
theorem fault?_cases (state : State) (connection : ConnectionId) :
    state.Met connection (state.fault? connection) := by
  unfold fault?
  cases found : state.outboxes[connection]? with
  | none => exact .closed (by simp only [State.attended, found])
  | some outbox =>
    simp only [Outbox.fault?]
    cases attended : outbox.attended with
    | false => exact .closed (by simp only [State.attended, found, attended])
    | true =>
      by_cases full : outbox.capacity ≤ outbox.buffer.length
      · simpa [full] using Met.full found attended full
      · simpa [full] using Met.free found attended (Nat.not_le.mp full)

/-- What comes of a push. -/
inductive Pushed (state : State) (connection : ConnectionId) (payload : Payload) :
    Except PushFault State → Prop where
  | queued {outbox : Outbox} (found : state.outboxes[connection]? = some outbox)
      (attended : outbox.attended = true) (room : outbox.buffer.length < outbox.capacity) :
      Pushed state connection payload (.ok (state.changeOutbox connection (·.append payload)))
  | full {outbox : Outbox} (found : state.outboxes[connection]? = some outbox)
      (attended : outbox.attended = true) (full : outbox.capacity ≤ outbox.buffer.length) :
      Pushed state connection payload (.error .full)
  | closed (gone : state.attended connection = false) :
      Pushed state connection payload (.error .closed)

/-- Changing an outbox that is there replaces it. -/
theorem changeOutbox_eq_insert {state : State} {connection : ConnectionId} {outbox : Outbox}
    (found : state.outboxes[connection]? = some outbox) (change : Outbox → Outbox) :
    state.changeOutbox connection change =
      { state with outboxes := state.outboxes.insert connection (change outbox) } := by
  have same : state.outboxes.modify connection change =
      state.outboxes.insert connection (change outbox) := by
    apply Std.ExtTreeMap.ext_getElem?
    intro other
    rw [Std.ExtTreeMap.getElem?_modify, Std.ExtTreeMap.getElem?_insert, found, Option.map_some]
  rw [changeOutbox, same]

/-- Two changes of one outbox are one change. -/
theorem changeOutbox_changeOutbox (state : State) (connection : ConnectionId)
    (change further : Outbox → Outbox) :
    (state.changeOutbox connection change).changeOutbox connection further =
      state.changeOutbox connection fun outbox => further (change outbox) := by
  have same : (state.outboxes.modify connection change).modify connection further =
      state.outboxes.modify connection fun outbox => further (change outbox) := by
    apply Std.ExtTreeMap.ext_getElem?
    intro other
    simp only [Std.ExtTreeMap.getElem?_modify]
    split
    · simp [Function.comp_def]
    · rfl
  rw [changeOutbox, changeOutbox, changeOutbox, same]

/-- It only matters what a change makes of the outbox that is there. -/
theorem changeOutbox_congr {state : State} {connection : ConnectionId} {outbox : Outbox}
    (found : state.outboxes[connection]? = some outbox) {change other : Outbox → Outbox}
    (same : change outbox = other outbox) :
    state.changeOutbox connection change = state.changeOutbox connection other := by
  rw [changeOutbox_eq_insert found, changeOutbox_eq_insert found, same]

/-- Changing an outbox into itself changes nothing. -/
theorem changeOutbox_eq_self {state : State} {connection : ConnectionId} {change : Outbox → Outbox}
    (same : ∀ outbox, state.outboxes[connection]? = some outbox → change outbox = outbox) :
    state.changeOutbox connection change = state := by
  have unchanged : (state.changeOutbox connection change).outboxes = state.outboxes := by
    apply Std.ExtTreeMap.ext_getElem?
    intro other
    rw [getElem?_changeOutbox]
    split
    next equal =>
      subst equal
      cases found : state.outboxes[connection]? with
      | none => rfl
      | some outbox => rw [Option.map_some, same outbox found]
    next => rfl
  exact congrArg (fun outboxes => { state with outboxes }) unchanged

/-- A payload is queued, or does not fit, or finds no writer. -/
theorem push_cases (state : State) (connection : ConnectionId) (payload : Payload) :
    state.Pushed connection payload (state.push connection payload) := by
  have outcome := state.fault?_cases connection
  unfold push
  generalize state.fault? connection = fault at outcome
  cases outcome with
  | free found attended room => exact .queued found attended room
  | full found attended full => exact .full found attended full
  | closed gone => exact .closed gone

/-! ## Registering and unregistering -/

/-- What comes of a registration. -/
inductive Registered (policy : DuplicatePolicy) (state : State) (handle : Handle) :
    State × Admission → Prop where
  | ignored (gone : state.attended handle.connection = false) :
      Registered policy state handle (state.release handle.connection, .ignored)
  | inserted (attended : state.attended handle.connection = true)
      (free : state.registry[handle.user]? = none) :
      Registered policy state handle
        ((((state.enter handle).record .registered).markOnline handle.user).publish
          (.online handle.user handle.connection), .inserted)
  | replaced {previous : Handle} (attended : state.attended handle.connection = true)
      (occupied : state.registry[handle.user]? = some previous) (chosen : policy = .replace) :
      Registered policy state handle
        ((((((state.enter handle).release previous.connection).record .registered).record
          .replaced).publish (.offline handle.user previous.connection .replaced)).publish
          (.online handle.user handle.connection), .replaced previous.connection)
  | rejected {previous : Handle} (attended : state.attended handle.connection = true)
      (occupied : state.registry[handle.user]? = some previous) (chosen : policy = .reject) :
      Registered policy state handle
        (((state.release handle.connection).record .rejected).publish
          (.offline handle.user handle.connection .rejected), .rejected)

/-- A connection is ignored, inserted, put in another's place or turned away. -/
theorem register_cases (policy : DuplicatePolicy) (state : State) (handle : Handle) :
    Registered policy state handle (state.register policy handle) := by
  unfold register admissionOf
  cases attended : state.attended handle.connection with
  | false => exact .ignored attended
  | true =>
    cases occupied : state.registry[handle.user]? with
    | none => exact .inserted attended occupied
    | some previous =>
      cases policy with
      | replace => exact .replaced attended occupied rfl
      | reject => exact .rejected attended occupied rfl

/-- What comes of a request to unregister. -/
inductive Unregistered (state : State) (user : UserId) (connection : ConnectionId) :
    State × Departure → Prop where
  | removed {current : Handle} (registered : state.registry[user]? = some current)
      (same : current.connection = connection) :
      Unregistered state user connection
        (((((state.leave user).release connection).record .unregistered).markOffline user).publish
          (.offline user connection .disconnected), .removed)
  | stale (other : ∀ current, state.registry[user]? = some current →
        current.connection ≠ connection) :
      Unregistered state user connection (state.record .staleUnregister, .stale)

/-- A connection is removed if it is the registered one of that user. -/
theorem unregister_cases (state : State) (user : UserId) (connection : ConnectionId) :
    Unregistered state user connection (state.unregister user connection) := by
  unfold unregister departureOf
  cases registered : state.registry[user]? with
  | none => exact .stale (by simp [registered])
  | some current =>
    by_cases same : current.connection = connection
    · simp only [same, ↓reduceIte]
      exact .removed registered same
    · simp only [same, ↓reduceIte]
      exact .stale (by simp [registered, same])

/-! ## Delivering -/

/-- Lets go of a user's registered connection. -/
def discard (state : State) (user : UserId) (connection : ConnectionId) (reason : OfflineReason) :
    State :=
  (((state.leave user).release connection).markOffline user).publish
    (.offline user connection reason)

/-- What comes of a payload for one user. -/
inductive Delivered (policy : OverflowPolicy) (payload : Payload) (state : State) (user : UserId) :
    State × Delivery → Prop where
  | offline (absent : state.registry[user]? = none) :
      Delivered policy payload state user (state.record .skippedOffline, .offline)
  | delivered {handle : Handle} {outbox : Outbox}
      (registered : state.registry[user]? = some handle)
      (found : state.outboxes[handle.connection]? = some outbox)
      (attended : outbox.attended = true) (room : outbox.buffer.length < outbox.capacity) :
      Delivered policy payload state user
        ((state.changeOutbox handle.connection (·.append payload)).record .delivered, .delivered)
  | evicted {handle : Handle} {outbox : Outbox}
      (registered : state.registry[user]? = some handle)
      (found : state.outboxes[handle.connection]? = some outbox)
      (attended : outbox.attended = true) (full : outbox.capacity ≤ outbox.buffer.length)
      (chosen : policy = .evict) :
      Delivered policy payload state user
        ((state.record .evicted).discard user handle.connection .evicted, .evicted)
  | dropped {handle : Handle} {outbox : Outbox}
      (registered : state.registry[user]? = some handle)
      (found : state.outboxes[handle.connection]? = some outbox)
      (attended : outbox.attended = true) (full : outbox.capacity ≤ outbox.buffer.length)
      (chosen : policy = .dropNewest) :
      Delivered policy payload state user (state.record .dropped, .dropped)
  | closed {handle : Handle} (registered : state.registry[user]? = some handle)
      (gone : state.attended handle.connection = false) :
      Delivered policy payload state user
        (state.discard user handle.connection .closed, .closed)

/-- A payload for a user who is registered is queued, or the connection or the payload is given up.
-/
theorem deliver_cases (policy : OverflowPolicy) (payload : Payload) (state : State)
    (user : UserId) :
    Delivered policy payload state user (state.deliver policy payload user) := by
  unfold deliver deliveryChanges deliveryTo
  cases registered : state.registry[user]? with
  | none => exact .offline registered
  | some handle =>
    simp only
    have met := state.fault?_cases handle.connection
    generalize state.fault? handle.connection = fault at met
    cases met with
    | free found attended room => exact .delivered registered found attended room
    | closed gone => exact .closed registered gone
    | full found attended full =>
      cases policy with
      | evict => exact .evicted registered found attended full rfl
      | dropNewest => exact .dropped registered found attended full rfl

/-- A payload for a user who is not registered is only counted. -/
theorem deliveryChanges_of_absent {policy : OverflowPolicy} {payload : Payload} {state : State}
    {user : UserId} (absent : state.registry[user]? = none) :
    state.deliveryChanges policy payload user = [.count .skippedOffline] := by
  simp only [deliveryChanges, absent]

/-- The changes for a user who is registered are those that belong to the outcome. -/
theorem deliveryChanges_of_registered {policy : OverflowPolicy} {payload : Payload} {state : State}
    {user : UserId} {handle : Handle} (registered : state.registry[user]? = some handle) :
    state.deliveryChanges policy payload user =
      deliverChanges payload user handle.connection (state.deliver policy payload user).2 := by
  simp only [deliveryChanges, registered, deliver]

/-- Deliveries one after the other make their changes one after the other. -/
theorem foldl_deliver_eq (policy : OverflowPolicy) (payload : Payload) (state : State)
    (users : List UserId) :
    users.foldl (fun state user => (state.deliver policy payload user).1) state =
      (deliveriesChanges policy payload state users).foldl change state := by
  induction users generalizing state with
  | nil => rfl
  | cons user rest ih => rw [List.foldl_cons, ih, deliveriesChanges, List.foldl_append]; rfl

/-- A fan-out is a fold of single deliveries. -/
theorem fanOut_eq_foldl (policy : OverflowPolicy) (state : State) (request : FanoutRequest) :
    (state.fanOut policy request).1 =
      request.recipients.foldl (fun state user => (state.deliver policy request.payload user).1)
        (state.record .fanout) :=
  (foldl_deliver_eq policy request.payload (state.record .fanout) request.recipients).symm

/-- What a count and each single delivery preserve, a fan-out preserves. -/
theorem fanOut_preserves (kept : State → Prop) {policy : OverflowPolicy} {state : State}
    {request : FanoutRequest} (counted : ∀ {state}, kept state → kept (state.record .fanout))
    (delivered : ∀ {state} user, kept state → kept (state.deliver policy request.payload user).1)
    (initially : kept state) : kept (state.fanOut policy request).1 := by
  rw [fanOut_eq_foldl]
  have first := counted initially
  generalize state.record .fanout = current at first
  induction request.recipients generalizing current with
  | nil => exact first
  | cons user rest ih => exact ih _ (delivered user first)

/-! ## Operations -/

/-- An operation applies a request or changes nothing but outboxes. -/
theorem perform_cases (policies : Policies) (state : State) (operation : Operation) :
    (∃ request, operation = .apply request ∧
        state.perform policies operation = (state.apply policies request).1) ∨
      operation.request? = none ∧
        ∃ outboxes, state.perform policies operation = { state with outboxes } := by
  cases operation with
  | apply request => exact .inl ⟨request, rfl, rfl⟩
  | push handle payload =>
    refine .inr ⟨rfl, ?_⟩
    have outcome := state.push_cases handle.connection payload
    simp only [perform]
    generalize state.push handle.connection payload = result at outcome
    cases outcome with
    | queued found attended room => exact ⟨_, rfl⟩
    | full found attended full => exact ⟨_, rfl⟩
    | closed gone => exact ⟨_, rfl⟩
  | _ => exact .inr ⟨rfl, _, rfl⟩

end State

end Switchboard.Hub
