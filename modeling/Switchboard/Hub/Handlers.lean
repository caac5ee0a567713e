import Switchboard.Hub.State

/-!
# Requests

What can be asked of a hub, and how it answers. For each request there is what is decided in the
state that it meets, and the small changes that follow from the decision, in the order in which they
are made. To apply the request is to make these changes one after the other; what came of it is its
verdict.
-/

namespace Switchboard.Hub

/-- What can be asked of a hub. -/
inductive Request where
  | register (handle : Handle)
  | unregister (user : UserId) (connection : ConnectionId)
  | fanout (request : FanoutRequest)
deriving DecidableEq

/-- What becomes of a connection that registers. -/
inductive Admission where
  /-- Its writer is gone already. -/
  | ignored
  | inserted
  | replaced (previous : ConnectionId)
  | rejected
deriving DecidableEq, Repr

/-- What becomes of a connection that unregisters. -/
inductive Departure where
  | removed
  /-- It is not the registered one. -/
  | stale
deriving DecidableEq, Repr

/-- What becomes of a payload for one recipient. -/
inductive Delivery where
  | offline
  | delivered
  | evicted
  | dropped
  /-- The writer is gone, so the connection is. -/
  | closed
deriving DecidableEq, Repr

/-- What came of a request. -/
inductive Verdict where
  | registration (admission : Admission)
  | removal (departure : Departure)
  | deliveries (outcomes : List (UserId × Delivery))
deriving DecidableEq, Repr

namespace State

/-! ## Registering -/

/-- What becomes of a connection that registers; one whose writer is gone is not looked at. -/
def admissionOf (policy : DuplicatePolicy) (state : State) (handle : Handle) : Admission :=
  if !state.attended handle.connection then .ignored
  else
    match state.registry[handle.user]?, policy with
    | none, _ => .inserted
    | some previous, .replace => .replaced previous.connection
    | some _, .reject => .rejected

/-- The changes that a registration makes. -/
def registerChanges (handle : Handle) : Admission → List Change
  | .ignored => [.release handle.connection]
  | .inserted =>
    [.enter handle, .count .registered, .markOnline handle.user,
      .publish (.online handle.user handle.connection)]
  | .replaced previous =>
    [.enter handle, .release previous, .count .registered, .count .replaced,
      .publish (.offline handle.user previous .replaced),
      .publish (.online handle.user handle.connection)]
  | .rejected =>
    [.release handle.connection, .count .rejected,
      .publish (.offline handle.user handle.connection .rejected)]

/-- Registers a connection, unless its writer is gone. -/
def register (policy : DuplicatePolicy) (state : State) (handle : Handle) : State × Admission :=
  let admission := state.admissionOf policy handle
  ((registerChanges handle admission).foldl change state, admission)

/-! ## Unregistering -/

/-- What becomes of a connection that unregisters. -/
def departureOf (state : State) (user : UserId) (connection : ConnectionId) : Departure :=
  match state.registry[user]? with
  | some current => if current.connection = connection then .removed else .stale
  | none => .stale

/-- The changes that a request to unregister makes. -/
def unregisterChanges (user : UserId) (connection : ConnectionId) : Departure → List Change
  | .removed =>
    [.leave user, .release connection, .count .unregistered, .markOffline user,
      .publish (.offline user connection .disconnected)]
  | .stale => [.count .staleUnregister]

/-- Unregisters a connection, if it is the registered one of that user. -/
def unregister (state : State) (user : UserId) (connection : ConnectionId) : State × Departure :=
  let departure := state.departureOf user connection
  ((unregisterChanges user connection departure).foldl change state, departure)

/-! ## Delivering -/

/-- What becomes of a payload for one user. -/
def deliveryTo (policy : OverflowPolicy) (state : State) (user : UserId) : Delivery :=
  match state.registry[user]? with
  | none => .offline
  | some handle =>
    match state.fault? handle.connection, policy with
    | none, _ => .delivered
    | some .full, .evict => .evicted
    | some .full, .dropNewest => .dropped
    | some .closed, _ => .closed

/-- The changes that let go of a user's registered connection. -/
def discardChanges (user : UserId) (connection : ConnectionId) (reason : OfflineReason) :
    List Change :=
  [.leave user, .release connection, .markOffline user, .publish (.offline user connection reason)]

/-- The changes that the delivery of a payload to a registered connection makes. -/
def deliverChanges (payload : Payload) (user : UserId) (connection : ConnectionId) :
    Delivery → List Change
  | .offline => [.count .skippedOffline]
  | .delivered => [.append connection payload, .count .delivered]
  | .evicted => .count .evicted :: discardChanges user connection .evicted
  | .dropped => [.count .dropped]
  | .closed => discardChanges user connection .closed

/-- The changes that the delivery of a payload to a user makes. -/
def deliveryChanges (policy : OverflowPolicy) (payload : Payload) (state : State) (user : UserId) :
    List Change :=
  match state.registry[user]? with
  | none => [.count .skippedOffline]
  | some handle => deliverChanges payload user handle.connection (state.deliveryTo policy user)

/-- Delivers a payload to one user. -/
def deliver (policy : OverflowPolicy) (payload : Payload) (state : State) (user : UserId) :
    State × Delivery :=
  ((state.deliveryChanges policy payload user).foldl change state, state.deliveryTo policy user)

/-- The changes that deliveries to users make, one after the other. -/
def deliveriesChanges (policy : OverflowPolicy) (payload : Payload) :
    State → List UserId → List Change
  | _, [] => []
  | state, user :: rest =>
    state.deliveryChanges policy payload user ++
      deliveriesChanges policy payload (state.deliver policy payload user).1 rest

/-- What becomes of a payload for each of some users, one after the other. -/
def outcomes (policy : OverflowPolicy) (payload : Payload) :
    State → List UserId → List (UserId × Delivery)
  | _, [] => []
  | state, user :: rest =>
    let (after, delivery) := state.deliver policy payload user
    (user, delivery) :: outcomes policy payload after rest

/-- The changes that a request with a payload makes. -/
def fanoutChanges (policy : OverflowPolicy) (state : State) (request : FanoutRequest) :
    List Change :=
  .count .fanout ::
    deliveriesChanges policy request.payload (state.record .fanout) request.recipients

/-- Delivers a request's payload to its recipients. -/
def fanOut (policy : OverflowPolicy) (state : State) (request : FanoutRequest) :
    State × List (UserId × Delivery) :=
  ((state.fanoutChanges policy request).foldl change state,
    outcomes policy request.payload (state.record .fanout) request.recipients)

/-! ## Applying -/

/-- The changes that a request makes. -/
def changes (policies : Policies) (state : State) : Request → List Change
  | .register handle => registerChanges handle (state.admissionOf policies.duplicate handle)
  | .unregister user connection =>
    unregisterChanges user connection (state.departureOf user connection)
  | .fanout request => state.fanoutChanges policies.overflow request

/-- Applies a request. -/
def apply (policies : Policies) (state : State) : Request → State × Verdict
  | .register handle =>
    let (after, admission) := state.register policies.duplicate handle
    (after, .registration admission)
  | .unregister user connection =>
    let (after, departure) := state.unregister user connection
    (after, .removal departure)
  | .fanout request =>
    let (after, outcomes) := state.fanOut policies.overflow request
    (after, .deliveries outcomes)

/-- Lets go of every registered connection, as when the registry itself ends. Nobody is told, and
the view stays as it is. -/
def releaseAll (state : State) : State :=
  { state.registry.toList.foldl (fun state entry => state.release entry.2.connection) state with
    registry := ∅ }

end State

end Switchboard.Hub
