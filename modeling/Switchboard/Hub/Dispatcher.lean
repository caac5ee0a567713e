import Switchboard.Hub.Journal

/-!
# The dispatcher

Requests reach the hub through three bounded lanes. Each gets a stamp when it enters its lane, and
stamps are given in order over all lanes. The dispatcher holds at most one request of each lane in
hand and always applies the one with the lowest stamp, after refilling its hands until a whole pass
over the lanes finds nothing new. It moves in small steps (`tick`), between which requests may
enter.
-/

namespace Switchboard.Hub

/-- A request of a kind, with its place in the order of all requests. -/
structure Stamped (α : Type) where
  /-- Stamps are counted without bound: that a hub gets 2^64 requests, after which they would start
  over, is taken to be out of reach. -/
  stamp : Nat
  item : α
deriving DecidableEq

/-- A bounded queue, and the request that the dispatcher has taken from it ahead of time. -/
structure Lane (α : Type) where
  capacity : Nat
  waiting : List (Stamped α) := []
  inHand : Option (Stamped α) := none
deriving DecidableEq

/-- The three lanes. -/
inductive LaneName where
  | register
  | unregister
  | fanout
deriving DecidableEq, Repr

/-- The word for a lane. -/
def LaneName.name : LaneName → String
  | .register => "register"
  | .unregister => "unregister"
  | .fanout => "fanout"

namespace Lane

variable {α : Type}

/-- An empty lane with room for at least one request. -/
def create (capacity : Nat) : Lane α := { capacity := max 1 capacity }

/-- Whether no further request can enter. -/
def isFull (lane : Lane α) : Bool := lane.capacity ≤ lane.waiting.length

/-- The lane after a request has entered. -/
def enter (lane : Lane α) (stamp : Nat) (item : α) : Lane α :=
  { lane with waiting := lane.waiting ++ [⟨stamp, item⟩] }

/-- Takes the oldest waiting request in hand, if that is free; also says whether there was one. -/
def refill (lane : Lane α) : Lane α × Bool :=
  match lane.inHand, lane.waiting with
  | none, next :: rest => ({ lane with waiting := rest, inHand := some next }, true)
  | _, _ => (lane, false)

/-- The stamp of the request in hand. -/
def stampInHand (lane : Lane α) : Option Nat := lane.inHand.map (·.stamp)

/-- The lane with a free hand. -/
def putDown (lane : Lane α) : Lane α := { lane with inHand := none }

/-- The number of requests that have entered and have not been applied. -/
def pending (lane : Lane α) : Nat := lane.waiting.length + (if lane.inHand.isSome then 1 else 0)

end Lane

/-- What the dispatcher is about to do. -/
inductive Stage where
  /-- Refill the hand of a lane; `found` says whether this pass has found anything. -/
  | refilling (lane : LaneName) (found : Bool)
  /-- Pick the request with the lowest stamp. -/
  | choosing
  /-- Apply a request. -/
  | applying (request : Request)
  /-- Wait for a request in any lane. -/
  | parked
  /-- Nothing, ever again. -/
  | stopped
deriving DecidableEq

/-- The dispatcher: its lanes, the next stamp, the state it looks after, and what it is about to
do. -/
structure Dispatcher where
  policies : Policies
  registering : Lane Handle
  unregistering : Lane (UserId × ConnectionId)
  fanning : Lane FanoutRequest
  /-- The stamp of the next request, as many as have entered so far; like all stamps it is taken to
  stay below 2^64. -/
  nextStamp : Nat := 0
  /-- Somebody can still submit requests. -/
  reachable : Bool := true
  state : State := {}
  stage : Stage := .refilling .register false

/-- What happens when a dispatcher moves. -/
inductive Happening where
  /-- A request has been applied. -/
  | applied (before : State) (request : Request) (verdict : Verdict) (after : State)
  /-- The dispatcher has stopped, with the registry as it is here. -/
  | ended (last : State)

/-- The journal lines about what happens. -/
def Happening.entries : Happening → List Entry
  | .applied _ request verdict after => Entry.ofVerdict after request verdict
  | .ended last => [Entry.stopping last.registry.size]

/-- The connections whose outboxes are pushed to or let go, in order. -/
def Happening.touched : Happening → List ConnectionId
  | .applied before request verdict _ =>
    match request, verdict with
    | .register _, .registration (.replaced previous) => [previous]
    | .register handle, .registration .rejected => [handle.connection]
    | .unregister _ connection, .removal .removed => [connection]
    | .fanout _, .deliveries outcomes =>
      outcomes.filterMap fun (user, delivery) =>
        match delivery with
        | .delivered | .evicted | .closed => (before.registry[user]?).map (·.connection)
        | .offline | .dropped => none
    | _, _ => []
  | .ended last => last.registry.values.map (·.connection)

/-- The lowest of the stamps that are there. -/
def lowestStamp (stamps : List (Option Nat)) : Option Nat := (stamps.filterMap id).min?

namespace Dispatcher

/-- Whether a lane has room for no further request. -/
def isFull (dispatcher : Dispatcher) : LaneName → Bool
  | .register => dispatcher.registering.isFull
  | .unregister => dispatcher.unregistering.isFull
  | .fanout => dispatcher.fanning.isFull

/-- The lane that a request travels on. -/
def laneOf : Request → LaneName
  | .register _ => .register
  | .unregister _ _ => .unregister
  | .fanout _ => .fanout

/-- Stamps a request and lets it enter its lane. -/
def enter (dispatcher : Dispatcher) (request : Request) : Dispatcher :=
  let stamp := dispatcher.nextStamp
  let stamped := { dispatcher with nextStamp := stamp + 1 }
  match request with
  | .register handle =>
    { stamped with registering := dispatcher.registering.enter stamp handle }
  | .unregister user connection =>
    { stamped with unregistering := dispatcher.unregistering.enter stamp (user, connection) }
  | .fanout request => { stamped with fanning := dispatcher.fanning.enter stamp request }

/-- Refills the hand of one lane; also says whether anything was found. -/
def refill (dispatcher : Dispatcher) : LaneName → Dispatcher × Bool
  | .register =>
    let (lane, found) := dispatcher.registering.refill
    ({ dispatcher with registering := lane }, found)
  | .unregister =>
    let (lane, found) := dispatcher.unregistering.refill
    ({ dispatcher with unregistering := lane }, found)
  | .fanout =>
    let (lane, found) := dispatcher.fanning.refill
    ({ dispatcher with fanning := lane }, found)

/-- What follows the refilling of a lane. A pass that has found something is followed by another. -/
def stageAfterRefill (lane : LaneName) (found : Bool) : Stage :=
  match lane with
  | .register => .refilling .unregister found
  | .unregister => .refilling .fanout found
  | .fanout => if found then .refilling .register false else .choosing

/-- Picks the request in hand with the lowest stamp; none if every hand is free. -/
def choose (dispatcher : Dispatcher) : Option (Request × Dispatcher) :=
  let lowest := lowestStamp
    [dispatcher.registering.stampInHand, dispatcher.unregistering.stampInHand,
      dispatcher.fanning.stampInHand]
  if lowest = none then none
  else if dispatcher.registering.stampInHand = lowest then
    dispatcher.registering.inHand.map fun chosen =>
      (.register chosen.item, { dispatcher with registering := dispatcher.registering.putDown })
  else if dispatcher.unregistering.stampInHand = lowest then
    dispatcher.unregistering.inHand.map fun chosen =>
      (.unregister chosen.item.1 chosen.item.2,
        { dispatcher with unregistering := dispatcher.unregistering.putDown })
  else
    dispatcher.fanning.inHand.map fun chosen =>
      (.fanout chosen.item, { dispatcher with fanning := dispatcher.fanning.putDown })

/-- Whether a lane has a request to wake up for. -/
def hasWaiting (dispatcher : Dispatcher) : LaneName → Bool
  | .register => !dispatcher.registering.waiting.isEmpty
  | .unregister => !dispatcher.unregistering.waiting.isEmpty
  | .fanout => !dispatcher.fanning.waiting.isEmpty

/-- Wakes up for a request of one lane. -/
def wake (dispatcher : Dispatcher) (lane : LaneName) : Dispatcher :=
  { (dispatcher.refill lane).1 with stage := .refilling .register false }

/-- Stops for good: the registered connections are let go. -/
def stop (dispatcher : Dispatcher) : Dispatcher :=
  { dispatcher with stage := .stopped, state := dispatcher.state.releaseAll }

/-- One step, and what happens in it. A parked dispatcher wakes up for the first lane that has a
request, and stops if there is none and none can come. -/
def tick (dispatcher : Dispatcher) : Dispatcher × Option Happening :=
  match dispatcher.stage with
  | .refilling lane found =>
    let (refilled, foundHere) := dispatcher.refill lane
    ({ refilled with stage := stageAfterRefill lane (found || foundHere) }, none)
  | .choosing =>
    match dispatcher.choose with
    | some (request, chosen) => ({ chosen with stage := .applying request }, none)
    | none => ({ dispatcher with stage := .parked }, none)
  | .applying request =>
    let (after, verdict) := dispatcher.state.apply dispatcher.policies request
    ({ dispatcher with state := after, stage := .refilling .register false },
      some (.applied dispatcher.state request verdict after))
  | .parked =>
    if dispatcher.hasWaiting .register then (dispatcher.wake .register, none)
    else if dispatcher.hasWaiting .unregister then (dispatcher.wake .unregister, none)
    else if dispatcher.hasWaiting .fanout then (dispatcher.wake .fanout, none)
    else if dispatcher.reachable then (dispatcher, none)
    else (dispatcher.stop, some (.ended dispatcher.state))
  | .stopped => (dispatcher, none)

/-- Whether the dispatcher has nothing to do until a request enters. -/
def isIdle (dispatcher : Dispatcher) : Bool :=
  match dispatcher.stage with
  | .parked =>
    !dispatcher.hasWaiting .register && !dispatcher.hasWaiting .unregister &&
      !dispatcher.hasWaiting .fanout && dispatcher.reachable
  | .stopped => true
  | _ => false

/-- The number of requests that have entered and have not been applied. -/
def pending (dispatcher : Dispatcher) : Nat :=
  dispatcher.registering.pending + dispatcher.unregistering.pending + dispatcher.fanning.pending

/-- At most `fuel` steps, until there is nothing to do; `done` holds what has happened before, the
last first. -/
def run : (fuel : Nat) → Dispatcher → (done : List Happening) → Dispatcher × List Happening
  | 0, dispatcher, done => (dispatcher, done.reverse)
  | fuel + 1, dispatcher, done =>
    if dispatcher.isIdle then (dispatcher, done.reverse)
    else
      let (after, happening) := dispatcher.tick
      run fuel after (happening.toList ++ done)

/-- Runs until every request has been applied. Between two requests there are at most four passes
over three lanes, a choice, the application and a wake-up. -/
def settle (dispatcher : Dispatcher) : Dispatcher × List Happening :=
  dispatcher.run (16 * (dispatcher.pending + 3)) []

/-- The handles that have entered and have not been registered. -/
def waitingHandles (dispatcher : Dispatcher) : List Handle :=
  dispatcher.registering.inHand.toList.map (·.item) ++
    dispatcher.registering.waiting.map (·.item)

/-- The dispatcher after its task has been killed: what still waits is lost, and nothing is said. -/
def kill (dispatcher : Dispatcher) : Dispatcher :=
  let stopped := dispatcher.stop
  { stopped with
    state := dispatcher.waitingHandles.foldl (fun state handle => state.release handle.connection)
      stopped.state
    registering := { dispatcher.registering with waiting := [], inHand := none }
    unregistering := { dispatcher.unregistering with waiting := [], inHand := none }
    fanning := { dispatcher.fanning with waiting := [], inHand := none } }

/-- A dispatcher without requests over a fresh state. -/
def create (policies : Policies) (register unregister fanout : Nat) : Dispatcher where
  policies
  registering := .create register
  unregistering := .create unregister
  fanning := .create fanout

end Dispatcher

end Switchboard.Hub
