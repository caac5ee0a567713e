import Switchboard.Proofs.Hub.Faithful

/-!
# Producers and the dispatcher at work together

Producers make calls that first wait for a slot in the lane of their request, then stamp it and let
it enter, and then return. Meanwhile the dispatcher moves, and connections are made, used and read
from. A `Traffic` is such a system, which goes on in single steps in any order. Whatever the order,
requests are applied in the order of their stamps (`requests_in_stamp_order`).
-/

namespace Switchboard.Hub

/-- A producer's call, with the number of calls that were made before it. -/
structure Call where
  ticket : Nat
  producer : Nat
  request : Request
deriving DecidableEq

/-- A hub at work. -/
structure Traffic where
  dispatcher : Dispatcher
  /-- All calls, in the order in which they were made. -/
  made : List Call := []
  /-- The calls that wait for a slot. -/
  waiting : List Call := []
  /-- The calls that have a slot. -/
  holding : List Call := []
  /-- The calls that have returned, with their stamps, in the order in which they did. -/
  returned : List (Stamped Call) := []
  /-- What has been done to the hub's state. -/
  performed : List Operation := []

namespace Traffic

/-- The slots of a lane that are taken: by requests that wait in it and by calls that have one. -/
def slotsTaken (traffic : Traffic) (name : LaneName) : Nat :=
  (traffic.dispatcher.lane name).waiting.length +
    (traffic.holding.filter fun call => Dispatcher.laneOf call.request = name).length

/-- One step of a hub at work. -/
inductive Step (traffic : Traffic) : Traffic → Prop where
  /-- A producer none of whose calls is under way makes one. -/
  | call {producer : Nat} {request : Request} (reachable : traffic.dispatcher.reachable = true)
      (idle : ∀ call ∈ traffic.waiting ++ traffic.holding, call.producer ≠ producer) :
      Step traffic
        { traffic with
          made := traffic.made ++ [⟨traffic.made.length, producer, request⟩]
          waiting := traffic.waiting ++ [⟨traffic.made.length, producer, request⟩] }
  /-- A call gets a slot in the lane of its request. -/
  | reserve {call : Call} (waits : call ∈ traffic.waiting)
      (room : traffic.slotsTaken (Dispatcher.laneOf call.request) <
        (traffic.dispatcher.lane (Dispatcher.laneOf call.request)).capacity) :
      Step traffic
        { traffic with
          waiting := traffic.waiting.erase call
          holding := traffic.holding ++ [call] }
  /-- A call with a slot stamps its request, lets it enter and returns. -/
  | enter {call : Call} (holds : call ∈ traffic.holding) :
      Step traffic
        { traffic with
          dispatcher := traffic.dispatcher.enter call.request
          holding := traffic.holding.erase call
          returned := traffic.returned ++ [⟨traffic.dispatcher.nextStamp, call⟩] }
  /-- The dispatcher moves. -/
  | move {request : Option Request} {after : Dispatcher}
      (moves : traffic.dispatcher.Moves request after) :
      Step traffic
        { traffic with
          dispatcher := after
          performed := traffic.performed ++ request.toList.map .apply }
  /-- Somebody makes or uses a connection, at either end. -/
  | use {operation : Operation} (foreign : operation.request? = none)
      (running : traffic.dispatcher.stage ≠ .stopped) :
      Step traffic
        { traffic with
          dispatcher := { traffic.dispatcher with
            state := traffic.dispatcher.state.perform traffic.dispatcher.policies operation }
          performed := traffic.performed ++ [operation] }
  /-- The last one who can make calls goes. -/
  | leave (nobody : traffic.waiting = [] ∧ traffic.holding = []) :
      Step traffic
        { traffic with dispatcher := { traffic.dispatcher with reachable := false } }

/-- Any number of steps. -/
inductive Reaches (first : Traffic) : Traffic → Prop where
  | refl : Reaches first first
  | step {traffic next : Traffic} :
      Reaches first traffic → traffic.Step next → Reaches first next

/-- A hub before any call, over a state. -/
def start (policies : Policies) (register unregister fanout : Nat) (initial : State) : Traffic where
  dispatcher := { Dispatcher.create policies register unregister fanout with state := initial }

/-- The requests that have entered, in the order of their stamps. -/
def requests (traffic : Traffic) : List Request := traffic.returned.map (·.item.request)

/-- The requests that have been applied, in that order. -/
def applied (traffic : Traffic) : List Request := traffic.performed.filterMap Operation.request?

/-- The calls whose requests have been applied, in that order. -/
def done (traffic : Traffic) : List Call :=
  (traffic.returned.take traffic.applied.length).map Stamped.item

/-- The calls of a producer. -/
def ofProducer (producer : Nat) (calls : List Call) : List Call :=
  calls.filter fun call => call.producer = producer

/-- What holds at any time of a hub at work. -/
structure Steady (policies : Policies) (initial : State) (traffic : Traffic) : Prop where
  orderly : traffic.dispatcher.Orderly traffic.requests traffic.applied.length
  applied_eq : traffic.applied = traffic.requests.take traffic.applied.length
  stamps_eq : traffic.returned.map Stamped.stamp = List.range traffic.returned.length
  tickets_eq : traffic.made.map Call.ticket = List.range traffic.made.length
  calls_eq : ∀ producer, ofProducer producer traffic.made =
    ofProducer producer (traffic.returned.map Stamped.item) ++
      (ofProducer producer traffic.waiting ++ ofProducer producer traffic.holding)
  one_call : ∀ producer, (ofProducer producer traffic.waiting ++
    ofProducer producer traffic.holding).length ≤ 1
  reachable : traffic.waiting ++ traffic.holding ≠ [] → traffic.dispatcher.reachable = true
  unreachable : traffic.dispatcher.stage = .stopped → traffic.dispatcher.reachable = false
  policies_eq : traffic.dispatcher.policies = policies
  state_eq : traffic.dispatcher.state =
    if traffic.dispatcher.stage = .stopped then
      (traffic.performed.foldl (State.perform policies) initial).releaseAll
    else traffic.performed.foldl (State.perform policies) initial

/-- A producer's calls are taken from each part. -/
theorem ofProducer_append (producer : Nat) (first second : List Call) :
    ofProducer producer (first ++ second) =
      ofProducer producer first ++ ofProducer producer second :=
  List.filter_append first second

theorem ofProducer_singleton (producer : Nat) (call : Call) :
    ofProducer producer [call] = if call.producer = producer then [call] else [] := by
  by_cases own : call.producer = producer <;> simp [ofProducer, own]

/-- Each call is one of its producer. -/
theorem mem_ofProducer {call : Call} {calls : List Call} (member : call ∈ calls) :
    call ∈ ofProducer call.producer calls :=
  List.mem_filter.mpr ⟨member, by simp⟩

/-- The only one of two lists of calls is alone in its list. -/
theorem eq_singleton_of_mem {call : Call} {first second : List Call}
    (one : first.length + second.length ≤ 1) (member : call ∈ first) :
    first = [call] ∧ second = [] := by
  have some := List.length_pos_of_mem member
  obtain ⟨only, rfl⟩ := List.length_eq_one_iff.mp (show first.length = 1 by omega)
  rw [List.mem_singleton.mp member]
  exact ⟨rfl, List.length_eq_zero_iff.mp (by omega)⟩

/-- Taking a call out of a list takes it out of its producer's calls, and out of no other's. -/
theorem ofProducer_erase (producer : Nat) (calls : List Call) (call : Call) :
    ofProducer producer (calls.erase call) =
      if call.producer = producer then (ofProducer producer calls).erase call
      else ofProducer producer calls := by
  rw [ofProducer, ← List.erase_filter]
  split
  next => rfl
  next other =>
    refine List.erase_of_not_mem fun member => other ?_
    simpa using (List.mem_filter.mp member).2

namespace Steady

variable {policies : Policies} {initial : State} {traffic next : Traffic}

/-- Traffic is steady in the beginning. -/
theorem start (policies : Policies) (register unregister fanout : Nat) (initial : State) :
    Steady policies initial (start policies register unregister fanout initial) := by
  have faithful := Dispatcher.Faithful.create policies register unregister fanout initial
  constructor
  case orderly => exact faithful.orderly
  case applied_eq => rfl
  case stamps_eq => rfl
  case tickets_eq => rfl
  case calls_eq => intro producer; rfl
  case one_call => intro producer; exact Nat.zero_le 1
  case reachable => intro underWay; exact absurd rfl underWay
  case unreachable => intro stopped; cases stopped
  case policies_eq => rfl
  case state_eq => rfl

/-- The dispatcher of a hub at work is faithful to what is on record. -/
theorem faithful (steady : Steady policies initial traffic) :
    traffic.dispatcher.Faithful policies initial traffic.requests traffic.performed :=
  ⟨steady.orderly, List.prefix_iff_eq_take.mpr steady.applied_eq, steady.policies_eq,
    steady.state_eq⟩

/-- It is so when a call is made. -/
theorem call (steady : Steady policies initial traffic) {producer : Nat} {request : Request}
    (reachable : traffic.dispatcher.reachable = true)
    (idle : ∀ call ∈ traffic.waiting ++ traffic.holding, call.producer ≠ producer) :
    Steady policies initial
      { traffic with
        made := traffic.made ++ [⟨traffic.made.length, producer, request⟩]
        waiting := traffic.waiting ++ [⟨traffic.made.length, producer, request⟩] } := by
  have noneWaits : ofProducer producer traffic.waiting = [] := by
    refine List.filter_eq_nil_iff.mpr fun call member => ?_
    simpa using idle call (List.mem_append_left _ member)
  have noneHolds : ofProducer producer traffic.holding = [] := by
    refine List.filter_eq_nil_iff.mpr fun call member => ?_
    simpa using idle call (List.mem_append_right _ member)
  constructor
  case orderly => exact steady.orderly
  case applied_eq => exact steady.applied_eq
  case stamps_eq => exact steady.stamps_eq
  case tickets_eq => simp [steady.tickets_eq, List.range_succ]
  case calls_eq =>
    intro other
    rw [ofProducer_append, ofProducer_append, ofProducer_singleton, steady.calls_eq other]
    by_cases own : producer = other
    · subst own
      simp [noneHolds]
    · simp [own]
  case one_call =>
    intro other
    rw [ofProducer_append, ofProducer_singleton]
    by_cases own : producer = other
    · subst own
      simp [noneWaits, noneHolds]
    · simpa [own] using steady.one_call other
  case reachable => exact fun _ => reachable
  case unreachable => exact steady.unreachable
  case policies_eq => exact steady.policies_eq
  case state_eq => exact steady.state_eq

/-- A call that waits is the only one of its producer. -/
theorem eq_singleton_of_waits (steady : Steady policies initial traffic) {call : Call}
    (waits : call ∈ traffic.waiting) :
    ofProducer call.producer traffic.waiting = [call] ∧
      ofProducer call.producer traffic.holding = [] := by
  have one := steady.one_call call.producer
  rw [List.length_append] at one
  exact eq_singleton_of_mem one (mem_ofProducer waits)

/-- A call that has a slot is the only one of its producer. -/
theorem eq_singleton_of_holds (steady : Steady policies initial traffic) {call : Call}
    (holds : call ∈ traffic.holding) :
    ofProducer call.producer traffic.waiting = [] ∧
      ofProducer call.producer traffic.holding = [call] := by
  have one := steady.one_call call.producer
  rw [List.length_append, Nat.add_comm] at one
  exact (eq_singleton_of_mem one (mem_ofProducer holds)).symm

/-- It is so when room is found for a request. -/
theorem reserve (steady : Steady policies initial traffic) {call : Call}
    (waits : call ∈ traffic.waiting) :
    Steady policies initial
      { traffic with
        waiting := traffic.waiting.erase call
        holding := traffic.holding ++ [call] } := by
  obtain ⟨waiting, holding⟩ := steady.eq_singleton_of_waits waits
  constructor
  case orderly => exact steady.orderly
  case applied_eq => exact steady.applied_eq
  case stamps_eq => exact steady.stamps_eq
  case tickets_eq => exact steady.tickets_eq
  case calls_eq =>
    intro producer
    rw [ofProducer_erase, ofProducer_append, ofProducer_singleton, steady.calls_eq producer]
    by_cases own : call.producer = producer
    · subst own
      simp [waiting, holding]
    · simp [own]
  case one_call =>
    intro producer
    rw [ofProducer_erase, ofProducer_append, ofProducer_singleton]
    by_cases own : call.producer = producer
    · subst own
      simp [waiting, holding]
    · simpa [own] using steady.one_call producer
  case reachable =>
    intro _
    exact steady.reachable (List.append_ne_nil_of_left_ne_nil (List.ne_nil_of_mem waits) _)
  case unreachable => exact steady.unreachable
  case policies_eq => exact steady.policies_eq
  case state_eq => exact steady.state_eq

/-- It is so when a request enters and its call returns. -/
theorem enter (steady : Steady policies initial traffic) {call : Call}
    (holds : call ∈ traffic.holding) :
    Steady policies initial
      { traffic with
        dispatcher := traffic.dispatcher.enter call.request
        holding := traffic.holding.erase call
        returned := traffic.returned ++ [⟨traffic.dispatcher.nextStamp, call⟩] } := by
  obtain ⟨waiting, holding⟩ := steady.eq_singleton_of_holds holds
  have reachable := steady.reachable
    (List.append_ne_nil_of_right_ne_nil _ (List.ne_nil_of_mem holds))
  -- Whoever makes a call keeps the dispatcher from stopping.
  have running : traffic.dispatcher.stage ≠ .stopped := fun stopped => by
    rw [steady.unreachable stopped] at reachable
    cases reachable
  have faithful := steady.faithful.enter call.request running
  have nextStamp : traffic.dispatcher.nextStamp = traffic.returned.length := by
    rw [steady.orderly.nextStamp_eq, requests, List.length_map]
  have nowRequests : requests
      { traffic with
        dispatcher := traffic.dispatcher.enter call.request
        holding := traffic.holding.erase call
        returned := traffic.returned ++ [⟨traffic.dispatcher.nextStamp, call⟩] } =
      traffic.requests ++ [call.request] :=
    List.map_append
  constructor
  case orderly =>
    rw [nowRequests]
    exact faithful.orderly
  case applied_eq =>
    rw [nowRequests]
    exact List.prefix_iff_eq_take.mp faithful.applied_prefix
  case stamps_eq => simp [steady.stamps_eq, nextStamp, List.range_succ]
  case tickets_eq => exact steady.tickets_eq
  case calls_eq =>
    intro producer
    rw [ofProducer_erase, List.map_append, ofProducer_append, List.map_singleton,
      ofProducer_singleton, steady.calls_eq producer]
    by_cases own : call.producer = producer
    · subst own
      simp [waiting, holding]
    · simp [own]
  case one_call =>
    intro producer
    rw [ofProducer_erase]
    by_cases own : call.producer = producer
    · subst own
      simp [waiting, holding]
    · rw [if_neg own]
      exact steady.one_call producer
  case reachable => exact fun _ => (Dispatcher.reachable_enter _ _).trans reachable
  case unreachable => exact fun stopped => absurd ((Dispatcher.stage_enter _ _).symm.trans stopped) running
  case policies_eq => exact faithful.policies_eq
  case state_eq => exact faithful.carries

/-- It is so when the dispatcher moves. -/
theorem move (steady : Steady policies initial traffic) {request : Option Request}
    {after : Dispatcher} (moves : traffic.dispatcher.Moves request after) :
    Steady policies initial
      { traffic with
        dispatcher := after
        performed := traffic.performed ++ request.toList.map .apply } := by
  have faithful := steady.faithful.moves moves
  have moved := Dispatcher.moved_of_moves moves
  constructor
  case orderly => exact faithful.orderly
  case applied_eq => exact List.prefix_iff_eq_take.mp faithful.applied_prefix
  case stamps_eq => exact steady.stamps_eq
  case tickets_eq => exact steady.tickets_eq
  case calls_eq => exact steady.calls_eq
  case one_call => exact steady.one_call
  case reachable =>
    intro underWay
    have reachable := steady.reachable underWay
    cases moved with
    | on running runs state policies same => exact same.trans reachable
    | stops running unreachable => exact reachable
    | rests => exact reachable
  case unreachable =>
    intro stopped
    cases moved with
    | on running runs state policies same => exact absurd stopped runs
    | stops running unreachable => exact unreachable
    | rests => exact steady.unreachable stopped
  case policies_eq => exact faithful.policies_eq
  case state_eq => exact faithful.carries

/-- It is so when others use their ends of outboxes. -/
theorem use (steady : Steady policies initial traffic) {operation : Operation}
    (foreign : operation.request? = none) (running : traffic.dispatcher.stage ≠ .stopped) :
    Steady policies initial
      { traffic with
        dispatcher := { traffic.dispatcher with
          state := traffic.dispatcher.state.perform traffic.dispatcher.policies operation }
        performed := traffic.performed ++ [operation] } := by
  have faithful := steady.faithful.use foreign running
  constructor
  case orderly => exact faithful.orderly
  case applied_eq => exact List.prefix_iff_eq_take.mp faithful.applied_prefix
  case stamps_eq => exact steady.stamps_eq
  case tickets_eq => exact steady.tickets_eq
  case calls_eq => exact steady.calls_eq
  case one_call => exact steady.one_call
  case reachable => exact steady.reachable
  case unreachable => exact steady.unreachable
  case policies_eq => exact faithful.policies_eq
  case state_eq => exact faithful.carries

/-- It is so when nobody can call any more. -/
theorem leave (steady : Steady policies initial traffic)
    (nobody : traffic.waiting = [] ∧ traffic.holding = []) :
    Steady policies initial
      { traffic with dispatcher := { traffic.dispatcher with reachable := false } } := by
  constructor
  case orderly => exact (steady.faithful.congr false).orderly
  case applied_eq => exact steady.applied_eq
  case stamps_eq => exact steady.stamps_eq
  case tickets_eq => exact steady.tickets_eq
  case calls_eq => exact steady.calls_eq
  case one_call => exact steady.one_call
  case reachable =>
    intro underWay
    exact absurd (by rw [nobody.1, nobody.2]; rfl) underWay
  case unreachable => exact fun _ => rfl
  case policies_eq => exact steady.policies_eq
  case state_eq => exact steady.state_eq

/-- Every step keeps a hub at work as it should be. -/
theorem step (steady : Steady policies initial traffic) (steps : traffic.Step next) :
    Steady policies initial next := by
  cases steps with
  | call reachable idle => exact steady.call reachable idle
  | reserve waits room => exact steady.reserve waits
  | enter holds => exact steady.enter holds
  | move moves => exact steady.move moves
  | use foreign running => exact steady.use foreign running
  | leave nobody => exact steady.leave nobody

/-- Traffic stays steady. -/
theorem reaches (steady : Steady policies initial traffic) (later : Reaches traffic next) :
    Steady policies initial next := by
  induction later with
  | refl => exact steady
  | step _ steps ih => exact ih.step steps

end Steady

/-! ## The dispatcher left to itself -/

/-- The dispatcher takes its own next step. -/
def tick (traffic : Traffic) : Traffic :=
  { traffic with
    dispatcher := traffic.dispatcher.tick.1
    performed := traffic.performed ++
      (traffic.dispatcher.tick.2.bind Happening.request?).toList.map .apply }

/-- The dispatcher's own next step is one that it can take. -/
theorem Reaches.tick {first traffic : Traffic} (reached : Reaches first traffic) :
    Reaches first traffic.tick := by
  rcases traffic.dispatcher.tick_moves with ⟨rests, -⟩ | moves
  · have same : traffic.tick = traffic := by
      rw [Traffic.tick, rests]
      simp
    rwa [same]
  · exact reached.step (.move moves)

/-- The dispatcher takes its own next steps. -/
def ticks : Nat → Traffic → Traffic
  | 0, traffic => traffic
  | count + 1, traffic => ticks count traffic.tick

/-- The dispatcher's own steps are among those that can be taken. -/
theorem Reaches.ticks {first traffic : Traffic} (reached : Reaches first traffic) (count : Nat) :
    Reaches first (traffic.ticks count) := by
  induction count generalizing traffic with
  | zero => exact reached
  | succ count ih => exact ih reached.tick

/-! ## The order of requests -/

/-- Calls that have returned stay so, in their order. -/
theorem returned_prefix {traffic later : Traffic} (reached : Reaches traffic later) :
    traffic.returned <+: later.returned := by
  induction reached with
  | refl => exact List.prefix_refl _
  | step _ steps ih =>
    cases steps with
    | enter holds => exact ih.trans (List.prefix_append _ _)
    | _ => exact ih

/-- A call that has returned has been made. -/
theorem Steady.made_of_returned {policies : Policies} {initial : State} {traffic : Traffic}
    (steady : Steady policies initial traffic) {call : Call}
    (member : call ∈ traffic.returned.map Stamped.item) : call ∈ traffic.made := by
  have isOwn : call ∈ ofProducer call.producer traffic.made := by
    rw [steady.calls_eq]
    exact List.mem_append_left _ (mem_ofProducer member)
  exact (List.mem_filter.mp isOwn).1

/-- The requests of a hub at work are applied in the order of their stamps. -/
structure InStampOrder (policies : Policies) (initial : State) (traffic : Traffic) : Prop where
  tickets_eq : traffic.made.map Call.ticket = List.range traffic.made.length
  stamps_eq : traffic.returned.map Stamped.stamp = List.range traffic.returned.length
  applied_prefix : traffic.applied <+: traffic.requests
  outstanding_perm : traffic.dispatcher.outstanding.Perm
    (traffic.requests.drop traffic.applied.length)
  applied_eq : traffic.applied = traffic.done.map Call.request
  producer_prefix : ∀ producer,
    ofProducer producer traffic.done <+: ofProducer producer traffic.made
  state_eq : traffic.dispatcher.state =
    if traffic.dispatcher.stage = .stopped then
      (traffic.performed.foldl (State.perform policies) initial).releaseAll
    else traffic.performed.foldl (State.perform policies) initial
  handled : (∀ operation ∈ traffic.performed, operation.request? ≠ none) →
    traffic.performed.foldl (State.perform policies) initial =
      traffic.applied.foldl (fun state request => (state.apply policies request).1) initial
  finished : traffic.dispatcher.isIdle = true → traffic.applied = traffic.requests

/-- Operations that only apply requests are the requests' handlers one after the other. -/
theorem foldl_perform_eq (policies : Policies) (initial : State) {operations : List Operation}
    (handlers : ∀ operation ∈ operations, operation.request? ≠ none) :
    operations.foldl (State.perform policies) initial =
      (operations.filterMap Operation.request?).foldl
        (fun state request => (state.apply policies request).1) initial := by
  induction operations generalizing initial with
  | nil => rfl
  | cons operation rest ih =>
    have later := fun other member => handlers other (List.mem_cons_of_mem operation member)
    have first := handlers operation List.mem_cons_self
    cases operation with
    | apply request =>
      have one : (Operation.apply request).request? = some request := rfl
      rw [List.filterMap_cons_some one, List.foldl_cons, List.foldl_cons]
      exact ih _ later
    | _ => exact absurd rfl first

/-- Whatever the order of steps, requests are applied in the order of their stamps, and a request
whose call had returned before another call was made is applied before that one's. -/
theorem requests_in_stamp_order (policies : Policies) (register unregister fanout : Nat)
    (initial : State) {traffic : Traffic}
    (reached : Reaches (start policies register unregister fanout initial) traffic) :
    InStampOrder policies initial traffic ∧
      ∀ {later : Traffic}, Reaches traffic later →
        ∀ first ∈ traffic.returned.map Stamped.item, ∀ second ∈ later.done,
          second ∉ traffic.made → [first, second].Sublist later.done := by
  have steady := (Steady.start policies register unregister fanout initial).reaches reached
  constructor
  · constructor
    case tickets_eq => exact steady.tickets_eq
    case stamps_eq => exact steady.stamps_eq
    case applied_prefix =>
      rw [steady.applied_eq]
      exact List.take_prefix _ _
    case outstanding_perm => exact steady.orderly.outstanding_perm
    case applied_eq =>
      have applied_eq := steady.applied_eq
      rw [requests, ← List.map_take] at applied_eq
      rw [done, List.map_map]
      exact applied_eq
    case producer_prefix =>
      intro producer
      rw [steady.calls_eq]
      refine List.IsPrefix.trans ?_ (List.prefix_append _ _)
      exact ((List.take_prefix _ _).map _).filter _
    case state_eq => exact steady.state_eq
    case handled => exact foldl_perform_eq policies initial
    case finished =>
      intro idle
      have nothing := steady.orderly.drop_eq_nil_of_isIdle idle
      have all := List.take_append_drop traffic.applied.length traffic.requests
      rw [nothing, List.append_nil] at all
      rw [steady.applied_eq, all]
  · intro later further first isReturned second isDone notMade
    obtain ⟨more, split⟩ := returned_prefix further
    rw [done, ← split, List.take_append, List.map_append] at isDone ⊢
    rcases List.mem_append.mp isDone with earlier | afterwards
    · -- The second call would have returned, and so have been made, by then.
      have returned := ((List.take_sublist _ _).map Stamped.item).subset earlier
      exact absurd (steady.made_of_returned returned) notMade
    · have enough : traffic.returned.length ≤ later.applied.length := by
        by_cases short : later.applied.length < traffic.returned.length
        · have nothing : later.applied.length - traffic.returned.length = 0 := by omega
          rw [nothing, List.take_zero] at afterwards
          cases afterwards
        · omega
      rw [List.take_of_length_le enough]
      exact (List.singleton_sublist.mpr isReturned).append (List.singleton_sublist.mpr afterwards)

/-- Two producers; the second one's request enters while the dispatcher refills its hands. -/
theorem requests_in_stamp_order_overlapping :
    ∃ traffic, Reaches (start {} 1 1 1 {}) traffic ∧
      traffic.applied = [.unregister 7 ⟨0⟩, .register ⟨⟨0⟩, 7⟩] ∧
      InStampOrder {} {} traffic := by
  have called : Reaches (start {} 1 1 1 {}) _ :=
    Reaches.refl.step (@Step.call _ 0 (.unregister 7 ⟨0⟩) rfl (by decide))
  have reserved := called.step (@Step.reserve _ ⟨0, 0, .unregister 7 ⟨0⟩⟩ (by decide) (by decide))
  have entered := reserved.step (@Step.enter _ ⟨0, 0, .unregister 7 ⟨0⟩⟩ (by decide))
  have refilling := entered.ticks 2
  have called := refilling.step (@Step.call _ 1 (.register ⟨⟨0⟩, 7⟩) rfl (by decide))
  have reserved := called.step (@Step.reserve _ ⟨1, 1, .register ⟨⟨0⟩, 7⟩⟩ (by decide) (by decide))
  have entered := reserved.step (@Step.enter _ ⟨1, 1, .register ⟨⟨0⟩, 7⟩⟩ (by decide))
  have settled := entered.ticks 20
  exact ⟨_, settled, by decide +kernel, (requests_in_stamp_order {} 1 1 1 {} settled).1⟩

end Traffic

end Switchboard.Hub
