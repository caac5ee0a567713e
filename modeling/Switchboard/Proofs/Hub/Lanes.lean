import Switchboard.Hub.Dispatcher

/-!
# The three lanes seen alike

The dispatcher keeps a lane for each kind of request. Seen as lanes of requests they behave alike:
entering, refilling a hand and choosing change one lane and leave the others alone
(`lane_enter`, `lane_refill`, `choose_cases`). What a lane holds, in hand or waiting, is its
contents; only entering and choosing change it.
-/

namespace Switchboard.Hub

/-- A stamped item turned into another. -/
def Stamped.map {α β : Type} (turn : α → β) (stamped : Stamped α) : Stamped β :=
  ⟨stamped.stamp, turn stamped.item⟩

namespace Lane

variable {α β : Type}

/-- A lane with its items turned into others. -/
def map (turn : α → β) (lane : Lane α) : Lane β where
  capacity := lane.capacity
  waiting := lane.waiting.map (Stamped.map turn)
  inHand := lane.inHand.map (Stamped.map turn)

/-- What has entered a lane and has not been put down, the oldest first. -/
def contents (lane : Lane α) : List (Stamped α) := lane.inHand.toList ++ lane.waiting

/-- A request may be turned into another before or after it enters. -/
theorem map_enter (turn : α → β) (lane : Lane α) (stamp : Nat) (item : α) :
    (lane.enter stamp item).map turn = (lane.map turn).enter stamp (turn item) := by
  simp [map, enter, Stamped.map]

/-- Turning requests into others does not matter to taking them in hand. -/
theorem map_refill (turn : α → β) (lane : Lane α) :
    (lane.map turn).refill = (lane.refill.1.map turn, lane.refill.2) := by
  obtain ⟨capacity, waiting, inHand⟩ := lane
  cases inHand <;> cases waiting <;> rfl

/-- The stamps stay what they are. -/
theorem stampInHand_map (turn : α → β) (lane : Lane α) :
    (lane.map turn).stampInHand = lane.stampInHand := by
  cases inHand : lane.inHand <;> simp [stampInHand, map, inHand, Stamped.map]

/-- A request enters behind the others. -/
theorem contents_enter (lane : Lane α) (stamp : Nat) (item : α) :
    (lane.enter stamp item).contents = lane.contents ++ [⟨stamp, item⟩] := by
  rw [contents, contents, List.append_assoc]
  rfl

/-- Refilling moves a request from one place to the other, and finds one unless the hand is full or
nothing waits. -/
inductive Refilled (lane : Lane α) : Lane α × Bool → Prop where
  | found {next : Stamped α} {rest : List (Stamped α)} (free : lane.inHand = none)
      (waits : lane.waiting = next :: rest) :
      Refilled lane ({ lane with waiting := rest, inHand := some next }, true)
  | nothing (settled : lane.inHand = none → lane.waiting = []) : Refilled lane (lane, false)

/-- The hand is refilled, or there is nothing to do. -/
theorem refill_cases (lane : Lane α) : lane.Refilled lane.refill := by
  unfold refill
  cases free : lane.inHand with
  | some held => exact .nothing (by simp [free])
  | none =>
    cases waits : lane.waiting with
    | nil => exact .nothing fun _ => waits
    | cons next rest => exact .found free waits

/-- Taking a request in hand keeps what the lane holds, and the order. -/
theorem contents_refill (lane : Lane α) : lane.refill.1.contents = lane.contents := by
  have outcome := lane.refill_cases
  generalize lane.refill = result at outcome
  cases outcome with
  | found free waits => simp [contents, free, waits]
  | nothing settled => rfl

/-- What is in hand is the oldest of the contents. -/
theorem contents_of_inHand {lane : Lane α} {held : Stamped α} (inHand : lane.inHand = some held) :
    lane.contents = held :: lane.putDown.contents := by
  simp [contents, putDown, inHand]

/-- The request in hand is one that the lane holds. -/
theorem mem_contents_of_inHand {lane : Lane α} {held : Stamped α}
    (inHand : lane.inHand = some held) : held ∈ lane.contents := by
  rw [contents_of_inHand inHand]
  exact List.mem_cons_self

end Lane

namespace Dispatcher

/-- A lane as a lane of requests. -/
def lane (dispatcher : Dispatcher) : LaneName → Lane Request
  | .register => dispatcher.registering.map .register
  | .unregister => dispatcher.unregistering.map fun asked => .unregister asked.1 asked.2
  | .fanout => dispatcher.fanning.map .fanout

/-- The dispatcher with one hand free. -/
def putDown (dispatcher : Dispatcher) : LaneName → Dispatcher
  | .register => { dispatcher with registering := dispatcher.registering.putDown }
  | .unregister => { dispatcher with unregistering := dispatcher.unregistering.putDown }
  | .fanout => { dispatcher with fanning := dispatcher.fanning.putDown }

/-! ## Entering and refilling -/

/-- A request enters its own lane, with the next stamp. -/
theorem lane_enter (dispatcher : Dispatcher) (request : Request) (name : LaneName) :
    (dispatcher.enter request).lane name =
      if laneOf request = name then (dispatcher.lane name).enter dispatcher.nextStamp request
      else dispatcher.lane name := by
  cases request <;> cases name <;> first | rfl | exact Lane.map_enter _ _ _ _

/-- No hand changes as a request enters. -/
theorem inHand_enter (dispatcher : Dispatcher) (request : Request) (name : LaneName) :
    ((dispatcher.enter request).lane name).inHand = (dispatcher.lane name).inHand := by
  rw [lane_enter]
  split <;> rfl

@[simp] theorem stage_enter (dispatcher : Dispatcher) (request : Request) :
    (dispatcher.enter request).stage = dispatcher.stage := by
  cases request <;> rfl

@[simp] theorem state_enter (dispatcher : Dispatcher) (request : Request) :
    (dispatcher.enter request).state = dispatcher.state := by
  cases request <;> rfl

@[simp] theorem policies_enter (dispatcher : Dispatcher) (request : Request) :
    (dispatcher.enter request).policies = dispatcher.policies := by
  cases request <;> rfl

@[simp] theorem reachable_enter (dispatcher : Dispatcher) (request : Request) :
    (dispatcher.enter request).reachable = dispatcher.reachable := by
  cases request <;> rfl

/-- Each request takes one stamp. -/
@[simp] theorem nextStamp_enter (dispatcher : Dispatcher) (request : Request) :
    (dispatcher.enter request).nextStamp = dispatcher.nextStamp + 1 := by
  cases request <;> rfl

/-- Only the lane that is looked at is refilled. -/
theorem lane_refill (dispatcher : Dispatcher) (refilled name : LaneName) :
    (dispatcher.refill refilled).1.lane name =
      if refilled = name then (dispatcher.lane name).refill.1 else dispatcher.lane name := by
  cases refilled <;> cases name <;> first | rfl | simp [lane, refill, Lane.map_refill]

/-- Something is found if the lane has it. -/
theorem found_refill (dispatcher : Dispatcher) (name : LaneName) :
    (dispatcher.refill name).2 = (dispatcher.lane name).refill.2 := by
  cases name <;> simp [lane, refill, Lane.map_refill]

theorem nextStamp_refill (dispatcher : Dispatcher) (name : LaneName) :
    (dispatcher.refill name).1.nextStamp = dispatcher.nextStamp := by
  cases name <;> rfl

theorem nextStamp_putDown (dispatcher : Dispatcher) (name : LaneName) :
    (dispatcher.putDown name).nextStamp = dispatcher.nextStamp := by
  cases name <;> rfl

/-- Only the hand of one lane becomes free. -/
theorem lane_putDown (dispatcher : Dispatcher) (freed name : LaneName) :
    (dispatcher.putDown freed).lane name =
      if freed = name then (dispatcher.lane name).putDown else dispatcher.lane name := by
  cases freed <;> cases name <;> rfl

/-- A lane is worth waking up for if a request waits in it. -/
theorem hasWaiting_eq (dispatcher : Dispatcher) (name : LaneName) :
    dispatcher.hasWaiting name = !(dispatcher.lane name).waiting.isEmpty := by
  cases name <;> simp [hasWaiting, lane, Lane.map]

/-- Whether there is room is a matter of the lane. -/
theorem isFull_eq (dispatcher : Dispatcher) (name : LaneName) :
    dispatcher.isFull name = (dispatcher.lane name).isFull := by
  cases name <;> simp [isFull, lane, Lane.map, Lane.isFull]

/-! ## Choosing -/

/-- There is no lowest stamp if no hand holds one. -/
theorem lowestStamp_eq_none {stamps : List (Option Nat)} :
    lowestStamp stamps = none ↔ ∀ stamp ∈ stamps, stamp = none := by
  rw [lowestStamp, List.min?_eq_none_iff, List.filterMap_eq_nil_iff]
  rfl

/-- The lowest stamp is one of those that are there, and below all others. -/
theorem lowestStamp_eq_some {stamps : List (Option Nat)} {lowest : Nat} :
    lowestStamp stamps = some lowest ↔
      some lowest ∈ stamps ∧ ∀ stamp, some stamp ∈ stamps → lowest ≤ stamp := by
  rw [lowestStamp, List.min?_eq_some_iff]
  simp

/-- What comes of choosing. -/
inductive Chosen (dispatcher : Dispatcher) : Option (Request × Dispatcher) → Prop where
  | nothing (free : ∀ name, (dispatcher.lane name).inHand = none) : Chosen dispatcher none
  | picked {name : LaneName} {oldest : Stamped Request}
      (held : (dispatcher.lane name).inHand = some oldest)
      (lowest : ∀ {other : LaneName} {stamped : Stamped Request},
        (dispatcher.lane other).inHand = some stamped → oldest.stamp ≤ stamped.stamp) :
      Chosen dispatcher (some (oldest.item, dispatcher.putDown name))

/-- A request with the lowest stamp is put down, or every hand is free. -/
theorem choose_cases (dispatcher : Dispatcher) : dispatcher.Chosen dispatcher.choose := by
  have shown (name : LaneName) : (dispatcher.lane name).stampInHand ∈
      [dispatcher.registering.stampInHand, dispatcher.unregistering.stampInHand,
        dispatcher.fanning.stampInHand] := by
    cases name <;> simp [lane, Lane.stampInHand_map]
  unfold choose
  cases found : lowestStamp [dispatcher.registering.stampInHand,
      dispatcher.unregistering.stampInHand, dispatcher.fanning.stampInHand] with
  | none =>
    refine .nothing fun name => ?_
    have free := lowestStamp_eq_none.mp found _ (shown name)
    exact Option.map_eq_none_iff.mp free
  | some lowest =>
    obtain ⟨isMember, least⟩ := lowestStamp_eq_some.mp found
    have pick {name : LaneName} {oldest : Stamped Request}
        (held : (dispatcher.lane name).inHand = some oldest) (isLowest : oldest.stamp = lowest) :
        dispatcher.Chosen (some (oldest.item, dispatcher.putDown name)) := by
      refine .picked held fun {other stamped} otherHeld => ?_
      have sees : (dispatcher.lane other).stampInHand = some stamped.stamp := by
        rw [Lane.stampInHand, otherHeld]
        rfl
      rw [isLowest]
      refine least _ ?_
      rw [← sees]
      exact shown other
    simp only [reduceCtorEq, ↓reduceIte]
    by_cases first : dispatcher.registering.stampInHand = some lowest
    · obtain ⟨chosen, held, stamp⟩ := Option.map_eq_some_iff.mp first
      rw [if_pos first, held]
      have inHand : (dispatcher.lane .register).inHand = some (chosen.map .register) := by
        simp [lane, Lane.map, held]
      exact pick inHand stamp
    · rw [if_neg first]
      by_cases second : dispatcher.unregistering.stampInHand = some lowest
      · obtain ⟨chosen, held, stamp⟩ := Option.map_eq_some_iff.mp second
        rw [if_pos second, held]
        have inHand : (dispatcher.lane .unregister).inHand =
            some (chosen.map fun asked => .unregister asked.1 asked.2) := by
          simp [lane, Lane.map, held]
        exact pick inHand stamp
      · have third : dispatcher.fanning.stampInHand = some lowest := by
          simpa [Ne.symm first, Ne.symm second, eq_comm] using isMember
        obtain ⟨chosen, held, stamp⟩ := Option.map_eq_some_iff.mp third
        rw [if_neg second, held]
        have inHand : (dispatcher.lane .fanout).inHand = some (chosen.map .fanout) := by
          simp [lane, Lane.map, held]
        exact pick inHand stamp

end Dispatcher

end Switchboard.Hub
