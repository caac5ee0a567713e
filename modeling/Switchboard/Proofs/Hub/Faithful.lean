import Switchboard.Proofs.Hub.Ordering
import Switchboard.Proofs.Hub.Run

/-!
# A dispatcher and its record

Beside a dispatcher a record can be kept of the requests that have entered and of everything that
has been done to the state. A dispatcher is faithful to such a record if it has applied requests in
the order in which they have entered and looks after just the state that the record leads to
(`Faithful`). It is in service if also somebody can still submit requests and nobody submits a
handle that is not theirs (`InService`). Both stay so as requests enter, as the dispatcher moves,
and as others use the state.
-/

namespace Switchboard.Hub

/-- The handle that a request gives to the hub. -/
def Request.handle? : Request → Option Handle
  | .register handle => some handle
  | _ => none

/-- The handles of requests are those that they register. -/
theorem Request.mem_filterMap_handle? {requests : List Request} {handle : Handle} :
    handle ∈ requests.filterMap Request.handle? ↔ Request.register handle ∈ requests := by
  refine List.mem_filterMap.trans ⟨?_, fun member => ⟨_, member, rfl⟩⟩
  rintro ⟨request, member, gives⟩
  cases request with
  | register other => exact Option.some.inj gives ▸ member
  | _ => cases gives

namespace Dispatcher

/-- A dispatcher does what the record says: of the requests that have entered, the first ones have
been applied, and the state is what has come of all that has been done to it. -/
structure Faithful (policies : Policies) (initial : State) (requests : List Request)
    (performed : List Operation) (dispatcher : Dispatcher) : Prop where
  orderly : dispatcher.Orderly requests (performed.filterMap Operation.request?).length
  applied_prefix : performed.filterMap Operation.request? <+: requests
  policies_eq : dispatcher.policies = policies
  carries : dispatcher.Carries (performed.foldl (State.perform policies) initial)

namespace Faithful

variable {policies : Policies} {initial : State} {requests : List Request}
  {performed : List Operation} {dispatcher after : Dispatcher}

/-- A dispatcher before any request is faithful to the empty record. -/
theorem create (policies : Policies) (register unregister fanout : Nat) (initial : State) :
    Faithful policies initial [] []
      { Dispatcher.create policies register unregister fanout with state := initial } := by
  refine ⟨?_, List.prefix_refl _, rfl, rfl⟩
  constructor
  case nextStamp_eq => rfl
  case bounded => exact Nat.le_refl 0
  case contents_eq => intro name; cases name <;> rfl
  case applying => intro request isApplying; cases isApplying
  case clear => intro name passed; cases passed
  case free => intro rests; rcases rests with rests | rests <;> cases rests
  case drained => intro stopped; cases stopped

/-- Until it stops, a dispatcher looks after the state that the record leads to. -/
theorem state_eq (faithful : Faithful policies initial requests performed dispatcher)
    (running : dispatcher.stage ≠ .stopped) :
    dispatcher.state = performed.foldl (State.perform policies) initial := by
  have carries := faithful.carries
  rwa [Carries, if_neg running] at carries

/-- An idle dispatcher has applied every request. -/
theorem applied_eq (faithful : Faithful policies initial requests performed dispatcher)
    (idle : dispatcher.isIdle = true) : performed.filterMap Operation.request? = requests := by
  obtain ⟨rest, split⟩ := faithful.applied_prefix
  have nothing := faithful.orderly.drop_eq_nil_of_isIdle idle
  rw [← split, List.drop_left] at nothing
  rw [← split, nothing, List.append_nil]

/-- A request may enter a faithful dispatcher. -/
theorem enter (faithful : Faithful policies initial requests performed dispatcher)
    (request : Request) (running : dispatcher.stage ≠ .stopped) :
    Faithful policies initial (requests ++ [request]) performed (dispatcher.enter request) := by
  constructor
  case orderly => exact faithful.orderly.enter request running
  case applied_prefix => exact faithful.applied_prefix.trans (List.prefix_append _ _)
  case policies_eq => exact (policies_enter dispatcher request).trans faithful.policies_eq
  case carries =>
    rw [Carries, state_enter, stage_enter]
    exact faithful.carries

/-- The request that is applied in a step is the next one. -/
theorem moves (faithful : Faithful policies initial requests performed dispatcher)
    {request : Option Request} (moves : dispatcher.Moves request after) :
    Faithful policies initial requests (performed ++ request.toList.map Operation.apply) after := by
  obtain ⟨isNext, orderly⟩ := faithful.orderly.moves moves
  have moved := moved_of_moves moves
  constructor
  case orderly =>
    rw [filterMap_request?_append, List.length_append]
    exact orderly
  case applied_prefix =>
    rw [filterMap_request?_append]
    obtain ⟨rest, split⟩ := faithful.applied_prefix
    cases request with
    | none => exact ⟨rest, by rw [Option.toList_none, List.append_nil, split]⟩
    | some one =>
      have present := isNext one rfl
      rw [← split, List.getElem?_append_right (Nat.le_refl _), Nat.sub_self] at present
      cases rest with
      | nil => cases present
      | cons first later =>
        obtain rfl : first = one := Option.some.inj present
        exact ⟨later, by rw [← split]; simp⟩
  case policies_eq =>
    cases moved with
    | on running runs state policies reachable => exact policies.trans faithful.policies_eq
    | stops running unreachable => exact faithful.policies_eq
    | rests => exact faithful.policies_eq
  case carries =>
    have carries := moved.carries faithful.carries
    rw [faithful.policies_eq] at carries
    rw [List.foldl_append]
    cases request <;> exact carries

/-- Others use the state. -/
theorem use (faithful : Faithful policies initial requests performed dispatcher)
    {operation : Operation} (foreign : operation.request? = none)
    (running : dispatcher.stage ≠ .stopped) :
    Faithful policies initial requests (performed ++ [operation])
      { dispatcher with state := dispatcher.state.perform dispatcher.policies operation } := by
  have nowApplied : (performed ++ [operation]).filterMap Operation.request? =
      performed.filterMap Operation.request? := by
    rw [List.filterMap_append, List.filterMap_cons_none foreign, List.filterMap_nil,
      List.append_nil]
  constructor
  case orderly =>
    rw [nowApplied]
    exact faithful.orderly.congr _ _
  case applied_prefix =>
    rw [nowApplied]
    exact faithful.applied_prefix
  case policies_eq => exact faithful.policies_eq
  case carries =>
    rw [Carries, if_neg running, List.foldl_append, ← faithful.state_eq running,
      faithful.policies_eq]
    rfl

/-- Who can make calls does not matter. -/
theorem congr (faithful : Faithful policies initial requests performed dispatcher)
    (reachable : Bool) :
    Faithful policies initial requests performed { dispatcher with reachable } :=
  ⟨faithful.orderly.congr _ _, faithful.applied_prefix, faithful.policies_eq, faithful.carries⟩

end Faithful

/-! ## Room in the lanes -/

/-- Lanes keep their size when a request enters. -/
theorem capacity_enter (dispatcher : Dispatcher) (request : Request) (name : LaneName) :
    ((dispatcher.enter request).lane name).capacity = (dispatcher.lane name).capacity := by
  rw [lane_enter]
  split <;> rfl

/-- They keep it when a hand is refilled. -/
theorem capacity_refill (dispatcher : Dispatcher) (refilled name : LaneName) :
    ((dispatcher.refill refilled).1.lane name).capacity = (dispatcher.lane name).capacity := by
  rw [lane_refill]
  split
  · have outcome := (dispatcher.lane name).refill_cases
    generalize (dispatcher.lane name).refill = result at outcome
    cases outcome <;> rfl
  · rfl

/-- No step changes how much a lane can hold. -/
theorem capacity_of_moves {dispatcher after : Dispatcher} {request : Option Request}
    (moves : dispatcher.Moves request after) (name : LaneName) :
    (after.lane name).capacity = (dispatcher.lane name).capacity := by
  cases advanced_of_moves moves with
  | refilled stage => exact capacity_refill dispatcher _ name
  | @chose freed oldest stage held lowest =>
    change ((dispatcher.putDown freed).lane name).capacity = _
    rw [lane_putDown]
    split <;> rfl
  | woke parked waits => exact capacity_refill dispatcher _ name
  | _ => rfl

/-! ## A dispatcher in service -/

/-- A dispatcher that requests can reach, whose record is lawful: whoever submits a handle has made
it, and it is never used again. -/
structure InService (policies : Policies) (requests : List Request) (performed : List Operation)
    (dispatcher : Dispatcher) : Prop where
  faithful : dispatcher.Faithful policies {} requests performed
  lawful : Lawful performed
  running : dispatcher.stage ≠ .stopped
  reachable : dispatcher.reachable = true
  roomy : ∀ name, 0 < (dispatcher.lane name).capacity
  given : ∀ handle, Request.register handle ∈ requests →
    handle ∈ made performed ∧ Operation.close handle ∉ performed
  once : (requests.filterMap Request.handle?).Nodup

namespace InService

variable {policies : Policies} {requests : List Request} {performed : List Operation}
  {dispatcher after : Dispatcher}

/-- A new dispatcher is in service. -/
theorem create (policies : Policies) (register unregister fanout : Nat) :
    InService policies [] [] (.create policies register unregister fanout) where
  faithful := Faithful.create policies register unregister fanout {}
  lawful := .start
  running := nofun
  reachable := rfl
  roomy := fun name => by
    cases name <;> exact Nat.lt_of_lt_of_le Nat.zero_lt_one (Nat.le_max_left _ _)
  given := nofun
  once := List.nodup_nil

/-- The state of a dispatcher in service is that of the run. -/
theorem state_eq (service : InService policies requests performed dispatcher) :
    dispatcher.state = State.after policies performed :=
  service.faithful.state_eq service.running

/-- A request enters. A handle that it gives to the hub is at hand. -/
theorem enter (service : InService policies requests performed dispatcher) {request : Request}
    (fresh : ∀ handle, request = .register handle →
      handle ∈ made performed ∧ Operation.close handle ∉ performed ∧
        Request.register handle ∉ requests) :
    InService policies (requests ++ [request]) performed (dispatcher.enter request) := by
  constructor
  case faithful => exact service.faithful.enter request service.running
  case lawful => exact service.lawful
  case running =>
    rw [stage_enter]
    exact service.running
  case reachable => exact (reachable_enter dispatcher request).trans service.reachable
  case roomy =>
    intro name
    rw [capacity_enter]
    exact service.roomy name
  case given =>
    intro handle member
    rcases List.mem_append.mp member with earlier | now
    · exact service.given handle earlier
    · obtain ⟨isMade, unclosed, _⟩ := fresh handle (List.mem_singleton.mp now).symm
      exact ⟨isMade, unclosed⟩
  case once =>
    rw [List.filterMap_append]
    refine List.nodup_append.mpr ⟨service.once, ?_, ?_⟩
    · cases request with
      | register handle => exact List.pairwise_singleton _ handle
      | _ => exact List.nodup_nil
    · rintro handle earlier other now rfl
      have isOwn := List.mem_singleton.mp (Request.mem_filterMap_handle?.mp now)
      exact (fresh handle isOwn.symm).2.2 (Request.mem_filterMap_handle?.mp earlier)

/-- Others use the state. A handle that has been submitted is not theirs to close. -/
theorem use (service : InService policies requests performed dispatcher) {operation : Operation}
    (follows : operation.Follows performed) (foreign : operation.request? = none)
    (kept : ∀ handle, operation = .close handle → Request.register handle ∉ requests) :
    InService policies requests (performed ++ [operation])
      { dispatcher with state := dispatcher.state.perform dispatcher.policies operation } where
  faithful := service.faithful.use foreign service.running
  lawful := service.lawful.step follows
  running := service.running
  reachable := service.reachable
  roomy := service.roomy
  given := fun handle member => by
    obtain ⟨isMade, unclosed⟩ := service.given handle member
    refine ⟨mem_made_append _ isMade, fun closed => ?_⟩
    rcases List.mem_append.mp closed with earlier | now
    · exact unclosed earlier
    · exact kept handle (List.mem_singleton.mp now).symm member
  once := service.once

/-- A registration that has entered and has not been applied is for a handle at hand. -/
theorem inHand (service : InService policies requests performed dispatcher) {handle : Handle}
    (later : List Request)
    (split : performed.filterMap Operation.request? ++ .register handle :: later = requests) :
    InHand performed handle := by
  obtain ⟨isMade, unclosed⟩ := service.given handle (by simp [← split])
  refine ⟨isMade, fun gone => ?_⟩
  rcases mem_spent_iff.mp gone with closed | applied
  · exact unclosed closed
  · have once := service.once
    rw [← split, List.filterMap_append, List.filterMap_cons_some (by rfl)] at once
    have earlier : Request.register handle ∈ performed.filterMap Operation.request? :=
      List.mem_filterMap.mpr ⟨_, applied, rfl⟩
    exact (List.nodup_append.mp once).2.2 handle (Request.mem_filterMap_handle?.mpr earlier) handle
      List.mem_cons_self rfl

/-- Every step keeps a dispatcher in service. -/
theorem moves (service : InService policies requests performed dispatcher)
    {request : Option Request} (moves : dispatcher.Moves request after) :
    InService policies requests (performed ++ request.toList.map Operation.apply) after := by
  have faithful := service.faithful.moves moves
  have goes_on : after.stage ≠ .stopped ∧ after.reachable = true := by
    cases moved_of_moves moves with
    | on running runs state policies reachable => exact ⟨runs, reachable.trans service.reachable⟩
    | stops running unreachable => rw [service.reachable] at unreachable; cases unreachable
    | rests => exact ⟨service.running, service.reachable⟩
  constructor
  case faithful => exact faithful
  case lawful =>
    cases request with
    | none => simpa using service.lawful
    | some one =>
      refine service.lawful.step ?_
      cases one with
      | register handle =>
        obtain ⟨later, split⟩ := faithful.applied_prefix
        exact service.inHand later (by rw [← split]; simp [Operation.request?])
      | unregister user connection => exact trivial
      | fanout request => exact trivial
  case running => exact goes_on.1
  case reachable => exact goes_on.2
  case roomy =>
    intro name
    rw [capacity_of_moves moves]
    exact service.roomy name
  case given =>
    intro handle member
    obtain ⟨isMade, unclosed⟩ := service.given handle member
    refine ⟨mem_made_append _ isMade, fun closed => ?_⟩
    rcases List.mem_append.mp closed with earlier | now
    · exact unclosed earlier
    · obtain ⟨_, _, isApply⟩ := List.mem_map.mp now
      cases isApply
  case once => exact service.once

/-- Before an idle dispatcher every lane has room. -/
theorem isFull_eq_false (service : InService policies requests performed dispatcher)
    (idle : dispatcher.isIdle = true) (name : LaneName) : dispatcher.isFull name = false := by
  have waiting := waiting_eq_nil_of_not_hasWaiting ((parked_of_isIdle idle service.running).2 name)
  have roomy := service.roomy name
  rw [isFull_eq, Lane.isFull, waiting]
  simp only [List.length_nil, decide_eq_false_iff_not]
  omega

end InService

end Dispatcher

end Switchboard.Hub
