import Mathlib.Data.List.Defs
import Switchboard.Proofs.Hub.Agreement
import Switchboard.Proofs.Hub.Custody
import Switchboard.Proofs.Hub.Ordering

/-!
# Letting go of a hub

Once nobody can submit requests any more, the dispatcher applies those that have entered and ends.
Whatever its lanes hold and whatever it is about to do, it has only so many steps left (`toGo`), can
always take one until it has stopped, and by then has applied every request once, in the order of
stamps (`shutdown`). The hub's end of every outbox that it was given is closed then, so each writer
receives what its outbox still holds and then the end.
-/

namespace Switchboard.Hub

/-! ## How much there is to do -/

/-- What a lane has to be handled for: a request that waits is taken in hand first. -/
def Lane.toGo {α : Type} (lane : Lane α) : Nat :=
  10 * lane.waiting.length + 5 * lane.inHand.toList.length

/-- Taking a request in hand is half of the way that it still has to go. -/
theorem Lane.toGo_refill {α : Type} (lane : Lane α) :
    lane.refill.1.toGo + (if lane.refill.2 then 5 else 0) = lane.toGo := by
  have outcome := lane.refill_cases
  generalize lane.refill = result at outcome
  cases outcome with
  | found free waits =>
    simp only [toGo, free, waits, List.length_cons, Option.toList_some, Option.toList_none,
      List.length_nil, ↓reduceIte]
    omega
  | nothing settled => simp

/-- Putting it down is the other half. -/
theorem Lane.toGo_putDown {α : Type} {lane : Lane α} {held : Stamped α}
    (inHand : lane.inHand = some held) : lane.putDown.toGo + 5 = lane.toGo := by
  simp [toGo, putDown, inHand]

/-- The steps that are left to a dispatcher before its hands are full or it comes to rest. -/
def Stage.toGo : Stage → Nat
  | .stopped => 0
  | .parked => 1
  | .choosing => 2
  | .refilling .fanout false => 3
  | .refilling .unregister false => 4
  | .refilling .register false => 5
  | .refilling .fanout true => 6
  | .refilling .unregister true => 7
  | .refilling .register true => 8
  | .applying _ => 6

/-- What the handlers of requests make of a state, one after the other. -/
def State.applyAll (policies : Policies) (state : State) (requests : List Request) : State :=
  requests.foldl (fun state request => (state.apply policies request).1) state

namespace Dispatcher

variable {dispatcher after : Dispatcher} {request : Option Request}
  {left : List (Stamped Request)}

/-- What all lanes have to be handled for. -/
def load (dispatcher : Dispatcher) : Nat :=
  (dispatcher.lane .register).toGo + (dispatcher.lane .unregister).toGo +
    (dispatcher.lane .fanout).toGo

/-- A bound on the steps that are left to a dispatcher that nobody can reach. -/
def toGo (dispatcher : Dispatcher) : Nat := dispatcher.load + dispatcher.stage.toGo

/-- The load gets lighter by what is taken in hand. -/
theorem load_refill (dispatcher : Dispatcher) (name : LaneName) :
    (dispatcher.refill name).1.load + (if (dispatcher.refill name).2 then 5 else 0) =
      dispatcher.load := by
  have own := (dispatcher.lane name).toGo_refill
  rw [found_refill]
  simp only [load, lane_refill]
  cases name <;> simp only [reduceCtorEq, ↓reduceIte] <;> omega

/-- It gets lighter by what is put down. -/
theorem load_putDown {name : LaneName} {held : Stamped Request}
    (inHand : (dispatcher.lane name).inHand = some held) :
    (dispatcher.putDown name).load + 5 = dispatcher.load := by
  have own := Lane.toGo_putDown inHand
  simp only [load, lane_putDown]
  cases name <;> simp only [reduceCtorEq, ↓reduceIte] <;> omega

/-- A pass goes on, or a new one is paid for by what has been found. -/
theorem toGo_stageAfterRefill (name : LaneName) (found foundHere : Bool) :
    (stageAfterRefill name (found || foundHere)).toGo + 1 ≤
      (Stage.refilling name found).toGo + if foundHere then 5 else 0 := by
  cases name <;> cases found <;> cases foundHere <;> decide

/-- Every step leaves less to do. -/
theorem Lined.toGo_lt (lined : Lined left dispatcher) (running : dispatcher.stage ≠ .stopped)
    (moves : dispatcher.Moves request after) : after.toGo < dispatcher.toGo := by
  cases advanced_of_moves moves with
  | @refilled name found stage =>
    have load := dispatcher.load_refill name
    have stages := toGo_stageAfterRefill name found (dispatcher.refill name).2
    have same : Dispatcher.load { (dispatcher.refill name).1 with
        stage := stageAfterRefill name (found || (dispatcher.refill name).2) } =
        (dispatcher.refill name).1.load := rfl
    simp only [toGo, same, stage]
    omega
  | rested stage free =>
    simp only [toGo, stage, Stage.toGo]
    exact Nat.add_lt_add_left (by decide) _
  | @chose name oldest stage held lowest =>
    have load := load_putDown held
    have same : Dispatcher.load { dispatcher.putDown name with
        stage := .applying oldest.item } = (dispatcher.putDown name).load := rfl
    simp only [toGo, same, stage, Stage.toGo]
    omega
  | applied stage =>
    simp only [toGo, stage, Stage.toGo]
    exact Nat.add_lt_add_left (by decide) _
  | @woke name parked waits =>
    have load := dispatcher.load_refill name
    have found : (dispatcher.refill name).2 = true := by
      rw [found_refill]
      rw [hasWaiting_eq] at waits
      have outcome := (dispatcher.lane name).refill_cases
      generalize (dispatcher.lane name).refill = result at outcome
      cases outcome with
      | found free waiting => rfl
      | nothing settled => simp [settled (lined.free (.inl parked) name)] at waits
    have same : (dispatcher.wake name).load = (dispatcher.refill name).1.load := rfl
    have stage : (dispatcher.wake name).stage = .refilling .register false := rfl
    rw [if_pos found] at load
    simp only [toGo, same, stage, parked, Stage.toGo]
    omega
  | ended parked empty unreachable =>
    simp only [toGo, parked]
    exact Nat.add_lt_add_left Nat.zero_lt_one _
  | atEnd stopped => exact absurd stopped running

/-- What a dispatcher still has to do is bounded by what is pending. -/
theorem toGo_le (dispatcher : Dispatcher) : dispatcher.toGo ≤ 10 * dispatcher.pending + 8 := by
  have lanes (name : LaneName) : (dispatcher.lane name).toGo ≤ 10 * (dispatcher.lane name).pending := by
    cases inHand : (dispatcher.lane name).inHand <;> simp [Lane.toGo, Lane.pending, inHand]; omega
  have pending : dispatcher.pending = (dispatcher.lane .register).pending +
      (dispatcher.lane .unregister).pending + (dispatcher.lane .fanout).pending := by
    simp [Dispatcher.pending, lane, Lane.map, Lane.pending]
  have stages : dispatcher.stage.toGo ≤ 8 := by
    rcases dispatcher.stage with ⟨_ | _ | _, _ | _⟩ | _ | _ | _ | _ <;> simp [Stage.toGo]
  have first := lanes .register
  have second := lanes .unregister
  have third := lanes .fanout
  simp only [toGo, load]
  omega

/-! ## What is to be applied -/

def contents (dispatcher : Dispatcher) : List (Stamped Request) :=
  [LaneName.register, .unregister, .fanout].flatMap fun name => (dispatcher.lane name).contents

/-- Everything in the lanes, in the order of stamps. -/
def due (dispatcher : Dispatcher) : List (Stamped Request) :=
  dispatcher.contents.mergeSort fun first second => first.stamp ≤ second.stamp

/-- The requests that have not been applied, in the order of stamps after the one that is about to
be. -/
def toApply (dispatcher : Dispatcher) : List Request :=
  dispatcher.stage.request?.toList ++ dispatcher.due.map Stamped.item

/-- Lanes as they can be at any time: stamps rise along each of them and do not repeat, and the pass
that is under way has seen what it has seen. -/
structure Laid (dispatcher : Dispatcher) : Prop where
  ascending : ∀ name, (dispatcher.lane name).contents.Pairwise
    fun first second => first.stamp < second.stamp
  distinct : (dispatcher.contents.map Stamped.stamp).Nodup
  clear : ∀ name ∈ dispatcher.stage.passed, dispatcher.Clear name
  free : dispatcher.stage = .parked ∨ dispatcher.stage = .stopped →
    ∀ name, (dispatcher.lane name).inHand = none
  drained : dispatcher.stage = .stopped → ∀ name, (dispatcher.lane name).waiting = []

/-- Lanes with ascending and distinct stamps are laid out when a pass begins. -/
theorem Laid.of_refilling (stage : dispatcher.stage = .refilling .register false)
    (ascending : ∀ name, (dispatcher.lane name).contents.Pairwise
      fun first second => first.stamp < second.stamp)
    (distinct : (dispatcher.contents.map Stamped.stamp).Nodup) : dispatcher.Laid := by
  refine ⟨ascending, distinct, ?_, ?_, ?_⟩
  · rw [stage]
    nofun
  · rw [stage]
    nofun
  · rw [stage]
    nofun

/-- What a lane holds belongs there. -/
theorem laneOf_of_mem {name : LaneName} {one : Stamped Request}
    (member : one ∈ (dispatcher.lane name).contents) : laneOf one.item = name := by
  cases name <;> simp only [lane, Lane.contents, Lane.map, List.mem_append, Option.mem_toList,
    Option.map_eq_some_iff, List.mem_map] at member <;>
    rcases member with ⟨held, -, rfl⟩ | ⟨waiting, -, rfl⟩ <;> rfl

/-- Of all that is held, what belongs in a lane is what that lane holds. -/
theorem filter_contents (dispatcher : Dispatcher) (name : LaneName) :
    dispatcher.contents.filter (fun one => laneOf one.item = name) =
      (dispatcher.lane name).contents := by
  have each (other : LaneName) :
      (dispatcher.lane other).contents.filter (fun one => laneOf one.item = name) =
        if other = name then (dispatcher.lane other).contents else [] := by
    split
    next same => exact List.filter_eq_self.mpr fun one member => by simp [laneOf_of_mem member, same]
    next different =>
      exact List.filter_eq_nil_iff.mpr fun one member => by simp [laneOf_of_mem member, different]
  simp only [contents, List.flatMap_cons, List.flatMap_nil, List.filter_append, each]
  cases name <;> simp

/-- The lanes of a dispatcher, taken together and sorted, are lined up. -/
theorem Laid.lined (laid : dispatcher.Laid) : Lined dispatcher.due dispatcher := by
  have perm : dispatcher.due.Perm dispatcher.contents := List.mergeSort_perm _ _
  have sorted : dispatcher.due.Pairwise fun first second => first.stamp < second.stamp := by
    have weakly : dispatcher.due.Pairwise fun first second =>
        decide (first.stamp ≤ second.stamp) = true :=
      List.pairwise_mergeSort (fun _ _ _ => by simpa using Nat.le_trans)
        (fun first second => by simpa using Nat.le_total first.stamp second.stamp) _
    have distinct : dispatcher.due.Pairwise fun first second => first.stamp ≠ second.stamp :=
      List.pairwise_map.mp ((perm.map Stamped.stamp).nodup_iff.mpr laid.distinct)
    exact (weakly.and distinct).imp fun both =>
      Nat.lt_of_le_of_ne (of_decide_eq_true both.1) both.2
  refine ⟨sorted, fun name => ?_, laid.clear, laid.free, laid.drained⟩
  rw [← filter_contents]
  have ascending := laid.ascending name
  rw [← filter_contents] at ascending
  exact ((perm.symm.filter _).eq_of_pairwise
    (fun first second _ _ before after => absurd before (Nat.lt_asymm after)) ascending
    (sorted.filter _))

/-- What is lined up is what the lanes hold, in the order of stamps. -/
theorem Lined.due_eq (lined : Lined left dispatcher) : dispatcher.Laid ∧ dispatcher.due = left := by
  have perm : dispatcher.contents.Perm left := by
    simpa only [contents, lined.contents_eq] using perm_by_lane left
  have laid : dispatcher.Laid := by
    refine ⟨fun name => ?_, ?_, lined.clear, lined.free, lined.drained⟩
    · rw [lined.contents_eq]
      exact lined.sorted.filter _
    · refine (perm.map Stamped.stamp).nodup_iff.mpr (List.pairwise_map.mpr ?_)
      exact lined.sorted.imp Nat.ne_of_lt
  refine ⟨laid, ((List.mergeSort_perm _ _).trans perm).eq_of_pairwise ?_ laid.lined.sorted
    lined.sorted⟩
  exact fun first second _ _ before after => absurd before (Nat.lt_asymm after)

/-- The lanes of a hub at work are as they can be, and what is to be applied is what has entered and
has not been applied. -/
theorem Orderly.laid {entered : List Request} {applied : Nat}
    (orderly : Orderly entered applied dispatcher) :
    dispatcher.Laid ∧ dispatcher.toApply = entered.drop applied := by
  obtain ⟨laid, due_eq⟩ := orderly.lined.due_eq
  refine ⟨laid, ?_⟩
  rw [toApply, due_eq, List.map_drop, map_item_stamped]
  cases stage : dispatcher.stage with
  | applying request =>
    obtain ⟨inside, present⟩ := List.getElem?_eq_some_iff.mp (orderly.applying stage)
    rw [List.drop_eq_getElem_cons inside, present]
    rfl
  | _ => rfl

/-! ## What still happens -/

/-- What can still happen to a dispatcher: it moves, and connections are made and used at either
end. `moves` counts the dispatcher's own steps. -/
inductive Proceeds (first : Dispatcher) : (moves : Nat) → List Operation → Dispatcher → Prop where
  | refl : Proceeds first 0 [] first
  | move {moves : Nat} {performed : List Operation} {dispatcher after : Dispatcher}
      {request : Option Request} (proceeds : Proceeds first moves performed dispatcher)
      (running : dispatcher.stage ≠ .stopped) (next : dispatcher.Moves request after) :
      Proceeds first (moves + 1) (performed ++ request.toList.map .apply) after
  | use {moves : Nat} {performed : List Operation} {dispatcher : Dispatcher}
      {operation : Operation} (proceeds : Proceeds first moves performed dispatcher)
      (running : dispatcher.stage ≠ .stopped) (foreign : operation.request? = none) :
      Proceeds first moves (performed ++ [operation])
        { dispatcher with state := dispatcher.state.perform dispatcher.policies operation }

/-- How far a dispatcher has come that nobody can reach. -/
structure Underway (first : Dispatcher) (moves : Nat) (performed : List Operation)
    (dispatcher : Dispatcher) : Prop where
  lined : ∃ left, Lined left dispatcher ∧
    first.toApply = performed.filterMap Operation.request? ++
      (dispatcher.stage.request?.toList ++ left.map Stamped.item)
  toGo_le : moves + dispatcher.toGo ≤ first.toGo
  unreachable : dispatcher.reachable = false
  policies_eq : dispatcher.policies = first.policies
  carries : dispatcher.Carries (performed.foldl (State.perform first.policies) first.state)

/-- A dispatcher that has been let go is underway wherever it has got to. -/
theorem Proceeds.underway {first : Dispatcher} (laid : first.Laid)
    (running : first.stage ≠ .stopped) (unreachable : first.reachable = false) {moves : Nat}
    {performed : List Operation} (proceeds : Proceeds first moves performed dispatcher) :
    Underway first moves performed dispatcher := by
  induction proceeds with
  | refl =>
    exact ⟨⟨first.due, laid.lined, rfl⟩, by omega, unreachable, rfl, by
      rw [Carries, if_neg running]; rfl⟩
  | @move moves performed dispatcher after request _ running next ih =>
    obtain ⟨left, lined, toApply⟩ := ih.lined
    obtain ⟨rest, linedAfter, same⟩ := lined.moves next
    have moved := moved_of_moves next
    have fewer := lined.toGo_lt running next
    have before := ih.toGo_le
    have carries := moved.carries ih.carries
    refine ⟨⟨rest, linedAfter, ?_⟩, by omega, ?_, ?_, ?_⟩
    · rw [toApply, same, filterMap_request?_append, List.append_assoc]
    · cases moved with
      | on _ _ _ _ reachable => exact reachable.trans ih.unreachable
      | stops | rests => exact ih.unreachable
    · cases moved with
      | on _ _ _ policies => exact policies.trans ih.policies_eq
      | stops | rests => exact ih.policies_eq
    · rw [ih.policies_eq] at carries
      rw [List.foldl_append]
      cases request <;> exact carries
  | @use moves performed dispatcher operation _ running foreign ih =>
    obtain ⟨left, lined, toApply⟩ := ih.lined
    have carries := ih.carries
    refine ⟨⟨left, ⟨lined.sorted, lined.contents_eq, lined.clear, lined.free, lined.drained⟩, ?_⟩,
      ih.toGo_le, ih.unreachable, ih.policies_eq, ?_⟩
    · rw [toApply, List.filterMap_append, List.filterMap_cons_none foreign, List.filterMap_nil,
        List.append_nil]
    · rw [Carries, if_neg running] at carries
      rw [Carries, if_neg running, List.foldl_append, ← carries, ← ih.policies_eq]
      rfl

/-- A dispatcher that has stopped has applied everything. -/
theorem Underway.applied_eq {first : Dispatcher} {moves : Nat} {performed : List Operation}
    (underway : Underway first moves performed dispatcher) (stopped : dispatcher.stage = .stopped) :
    performed.filterMap Operation.request? = first.toApply := by
  obtain ⟨left, lined, toApply⟩ := underway.lined
  have nothing := lined.eq_nil (lined.free (.inr stopped)) (lined.drained stopped)
  rw [toApply, nothing, stopped]
  simp [Stage.request?]

/-- A dispatcher that nobody can reach can always go on until it has stopped: its own next step is
one that it can take. -/
theorem moves_tick (unreachable : dispatcher.reachable = false) :
    dispatcher.Moves (dispatcher.tick.2.bind Happening.request?) dispatcher.tick.1 := by
  rcases dispatcher.tick_moves with ⟨-, -, reachable⟩ | moves
  · cases reachable.symm.trans unreachable
  · exact moves

/-! ## A dispatcher left to itself -/

/-- A dispatcher that nobody can reach does not rest before it has stopped. -/
theorem isIdle_eq_false (running : dispatcher.stage ≠ .stopped)
    (unreachable : dispatcher.reachable = false) : dispatcher.isIdle = false := by
  unfold isIdle
  split
  · simp [unreachable]
  next stopped => exact absurd stopped running
  · rfl

/-- One that has stopped does nothing more. -/
theorem run_of_stopped (stopped : dispatcher.stage = .stopped) (fuel : Nat)
    (done : List Happening) : dispatcher.run fuel done = (dispatcher, done.reverse) := by
  cases fuel with
  | zero => rfl
  | succ fuel => simp [run, isIdle, stopped]

/-- A parked dispatcher stops if nothing waits and nothing can come. -/
theorem tick_of_ends (parked : dispatcher.stage = .parked)
    (empty : ∀ name, dispatcher.hasWaiting name = false)
    (unreachable : dispatcher.reachable = false) :
    dispatcher.tick = (dispatcher.stop, some (.ended dispatcher.state)) := by
  simp [tick, parked, empty, unreachable]

/-- A dispatcher stops only where it is parked and nothing waits. -/
theorem running_of_advanced (advanced : dispatcher.Advanced request after)
    (running : dispatcher.stage ≠ .stopped)
    (goes_on : ¬ (dispatcher.stage = .parked ∧ ∀ name, dispatcher.hasWaiting name = false)) :
    after.stage ≠ .stopped := by
  cases advanced with
  | @refilled name found stage =>
    rcases stageAfterRefill_cases name (found || (dispatcher.refill name).2) with
      ⟨_, _, next⟩ | next <;> simp [next]
  | rested | chose | applied | woke => nofun
  | ended parked empty unreachable => exact absurd ⟨parked, empty⟩ goes_on
  | atEnd stopped => exact absurd stopped running

/-- Left to itself, a dispatcher that nobody can reach applies what is lined up and stops. -/
theorem run_of_unreachable {fuel : Nat} (done : List Happening) (lined : Lined left dispatcher)
    (running : dispatcher.stage ≠ .stopped) (unreachable : dispatcher.reachable = false)
    (enough : dispatcher.toGo ≤ fuel) {requests : List Request}
    (all : dispatcher.stage.request?.toList ++ left.map Stamped.item = requests) :
    ∃ happenings after, dispatcher.run fuel done = (after, done.reverse ++ (happenings ++
        [.ended (dispatcher.state.applyAll dispatcher.policies requests)])) ∧
      happenings.filterMap Happening.request? = requests ∧ after.stage = .stopped ∧
      after.state = (dispatcher.state.applyAll dispatcher.policies requests).releaseAll := by
  induction fuel generalizing dispatcher left done requests with
  | zero =>
    have fewer := lined.toGo_lt running (moves_tick unreachable)
    omega
  | succ fuel ih =>
    have moves := moves_tick unreachable
    rw [run, isIdle_eq_false running unreachable, if_neg Bool.false_ne_true]
    by_cases ends : dispatcher.stage = .parked ∧ ∀ name, dispatcher.hasWaiting name = false
    · obtain ⟨parked, empty⟩ := ends
      have nothing := lined.eq_nil (lined.free (.inl parked)) fun name =>
        waiting_eq_nil_of_not_hasWaiting (empty name)
      have stops : dispatcher.stop.stage = .stopped := rfl
      rw [nothing, parked] at all
      subst all
      rw [tick_of_ends parked empty unreachable]
      refine ⟨[], dispatcher.stop, ?_, rfl, stops, rfl⟩
      exact (run_of_stopped stops _ _).trans (by simp [State.applyAll, Stage.request?])
    · have runs := running_of_advanced (advanced_of_moves moves) running ends
      obtain ⟨rest, linedAfter, same⟩ := lined.moves moves
      have fewer := lined.toGo_lt running moves
      obtain ⟨state, policies, reachable⟩ := (moved_of_moves moves).of_running runs
      obtain ⟨happenings, last, result, later, stopped, released⟩ :=
        ih (dispatcher.tick.2.toList ++ done) linedAfter runs (reachable.trans unreachable)
          (by omega) rfl
      rw [same] at all
      have applied : dispatcher.tick.1.state.applyAll dispatcher.tick.1.policies
          (dispatcher.tick.1.stage.request?.toList ++ rest.map Stamped.item) =
          dispatcher.state.applyAll dispatcher.policies requests := by
        rw [← all, policies, state]
        cases dispatcher.tick.2.bind Happening.request? <;> rfl
      rw [applied] at result released
      refine ⟨dispatcher.tick.2.toList ++ happenings, last, result.trans ?_, ?_, stopped, released⟩
      · cases dispatcher.tick.2 <;> simp
      · rw [← all, List.filterMap_append, later]
        cases dispatcher.tick.2 with
        | none => rfl
        | some happening => cases happening <;> rfl

end Dispatcher

/-! ## Afterwards -/

/-- What a writer sees when it takes what comes, a number of times. -/
def Outbox.receptions : Nat → Outbox → List Reception
  | 0, _ => []
  | count + 1, outbox => outbox.receive.1 :: receptions count outbox.receive.2

/-- The hub's end is closed: the writer gets what is buffered and then the end of the stream. -/
structure Outbox.RunsOut (outbox : Outbox) : Prop where
  closed : outbox.held = false
  receptions_eq : ∀ count,
    outbox.receptions count = (outbox.buffer.map Reception.payload).takeD count .closed

/-- An outbox that has been let go yields what it holds and then the end. -/
theorem Outbox.runsOut_of_closed {outbox : Outbox} (closed : outbox.held = false) :
    outbox.RunsOut := by
  refine ⟨closed, fun count => ?_⟩
  induction count generalizing outbox with
  | zero => rfl
  | succ count ih =>
    cases waiting : outbox.buffer with
    | nil =>
      have same : outbox.receive = (.closed, outbox) := by simp [receive, waiting, closed]
      rw [receptions, same, ih closed, waiting]
      rfl
    | cons payload rest =>
      have same : outbox.receive = (.payload payload, { outbox with buffer := rest }) := by
        simp [receive, waiting]
      have after : Outbox.held { outbox with buffer := rest } = false := closed
      rw [receptions, same, ih after]
      rfl

/-- An outbox whose end the hub does not hold runs out. -/
theorem State.runsOut_of_not_holds {state : State} {connection : ConnectionId}
    (gone : ¬ state.Holds connection) {outbox : Outbox}
    (found : state.outboxes[connection]? = some outbox) : outbox.RunsOut := by
  refine Outbox.runsOut_of_closed ?_
  cases held : outbox.held with
  | false => rfl
  | true => exact absurd ⟨outbox, found, held⟩ gone

/-- Ending the registry concerns nothing but the hub's ends of the outboxes. -/
structure State.SameButEnds (before after : State) : Prop where
  online_eq : after.online = before.online
  counters_eq : after.counters = before.counters
  published_eq : after.published = before.published
  outboxes_eq : ∀ connection : ConnectionId,
    (after.outboxes[connection]?).map Outbox.release =
      (before.outboxes[connection]?).map Outbox.release

/-- Letting go of a handle changes nothing but the end of an outbox. -/
theorem State.sameButEnds_release (state : State) (connection : ConnectionId) :
    state.SameButEnds (state.release connection) := by
  refine ⟨rfl, rfl, rfl, fun other => ?_⟩
  rw [State.release, State.getElem?_changeOutbox]
  split
  · rw [Option.map_map]
    rfl
  · rfl

/-- Nor does letting go of all handles. -/
theorem State.sameButEnds_releaseAll (state : State) : state.SameButEnds state.releaseAll := by
  have folded (entries : List (UserId × Handle)) : state.SameButEnds
      (entries.foldl (fun state entry => state.release entry.2.connection) state) := by
    induction entries using List.reverseRecOn with
    | nil => exact ⟨rfl, rfl, rfl, fun _ => rfl⟩
    | append_singleton earlier entry ih =>
      rw [List.foldl_append]
      have last := State.sameButEnds_release
        (earlier.foldl (fun state entry => state.release entry.2.connection) state)
        entry.2.connection
      exact ⟨last.online_eq.trans ih.online_eq, last.counters_eq.trans ih.counters_eq,
        last.published_eq.trans ih.published_eq,
        fun connection => (last.outboxes_eq connection).trans (ih.outboxes_eq connection)⟩
  have all := folded state.registry.toList
  exact ⟨all.online_eq, all.counters_eq, all.published_eq, all.outboxes_eq⟩

/-- The end of the registry closes every outbox that the hub has ever been given. -/
theorem State.runsOut_of_spent {policies : Policies} {run : List Operation} (lawful : Lawful run)
    {handle : Handle} (gone : handle ∈ spent run) :
    ∃ outbox, (State.after policies run).releaseAll.outboxes[handle.connection]? = some outbox ∧
      outbox.RunsOut := by
  obtain ⟨before, present, -⟩ :=
    (sound_after policies lawful).outbox_of_made (lawful.made_of_spent gone)
  have kept : (State.after policies run).Kept [] handle.connection := by
    rintro ⟨outbox, found, held⟩
    exact .inl ⟨handle.user, handle, (held_iff_registers lawful gone found).mp held, rfl⟩
  have same := (State.after policies run).sameButEnds_releaseAll.outboxes_eq handle.connection
  rw [present, Option.map_some] at same
  obtain ⟨outbox, found, -⟩ := Option.map_eq_some_iff.mp same
  exact ⟨outbox, found, State.runsOut_of_not_holds (State.not_holds_releaseAll kept) found⟩

namespace Dispatcher

/-- What becomes of a hub that has been let go of while `first` was its dispatcher. -/
structure Shutdown (first : Dispatcher) : Prop where
  /-- The dispatcher has only so many steps left, and can take one until it has stopped. -/
  bounded : ∀ {moves performed dispatcher}, Proceeds first moves performed dispatcher →
    moves ≤ 10 * first.pending + 8
  goes_on : ∀ {moves performed dispatcher}, Proceeds first moves performed dispatcher →
    dispatcher.stage ≠ .stopped → ∃ request after, dispatcher.Moves request after
  /-- Each request is applied once, in the order of stamps, and all have been in the end. -/
  applied_prefix : ∀ {moves performed dispatcher}, Proceeds first moves performed dispatcher →
    performed.filterMap Operation.request? <+: first.toApply
  applied_eq : ∀ {moves performed dispatcher}, Proceeds first moves performed dispatcher →
    dispatcher.stage = .stopped → performed.filterMap Operation.request? = first.toApply
  /-- The state is what has been done to it, and in the end its registry is let go of. -/
  carries : ∀ {moves performed dispatcher}, Proceeds first moves performed dispatcher →
    dispatcher.Carries (performed.foldl (State.perform first.policies) first.state)
  /-- In the end every outbox that the hub had in its keeping, or was to have, runs out. -/
  closed : ∀ {moves performed dispatcher}, Proceeds first moves performed dispatcher →
    dispatcher.stage = .stopped → ∀ {connection : ConnectionId},
      (∀ handle ∈ made performed, handle.connection ≠ connection) →
      first.state.Kept first.toApply connection →
      ∀ {outbox : Outbox}, dispatcher.state.outboxes[connection]? = some outbox → outbox.RunsOut
  /-- Those are all that were ever handed over, if the hub has got where it was lawfully. -/
  handed_over : ∀ {moves performed dispatcher past}, Proceeds first moves performed dispatcher →
    dispatcher.stage = .stopped → Lawful (past ++ performed) →
    first.state = State.after first.policies past → ∀ {handle : Handle},
      .apply (.register handle) ∈ past ∨ .register handle ∈ first.toApply →
      ∃ outbox, dispatcher.state.outboxes[handle.connection]? = some outbox ∧ outbox.RunsOut
  /-- If nothing else happens, the result is that of the handlers on the requests in order. -/
  settles : ∃ happenings after,
    first.settle = (after, happenings ++
      [.ended (first.state.applyAll first.policies first.toApply)]) ∧
    happenings.filterMap Happening.request? = first.toApply ∧ after.stage = .stopped ∧
    after.state = (first.state.applyAll first.policies first.toApply).releaseAll ∧
    (first.state.applyAll first.policies first.toApply).SameButEnds after.state

/-- A hub that is let go of applies everything that has entered, in order, and ends. -/
theorem shutdown {first : Dispatcher} (laid : first.Laid) (running : first.stage ≠ .stopped)
    (unreachable : first.reachable = false) : first.Shutdown where
  bounded := by
    intro moves performed dispatcher proceeds
    have underway := (proceeds.underway laid running unreachable).toGo_le
    have bound := first.toGo_le
    omega
  goes_on := fun proceeds _ =>
    ⟨_, _, moves_tick (proceeds.underway laid running unreachable).unreachable⟩
  applied_prefix := by
    intro moves performed dispatcher proceeds
    obtain ⟨left, -, toApply⟩ := (proceeds.underway laid running unreachable).lined
    exact ⟨_, toApply.symm⟩
  applied_eq := fun proceeds => (proceeds.underway laid running unreachable).applied_eq
  carries := fun proceeds => (proceeds.underway laid running unreachable).carries
  closed := by
    intro moves performed dispatcher proceeds stopped connection fresh kept outbox found
    have underway := proceeds.underway laid running unreachable
    have carries := underway.carries
    rw [Carries, if_pos stopped] at carries
    rw [← underway.applied_eq stopped, ← List.append_nil (performed.filterMap _)] at kept
    have nothing := State.not_holds_releaseAll (kept.foldl_perform first.policies fresh)
    rw [← carries] at nothing
    exact State.runsOut_of_not_holds nothing found
  handed_over := by
    intro moves performed dispatcher past proceeds stopped lawful reached handle handed
    have underway := proceeds.underway laid running unreachable
    have carries := underway.carries
    rw [Carries, if_pos stopped, reached, ← after_append] at carries
    have registered : Operation.apply (.register handle) ∈ past ++ performed := by
      rcases handed with earlier | later
      · exact List.mem_append_left _ earlier
      · rw [← underway.applied_eq stopped] at later
        obtain ⟨operation, member, isRequest⟩ := List.mem_filterMap.mp later
        cases operation with
        | apply request =>
          cases isRequest
          exact List.mem_append_right _ member
        | _ => cases isRequest
    rw [carries]
    exact State.runsOut_of_spent lawful (mem_spent_of_register registered)
  settles := by
    have enough : first.toGo ≤ 16 * (first.pending + 3) := by
      have bound := first.toGo_le
      omega
    obtain ⟨happenings, after, result, requests, stopped, released⟩ :=
      run_of_unreachable [] laid.lined running unreachable enough rfl
    exact ⟨happenings, after, result, requests, stopped, released,
      released ▸ State.sameButEnds_releaseAll _⟩

/-- A dispatcher that begins a pass over lanes in which requests are in hand and wait. -/
def leftover : Dispatcher where
  policies := {}
  registering :=
    { capacity := 4, waiting := [⟨5, ⟨⟨1⟩, 8⟩⟩, ⟨7, ⟨⟨2⟩, 7⟩⟩], inHand := some ⟨2, ⟨⟨0⟩, 7⟩⟩ }
  unregistering := { capacity := 4, waiting := [⟨6, (7, ⟨0⟩)⟩] }
  fanning := { capacity := 4, waiting := [⟨3, .to [7] ⟨#[1]⟩⟩], inHand := some ⟨0, .to [8] ⟨#[2]⟩⟩ }
  reachable := false

/-- They are applied in the order of their stamps. -/
theorem shutdown_leftover :
    leftover.toApply = [.fanout (.to [8] ⟨#[2]⟩), .register ⟨⟨0⟩, 7⟩, .fanout (.to [7] ⟨#[1]⟩),
      .register ⟨⟨1⟩, 8⟩, .unregister 7 ⟨0⟩, .register ⟨⟨2⟩, 7⟩] ∧ leftover.Shutdown := by
  have lined : Lined [⟨0, .fanout (.to [8] ⟨#[2]⟩)⟩, ⟨2, .register ⟨⟨0⟩, 7⟩⟩,
      ⟨3, .fanout (.to [7] ⟨#[1]⟩)⟩, ⟨5, .register ⟨⟨1⟩, 8⟩⟩, ⟨6, .unregister 7 ⟨0⟩⟩,
      ⟨7, .register ⟨⟨2⟩, 7⟩⟩] leftover := by
    refine ⟨by decide, fun name => by cases name <;> rfl, nofun, nofun, nofun⟩
  have laid : leftover.Laid :=
    .of_refilling rfl (fun name => by cases name <;> decide) (by decide)
  exact ⟨by rw [toApply, lined.due_eq.2]; rfl, shutdown laid nofun rfl⟩

end Dispatcher

end Switchboard.Hub
