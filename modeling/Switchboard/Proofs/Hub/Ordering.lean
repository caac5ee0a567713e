import Switchboard.Proofs.Hub.Passes

/-!
# Requests are applied in stamp order

A dispatcher moves in single steps, between which requests enter. `Orderly` says where the requests
that have entered are: those with the lowest stamps have been applied, one may be about to be, and
the others are lined up in their lanes. Entering (`Orderly.enter`) and every step (`Orderly.moves`)
keep this.
-/

namespace Switchboard.Hub

/-- Requests with their stamps, in the order in which they have entered. -/
def stamped (entered : List Request) : List (Stamped Request) :=
  entered.mapIdx fun stamp item => ⟨stamp, item⟩

/-- The next request gets the next stamp. -/
theorem stamped_concat (entered : List Request) (request : Request) :
    stamped (entered ++ [request]) = stamped entered ++ [⟨entered.length, request⟩] := by
  rw [stamped, List.mapIdx_concat]
  rfl

/-- Each request has one stamp. -/
theorem length_stamped (entered : List Request) : (stamped entered).length = entered.length :=
  List.length_mapIdx

/-- A request stands at the place of its stamp. -/
theorem getElem?_stamped (entered : List Request) (stamp : Nat) :
    (stamped entered)[stamp]? = (entered[stamp]?).map fun item => ⟨stamp, item⟩ :=
  List.getElem?_mapIdx

/-- A stamp tells which request it is on. -/
theorem mem_stamped {entered : List Request} {one : Stamped Request} :
    one ∈ stamped entered ↔ entered[one.stamp]? = some one.item := by
  rw [stamped, List.mem_mapIdx]
  constructor
  · rintro ⟨stamp, bounded, rfl⟩
    exact List.getElem?_eq_getElem bounded
  · intro present
    obtain ⟨bounded, isItem⟩ := List.getElem?_eq_some_iff.mp present
    exact ⟨one.stamp, bounded, by rw [isItem]⟩

/-- Stamps are below the number of requests. -/
theorem stamp_lt_of_mem {entered : List Request} {one : Stamped Request}
    (member : one ∈ stamped entered) : one.stamp < entered.length :=
  (List.getElem?_eq_some_iff.mp (mem_stamped.mp member)).1

/-- Without their stamps requests are what has entered. -/
theorem map_item_stamped (entered : List Request) :
    (stamped entered).map Stamped.item = entered := by
  apply List.ext_getElem?
  intro stamp
  rw [List.getElem?_map, getElem?_stamped]
  cases entered[stamp]? <;> rfl

/-- Stamps ascend. -/
theorem pairwise_stamped (entered : List Request) :
    (stamped entered).Pairwise fun first second => first.stamp < second.stamp := by
  rw [List.pairwise_iff_getElem]
  intro first second firstBounded secondBounded ordered
  simpa [stamped] using ordered

/-- How many requests are about to be applied. -/
def Stage.inFlight : Stage → Nat
  | .applying _ => 1
  | _ => 0

namespace Dispatcher

/-- Where the requests that have entered are, the first `applied` of which have been applied. -/
structure Orderly (entered : List Request) (applied : Nat) (dispatcher : Dispatcher) : Prop where
  nextStamp_eq : dispatcher.nextStamp = entered.length
  bounded : applied + dispatcher.stage.inFlight ≤ entered.length
  contents_eq : ∀ name, (dispatcher.lane name).contents =
    ((stamped entered).drop (applied + dispatcher.stage.inFlight)).filter fun one =>
      laneOf one.item = name
  applying : ∀ {request : Request}, dispatcher.stage = .applying request →
    entered[applied]? = some request
  clear : ∀ name ∈ dispatcher.stage.passed, dispatcher.Clear name
  free : dispatcher.stage = .parked ∨ dispatcher.stage = .stopped →
    ∀ name, (dispatcher.lane name).inHand = none
  drained : dispatcher.stage = .stopped → ∀ name, (dispatcher.lane name).waiting = []

namespace Orderly

variable {entered : List Request} {applied : Nat} {dispatcher : Dispatcher}

/-- What is still to be chosen are the requests that have neither been applied nor are about to
be. -/
theorem lined (orderly : Orderly entered applied dispatcher) :
    Lined ((stamped entered).drop (applied + dispatcher.stage.inFlight)) dispatcher :=
  ⟨(pairwise_stamped entered).sublist (List.drop_sublist _ _), orderly.contents_eq, orderly.clear,
    orderly.free, orderly.drained⟩

/-- The state and those who can make calls do not matter. -/
theorem congr (orderly : Orderly entered applied dispatcher) (state : State) (reachable : Bool) :
    Orderly entered applied { dispatcher with state, reachable } :=
  ⟨orderly.nextStamp_eq, orderly.bounded, orderly.contents_eq, orderly.applying, orderly.clear,
    orderly.free, orderly.drained⟩

/-- A request enters in order. -/
theorem enter (orderly : Orderly entered applied dispatcher) (request : Request)
    (running : dispatcher.stage ≠ .stopped) :
    Orderly (entered ++ [request]) applied (dispatcher.enter request) := by
  have bounded := orderly.bounded
  have newest : ∀ one ∈ (stamped entered).drop (applied + dispatcher.stage.inFlight),
      one.stamp < dispatcher.nextStamp := by
    intro one member
    rw [orderly.nextStamp_eq]
    exact stamp_lt_of_mem (List.mem_of_mem_drop member)
  have lined := orderly.lined.enter newest request running
  constructor
  case nextStamp_eq =>
    rw [nextStamp_enter, orderly.nextStamp_eq, List.length_append, List.length_singleton]
  case bounded =>
    rw [stage_enter, List.length_append]
    omega
  case contents_eq =>
    have fits : applied + dispatcher.stage.inFlight ≤ (stamped entered).length := by
      rwa [length_stamped]
    rw [stage_enter, stamped_concat, List.drop_append_of_le_length fits, ← orderly.nextStamp_eq]
    exact lined.contents_eq
  case applying =>
    intro other isApplying
    rw [stage_enter] at isApplying
    have before := orderly.applying isApplying
    rwa [List.getElem?_append_left (List.getElem?_eq_some_iff.mp before).1]
  case clear => exact lined.clear
  case free => exact lined.free
  case drained => exact lined.drained

/-- Every request that has entered and has not been applied is somewhere. -/
theorem outstanding_perm (orderly : Orderly entered applied dispatcher) :
    dispatcher.outstanding.Perm (entered.drop applied) := by
  have waiting : ([LaneName.register, .unregister, .fanout].flatMap fun name =>
      (dispatcher.lane name).contents.map Stamped.item).Perm
        (entered.drop (applied + dispatcher.stage.inFlight)) := by
    have byLane := (perm_by_lane ((stamped entered).drop
      (applied + dispatcher.stage.inFlight))).map Stamped.item
    rw [List.map_flatMap, List.map_drop, map_item_stamped] at byLane
    simpa only [orderly.contents_eq] using byLane
  rw [outstanding]
  cases stage : dispatcher.stage with
  | applying request =>
    obtain ⟨inside, present⟩ := List.getElem?_eq_some_iff.mp (orderly.applying stage)
    rw [stage] at waiting
    rw [List.drop_eq_getElem_cons inside, present]
    exact waiting.cons request
  | _ =>
    rw [stage] at waiting
    exact waiting

/-- An idle dispatcher has applied everything. -/
theorem drop_eq_nil_of_isIdle (orderly : Orderly entered applied dispatcher)
    (idle : dispatcher.isIdle = true) : entered.drop applied = [] := by
  have nothing : ∀ name, (dispatcher.lane name).contents = [] ∧
      dispatcher.stage.request? = none := by
    intro name
    by_cases stopped : dispatcher.stage = .stopped
    · refine ⟨?_, by rw [stopped]; rfl⟩
      rw [Lane.contents, orderly.free (.inr stopped), orderly.drained stopped]
      rfl
    · obtain ⟨parked, waits⟩ := parked_of_isIdle idle stopped
      refine ⟨?_, by rw [parked]; rfl⟩
      rw [Lane.contents, orderly.free (.inl parked), waiting_eq_nil_of_not_hasWaiting (waits name)]
      rfl
  have empty : dispatcher.outstanding = [] := by
    rw [outstanding, (nothing .register).2]
    simp [(nothing .register).1, (nothing .unregister).1, (nothing .fanout).1]
  have all := orderly.outstanding_perm
  rw [empty] at all
  exact all.nil_eq.symm

/-! ## The steps of the dispatcher -/

/-- A hand is refilled in order. -/
theorem refill (orderly : Orderly entered applied dispatcher) {refilled : LaneName} {found : Bool}
    (stage : dispatcher.stage = .refilling refilled found) :
    Orderly entered applied
      { (dispatcher.refill refilled).1 with
        stage := stageAfterRefill refilled (found || (dispatcher.refill refilled).2) } := by
  have lined := orderly.lined.refill stage
  have bounded := orderly.bounded
  rw [stage] at lined bounded
  have next := stageAfterRefill_cases refilled (found || (dispatcher.refill refilled).2)
  have inFlight :
      (stageAfterRefill refilled (found || (dispatcher.refill refilled).2)).inFlight = 0 := by
    rcases next with ⟨_, _, next⟩ | next <;> rw [next] <;> rfl
  constructor
  case nextStamp_eq => exact (nextStamp_refill dispatcher refilled).trans orderly.nextStamp_eq
  case bounded => rwa [inFlight]
  case contents_eq => rw [inFlight]; exact lined.contents_eq
  case applying =>
    intro request isApplying
    rcases next with ⟨_, _, next⟩ | next <;> cases next.symm.trans isApplying
  case clear => exact lined.clear
  case free => exact lined.free
  case drained => exact lined.drained

/-- What is chosen is the first request that has not been applied. -/
theorem getElem?_of_lowest (orderly : Orderly entered applied dispatcher)
    (stage : dispatcher.stage = .choosing) {name : LaneName} {oldest : Stamped Request}
    (held : (dispatcher.lane name).inHand = some oldest)
    (lowest : ∀ {other : LaneName} {one : Stamped Request},
      (dispatcher.lane other).inHand = some one → oldest.stamp ≤ one.stamp) :
    (stamped entered)[applied]? = some oldest := by
  have due := orderly.lined.eq_cons_of_lowest stage held lowest
  rw [stage] at due
  rw [← List.head?_drop]
  exact congrArg List.head? due

/-- The oldest request in hand is the next one in order. -/
theorem choose (orderly : Orderly entered applied dispatcher)
    (stage : dispatcher.stage = .choosing) {name : LaneName} {oldest : Stamped Request}
    (held : (dispatcher.lane name).inHand = some oldest)
    (lowest : ∀ {other : LaneName} {one : Stamped Request},
      (dispatcher.lane other).inHand = some one → oldest.stamp ≤ one.stamp) :
    Orderly entered applied { dispatcher.putDown name with stage := .applying oldest.item } := by
  obtain ⟨rest, due, lined⟩ := orderly.lined.choose stage held lowest
  have first := orderly.getElem?_of_lowest stage held lowest
  rw [stage] at due
  rw [getElem?_stamped] at first
  obtain ⟨item, present, isOldest⟩ := Option.map_eq_some_iff.mp first
  have left : rest = (stamped entered).drop (applied + 1) := by
    rw [← List.tail_drop]
    exact (congrArg List.tail due).symm
  subst left
  constructor
  case nextStamp_eq => exact (nextStamp_putDown dispatcher name).trans orderly.nextStamp_eq
  case bounded => exact (List.getElem?_eq_some_iff.mp present).1
  case contents_eq => exact lined.contents_eq
  case applying =>
    intro request isApplying
    rw [← Stage.applying.inj isApplying, present, ← isOldest]
  case clear => exact lined.clear
  case free => exact lined.free
  case drained => nofun

/-- A dispatcher that finds its hands free parks. -/
theorem park (orderly : Orderly entered applied dispatcher) (stage : dispatcher.stage = .choosing)
    (free : ∀ name, (dispatcher.lane name).inHand = none) :
    Orderly entered applied { dispatcher with stage := .parked } := by
  have bounded := orderly.bounded
  have contents_eq := orderly.contents_eq
  rw [stage] at bounded contents_eq
  exact ⟨orderly.nextStamp_eq, bounded, contents_eq, nofun, nofun, fun _ => free, nofun⟩

/-- A pass that begins finds every request where it was. The one that was about to be applied has
been. -/
theorem restart (orderly : Orderly entered applied dispatcher) {after : Dispatcher}
    (begins : after.stage = .refilling .register false)
    (nextStamp : after.nextStamp = dispatcher.nextStamp)
    (contents : ∀ name, (after.lane name).contents = (dispatcher.lane name).contents) :
    Orderly entered (applied + dispatcher.stage.inFlight) after := by
  have lined := orderly.lined.restart begins contents
  constructor
  case nextStamp_eq => exact nextStamp.trans orderly.nextStamp_eq
  case bounded =>
    rw [begins]
    exact orderly.bounded
  case contents_eq =>
    rw [begins]
    exact lined.contents_eq
  case applying => intro other isApplying; cases begins.symm.trans isApplying
  case clear => exact lined.clear
  case free => exact lined.free
  case drained => exact lined.drained

/-- Waking up is in order. -/
theorem wake (orderly : Orderly entered applied dispatcher) (parked : dispatcher.stage = .parked)
    (woken : LaneName) : Orderly entered applied (dispatcher.wake woken) := by
  have inFlight : dispatcher.stage.inFlight = 0 := by rw [parked]; rfl
  have nextStamp : (dispatcher.wake woken).nextStamp = dispatcher.nextStamp :=
    nextStamp_refill dispatcher woken
  have kept := orderly.restart rfl nextStamp (contents_refill dispatcher woken)
  rwa [inFlight] at kept

/-- A parked dispatcher without anything to wait for stops. -/
theorem stop (orderly : Orderly entered applied dispatcher) (parked : dispatcher.stage = .parked)
    (empty : ∀ name, dispatcher.hasWaiting name = false) :
    Orderly entered applied dispatcher.stop := by
  have bounded := orderly.bounded
  have contents_eq := orderly.contents_eq
  rw [parked] at bounded contents_eq
  constructor
  case nextStamp_eq => exact orderly.nextStamp_eq
  case bounded => exact bounded
  case contents_eq => exact contents_eq
  case applying => intro other isApplying; cases isApplying
  case clear => intro name passed; cases passed
  case free => exact fun _ => orderly.free (.inl parked)
  case drained => exact fun _ name => waiting_eq_nil_of_not_hasWaiting (empty name)

/-- Every step of the dispatcher keeps the order. A request that is applied in it is the next one. -/
theorem moves (orderly : Orderly entered applied dispatcher) {request : Option Request}
    {after : Dispatcher} (moves : dispatcher.Moves request after) :
    (∀ one, request = some one → entered[applied]? = some one) ∧
      Orderly entered (applied + request.toList.length) after := by
  cases advanced_of_moves moves with
  | refilled stage => exact ⟨nofun, orderly.refill stage⟩
  | rested stage free => exact ⟨nofun, orderly.park stage free⟩
  | chose stage held lowest => exact ⟨nofun, orderly.choose stage held lowest⟩
  | @applied request stage =>
    refine ⟨fun one same => Option.some.inj same ▸ orderly.applying stage, ?_⟩
    have inFlight : dispatcher.stage.inFlight = 1 := by rw [stage]; rfl
    rw [Option.toList_some, List.length_singleton, ← inFlight]
    exact orderly.restart rfl rfl fun _ => rfl
  | woke parked waits => exact ⟨nofun, orderly.wake parked _⟩
  | ended parked empty unreachable => exact ⟨nofun, orderly.stop parked empty⟩
  | atEnd stopped => exact ⟨nofun, orderly⟩

end Orderly

end Dispatcher

end Switchboard.Hub
