import Switchboard.Proofs.Hub.Traffic

/-!
# Refilling the hands while requests enter

Before it chooses, a dispatcher passes over its lanes until a whole pass has found nothing, and
between any two looks requests may enter (`Dispatcher.amid`). One pass would not do: while a later
lane is looked at, an older request may have entered a lane that the pass has left behind. Whatever
has entered, and in whatever order hands have been filled and freed (`Dispatcher.Stocked`), there
are at most four passes, and what they leave waiting for a free hand is newer than all that is in
hand. Choosing then yields the oldest request there is (`Dispatcher.replenishment`).
-/

namespace Switchboard.Hub

/-! ## What has not been taken -/

/-- The requests that have entered, less those with stamps that have been taken. -/
def untaken (entered : List Request) (taken : List Nat) : List (Stamped Request) :=
  (stamped entered).filter fun one => one.stamp ∉ taken

variable {entered : List Request} {taken : List Nat}

/-- A request is untaken if it has entered under its stamp and nobody has taken it. -/
theorem mem_untaken {one : Stamped Request} :
    one ∈ untaken entered taken ↔ entered[one.stamp]? = some one.item ∧ one.stamp ∉ taken := by
  rw [untaken, List.mem_filter, mem_stamped, decide_eq_true_eq]

/-- Untaken requests stand in the order of their stamps. -/
theorem pairwise_untaken (entered : List Request) (taken : List Nat) :
    (untaken entered taken).Pairwise fun first second => first.stamp < second.stamp :=
  (pairwise_stamped entered).filter _

/-- A request that enters has not been taken. -/
theorem untaken_concat (known : ∀ stamp ∈ taken, stamp < entered.length) (request : Request) :
    untaken (entered ++ [request]) taken =
      untaken entered taken ++ [⟨entered.length, request⟩] := by
  have unknown : entered.length ∉ taken := fun member => Nat.lt_irrefl _ (known _ member)
  rw [untaken, stamped_concat, List.filter_append, untaken]
  simp [unknown]

/-- Taking one more leaves the others untaken. -/
theorem untaken_append_singleton (entered : List Request) (taken : List Nat) (stamp : Nat) :
    untaken entered (taken ++ [stamp]) =
      (untaken entered taken).filter fun one => one.stamp ≠ stamp := by
  rw [untaken, untaken, List.filter_filter]
  refine List.filter_congr fun one _ => ?_
  simp [and_comm]

/-- Of the first one in the order of stamps, every lower stamp has been taken. -/
theorem mem_taken_of_lt {oldest : Stamped Request} {rest : List (Stamped Request)}
    (first : untaken entered taken = oldest :: rest) {lower : Nat}
    (isLower : lower < oldest.stamp) : lower ∈ taken := by
  have sorted := pairwise_untaken entered taken
  have present : entered[oldest.stamp]? = some oldest.item :=
    (mem_untaken.mp (first ▸ List.mem_cons_self)).1
  obtain ⟨bounded, -⟩ := List.getElem?_eq_some_iff.mp present
  refine Decidable.byContradiction fun left => ?_
  have member : ⟨lower, entered[lower]⟩ ∈ untaken entered taken :=
    mem_untaken.mpr ⟨List.getElem?_eq_getElem _, left⟩
  rw [first] at sorted member
  rcases List.mem_cons.mp member with same | later
  · rw [← same] at isLower
    exact Nat.lt_irrefl _ isLower
  · exact Nat.lt_asymm isLower ((List.pairwise_cons.mp sorted).1 _ later)

/-- What a hand holds of a lane's contents is the only thing of its stamp in any lane. -/
theorem filter_untaken_of_cons {name : LaneName} {held : Stamped Request}
    {rest : List (Stamped Request)}
    (own : (untaken entered taken).filter (fun one => Dispatcher.laneOf one.item = name) =
      held :: rest) (other : LaneName) :
    (untaken entered (taken ++ [held.stamp])).filter
        (fun one => Dispatcher.laneOf one.item = other) =
      if name = other then rest
      else (untaken entered taken).filter fun one => Dispatcher.laneOf one.item = other := by
  have sorted := (pairwise_untaken entered taken).filter fun one =>
    Dispatcher.laneOf one.item = name
  have isMember : held ∈ (untaken entered taken).filter fun one =>
      Dispatcher.laneOf one.item = name := own ▸ List.mem_cons_self
  obtain ⟨isUntaken, isOwn⟩ := List.mem_filter.mp isMember
  have commuted (list : List (Stamped Request)) :
      (list.filter fun one => one.stamp ≠ held.stamp).filter
          (fun one => Dispatcher.laneOf one.item = other) =
        (list.filter fun one => Dispatcher.laneOf one.item = other).filter
          fun one => one.stamp ≠ held.stamp := by
    rw [List.filter_filter, List.filter_filter]
    exact List.filter_congr fun one _ => Bool.and_comm _ _
  rw [untaken_append_singleton, commuted]
  split
  next same =>
    subst same
    rw [own] at sorted ⊢
    rw [List.filter_cons_of_neg (by simp)]
    refine List.filter_eq_self.mpr fun one later => ?_
    simpa using Nat.ne_of_gt ((List.pairwise_cons.mp sorted).1 one later)
  next different =>
    refine List.filter_eq_self.mpr fun one member => ?_
    obtain ⟨isOther, inOther⟩ := List.mem_filter.mp member
    -- A stamp belongs to one request only, which has one lane.
    have apart : one.stamp ≠ held.stamp := by
      intro same
      have sameItem := (mem_untaken.mp isOther).1
      rw [same, (mem_untaken.mp isUntaken).1] at sameItem
      rw [← Option.some.inj sameItem] at inOther
      exact different ((of_decide_eq_true isOwn).symm.trans (of_decide_eq_true inOther))
    simpa using apart

namespace Lane

variable {α : Type}

/-- One if the hand is free. -/
def freeHands (lane : Lane α) : Nat := if lane.inHand.isNone then 1 else 0

/-- A lane has one hand. -/
theorem freeHands_le (lane : Lane α) : lane.freeHands ≤ 1 := by
  rw [freeHands]
  split <;> decide

/-- A hand that takes something is free no longer. -/
theorem freeHands_refill (lane : Lane α) :
    lane.refill.1.freeHands + (if lane.refill.2 then 1 else 0) = lane.freeHands := by
  have outcome := lane.refill_cases
  generalize lane.refill = result at outcome
  cases outcome with
  | found free waits => simp [freeHands, free]
  | nothing settled => rfl

end Lane

namespace Dispatcher

/-- How lanes and hands come to hold what they hold: the first list are the requests that have
entered, in the order of their stamps, and the second the stamps of those that have been taken out
of a hand to be applied. Hands are filled and freed in any order. -/
inductive Stocked : List Request → List Nat → Dispatcher → Prop where
  | create (policies : Policies) (register unregister fanout : Nat) :
      Stocked [] [] (.create policies register unregister fanout)
  | enter {entered : List Request} {taken : List Nat} {dispatcher : Dispatcher}
      (stocked : Stocked entered taken dispatcher) (request : Request) :
      Stocked (entered ++ [request]) taken (dispatcher.enter request)
  | refill {entered : List Request} {taken : List Nat} {dispatcher : Dispatcher}
      (stocked : Stocked entered taken dispatcher) (name : LaneName) :
      Stocked entered taken (dispatcher.refill name).1
  | putDown {entered : List Request} {taken : List Nat} {dispatcher : Dispatcher}
      (stocked : Stocked entered taken dispatcher) {name : LaneName} {held : Stamped Request}
      (inHand : (dispatcher.lane name).inHand = some held) :
      Stocked entered (taken ++ [held.stamp]) (dispatcher.putDown name)
  | turn {entered : List Request} {taken : List Nat} {dispatcher : Dispatcher}
      (stocked : Stocked entered taken dispatcher) (state : State) (reachable : Bool)
      (stage : Stage) : Stocked entered taken { dispatcher with state, reachable, stage }

/-- Each lane holds, in hand or waiting, what has entered it and has not been taken. -/
structure Booked (entered : List Request) (taken : List Nat) (dispatcher : Dispatcher) : Prop where
  nextStamp_eq : dispatcher.nextStamp = entered.length
  known : ∀ stamp ∈ taken, stamp < entered.length
  contents_eq : ∀ name, (dispatcher.lane name).contents =
    (untaken entered taken).filter fun one => laneOf one.item = name

variable {dispatcher : Dispatcher}

namespace Booked

/-- In the beginning nothing has entered and nothing is taken. -/
theorem create (policies : Policies) (register unregister fanout : Nat) :
    Booked [] [] (.create policies register unregister fanout) where
  nextStamp_eq := rfl
  known := nofun
  contents_eq := fun name => by cases name <;> rfl

/-- A request is booked when it enters. -/
theorem enter (booked : Booked entered taken dispatcher) (request : Request) :
    Booked (entered ++ [request]) taken (dispatcher.enter request) := by
  constructor
  case nextStamp_eq =>
    rw [nextStamp_enter, booked.nextStamp_eq, List.length_append, List.length_singleton]
  case known =>
    intro stamp member
    rw [List.length_append]
    exact Nat.lt_add_right 1 (booked.known stamp member)
  case contents_eq =>
    rw [untaken_concat booked.known, ← booked.nextStamp_eq]
    exact contents_enter booked.contents_eq request

/-- Taking a request in hand does not matter to the books. -/
theorem refill (booked : Booked entered taken dispatcher) (name : LaneName) :
    Booked entered taken (dispatcher.refill name).1 where
  nextStamp_eq := (nextStamp_refill dispatcher name).trans booked.nextStamp_eq
  known := booked.known
  contents_eq := fun other =>
    (contents_refill dispatcher name other).trans (booked.contents_eq other)

/-- A request that is put down is booked as taken. -/
theorem putDown (booked : Booked entered taken dispatcher) {name : LaneName}
    {held : Stamped Request} (inHand : (dispatcher.lane name).inHand = some held) :
    Booked entered (taken ++ [held.stamp]) (dispatcher.putDown name) := by
  have own := booked.contents_eq name
  rw [Lane.contents_of_inHand inHand] at own
  have isUntaken : held ∈ untaken entered taken :=
    (List.mem_filter.mp (own ▸ List.mem_cons_self)).1
  obtain ⟨bounded, -⟩ := List.getElem?_eq_some_iff.mp (mem_untaken.mp isUntaken).1
  constructor
  case nextStamp_eq => exact (nextStamp_putDown dispatcher name).trans booked.nextStamp_eq
  case known =>
    intro stamp member
    rcases List.mem_append.mp member with earlier | now
    · exact booked.known stamp earlier
    · rwa [List.mem_singleton.mp now]
  case contents_eq =>
    intro other
    rw [filter_untaken_of_cons own.symm, lane_putDown]
    split
    next same => rw [same]
    next => exact booked.contents_eq other

end Booked

/-- However lanes have come about, the books are right. -/
theorem Stocked.booked (stocked : Stocked entered taken dispatcher) :
    Booked entered taken dispatcher := by
  induction stocked with
  | create policies register unregister fanout => exact .create policies register unregister fanout
  | enter stocked request ih => exact ih.enter request
  | refill stocked name ih => exact ih.refill name
  | putDown stocked inHand ih => exact ih.putDown inHand
  | turn stocked state reachable stage ih => exact ⟨ih.nextStamp_eq, ih.known, ih.contents_eq⟩

/-- Every step of a dispatcher that has taken requests in order fills a hand, frees one or leaves
them alone. -/
theorem Stocked.moves {applied : Nat}
    (stocked : Stocked entered (List.range (applied + dispatcher.stage.inFlight)) dispatcher)
    (orderly : Orderly entered applied dispatcher) {request : Option Request} {after : Dispatcher}
    (moves : dispatcher.Moves request after) :
    Stocked entered (List.range (applied + request.toList.length + after.stage.inFlight))
      after := by
  cases advanced_of_moves moves with
  | @refilled name found stage =>
    rw [stage] at stocked
    have refilled := (stocked.refill name).turn (dispatcher.refill name).1.state
      (dispatcher.refill name).1.reachable
      (stageAfterRefill name (found || (dispatcher.refill name).2))
    rcases stageAfterRefill_cases name (found || (dispatcher.refill name).2) with
      ⟨_, _, next⟩ | next <;> rw [next] at refilled ⊢ <;> exact refilled
  | rested stage free =>
    rw [stage] at stocked
    exact stocked.turn _ _ _
  | @chose name oldest stage held lowest =>
    have first := orderly.getElem?_of_lowest stage held lowest
    rw [stage] at stocked
    have isNext : oldest.stamp = applied := by
      rw [getElem?_stamped] at first
      obtain ⟨item, -, isOldest⟩ := Option.map_eq_some_iff.mp first
      rw [← isOldest]
    have taken := (stocked.putDown held).turn (dispatcher.putDown name).state
      (dispatcher.putDown name).reachable (.applying oldest.item)
    rw [isNext] at taken
    have ranged : List.range (applied + 1) = List.range applied ++ [applied] := List.range_succ
    exact ranged ▸ taken
  | applied stage =>
    rw [stage] at stocked
    exact stocked.turn _ _ _
  | @woke name parked waits =>
    rw [parked] at stocked
    exact (stocked.refill name).turn _ _ _
  | ended parked empty unreachable =>
    rw [parked] at stocked
    exact stocked.turn _ _ _
  | atEnd stopped => exact stocked

/-! ## Free hands -/

/-- The number of free hands. -/
def freeHands (dispatcher : Dispatcher) : Nat :=
  (dispatcher.lane .register).freeHands + (dispatcher.lane .unregister).freeHands +
    (dispatcher.lane .fanout).freeHands

/-- There are three hands. -/
theorem freeHands_le (dispatcher : Dispatcher) : dispatcher.freeHands ≤ 3 := by
  have first := (dispatcher.lane .register).freeHands_le
  have second := (dispatcher.lane .unregister).freeHands_le
  have third := (dispatcher.lane .fanout).freeHands_le
  simp only [freeHands]
  omega

/-- Entering needs no hand. -/
theorem freeHands_enter (dispatcher : Dispatcher) (request : Request) :
    (dispatcher.enter request).freeHands = dispatcher.freeHands := by
  simp only [freeHands, Lane.freeHands, inHand_enter]

/-- Finding something fills a hand. -/
theorem freeHands_refill (dispatcher : Dispatcher) (name : LaneName) :
    (dispatcher.refill name).1.freeHands + (if (dispatcher.refill name).2 then 1 else 0) =
      dispatcher.freeHands := by
  have own := (dispatcher.lane name).freeHands_refill
  rw [found_refill]
  simp only [freeHands, lane_refill]
  cases name <;> simp only [reduceCtorEq, ↓reduceIte] <;> omega

/-! ## Steps and arrivals -/

/-- Requests enter one after the other. -/
def enterAll (dispatcher : Dispatcher) (requests : List Request) : Dispatcher :=
  requests.foldl enter dispatcher

/-- The dispatcher after a number of its own steps. What arrives enters before each of them, and
after the last. -/
def amid (dispatcher : Dispatcher) (arrivals : Nat → List Request) : (steps : Nat) → Dispatcher
  | 0 => dispatcher.enterAll (arrivals 0)
  | steps + 1 => (dispatcher.amid arrivals steps).tick.1.enterAll (arrivals (steps + 1))

/-- What has entered after a number of steps. -/
def arrived (arrivals : Nat → List Request) (steps : Nat) : List Request :=
  (List.range (steps + 1)).flatMap arrivals

/-- What has arrived after one more step is what arrives then, too. -/
theorem arrived_succ (arrivals : Nat → List Request) (steps : Nat) :
    arrived arrivals (steps + 1) = arrived arrivals steps ++ arrivals (steps + 1) := by
  rw [arrived, List.range_succ, List.flatMap_append, List.flatMap_singleton]
  rfl

/-- Whatever enters, the dispatcher goes on with what it was about to do. -/
theorem stage_enterAll (dispatcher : Dispatcher) (requests : List Request) :
    (dispatcher.enterAll requests).stage = dispatcher.stage := by
  induction requests generalizing dispatcher with
  | nil => rfl
  | cons request rest ih => exact (ih _).trans (stage_enter dispatcher request)

/-- Nor does it need a hand. -/
theorem freeHands_enterAll (dispatcher : Dispatcher) (requests : List Request) :
    (dispatcher.enterAll requests).freeHands = dispatcher.freeHands := by
  induction requests generalizing dispatcher with
  | nil => rfl
  | cons request rest ih => exact (ih _).trans (freeHands_enter dispatcher request)

/-- A step of a pass refills one hand. -/
theorem tick_of_refilling {name : LaneName} {found : Bool}
    (stage : dispatcher.stage = .refilling name found) :
    dispatcher.tick.1 =
      { (dispatcher.refill name).1 with
        stage := stageAfterRefill name (found || (dispatcher.refill name).2) } := by
  simp only [tick, stage]

/-- Everything is where it should be, and the pass that is under way has seen what it has seen. -/
structure Standing (entered : List Request) (taken : List Nat) (dispatcher : Dispatcher) : Prop
    extends Booked entered taken dispatcher where
  lined : Lined (untaken entered taken) dispatcher

namespace Standing

/-- A dispatcher that begins its passes stands well if the books are right. -/
theorem of_booked (booked : Booked entered taken dispatcher)
    (begins : dispatcher.stage = .refilling .register false) :
    Standing entered taken dispatcher :=
  ⟨booked, .of_begins begins (pairwise_untaken entered taken) booked.contents_eq⟩

/-- It stands as well after a request has entered. -/
theorem enter (standing : Standing entered taken dispatcher)
    (running : dispatcher.stage ≠ .stopped) (request : Request) :
    Standing (entered ++ [request]) taken (dispatcher.enter request) := by
  refine ⟨standing.toBooked.enter request, ?_⟩
  have newest : ∀ one ∈ untaken entered taken, one.stamp < dispatcher.nextStamp := by
    intro one member
    rw [standing.nextStamp_eq]
    exact (List.getElem?_eq_some_iff.mp (mem_untaken.mp member).1).1
  rw [untaken_concat standing.known, ← standing.nextStamp_eq]
  exact standing.lined.enter newest request running

/-- And after several. -/
theorem enterAll (standing : Standing entered taken dispatcher)
    (running : dispatcher.stage ≠ .stopped) (requests : List Request) :
    Standing (entered ++ requests) taken (dispatcher.enterAll requests) := by
  induction requests generalizing entered dispatcher with
  | nil => rwa [List.append_nil]
  | cons request rest ih =>
    have runs : (dispatcher.enter request).stage ≠ .stopped := by rwa [stage_enter]
    have later := ih (standing.enter running request) runs
    rwa [List.append_assoc] at later

/-- And after a step of a pass. -/
theorem tick (standing : Standing entered taken dispatcher) {name : LaneName} {found : Bool}
    (stage : dispatcher.stage = .refilling name found) :
    Standing entered taken dispatcher.tick.1 := by
  have booked := standing.toBooked.refill name
  rw [tick_of_refilling stage]
  exact ⟨⟨booked.nextStamp_eq, booked.known, booked.contents_eq⟩, standing.lined.refill stage⟩

end Standing

/-! ## Passes -/

variable {arrivals : Nat → List Request} {steps : Nat}

/-- A look at a lane fills its hand or finds nothing; what arrives then changes neither the hands
nor what comes next. -/
theorem amid_succ_of_refilling {name : LaneName} {found : Bool}
    (stage : (dispatcher.amid arrivals steps).stage = .refilling name found) :
    ∃ here : Bool,
      (dispatcher.amid arrivals (steps + 1)).stage = stageAfterRefill name (found || here) ∧
      (dispatcher.amid arrivals (steps + 1)).freeHands + (if here then 1 else 0) =
        (dispatcher.amid arrivals steps).freeHands := by
  refine ⟨((dispatcher.amid arrivals steps).refill name).2, ?_, ?_⟩
  · rw [amid, stage_enterAll, tick_of_refilling stage]
  · rw [amid, freeHands_enterAll, tick_of_refilling stage]
    exact freeHands_refill _ name

/-- And after a step with the arrivals behind it. -/
theorem Standing.amid_succ
    (standing : Standing (entered ++ arrived arrivals steps) taken
      (dispatcher.amid arrivals steps)) {name : LaneName} {found : Bool}
    (stage : (dispatcher.amid arrivals steps).stage = .refilling name found) :
    Standing (entered ++ arrived arrivals (steps + 1)) taken
      (dispatcher.amid arrivals (steps + 1)) := by
  have runs : (dispatcher.amid arrivals steps).tick.1.stage ≠ .stopped := by
    rw [tick_of_refilling stage]
    rcases stageAfterRefill_cases name (found || ((dispatcher.amid arrivals steps).refill name).2)
      with ⟨_, _, next⟩ | next <;> simp [next]
  rw [arrived_succ, ← List.append_assoc]
  exact (standing.tick stage).enterAll runs _

/-- With the next three steps the dispatcher looks at each lane once. -/
structure PassesAt (dispatcher : Dispatcher) (arrivals : Nat → List Request) (steps : Nat) :
    Prop where
  first : (dispatcher.amid arrivals steps).stage = .refilling .register false
  second : ∃ found, (dispatcher.amid arrivals (steps + 1)).stage = .refilling .unregister found
  third : ∃ found, (dispatcher.amid arrivals (steps + 2)).stage = .refilling .fanout found

/-- A pass ends the refill or has filled a hand. -/
theorem passesAt_of_begins
    (begins : (dispatcher.amid arrivals steps).stage = .refilling .register false) :
    dispatcher.PassesAt arrivals steps ∧
      ((dispatcher.amid arrivals (steps + 3)).stage = .choosing ∨
        (dispatcher.amid arrivals (steps + 3)).stage = .refilling .register false ∧
          (dispatcher.amid arrivals (steps + 3)).freeHands <
            (dispatcher.amid arrivals steps).freeHands) := by
  obtain ⟨atFirst, second, first⟩ := amid_succ_of_refilling begins
  obtain ⟨atSecond, third, middle⟩ := amid_succ_of_refilling second
  obtain ⟨atThird, next, last⟩ := amid_succ_of_refilling third
  refine ⟨⟨begins, ⟨_, second⟩, ⟨_, third⟩⟩, ?_⟩
  cases found : (false || atFirst || atSecond || atThird) with
  | false =>
    rw [found] at next
    exact .inl next
  | true =>
    rw [found] at next
    refine .inr ⟨next, ?_⟩
    change (dispatcher.amid arrivals (steps + 3)).freeHands + _ = _ at last
    rw [Bool.false_or, Bool.or_eq_true, Bool.or_eq_true] at found
    rcases found with (rfl | rfl) | rfl <;> simp only [↓reduceIte] at first middle last <;> omega

/-- And after a whole pass. -/
theorem Standing.pass
    (standing : Standing (entered ++ arrived arrivals steps) taken
      (dispatcher.amid arrivals steps)) (passes : dispatcher.PassesAt arrivals steps) :
    Standing (entered ++ arrived arrivals (steps + 3)) taken
      (dispatcher.amid arrivals (steps + 3)) := by
  obtain ⟨_, second⟩ := passes.second
  obtain ⟨_, third⟩ := passes.third
  exact ((standing.amid_succ passes.first).amid_succ second).amid_succ third

/-- There is at most one pass for each free hand, and the one that finds nothing. -/
theorem exists_passes (most : Nat)
    (standing : Standing (entered ++ arrived arrivals steps) taken
      (dispatcher.amid arrivals steps))
    (begins : (dispatcher.amid arrivals steps).stage = .refilling .register false)
    (bounded : (dispatcher.amid arrivals steps).freeHands < most) :
    ∃ passes ≤ most, (∀ pass < passes, dispatcher.PassesAt arrivals (steps + 3 * pass)) ∧
      (dispatcher.amid arrivals (steps + 3 * passes)).stage = .choosing ∧
      Standing (entered ++ arrived arrivals (steps + 3 * passes)) taken
        (dispatcher.amid arrivals (steps + 3 * passes)) := by
  -- A pass that does not end the refill has filled a hand, so one less will do from there on.
  induction most generalizing steps with
  | zero => exact absurd bounded (Nat.not_lt_zero _)
  | succ most ih =>
    obtain ⟨passesNow, ended | ⟨again, fewer⟩⟩ := passesAt_of_begins begins
    · refine ⟨1, by omega, fun pass isFirst => ?_, ended, standing.pass passesNow⟩
      rwa [Nat.lt_one_iff.mp isFirst]
    · obtain ⟨passes, few, each, ends, stands⟩ :=
        ih (standing.pass passesNow) again (by omega)
      have shift (pass : Nat) : steps + 3 + 3 * pass = steps + 3 * (pass + 1) := by omega
      rw [shift] at ends stands
      refine ⟨passes + 1, by omega, fun pass isOne => ?_, ends, stands⟩
      cases pass with
      | zero => exact passesNow
      | succ pass =>
        rw [← shift]
        exact each pass (Nat.lt_of_succ_lt_succ isOne)

/-! ## Where a refill ends -/

/-- Hands filled so that the oldest request is in one of them. -/
structure Replenished (entered : List Request) (taken : List Nat) (dispatcher : Dispatcher) :
    Prop where
  /-- Each lane holds what has entered it and has not been taken. -/
  contents_eq : ∀ name, (dispatcher.lane name).contents =
    (untaken entered taken).filter fun one => laneOf one.item = name
  /-- What waits for a free hand is newer than all that is in hand. -/
  complete : ∀ name, (dispatcher.lane name).inHand = none →
    ∀ waiting ∈ (dispatcher.lane name).waiting, ∀ other held,
      (dispatcher.lane other).inHand = some held → held.stamp < waiting.stamp
  /-- Choosing yields nothing only if every hand is free. -/
  choose_eq_none : dispatcher.choose = none ↔ ∀ name, (dispatcher.lane name).inHand = none
  /-- Otherwise it frees one hand and yields the oldest request that has not been taken. -/
  lowest : ∀ {busy : LaneName} {one : Stamped Request}, (dispatcher.lane busy).inHand = some one →
    ∃ name stamp request after, dispatcher.choose = some (request, after) ∧
      (dispatcher.lane name).inHand = some ⟨stamp, request⟩ ∧
      (∀ other, after.lane other =
        if name = other then { dispatcher.lane other with inHand := none }
        else dispatcher.lane other) ∧
      entered[stamp]? = some request ∧ stamp ∉ taken ∧ ∀ lower < stamp, lower ∈ taken

/-- When the passes are over the hands are replenished. -/
theorem Standing.replenished (standing : Standing entered taken dispatcher)
    (stage : dispatcher.stage = .choosing) : Replenished entered taken dispatcher := by
  have outcome := dispatcher.choose_cases
  constructor
  case contents_eq => exact standing.contents_eq
  case complete =>
    intro name
    refine standing.lined.clear name ?_
    rw [stage]
    cases name <;> simp [Stage.passed]
  case choose_eq_none =>
    generalize dispatcher.choose = result at outcome
    cases outcome with
    | nothing free => exact iff_of_true rfl free
    | @picked name oldest held lowest =>
      refine iff_of_false (Option.some_ne_none _) fun free => ?_
      rw [free name] at held
      cases held
  case lowest =>
    intro busy one inHand
    generalize dispatcher.choose = result at outcome
    cases outcome with
    | nothing free =>
      rw [free busy] at inHand
      cases inHand
    | @picked name oldest held lowest =>
      have first := standing.lined.eq_cons_of_lowest stage held lowest
      obtain ⟨present, left⟩ := mem_untaken.mp (first ▸ List.mem_cons_self)
      exact ⟨name, oldest.stamp, oldest.item, dispatcher.putDown name, rfl, held,
        lane_putDown dispatcher name, present, left, fun lower => mem_taken_of_lt first⟩

end Dispatcher

/-- What the lanes and hands of a hub at work hold has come about so; what has been taken are the
lowest stamps. -/
theorem Traffic.stocked_of_reaches {policies : Policies} {register unregister fanout : Nat}
    {initial : State} {traffic : Traffic}
    (reached : Reaches (start policies register unregister fanout initial) traffic) :
    traffic.dispatcher.Stocked traffic.requests
      (List.range (traffic.applied.length + traffic.dispatcher.stage.inFlight)) := by
  induction reached with
  | refl =>
    exact (Dispatcher.Stocked.create policies register unregister fanout).turn initial true
      (.refilling .register false)
  | step before steps ih =>
    have steady := (Steady.start policies register unregister fanout initial).reaches before
    cases steps with
    | call reachable idle => exact ih
    | reserve waits room => exact ih
    | @enter call holds =>
      have entered := ih.enter call.request
      rw [← Dispatcher.stage_enter] at entered
      rw [requests, List.map_append]
      exact entered
    | move moves =>
      have moved := ih.moves steady.orderly moves
      rw [applied, filterMap_request?_append, List.length_append]
      exact moved
    | use foreign running =>
      rw [applied, List.filterMap_append, List.filterMap_cons_none foreign, List.filterMap_nil,
        List.append_nil]
      exact ih.turn _ _ _
    | leave nobody => exact ih.turn _ _ _

namespace Dispatcher

/-- A refill ends after at most four passes, whatever enters meanwhile, and what it leaves in the
lanes is newer than what choosing yields. -/
theorem replenishment {dispatcher : Dispatcher} (stocked : Stocked entered taken dispatcher)
    (begins : dispatcher.stage = .refilling .register false) (arrivals : Nat → List Request) :
    ∃ passes ≤ 4, (∀ pass < passes, dispatcher.PassesAt arrivals (3 * pass)) ∧
      (dispatcher.amid arrivals (3 * passes)).stage = .choosing ∧
      Replenished (entered ++ arrived arrivals (3 * passes)) taken
        (dispatcher.amid arrivals (3 * passes)) := by
  have standing : Standing (entered ++ arrived arrivals 0) taken (dispatcher.amid arrivals 0) := by
    have running : dispatcher.stage ≠ .stopped := by simp [begins]
    have first := (Standing.of_booked stocked.booked begins).enterAll running (arrivals 0)
    rwa [arrived, List.range_one, List.flatMap_singleton]
  have stage : (dispatcher.amid arrivals 0).stage = .refilling .register false :=
    (stage_enterAll dispatcher _).trans begins
  obtain ⟨passes, few, each, ends, stands⟩ :=
    exists_passes 4 standing stage (Nat.lt_succ_of_le (freeHands_le _))
  simp only [Nat.zero_add] at each ends stands
  exact ⟨passes, few, each, ends, stands.replenished ends⟩

/-- Arrivals some of which enter a lane that the pass has just left behind. -/
def overtaking : Nat → List Request
  | 2 => [.unregister 7 ⟨0⟩, .fanout (.to [7] ⟨#[1]⟩)]
  | 4 => [.register ⟨⟨1⟩, 8⟩]
  | 12 => [.fanout (.to [8] ⟨#[2]⟩)]
  | _ => []

/-- They make a hub that has applied one request pass over its lanes four times. -/
theorem replenishment_overtaking :
    ∃ traffic, Traffic.Reaches (Traffic.start {} 4 4 4 {}) traffic ∧
      traffic.dispatcher.Stocked [.register ⟨⟨0⟩, 7⟩] [0] ∧
      traffic.dispatcher.stage = .refilling .register false ∧
      (traffic.dispatcher.amid overtaking 9).stage = .refilling .register false ∧
      (traffic.dispatcher.amid overtaking 12).choose.map Prod.fst = some (.unregister 7 ⟨0⟩) ∧
      ∃ passes ≤ 4, (∀ pass < passes, traffic.dispatcher.PassesAt overtaking (3 * pass)) ∧
        (traffic.dispatcher.amid overtaking (3 * passes)).stage = .choosing ∧
        Replenished ([.register ⟨⟨0⟩, 7⟩] ++ arrived overtaking (3 * passes)) [0]
          (traffic.dispatcher.amid overtaking (3 * passes)) := by
  have called : Traffic.Reaches (Traffic.start {} 4 4 4 {}) _ :=
    Traffic.Reaches.refl.step (@Traffic.Step.call _ 0 (.register ⟨⟨0⟩, 7⟩) rfl (by decide))
  have reserved := called.step
    (@Traffic.Step.reserve _ ⟨0, 0, .register ⟨⟨0⟩, 7⟩⟩ (by decide) (by decide))
  have entered := reserved.step (@Traffic.Step.enter _ ⟨0, 0, .register ⟨⟨0⟩, 7⟩⟩ (by decide))
  have applied := entered.ticks 8
  have stocked := Traffic.stocked_of_reaches applied
  exact ⟨_, applied, stocked, by decide +kernel, by decide +kernel, by decide +kernel,
    replenishment stocked (by decide +kernel) overtaking⟩

end Dispatcher

end Switchboard.Hub
