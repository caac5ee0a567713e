import Switchboard.Proofs.Hub.Lanes

/-!
# The steps of a dispatcher

A dispatcher moves in single steps (`Moves`), each of which is one of a few (`advanced_of_moves`).
Between two requests it passes over its lanes, and a pass that finds nothing has shown that nothing
that waits is older than what is in hand. `Lined` says what that is worth: of all that is still to
be applied, each lane holds its own in stamp order, and what is chosen comes first. Every step
keeps this, and nothing gets lost on the way (`Lined.moves`); what enters comes last
(`Lined.enter`).
-/

namespace Switchboard.Hub

/-- The request that is applied when something happens. -/
def Happening.request? : Happening → Option Request
  | .applied _ request _ _ => some request
  | .ended _ => none

/-- The request that is about to be applied. -/
def Stage.request? : Stage → Option Request
  | .applying request => some request
  | _ => none

/-- The lanes that the current pass has looked at and found nothing in, unless it has found
something elsewhere. -/
def Stage.passed : Stage → List LaneName
  | .refilling .unregister false => [.register]
  | .refilling .fanout false => [.register, .unregister]
  | .choosing => [.register, .unregister, .fanout]
  | _ => []

namespace Dispatcher

/-- The requests that have entered and have not been applied. -/
def outstanding (dispatcher : Dispatcher) : List Request :=
  dispatcher.stage.request?.toList ++
    [LaneName.register, .unregister, .fanout].flatMap fun name =>
      (dispatcher.lane name).contents.map Stamped.item

/-- Requests by their lanes are all requests. -/
theorem perm_by_lane (requests : List (Stamped Request)) :
    ([LaneName.register, .unregister, .fanout].flatMap fun name =>
      requests.filter fun one => laneOf one.item = name).Perm requests := by
  induction requests with
  | nil => exact List.Perm.refl []
  | cons first rest ih =>
    simp only [List.flatMap_cons, List.flatMap_nil, List.append_nil] at ih ⊢
    have extended := ih.cons first
    cases own : laneOf first.item with
    | register => simpa [own] using extended
    | unregister =>
      refine List.Perm.trans ?_ extended
      simp [own]
    | fanout =>
      refine List.Perm.trans ?_ extended
      simp only [own, List.filter_cons, decide_true, ↓reduceIte, ← List.append_assoc, reduceCtorEq,
        decide_false, Bool.false_eq_true]
      exact List.perm_middle

/-- A single step, with the request that is applied in it. A parked dispatcher wakes up for any lane
in which something waits. -/
inductive Moves (dispatcher : Dispatcher) : Option Request → Dispatcher → Prop where
  | tick (awake : dispatcher.stage ≠ .parked) :
      Moves dispatcher (dispatcher.tick.2.bind Happening.request?) dispatcher.tick.1
  | wake {name : LaneName} (parked : dispatcher.stage = .parked)
      (waits : dispatcher.hasWaiting name = true) : Moves dispatcher none (dispatcher.wake name)
  | stop (parked : dispatcher.stage = .parked)
      (empty : ∀ name, dispatcher.hasWaiting name = false)
      (unreachable : dispatcher.reachable = false) : Moves dispatcher none dispatcher.stop

/-- A lane with a free hand holds nothing that is older than what is in hand. -/
def Clear (dispatcher : Dispatcher) (name : LaneName) : Prop :=
  (dispatcher.lane name).inHand = none → ∀ waiting ∈ (dispatcher.lane name).waiting,
    ∀ other held, (dispatcher.lane other).inHand = some held → held.stamp < waiting.stamp

/-- The deterministic step is one of the possible ones, or nothing happens until a request enters. -/
theorem tick_moves (dispatcher : Dispatcher) :
    (dispatcher.tick = (dispatcher, none) ∧ dispatcher.isIdle = true ∧
        dispatcher.reachable = true) ∨
      dispatcher.Moves (dispatcher.tick.2.bind Happening.request?) dispatcher.tick.1 := by
  by_cases parked : dispatcher.stage = .parked
  · unfold tick
    rw [parked]
    simp only
    by_cases first : dispatcher.hasWaiting .register = true
    · rw [if_pos first]
      exact .inr (.wake parked first)
    · rw [if_neg first]
      by_cases second : dispatcher.hasWaiting .unregister = true
      · rw [if_pos second]
        exact .inr (.wake parked second)
      · rw [if_neg second]
        by_cases third : dispatcher.hasWaiting .fanout = true
        · rw [if_pos third]
          exact .inr (.wake parked third)
        · rw [if_neg third]
          by_cases reachable : dispatcher.reachable = true
          · rw [if_pos reachable]
            exact .inl ⟨rfl, by simp [isIdle, parked, first, second, third, reachable], reachable⟩
          · rw [if_neg reachable]
            refine .inr (.stop parked ?_ (Bool.eq_false_iff.mpr reachable))
            intro name
            cases name <;> simp_all
  · exact .inr (.tick parked)

/-- What a step can be, and what it finds. -/
inductive Advanced (dispatcher : Dispatcher) : Option Request → Dispatcher → Prop where
  | refilled {name : LaneName} {found : Bool} (stage : dispatcher.stage = .refilling name found) :
      Advanced dispatcher none
        { (dispatcher.refill name).1 with
          stage := stageAfterRefill name (found || (dispatcher.refill name).2) }
  | rested (stage : dispatcher.stage = .choosing)
      (free : ∀ name, (dispatcher.lane name).inHand = none) :
      Advanced dispatcher none { dispatcher with stage := .parked }
  | chose {name : LaneName} {oldest : Stamped Request} (stage : dispatcher.stage = .choosing)
      (held : (dispatcher.lane name).inHand = some oldest)
      (lowest : ∀ {other : LaneName} {one : Stamped Request},
        (dispatcher.lane other).inHand = some one → oldest.stamp ≤ one.stamp) :
      Advanced dispatcher none { dispatcher.putDown name with stage := .applying oldest.item }
  | applied {request : Request} (stage : dispatcher.stage = .applying request) :
      Advanced dispatcher (some request)
        { dispatcher with
          state := (dispatcher.state.apply dispatcher.policies request).1
          stage := .refilling .register false }
  | woke {name : LaneName} (parked : dispatcher.stage = .parked)
      (waits : dispatcher.hasWaiting name = true) : Advanced dispatcher none (dispatcher.wake name)
  | ended (parked : dispatcher.stage = .parked)
      (empty : ∀ name, dispatcher.hasWaiting name = false)
      (unreachable : dispatcher.reachable = false) : Advanced dispatcher none dispatcher.stop
  | atEnd (stopped : dispatcher.stage = .stopped) : Advanced dispatcher none dispatcher

/-- Each step advances the dispatcher in one of a few ways. -/
theorem advanced_of_moves {dispatcher after : Dispatcher} {request : Option Request}
    (moves : dispatcher.Moves request after) : dispatcher.Advanced request after := by
  cases moves with
  | wake parked waits => exact .woke parked waits
  | stop parked empty unreachable => exact .ended parked empty unreachable
  | tick awake =>
    cases stage : dispatcher.stage with
    | refilling name found =>
      simp only [tick, stage]
      exact .refilled stage
    | choosing =>
      simp only [tick, stage]
      have outcome := dispatcher.choose_cases
      generalize dispatcher.choose = result at outcome
      cases outcome with
      | nothing free => exact .rested stage free
      | picked held lowest => exact .chose stage held lowest
    | applying request =>
      simp only [tick, stage]
      exact .applied stage
    | parked => exact absurd stage awake
    | stopped =>
      simp only [tick, stage]
      exact .atEnd stage

/-- After the refilling of a lane comes that of another, or the choice. -/
theorem stageAfterRefill_cases (refilled : LaneName) (found : Bool) :
    (∃ next again, stageAfterRefill refilled found = .refilling next again) ∨
      stageAfterRefill refilled found = .choosing := by
  cases refilled with
  | register => exact .inl ⟨_, _, rfl⟩
  | unregister => exact .inl ⟨_, _, rfl⟩
  | fanout =>
    cases found with
    | true => exact .inl ⟨_, _, rfl⟩
    | false => exact .inr rfl

/-- A dispatcher looks after a state; once it has stopped, what was registered has been let go. -/
def Carries (dispatcher : Dispatcher) (state : State) : Prop :=
  dispatcher.state = if dispatcher.stage = .stopped then state.releaseAll else state

/-- What a step does to the state: a request is applied to it, or the dispatcher stops. -/
inductive Moved (dispatcher : Dispatcher) : Option Request → Dispatcher → Prop where
  | on {request : Option Request} {after : Dispatcher} (running : dispatcher.stage ≠ .stopped)
      (runs : after.stage ≠ .stopped)
      (state : after.state = request.elim dispatcher.state fun one =>
        (dispatcher.state.apply dispatcher.policies one).1)
      (policies : after.policies = dispatcher.policies)
      (reachable : after.reachable = dispatcher.reachable) : Moved dispatcher request after
  | stops (running : dispatcher.stage ≠ .stopped) (unreachable : dispatcher.reachable = false) :
      Moved dispatcher none dispatcher.stop
  | rests : Moved dispatcher none dispatcher

/-- A step applies at most one request to the state, or it stops the dispatcher. -/
theorem moved_of_moves {dispatcher after : Dispatcher} {request : Option Request}
    (moves : dispatcher.Moves request after) : dispatcher.Moved request after := by
  cases advanced_of_moves moves with
  | @refilled name found stage =>
    have running : dispatcher.stage ≠ .stopped := by simp [stage]
    have runs : stageAfterRefill name (found || (dispatcher.refill name).2) ≠ .stopped := by
      rcases stageAfterRefill_cases name (found || (dispatcher.refill name).2) with
        ⟨_, _, next⟩ | next <;> simp [next]
    cases name <;> exact .on running runs rfl rfl rfl
  | rested stage free => exact .on (by simp [stage]) (by simp) rfl rfl rfl
  | @chose name oldest stage held lowest =>
    have running : dispatcher.stage ≠ .stopped := by simp [stage]
    cases name <;> exact .on running (by simp) rfl rfl rfl
  | applied stage => exact .on (by simp [stage]) (by simp) rfl rfl rfl
  | @woke name parked waits =>
    have running : dispatcher.stage ≠ .stopped := by simp [parked]
    cases name <;> exact .on running (by simp [Dispatcher.wake]) rfl rfl rfl
  | ended parked empty unreachable => exact .stops (by simp [parked]) unreachable
  | atEnd stopped => exact .rests

/-- What a dispatcher carries it still carries after a step, or has applied. -/
theorem Moved.carries {dispatcher after : Dispatcher} {request : Option Request}
    (moved : dispatcher.Moved request after) {state : State} (carries : dispatcher.Carries state) :
    after.Carries (request.elim state fun one => (state.apply dispatcher.policies one).1) := by
  unfold Carries at carries ⊢
  cases moved with
  | on running runs same policies reachable =>
    rw [if_neg running] at carries
    rw [if_neg runs, same, carries]
  | stops running unreachable =>
    rw [if_neg running] at carries
    rw [Option.elim_none, ← carries]
    rfl
  | rests => exact carries

/-- A step after which the dispatcher goes on applies a request to the state or leaves it alone. -/
theorem Moved.of_running {dispatcher after : Dispatcher} {request : Option Request}
    (moved : dispatcher.Moved request after) (runs : after.stage ≠ .stopped) :
    (after.state = request.elim dispatcher.state fun one =>
        (dispatcher.state.apply dispatcher.policies one).1) ∧
      after.policies = dispatcher.policies ∧ after.reachable = dispatcher.reachable := by
  cases moved with
  | on running runs state policies reachable => exact ⟨state, policies, reachable⟩
  | stops running unreachable => exact absurd rfl runs
  | rests => exact ⟨rfl, rfl, rfl⟩

/-! ## Passes over the lanes -/

/-- Refilling a hand leaves the contents of all lanes as they are. -/
theorem contents_refill (dispatcher : Dispatcher) (refilled name : LaneName) :
    ((dispatcher.refill refilled).1.lane name).contents = (dispatcher.lane name).contents := by
  rw [lane_refill]
  split
  · exact Lane.contents_refill _
  · rfl

/-- A refill that finds nothing changes nothing. -/
theorem lane_of_not_found {dispatcher : Dispatcher} {refilled : LaneName}
    (nothing : (dispatcher.refill refilled).2 = false) (name : LaneName) :
    (dispatcher.refill refilled).1.lane name = dispatcher.lane name := by
  rw [found_refill] at nothing
  rw [lane_refill]
  split
  next same =>
    subst same
    have outcome := (dispatcher.lane refilled).refill_cases
    generalize (dispatcher.lane refilled).refill = result at outcome nothing
    cases outcome with
    | found free waits => cases nothing
    | nothing settled => rfl
  next => rfl

/-- A refill that finds nothing shows that the lane holds nothing older than what is in hand. -/
theorem clear_of_not_found {dispatcher : Dispatcher} {refilled : LaneName}
    (nothing : (dispatcher.refill refilled).2 = false) : dispatcher.Clear refilled := by
  rw [found_refill] at nothing
  intro free waiting member
  have outcome := (dispatcher.lane refilled).refill_cases
  generalize (dispatcher.lane refilled).refill = result at outcome nothing
  cases outcome with
  | found free waits => cases nothing
  | nothing settled =>
    rw [settled free] at member
    cases member

/-- The next lane of a pass, or the choice after it, knows of one lane more. -/
theorem mem_passed_stageAfterRefill {refilled name : LaneName} {found : Bool}
    (passed : name ∈ (stageAfterRefill refilled found).passed) :
    found = false ∧ (name ∈ (Stage.refilling refilled false).passed ∨ name = refilled) := by
  cases found with
  | true => cases refilled <;> cases passed
  | false => cases refilled <;> cases name <;> simp_all [stageAfterRefill, Stage.passed]

/-- A lane without anything to wake up for is empty. -/
theorem waiting_eq_nil_of_not_hasWaiting {dispatcher : Dispatcher} {name : LaneName}
    (nothing : dispatcher.hasWaiting name = false) : (dispatcher.lane name).waiting = [] := by
  rw [hasWaiting_eq] at nothing
  simpa using nothing

/-- An idle dispatcher that has not stopped is parked before empty lanes. -/
theorem parked_of_isIdle {dispatcher : Dispatcher} (idle : dispatcher.isIdle = true)
    (running : dispatcher.stage ≠ .stopped) :
    dispatcher.stage = .parked ∧ ∀ name, dispatcher.hasWaiting name = false := by
  cases stage : dispatcher.stage with
  | parked =>
    refine ⟨rfl, fun name => ?_⟩
    simp only [isIdle, stage, Bool.and_eq_true, Bool.not_eq_true'] at idle
    obtain ⟨⟨⟨first, second⟩, third⟩, -⟩ := idle
    cases name with
    | register => exact first
    | unregister => exact second
    | fanout => exact third
  | stopped => exact absurd stage running
  | _ => simp [isIdle, stage] at idle

/-- A request that enters comes last in its own lane, and in no other. -/
theorem contents_enter {dispatcher : Dispatcher} {due : List (Stamped Request)}
    (contents_eq : ∀ name, (dispatcher.lane name).contents =
      due.filter fun one => laneOf one.item = name) (request : Request) (name : LaneName) :
    ((dispatcher.enter request).lane name).contents =
      (due ++ [(⟨dispatcher.nextStamp, request⟩ : Stamped Request)]).filter fun one =>
        laneOf one.item = name := by
  rw [List.filter_append, ← contents_eq, lane_enter]
  by_cases same : laneOf request = name
  · rw [if_pos same, Lane.contents_enter]
    simp [same]
  · rw [if_neg same]
    simp [same]

/-- What is still to be chosen, in the order of stamps: each lane holds what is its own. -/
structure Lined (due : List (Stamped Request)) (dispatcher : Dispatcher) : Prop where
  sorted : due.Pairwise fun first second => first.stamp < second.stamp
  contents_eq : ∀ name, (dispatcher.lane name).contents =
    due.filter fun one => laneOf one.item = name
  clear : ∀ name ∈ dispatcher.stage.passed, dispatcher.Clear name
  free : dispatcher.stage = .parked ∨ dispatcher.stage = .stopped →
    ∀ name, (dispatcher.lane name).inHand = none
  drained : dispatcher.stage = .stopped → ∀ name, (dispatcher.lane name).waiting = []

namespace Lined

variable {due : List (Stamped Request)} {dispatcher : Dispatcher}

/-- A pass that begins has not seen anything. -/
theorem of_begins (begins : dispatcher.stage = .refilling .register false)
    (sorted : due.Pairwise fun first second => first.stamp < second.stamp)
    (contents_eq : ∀ name, (dispatcher.lane name).contents =
      due.filter fun one => laneOf one.item = name) : Lined due dispatcher := by
  refine ⟨sorted, contents_eq, ?_, ?_, ?_⟩ <;> rw [begins] <;> nofun

/-- What is lined up stays so when a hand is refilled. -/
theorem refill (lined : Lined due dispatcher) {refilled : LaneName} {found : Bool}
    (stage : dispatcher.stage = .refilling refilled found) :
    Lined due
      { (dispatcher.refill refilled).1 with
        stage := stageAfterRefill refilled (found || (dispatcher.refill refilled).2) } := by
  have next := stageAfterRefill_cases refilled (found || (dispatcher.refill refilled).2)
  constructor
  case sorted => exact lined.sorted
  case contents_eq =>
    exact fun name => (contents_refill dispatcher refilled name).trans (lined.contents_eq name)
  case clear =>
    intro name passed
    obtain ⟨nothing, isPassed⟩ := mem_passed_stageAfterRefill passed
    obtain ⟨rfl, nothing⟩ := Bool.or_eq_false_iff.mp nothing
    -- The lane is one that the pass knew of, or the one just looked at; neither has changed.
    have kept := lane_of_not_found nothing
    have before : dispatcher.Clear name := by
      rcases isPassed with earlier | rfl
      · refine lined.clear name ?_
        rwa [stage]
      · exact clear_of_not_found nothing
    intro free waiting member other held inHand
    change ((dispatcher.refill refilled).1.lane name).inHand = none at free
    change waiting ∈ ((dispatcher.refill refilled).1.lane name).waiting at member
    change ((dispatcher.refill refilled).1.lane other).inHand = some held at inHand
    rw [kept] at free member inHand
    exact before free waiting member other held inHand
  case free =>
    intro rests
    rcases next with ⟨_, _, next⟩ | next <;> rcases rests with rests | rests <;>
      cases next.symm.trans rests
  case drained =>
    intro stopped
    rcases next with ⟨_, _, next⟩ | next <;> cases next.symm.trans stopped

/-- What is in hand is due, and of that lane. -/
theorem mem_of_inHand (lined : Lined due dispatcher) {name : LaneName} {held : Stamped Request}
    (inHand : (dispatcher.lane name).inHand = some held) :
    held ∈ due ∧ laneOf held.item = name := by
  have member := Lane.mem_contents_of_inHand inHand
  rw [lined.contents_eq, List.mem_filter] at member
  exact ⟨member.1, of_decide_eq_true member.2⟩

/-- A request that enters is newer than whatever is in hand. -/
theorem clear_enter (lined : Lined due dispatcher)
    (newest : ∀ one ∈ due, one.stamp < dispatcher.nextStamp) (request : Request) {name : LaneName}
    (clear : dispatcher.Clear name) : (dispatcher.enter request).Clear name := by
  intro free waiting member other held inHand
  rw [inHand_enter] at free inHand
  rw [lane_enter] at member
  split at member
  next =>
    rcases List.mem_append.mp member with earlier | now
    · exact clear free waiting earlier other held inHand
    · rw [List.mem_singleton.mp now]
      exact newest held (lined.mem_of_inHand inHand).1
  next => exact clear free waiting member other held inHand

/-- A request that enters is due last. -/
theorem enter (lined : Lined due dispatcher)
    (newest : ∀ one ∈ due, one.stamp < dispatcher.nextStamp) (request : Request)
    (running : dispatcher.stage ≠ .stopped) :
    Lined (due ++ [⟨dispatcher.nextStamp, request⟩]) (dispatcher.enter request) := by
  constructor
  case sorted =>
    refine List.pairwise_append.mpr ⟨lined.sorted, List.pairwise_singleton _ _, ?_⟩
    intro earlier member now isNow
    rw [List.mem_singleton.mp isNow]
    exact newest earlier member
  case contents_eq => exact contents_enter lined.contents_eq request
  case clear =>
    intro name passed
    rw [stage_enter] at passed
    exact lined.clear_enter newest request (lined.clear name passed)
  case free =>
    intro rests name
    rw [stage_enter] at rests
    rw [inHand_enter]
    exact lined.free rests name
  case drained =>
    intro stopped
    rw [stage_enter] at stopped
    exact absurd stopped running

/-- What is chosen is what is due first. -/
theorem eq_cons_of_lowest (lined : Lined due dispatcher) (stage : dispatcher.stage = .choosing)
    {name : LaneName} {oldest : Stamped Request}
    (held : (dispatcher.lane name).inHand = some oldest)
    (lowest : ∀ {other : LaneName} {one : Stamped Request},
      (dispatcher.lane other).inHand = some one → oldest.stamp ≤ one.stamp) :
    due = oldest :: due.tail := by
  have clear := lined.clear
  rw [stage] at clear
  have isMember := (lined.mem_of_inHand held).1
  have sorted := lined.sorted
  have contents_eq := lined.contents_eq
  cases due with
  | nil => cases isMember
  | cons first rest =>
    rcases List.mem_cons.mp isMember with rfl | later
    · rfl
    · -- Otherwise the first one waits in a lane with a free hand, or is in hand.
      have older := (List.pairwise_cons.mp sorted).1 oldest later
      have contents := contents_eq (laneOf first.item)
      rw [List.filter_cons_of_pos (by simp)] at contents
      cases inHand : (dispatcher.lane (laneOf first.item)).inHand with
      | some one =>
        rw [Lane.contents_of_inHand inHand] at contents
        have least := lowest inHand
        rw [(List.cons.inj contents).1] at least
        omega
      | none =>
        have isPassed : laneOf first.item ∈ Stage.passed .choosing := by
          cases laneOf first.item <;> simp [Stage.passed]
        have waits : first ∈ (dispatcher.lane (laneOf first.item)).waiting := by
          rw [Lane.contents, inHand, Option.toList_none, List.nil_append] at contents
          rw [contents]
          exact List.mem_cons_self
        have newer := clear _ isPassed inHand first waits name oldest held
        omega

/-- Choosing takes what is due first out of its lane. -/
theorem choose (lined : Lined due dispatcher) (stage : dispatcher.stage = .choosing)
    {name : LaneName} {oldest : Stamped Request}
    (held : (dispatcher.lane name).inHand = some oldest)
    (lowest : ∀ {other : LaneName} {one : Stamped Request},
      (dispatcher.lane other).inHand = some one → oldest.stamp ≤ one.stamp) :
    ∃ rest, due = oldest :: rest ∧
      Lined rest { dispatcher.putDown name with stage := .applying oldest.item } := by
  have head := lined.eq_cons_of_lowest stage held lowest
  have own := (lined.mem_of_inHand held).2
  generalize due.tail = rest at head
  subst head
  have contents_eq := lined.contents_eq
  refine ⟨rest, rfl, (List.pairwise_cons.mp lined.sorted).2, ?_, ?_, ?_, nofun⟩
  · intro other
    have before := contents_eq other
    change ((dispatcher.putDown name).lane other).contents = _
    rw [lane_putDown]
    by_cases same : name = other
    · subst same
      rw [Lane.contents_of_inHand held, List.filter_cons_of_pos (by simp [own])] at before
      rw [if_pos rfl]
      exact (List.cons.inj before).2
    · rw [List.filter_cons_of_neg (by simp [own, same])] at before
      rw [if_neg same]
      exact before
  · intro other passed
    cases passed
  · intro rests
    rcases rests with rests | rests <;> cases rests

/-- A dispatcher with free hands may park or stop. -/
theorem rest (lined : Lined due dispatcher)
    (free : ∀ name, (dispatcher.lane name).inHand = none) {after : Dispatcher}
    (stage : after.stage.passed = []) (same : ∀ name, after.lane name = dispatcher.lane name)
    (drained : after.stage = .stopped → ∀ name, (dispatcher.lane name).waiting = []) :
    Lined due after := by
  constructor
  case sorted => exact lined.sorted
  case contents_eq => exact fun name => (congrArg _ (same name)).trans (lined.contents_eq name)
  case clear =>
    intro name passed
    rw [stage] at passed
    cases passed
  case free => exact fun _ name => (congrArg _ (same name)).trans (free name)
  case drained => exact fun stopped name => (congrArg _ (same name)).trans (drained stopped name)

/-- A pass that begins finds everything where it was. -/
theorem restart (lined : Lined due dispatcher) {after : Dispatcher}
    (begins : after.stage = .refilling .register false)
    (contents : ∀ name, (after.lane name).contents = (dispatcher.lane name).contents) :
    Lined due after :=
  of_begins begins lined.sorted fun name => (contents name).trans (lined.contents_eq name)

/-- A step applies the request that was about to be applied, and nothing gets lost or changes its
place. -/
theorem moves (lined : Lined due dispatcher) {request : Option Request} {after : Dispatcher}
    (moves : dispatcher.Moves request after) :
    ∃ left, Lined left after ∧
      dispatcher.stage.request?.toList ++ due.map Stamped.item =
        request.toList ++ (after.stage.request?.toList ++ left.map Stamped.item) := by
  cases advanced_of_moves moves with
  | @refilled name found stage =>
    refine ⟨due, lined.refill stage, ?_⟩
    rcases stageAfterRefill_cases name (found || (dispatcher.refill name).2) with
      ⟨_, _, next⟩ | next <;> rw [stage, next] <;> rfl
  | rested stage free =>
    exact ⟨due, lined.rest free rfl (fun _ => rfl) nofun, by rw [stage]; rfl⟩
  | chose stage held lowest =>
    obtain ⟨left, rfl, after⟩ := lined.choose stage held lowest
    exact ⟨left, after, by rw [stage]; rfl⟩
  | applied stage => exact ⟨due, lined.restart rfl fun _ => rfl, by rw [stage]; rfl⟩
  | @woke name parked waits =>
    exact ⟨due, lined.restart rfl (contents_refill dispatcher name), by rw [parked]; rfl⟩
  | ended parked empty unreachable =>
    have drained (name : LaneName) := waiting_eq_nil_of_not_hasWaiting (empty name)
    exact ⟨due, lined.rest (lined.free (.inl parked)) rfl (fun _ => rfl) fun _ => drained,
      by rw [parked]; rfl⟩
  | atEnd stopped => exact ⟨due, lined, rfl⟩

/-- Nothing is left to be chosen where the lanes are empty. -/
theorem eq_nil (lined : Lined due dispatcher)
    (free : ∀ name, (dispatcher.lane name).inHand = none)
    (drained : ∀ name, (dispatcher.lane name).waiting = []) : due = [] := by
  refine List.eq_nil_iff_forall_not_mem.mpr fun one member => ?_
  have own : one ∈ (dispatcher.lane (laneOf one.item)).contents := by
    rw [lined.contents_eq]
    exact List.mem_filter.mpr ⟨member, by simp⟩
  rw [Lane.contents, free, drained] at own
  cases own

end Lined

end Dispatcher

end Switchboard.Hub
