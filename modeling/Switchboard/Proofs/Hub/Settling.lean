import Switchboard.Proofs.Hub.Faithful
import Switchboard.Proofs.Hub.Shutdown

/-!
# A dispatcher settles

Left to itself, a dispatcher in service applies what has entered and comes to rest
(`InService.isIdle_settle`). On the way it says which connections it has pushed to or let go of; the
outboxes of all others that have a writer are as they were (`InService.getElem?_settle`).
-/

namespace Switchboard.Hub

/-! ## What is touched -/

namespace State

variable {state : State} {connection : ConnectionId}

/-- Whether a connection has a writer is a matter of its outbox. -/
theorem attended_congr {other : State}
    (same : other.outboxes[connection]? = state.outboxes[connection]?) :
    other.attended connection = state.attended connection := by
  rw [attended, attended, same]

/-- Letting go of another handle leaves an outbox alone. -/
theorem getElem?_release_of_ne (state : State) {other : ConnectionId}
    (different : other ≠ connection) :
    (state.release other).outboxes[connection]? = state.outboxes[connection]? := by
  rw [release, getElem?_changeOutbox, if_neg different]

/-- The connections that deliveries touch, by the registry that they have found. -/
def touchedBy (before : State) (outcomes : List (UserId × Delivery)) : List ConnectionId :=
  outcomes.filterMap fun (user, delivery) =>
    match delivery with
    | .delivered | .evicted | .closed => (before.registry[user]?).map (·.connection)
    | .offline | .dropped => none

/-- A delivery leaves the outboxes alone that it does not touch. -/
theorem getElem?_deliver (policy : OverflowPolicy) (payload : Payload) (user : UserId)
    {before : State} (known : ∀ handle, state.registry[user]? = some handle →
      before.registry[user]? = some handle)
    (untouched : connection ∉ before.touchedBy [(user, (state.deliver policy payload user).2)]) :
    (state.deliver policy payload user).1.outboxes[connection]? = state.outboxes[connection]? := by
  have outcome := state.deliver_cases policy payload user
  generalize state.deliver policy payload user = result at outcome untouched
  cases outcome with
  | offline absent => rfl
  | @delivered handle outbox registered found attended room =>
    have different : handle.connection ≠ connection := fun same =>
      untouched (by simp [touchedBy, known handle registered, same])
    change (state.changeOutbox handle.connection _).outboxes[connection]? = _
    rw [getElem?_changeOutbox, if_neg different]
  | @evicted handle outbox registered found attended full chosen =>
    have different : handle.connection ≠ connection := fun same =>
      untouched (by simp [touchedBy, known handle registered, same])
    exact getElem?_release_of_ne ((state.record .evicted).leave user) different
  | dropped registered found attended full chosen => rfl
  | @closed handle registered gone =>
    have different : handle.connection ≠ connection := fun same =>
      untouched (by simp [touchedBy, known handle registered, same])
    exact getElem?_release_of_ne (state.leave user) different

/-- A delivery makes nobody registered. -/
theorem registered_of_deliver {policy : OverflowPolicy} {payload : Payload} {user other : UserId}
    {handle : Handle}
    (registered : (state.deliver policy payload user).1.registry[other]? = some handle) :
    state.registry[other]? = some handle := by
  have left (registered : (state.leave user).registry[other]? = some handle) :
      state.registry[other]? = some handle := by
    rw [leave, Std.ExtTreeMap.getElem?_erase] at registered
    exact (Option.ite_none_left_eq_some.mp registered).2
  have outcome := state.deliver_cases policy payload user
  generalize state.deliver policy payload user = result at outcome registered
  cases outcome with
  | evicted present found attended full chosen => exact left registered
  | closed present gone => exact left registered
  | _ => exact registered

/-- Deliveries leave the outboxes alone that none of them touches. -/
theorem getElem?_deliveries (policy : OverflowPolicy) (payload : Payload) (users : List UserId)
    {before : State} (known : ∀ {user : UserId} {handle : Handle}, state.registry[user]? = some handle →
      before.registry[user]? = some handle)
    (untouched : connection ∉ before.touchedBy (outcomes policy payload state users)) :
    (users.foldl (fun state user => (state.deliver policy payload user).1)
      state).outboxes[connection]? = state.outboxes[connection]? := by
  induction users generalizing state with
  | nil => rfl
  | cons user rest ih =>
    have split : outcomes policy payload state (user :: rest) =
        [(user, (state.deliver policy payload user).2)] ++
          outcomes policy payload (state.deliver policy payload user).1 rest := rfl
    rw [split, touchedBy, List.filterMap_append, List.mem_append, not_or] at untouched
    rw [List.foldl_cons, ih (fun registered => known (registered_of_deliver registered))
      untouched.2]
    exact getElem?_deliver policy payload user (fun _ => known) untouched.1

/-- A request leaves the outboxes alone that it does not touch, where there is a writer. -/
theorem getElem?_apply (policies : Policies) (request : Request)
    (attended : state.attended connection = true)
    (untouched : connection ∉ (Happening.applied state request (state.apply policies request).2
      (state.apply policies request).1).touched) :
    (state.apply policies request).1.outboxes[connection]? = state.outboxes[connection]? := by
  cases request with
  | register handle =>
    simp only [apply] at untouched ⊢
    have outcome := state.register_cases policies.duplicate handle
    generalize state.register policies.duplicate handle = result at outcome untouched
    cases outcome with
    | ignored gone =>
      refine getElem?_release_of_ne state fun same => ?_
      rw [same, attended] at gone
      cases gone
    | inserted present free => rfl
    | replaced present occupied chosen =>
      exact getElem?_release_of_ne (state.enter handle) fun same =>
        untouched (List.mem_singleton.mpr same.symm)
    | rejected present occupied chosen =>
      exact getElem?_release_of_ne state fun same =>
        untouched (List.mem_singleton.mpr same.symm)
  | unregister user leaving =>
    simp only [apply] at untouched ⊢
    have outcome := state.unregister_cases user leaving
    generalize state.unregister user leaving = result at outcome untouched
    cases outcome with
    | removed registered same =>
      exact getElem?_release_of_ne (state.leave user) fun own =>
        untouched (List.mem_singleton.mpr own.symm)
    | stale other => rfl
  | fanout request =>
    have folded := congrArg (·.outboxes[connection]?)
      (fanOut_eq_foldl policies.overflow state request)
    exact folded.trans
      (getElem?_deliveries policies.overflow request.payload request.recipients id untouched)

end State

/-! ## Running -/

namespace Dispatcher

variable {policies : Policies} {requests : List Request} {performed : List Operation}
  {dispatcher after : Dispatcher}

/-- A dispatcher takes a number of steps, in which requests are applied. -/
inductive Runs (first : Dispatcher) : List Request → Dispatcher → Prop where
  | refl : Runs first [] first
  | step {requests : List Request} {dispatcher after : Dispatcher} {request : Option Request}
      (runs : Runs first requests dispatcher) (moves : dispatcher.Moves request after) :
      Runs first (requests ++ request.toList) after

/-- A dispatcher that is not idle can take its own next step. -/
theorem moves_of_not_isIdle (busy : dispatcher.isIdle = false) :
    dispatcher.Moves (dispatcher.tick.2.bind Happening.request?) dispatcher.tick.1 := by
  rcases dispatcher.tick_moves with ⟨-, idle, -⟩ | moves
  · cases idle.symm.trans busy
  · exact moves

/-- A dispatcher that runs for some steps applies requests. -/
theorem Runs.run {first : Dispatcher} (runs : first.Runs requests dispatcher) (fuel : Nat)
    (done : List Happening) : ∃ applied, first.Runs applied (dispatcher.run fuel done).1 := by
  induction fuel generalizing dispatcher requests done with
  | zero => exact ⟨requests, runs⟩
  | succ fuel ih =>
    rw [Dispatcher.run]
    cases idle : dispatcher.isIdle with
    | true => exact ⟨requests, runs⟩
    | false => exact ih (runs.step (moves_of_not_isIdle idle)) _

/-- It stays in service while it runs. -/
theorem InService.runs (service : InService policies requests performed dispatcher)
    {applied : List Request} (runs : dispatcher.Runs applied after) :
    InService policies requests (performed ++ applied.map Operation.apply) after := by
  induction runs with
  | refl => simpa using service
  | step _ moves ih => simpa using ih.moves moves

/-- A dispatcher in service that runs for long enough comes to rest. -/
theorem InService.isIdle_run (service : InService policies requests performed dispatcher)
    {fuel : Nat} (enough : dispatcher.toGo ≤ fuel) (done : List Happening) :
    (dispatcher.run fuel done).1.isIdle = true := by
  induction fuel generalizing dispatcher performed done with
  | zero =>
    by_contra busy
    have moves := moves_of_not_isIdle (Bool.eq_false_iff.mpr busy)
    have fewer := service.faithful.orderly.lined.toGo_lt service.running moves
    omega
  | succ fuel ih =>
    rw [Dispatcher.run]
    cases idle : dispatcher.isIdle with
    | true => exact idle
    | false =>
      have moves := moves_of_not_isIdle idle
      have fewer := service.faithful.orderly.lined.toGo_lt service.running moves
      exact ih (service.moves moves) (by omega) _

/-- A dispatcher in service comes to rest when it settles. -/
theorem InService.isIdle_settle (service : InService policies requests performed dispatcher) :
    dispatcher.settle.1.isIdle = true := by
  have bound := dispatcher.toGo_le
  exact service.isIdle_run (by omega) []

/-! ## What is touched on the way -/

/-- A request that is applied is reported with the state that it finds and what comes of it. -/
theorem tick_of_applies {request : Request}
    (applies : dispatcher.tick.2.bind Happening.request? = some request) :
    dispatcher.tick.2 = some (.applied dispatcher.state request
      (dispatcher.state.apply dispatcher.policies request).2
      (dispatcher.state.apply dispatcher.policies request).1) := by
  unfold tick at applies ⊢
  cases stage : dispatcher.stage with
  | applying one =>
    simp only [stage] at applies ⊢
    obtain rfl : one = request := Option.some.inj applies
    rfl
  | parked =>
    simp only [stage] at applies
    split at applies
    · cases applies
    · split at applies
      · cases applies
      · split at applies
        · cases applies
        · split at applies <;> cases applies
  | choosing =>
    simp only [stage] at applies
    split at applies <;> cases applies
  | _ =>
    simp only [stage] at applies
    cases applies

/-- A step leaves the outboxes alone that it does not report, where there is a writer. -/
theorem InService.getElem?_tick (service : InService policies requests performed dispatcher)
    (busy : dispatcher.isIdle = false) {connection : ConnectionId}
    (attended : dispatcher.state.attended connection = true)
    (untouched : ∀ happening ∈ dispatcher.tick.2, connection ∉ happening.touched) :
    dispatcher.tick.1.state.outboxes[connection]? = dispatcher.state.outboxes[connection]? := by
  have moves := moves_of_not_isIdle busy
  obtain ⟨state, -, -⟩ := (moved_of_moves moves).of_running (service.moves moves).running
  rw [state]
  cases applies : dispatcher.tick.2.bind Happening.request? with
  | none => rfl
  | some request =>
    exact State.getElem?_apply dispatcher.policies request attended
      (untouched _ (tick_of_applies applies))

/-- What has happened before comes first. -/
theorem prefix_run (dispatcher : Dispatcher) (fuel : Nat) (done : List Happening) :
    done.reverse <+: (dispatcher.run fuel done).2 := by
  induction fuel generalizing dispatcher done with
  | zero => exact List.prefix_refl _
  | succ fuel ih =>
    rw [run]
    split
    · exact List.prefix_refl _
    · refine List.IsPrefix.trans ?_ (ih dispatcher.tick.1 (dispatcher.tick.2.toList ++ done))
      rw [List.reverse_append]
      exact List.prefix_append _ _

/-- Running leaves the outboxes alone that it does not report, where there is a writer. -/
theorem InService.getElem?_run (service : InService policies requests performed dispatcher)
    (fuel : Nat) (done : List Happening) {connection : ConnectionId}
    (attended : dispatcher.state.attended connection = true)
    (untouched : ∀ happening ∈ (dispatcher.run fuel done).2, connection ∉ happening.touched) :
    (dispatcher.run fuel done).1.state.outboxes[connection]? =
      dispatcher.state.outboxes[connection]? := by
  induction fuel generalizing dispatcher performed done with
  | zero => rfl
  | succ fuel ih =>
    rw [run] at untouched ⊢
    cases idle : dispatcher.isIdle with
    | true => rfl
    | false =>
      simp only [idle, Bool.false_eq_true, ↓reduceIte] at untouched ⊢
      have reported : ∀ happening ∈ dispatcher.tick.2,
          happening ∈ (dispatcher.tick.1.run fuel (dispatcher.tick.2.toList ++ done)).2 := by
        intro happening member
        refine (prefix_run dispatcher.tick.1 fuel (dispatcher.tick.2.toList ++ done)).subset ?_
        simp [Option.mem_def.mp member]
      have same := service.getElem?_tick idle attended fun happening member =>
        untouched happening (reported happening member)
      have later := ih (service.moves (moves_of_not_isIdle idle)) (dispatcher.tick.2.toList ++ done)
        ((State.attended_congr same).trans attended) untouched
      exact later.trans same

/-- Settling leaves the outboxes alone that it does not say it has touched. -/
theorem InService.getElem?_settle (service : InService policies requests performed dispatcher)
    {connection : ConnectionId} (attended : dispatcher.state.attended connection = true)
    (untouched : connection ∉ dispatcher.settle.2.flatMap Happening.touched) :
    dispatcher.settle.1.state.outboxes[connection]? = dispatcher.state.outboxes[connection]? :=
  service.getElem?_run _ [] attended fun happening member touched =>
    untouched (List.mem_flatMap.mpr ⟨happening, member, touched⟩)

end Dispatcher

/-! ## Calls -/

/-- The hub once a lane has room. -/
def readied (hub : Hub) (name : LaneName) : Hub :=
  if hub.dispatcher.isFull name then hub.settle else hub

/-- The hub after a request has entered. -/
def stampedIn (hub : Hub) (request : Request) : Hub :=
  { hub with dispatcher := hub.dispatcher.enter request }

/-- A request enters as soon as its lane has room. -/
theorem enqueue_eq {hub : Hub} (running : hub.dispatcher.stage ≠ .stopped) (request : Request) :
    hub.enqueue request =
      ((hub.readied (Dispatcher.laneOf request)).stampedIn request, .ok ()) := by
  rw [enqueue, if_neg running]
  rfl

/-- Making room does not matter to the settings or to the connections to come. -/
theorem readied_fields (hub : Hub) (name : LaneName) :
    (hub.readied name).config = hub.config ∧
      (hub.readied name).nextConnection = hub.nextConnection := by
  unfold readied
  split <;> exact ⟨rfl, rfl⟩

section

variable {hub : Hub} {policies : Policies} {requests : List Request} {performed : List Operation}
  {connection : ConnectionId}

/-- Where the hub does not say that it has touched an outbox, it is as it was. -/
theorem getElem?_settle (service : hub.dispatcher.InService policies requests performed)
    (attended : hub.state.attended connection = true) (untouched : connection ∉ hub.settle.touched) :
    connection ∉ hub.touched ∧
      hub.settle.state.outboxes[connection]? = hub.state.outboxes[connection]? := by
  have unseen : connection ∉ hub.touched ++ hub.dispatcher.settle.2.flatMap Happening.touched :=
    untouched
  rw [List.mem_append, not_or] at unseen
  exact ⟨unseen.1, service.getElem?_settle attended unseen.2⟩

/-- Making room leaves the outboxes alone that it does not say it has touched. -/
theorem getElem?_readied (service : hub.dispatcher.InService policies requests performed)
    (attended : hub.state.attended connection = true) {name : LaneName}
    (untouched : connection ∉ (hub.readied name).touched) :
    connection ∉ hub.touched ∧
      (hub.readied name).state.outboxes[connection]? = hub.state.outboxes[connection]? := by
  unfold readied at untouched ⊢
  split at untouched
  next full =>
    rw [if_pos full]
    exact getElem?_settle service attended untouched
  next room =>
    rw [if_neg room]
    exact ⟨untouched, rfl⟩

/-- The hub makes room in a lane: its dispatcher runs for a while or not at all. -/
theorem exists_runs_readied (service : hub.dispatcher.InService policies requests performed)
    (name : LaneName) :
    ∃ applied, hub.dispatcher.Runs applied (hub.readied name).dispatcher ∧
      (hub.readied name).dispatcher.isFull name = false := by
  have standing : hub.dispatcher.Runs [] hub.dispatcher := .refl
  unfold readied
  split
  next full =>
    obtain ⟨applied, runs⟩ := standing.run (16 * (hub.dispatcher.pending + 3)) []
    exact ⟨applied, runs, (service.runs runs).isFull_eq_false service.isIdle_settle name⟩
  next room => exact ⟨[], standing, Bool.eq_false_iff.mpr room⟩

end

end Switchboard.Hub
