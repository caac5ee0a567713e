import Mathlib.Logic.Relation
import Switchboard.Proofs.Hub.Settling

/-!
# Calls that fail

There are seven calls by which something is asked of a hub, and they fail for two reasons only: the
value to deliver has no text, or the dispatcher is gone (`Attempt.make_eq_error_iff`). The first is
noticed before the hub is looked at. Whichever it is, nothing has come of the call, except that a
handle which was to be registered is gone (`Attempt.spared_of_error`). A call that has to wait for
room may find the dispatcher gone later on; then what has changed since it was made is the doing of
others (`Attempt.Ends.exists_last`). All of this together is `Attempt.failsCleanly`.
-/

namespace Switchboard.Hub

/-- A call that asks something of a hub. -/
inductive Attempt where
  | register (handle : Handle)
  | unregister (user : UserId) (connection : ConnectionId)
  | submit (request : FanoutRequest)
  | deliver (users : List UserId) (payload : Payload)
  | deliverJson (users : List UserId) (kind : String) (text : Except String String)
  | sendToUser (user : UserId) (payload : Payload)
  | sendJson (user : UserId) (kind : String) (text : Except String String)

/-- Nothing has come of something: no stamp is used up, nothing has entered a lane and the state is
as it was, except that a handle may be gone. -/
structure Spared (given : Option ConnectionId) (before after : Hub) : Prop where
  stamp : after.dispatcher.nextStamp = before.dispatcher.nextStamp
  lane : ∀ name, after.dispatcher.lane name = before.dispatcher.lane name
  stage : after.dispatcher.stage = before.dispatcher.stage
  registry : after.state.registry = before.state.registry
  online : after.state.online = before.state.online
  stats : after.stats = before.stats
  published : after.state.published = before.state.published
  outbox : ∀ connection : ConnectionId, after.state.outboxes[connection]? =
    if given = some connection then before.state.outboxes[connection]?.map Outbox.release
    else before.state.outboxes[connection]?

/-- Where nothing has happened everything is spared. -/
theorem Spared.refl (hub : Hub) : Spared none hub hub := by
  constructor
  case outbox => intro connection; rfl
  all_goals first | rfl | exact fun _ => rfl

/-- What is written in the journal changes nothing else. -/
theorem Spared.write (hub : Hub) (lines : List Entry) : Spared none hub (hub.write lines) := by
  constructor
  case outbox => intro connection; rfl
  all_goals first | rfl | exact fun _ => rfl

/-- A handle that is let go spares everything but the end of its outbox. -/
theorem Spared.release (hub : Hub) (connection : ConnectionId) :
    Spared (some connection) hub (hub.changeState (·.release connection)) := by
  constructor
  case outbox =>
    intro other
    change (hub.state.release connection).outboxes[other]? = _
    simp only [State.release, State.getElem?_changeOutbox, Option.some.injEq]
  all_goals first | rfl | (intro name; cases name <;> rfl)

namespace Attempt

/-- What comes of a call. -/
def make (hub : Hub) : Attempt → Hub × Except HubError Unit
  | .register handle => hub.register handle
  | .unregister user connection => hub.unregister user connection
  | .submit request => hub.submit request
  | .deliver users payload => hub.deliver users payload
  | .deliverJson users kind text => hub.deliverJson users kind text
  | .sendToUser user payload => hub.sendToUser user payload
  | .sendJson user kind text => hub.sendJson user kind text

/-- The lane of the requests of a call. -/
def lane : Attempt → LaneName
  | .register _ => .register
  | .unregister _ _ => .unregister
  | _ => .fanout

/-- The connection whose handle goes with a call. -/
def given? : Attempt → Option ConnectionId
  | .register handle => some handle.connection
  | _ => none

/-- The text of the value that a call delivers, or why it has none. -/
def text? : Attempt → Option (Except String String)
  | .deliverJson _ _ text | .sendJson _ _ text => some text
  | _ => none

/-- Whether a call names nobody to deliver to. -/
def IsVacant : Attempt → Prop
  | .submit request => request.recipients = []
  | .deliver users _ | .deliverJson users _ _ => users = []
  | _ => False

/-- The request for a fan-out, unless nobody is to be served. -/
def fanning (request : FanoutRequest) : Option Request :=
  if request.recipients.isEmpty then none else some (.fanout request)

/-- The request that a call enqueues, if it has something to enqueue. -/
def asks : Attempt → Except String (Option Request)
  | .register handle => .ok (some (.register handle))
  | .unregister user connection => .ok (some (.unregister user connection))
  | .submit request => .ok (fanning request)
  | .deliver users payload => .ok (fanning (.to users payload))
  | .deliverJson users kind text =>
    text.map fun text => fanning ((FanoutRequest.to users text.toUTF8).withKind kind)
  | .sendToUser user payload => .ok (fanning (.to [user] payload))
  | .sendJson user kind text =>
    text.map fun text => fanning ((FanoutRequest.to [user] text.toUTF8).withKind kind)

/-- The hub without the handle that goes with a call. -/
def forsake (hub : Hub) (attempt : Attempt) : Hub :=
  match attempt.given? with
  | some connection => hub.changeState (·.release connection)
  | none => hub

/-- A call that is forsaken spares everything but the handle that goes with it. -/
theorem spared_forsake (hub : Hub) (attempt : Attempt) :
    Spared attempt.given? hub (attempt.forsake hub) := by
  rw [forsake]
  cases attempt.given? with
  | some connection => exact .release hub connection
  | none => exact .refl hub

/-! ## What comes of a call -/

/-- What can come of a call. -/
inductive Made (hub : Hub) (attempt : Attempt) : Hub × Except HubError Unit → Prop where
  | textless {cause : String} (asks : attempt.asks = .error cause) :
      Made hub attempt (hub, .error (.serialization cause))
  | vacant (asks : attempt.asks = .ok none) : Made hub attempt (hub, .ok ())
  | stopped {request : Request} (asks : attempt.asks = .ok (some request))
      (stopped : hub.dispatcher.stage = .stopped) :
      Made hub attempt (attempt.forsake hub, .error (.dispatcherStopped attempt.lane.name))
  | enters {request : Request} (asks : attempt.asks = .ok (some request))
      (running : hub.dispatcher.stage ≠ .stopped) :
      Made hub attempt ((hub.readied attempt.lane).stampedIn request, .ok ())

/-- Nothing enters once the dispatcher is gone. -/
theorem enqueue_of_stopped {hub : Hub} (stopped : hub.dispatcher.stage = .stopped)
    (request : Request) :
    hub.enqueue request =
      (hub, .error (.dispatcherStopped (Dispatcher.laneOf request).name)) :=
  if_pos stopped

/-- A call that enqueues its request, and without a handle to lose. -/
theorem made_enqueue (hub : Hub) {attempt : Attempt} {request : Request}
    (asks : attempt.asks = .ok (some request)) (keeps : attempt.given? = none)
    (lane : attempt.lane = Dispatcher.laneOf request) :
    Made hub attempt (hub.enqueue request) := by
  by_cases stopped : hub.dispatcher.stage = .stopped
  · have made := Made.stopped asks stopped
    rw [forsake, keeps, lane] at made
    rw [enqueue_of_stopped stopped]
    exact made
  · have made := Made.enters asks stopped
    rw [lane] at made
    rw [Hub.enqueue_eq stopped]
    exact made

/-- A call for a fan-out enqueues its request unless nobody is to be served. -/
theorem made_submit (hub : Hub) (attempt : Attempt) {request : FanoutRequest}
    (asks : attempt.asks = .ok (fanning request)) (keeps : attempt.given? = none)
    (lane : attempt.lane = .fanout) : Made hub attempt (hub.submit request) := by
  rw [fanning] at asks
  rw [Hub.submit]
  split at asks
  next nobody =>
    rw [if_pos nobody]
    exact .vacant asks
  next somebody =>
    rw [if_neg somebody]
    exact made_enqueue hub asks keeps lane

/-- A value without text is noticed first, then that nobody is to be served, and only then whether
the dispatcher is still there. -/
theorem make_cases (hub : Hub) (attempt : Attempt) : Made hub attempt (attempt.make hub) := by
  cases attempt with
  | register handle =>
    change Made hub _ (hub.register handle)
    rw [Hub.register]
    by_cases stopped : hub.dispatcher.stage = .stopped
    · rw [enqueue_of_stopped stopped]
      exact .stopped rfl stopped
    · rw [Hub.enqueue_eq stopped]
      exact .enters rfl stopped
  | unregister user connection => exact made_enqueue hub rfl rfl rfl
  | submit request => exact made_submit hub (.submit request) rfl rfl rfl
  | deliver users payload => exact made_submit hub (.deliver users payload) rfl rfl rfl
  | sendToUser user payload => exact made_submit hub (.sendToUser user payload) rfl rfl rfl
  | deliverJson users kind text =>
    cases text with
    | error cause => exact .textless rfl
    | ok text => exact made_submit hub (.deliverJson users kind (.ok text)) rfl rfl rfl
  | sendJson user kind text =>
    cases text with
    | error cause => exact .textless rfl
    | ok text => exact made_submit hub (.sendJson user kind (.ok text)) rfl rfl rfl

/-! ## When a call fails -/

variable {hub : Hub} {attempt : Attempt}

/-- A call that fails leaves nothing behind. -/
theorem spared_of_error {error : HubError} (fails : (attempt.make hub).2 = .error error) :
    Spared attempt.given? hub (attempt.make hub).1 := by
  have made := attempt.make_cases hub
  generalize attempt.make hub = result at made fails
  cases made with
  | textless asks =>
    have keeps : attempt.given? = none := by
      cases attempt with
      | register handle => cases asks
      | _ => rfl
    rw [keeps]
    exact .refl hub
  | stopped asks stopped => exact attempt.spared_forsake hub
  | vacant asks => cases fails
  | enters asks running => cases fails

/-- A call has nothing to ask for if its value has no text. -/
theorem asks_eq_error_iff {cause : String} :
    attempt.asks = .error cause ↔ attempt.text? = some (.error cause) := by
  cases attempt with
  | deliverJson users kind text | sendJson user kind text =>
    cases text <;> simp [asks, text?, Except.map]
  | _ => simp [asks, text?]

/-- A call has nothing to enqueue if it names nobody, and its value has a text. -/
theorem asks_eq_none_iff :
    attempt.asks = .ok none ↔ attempt.IsVacant ∧ ∀ cause, attempt.text? ≠ some (.error cause) := by
  have nobody (users : List UserId) : distinct users = [] ↔ users = [] := by
    simp only [List.eq_nil_iff_forall_not_mem, mem_distinct]
  cases attempt with
  | deliverJson users kind text | sendJson user kind text =>
    cases text <;>
      simp [asks, text?, Except.map, fanning, IsVacant, FanoutRequest.withKind, FanoutRequest.to,
        nobody]
  | _ => simp [asks, text?, fanning, IsVacant, FanoutRequest.to, nobody]

/-- A call has a request if it names somebody and its value, if any, has a text. -/
theorem exists_asks_iff :
    (∃ request, attempt.asks = .ok (some request)) ↔
      ¬ attempt.IsVacant ∧ ∀ cause, attempt.text? ≠ some (.error cause) := by
  constructor
  · rintro ⟨request, asks⟩
    have written (cause : String) : attempt.text? ≠ some (.error cause) := by
      intro textless
      cases asks.symm.trans (asks_eq_error_iff.mpr textless)
    refine ⟨fun vacant => ?_, written⟩
    cases asks.symm.trans (asks_eq_none_iff.mpr ⟨vacant, written⟩)
  · rintro ⟨somebody, written⟩
    cases asks : attempt.asks with
    | error cause => exact absurd (asks_eq_error_iff.mp asks) (written cause)
    | ok request? =>
      cases request? with
      | none => exact absurd (asks_eq_none_iff.mp asks).1 somebody
      | some request => exact ⟨request, rfl⟩

/-- Why a call fails: its value has no text, or its request would have to enter a lane that has
nobody at its end. -/
theorem make_eq_error_iff {error : HubError} :
    (attempt.make hub).2 = .error error ↔
      (∃ cause, attempt.asks = .error cause ∧ error = .serialization cause) ∨
        hub.dispatcher.stage = .stopped ∧ error = .dispatcherStopped attempt.lane.name ∧
          ∃ request, attempt.asks = .ok (some request) := by
  have made := attempt.make_cases hub
  generalize attempt.make hub = result at made
  cases made with
  | textless asks => simp [asks, eq_comm]
  | vacant asks => simp [asks]
  | stopped asks stopped => simp [asks, stopped, eq_comm]
  | enters asks running => simp [asks, running]

/-- A call that names nobody, and whose value has a text, succeeds whatever the hub is like. -/
theorem make_of_isVacant (vacant : attempt.IsVacant)
    (written : ∀ cause, attempt.text? ≠ some (.error cause)) :
    attempt.make hub = (hub, .ok ()) := by
  have asks := asks_eq_none_iff.mpr ⟨vacant, written⟩
  have made := attempt.make_cases hub
  generalize attempt.make hub = result at made
  cases made with
  | vacant => rfl
  | textless other => cases asks.symm.trans other
  | stopped other => cases asks.symm.trans other
  | enters other => cases asks.symm.trans other

/-! ## Calls that wait -/

/-- Whether a call waits for room in its lane. -/
def Waits (attempt : Attempt) (hub : Hub) : Prop :=
  (∃ request, attempt.asks = .ok (some request)) ∧ hub.dispatcher.stage ≠ .stopped ∧
    hub.dispatcher.isFull attempt.lane = true

/-- How a call ends if others go on while it waits. -/
inductive Ends (others : Hub → Hub → Prop) (attempt : Attempt) :
    Hub → Hub × Except HubError Unit → Prop where
  | now {hub : Hub} (ready : ¬ attempt.Waits hub) : Ends others attempt hub (attempt.make hub)
  | later {hub next : Hub} {result : Hub × Except HubError Unit} (waits : attempt.Waits hub)
      (goes : others hub next) (ends : Ends others attempt next result) :
      Ends others attempt hub result

/-- A call that ends has left everything to the others until then. -/
theorem Ends.exists_last {others : Hub → Hub → Prop} {result : Hub × Except HubError Unit}
    (ends : attempt.Ends others hub result) :
    ∃ last, Relation.ReflTransGen others hub last ∧ result = attempt.make last := by
  induction ends with
  | now ready => exact ⟨_, .refl, rfl⟩
  | later waits goes ends ih =>
    obtain ⟨last, reached, rfl⟩ := ih
    exact ⟨last, .head goes reached, rfl⟩

/-- What the failure of a call says, and what it leaves behind. -/
structure FailsCleanly (attempt : Attempt) (hub : Hub) : Prop where
  spared : ∀ {error : HubError}, (attempt.make hub).2 = .error error →
    Spared attempt.given? hub (attempt.make hub).1
  /-- A call that has waited before it fails has left the hub as others have made it. -/
  waited : ∀ {others : Hub → Hub → Prop} {after : Hub} {error : HubError},
    attempt.Ends others hub (after, .error error) →
      ∃ last, Relation.ReflTransGen others hub last ∧ Spared attempt.given? last after
  serialization_iff : ∀ {cause : String},
    (attempt.make hub).2 = .error (.serialization cause) ↔ attempt.text? = some (.error cause)
  stopped_iff : ∀ {lane : String},
    (attempt.make hub).2 = .error (.dispatcherStopped lane) ↔
      hub.dispatcher.stage = .stopped ∧ lane = attempt.lane.name ∧ ¬ attempt.IsVacant ∧
        ∀ cause, attempt.text? ≠ some (.error cause)
  vacant : attempt.IsVacant → (∀ cause, attempt.text? ≠ some (.error cause)) →
    attempt.make hub = (hub, .ok ())

/-- Every call fails cleanly, if it fails. -/
theorem failsCleanly (attempt : Attempt) (hub : Hub) : attempt.FailsCleanly hub := by
  constructor
  case spared => exact spared_of_error
  case waited =>
    intro others after error ends
    obtain ⟨last, reached, same⟩ := ends.exists_last
    have spared := spared_of_error (congrArg Prod.snd same).symm
    rw [← same] at spared
    exact ⟨last, reached, spared⟩
  case serialization_iff =>
    intro cause
    rw [make_eq_error_iff, ← asks_eq_error_iff]
    simp
  case stopped_iff =>
    intro lane
    rw [make_eq_error_iff]
    simp [exists_asks_iff]
  case vacant => exact make_of_isVacant

end Attempt

end Switchboard.Hub
