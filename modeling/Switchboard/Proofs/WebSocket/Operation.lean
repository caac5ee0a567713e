import Switchboard.Proofs.WebSocket.Rest

/-!
# A service in operation

Clients open sockets, send frames and leave; others submit requests to the same hub, use connections
of their own or talk to its interface; and now and then everything that runs comes to rest. Whatever
happens to a service, unless a client looks at what it has been sent, is a run of the gateway that
the service stands for (`Mirrors.step`). With what is known of gateways this says how sockets live:
they register first, unregister once when they have ended, and at rest they run exactly if their
connections are registered (`lifecycle`).
-/

namespace Switchboard

open Hub WebSocket

variable {gateway : Gateway} {service : Service}

/-! ## What can happen -/

namespace Service

/-- A handle that the hub has not been given and that is not a socket's. -/
structure Spares (service : Service) (handle : Handle) : Prop where
  held : ∃ outbox, service.hub.state.outboxes[handle.connection]? = some outbox ∧
    outbox.owner = handle.user ∧ outbox.held = true
  unregistered : ¬ service.hub.state.Registers handle
  unsubmitted : Request.register handle ∉ service.hub.dispatcher.toApply
  foreign : ∀ socket ∈ service.sockets, socket.connection ≠ handle.connection

/-- What others may do with connections: push to one or close it before it is registered, and take
from an outbox or let go of it, unless it is that of a socket. -/
def Allows (service : Service) : Operation → Prop
  | .push handle _ | .close handle => service.Spares handle
  | .receive connection | .abandon connection =>
    service.hub.state.attended connection = true ∧
      ∀ socket ∈ service.sockets, socket.connection ≠ connection
  | .connect _ _ | .apply _ => False

/-- What happens to a service. -/
inductive Step (service : Service) : Service → Prop where
  /-- A client opens a socket, where sockets can be served. -/
  | opens (serves : service.config.servesSockets = true) (user : UserId) :
      Step service (service.openSocket user).1
  | receives {socket : Socket} (member : socket ∈ service.sockets) (running : socket.running = true)
      (now : Int64) (frame : ClientFrame) : Step service (service.receiveFrame socket now frame)
  | breaks {socket : Socket} (member : socket ∈ service.sockets) (running : socket.running = true)
      (fault : ReadFault) : Step service (service.breakSocket socket fault)
  | collects {connection : ConnectionId} {after : Service} {collected : List ServerFrame × Bool}
      (collects : service.collectFrames connection = some (after, collected)) : Step service after
  | responds (context : Api.Context) (request : Http.Request) :
      Step service (service.withHub fun hub => (Api.respond context hub request).1)
  | connects (user : UserId) (capacity : Nat) :
      Step service (service.withHub fun hub => (hub.createConnection user capacity).1)
  | registers {handle : Handle} (spares : service.Spares handle) :
      Step service (service.withHub fun hub => (hub.register handle).1)
  | unregisters (user : UserId) (connection : ConnectionId) :
      Step service (service.withHub fun hub => (hub.unregister user connection).1)
  | submits (request : FanoutRequest) :
      Step service (service.withHub fun hub => (hub.submit request).1)
  | uses {operation : Operation} (allowed : service.Allows operation) :
      Step service (service.withHub fun hub =>
        hub.changeState fun state => state.perform hub.dispatcher.policies operation)
  /-- Everything that runs comes to rest. -/
  | settles : Step service service.settle

inductive Reaches (first : Service) : Service → Prop where
  | refl : Reaches first first
  | step {service next : Service} : Reaches first service → service.Step next → Reaches first next

end Service

/-! ## The interface -/

namespace Api

/-- What the interface makes of a hub: at most one request enters, and lines are written. -/
def Submits (hub after : Hub) : Prop :=
  ∃ request? lines, after = (afterRequest hub request?).write lines

theorem Submits.nothing (hub : Hub) (lines : List Entry) : Submits hub (hub.write lines) :=
  ⟨none, lines, rfl⟩

theorem Submits.refl (hub : Hub) : Submits hub hub :=
  ⟨none, [], by rw [afterRequest, Hub.write, List.append_nil]⟩

/-- A request without recipients is not submitted. -/
theorem exists_submit_afterRequest (hub : Hub) (request : FanoutRequest) :
    ∃ request?, (hub.submit request).1 = afterRequest hub request? := by
  rw [Hub.submit]
  split
  · exact ⟨none, rfl⟩
  · exact ⟨some request, rfl⟩

theorem submits_submit (context : Context) (hub : Hub) (request : FanoutRequest) :
    Submits hub (submit context hub request).1 := by
  obtain ⟨request?, enters⟩ := exists_submit_afterRequest hub request
  rw [submit]
  split
  next after result =>
    rw [result] at enters
    exact ⟨request?, [], by rw [← enters, Hub.write, List.append_nil]⟩
  next after error result =>
    rw [result] at enters
    exact ⟨request?, _, by rw [← enters]; rfl⟩

theorem submits_publish (context : Context) (hub : Hub) (body : PublishBody) :
    Submits hub (publish context hub body).1 := by
  rw [publish]
  split
  · exact .nothing hub _
  · split
    · exact .nothing hub _
    · exact submits_submit context hub _

theorem submits_answer (context : Context) (hub : Hub) (request : Http.Request) (route : Route) :
    Submits hub (answer context hub request route).1 := by
  cases route with
  | events =>
    rw [answer]
    split
    · exact submits_publish context hub _
    · exact .refl hub
  | userEvents part =>
    rw [answer]
    split
    · exact .refl hub
    · split
      · exact submits_submit context hub _
      · exact .refl hub
  | userPresence part =>
    rw [answer]
    split <;> exact .refl hub
  | socket =>
    rw [answer]
    split <;> exact .refl hub
  | presence | liveness | health => exact .refl hub

/-- Whatever the interface is asked, at most one request enters. -/
theorem submits_respond (context : Context) (hub : Hub) (request : Http.Request) :
    Submits hub (respond context hub request).1 := by
  change Submits hub (answerRoute context hub request).1
  rw [answerRoute]
  split
  · exact .refl hub
  · split
    · exact .refl hub
    · split
      · exact submits_answer context hub request _
      · exact .refl hub

end Api

namespace WebSocket.Mirrors

variable {leaving unseen : List ConnectionId}

/-! ## Other parties -/

/-- A handle that the hub has not been given is at hand. -/
theorem spare (mirrors : Mirrors leaving unseen gateway service) {handle : Handle}
    (spares : service.Spares handle) : gateway.Spare handle := by
  obtain ⟨⟨outbox, found, owner, held⟩, unregistered, unsubmitted, foreign⟩ := spares
  have inService := mirrors.steady.service
  have state : service.hub.state = State.after gateway.config.hub.policies gateway.performed :=
    mirrors.state_eq.trans inService.state_eq
  -- An end that is there although its handle is not registered is still with its maker.
  have inHand : InHand gateway.performed handle := by
    rw [state] at found unregistered
    have ends := ((sound_after _ inService.lawful).held_iff found).mp held
    rw [owner] at ends
    exact (ends.resolve_right fun later => later.elim unregistered nofun)
  refine ⟨inHand, fun session member same => ?_, fun entered => ?_⟩
  · obtain ⟨socket, isSocket, shows⟩ := mirrors.exists_showing member
    refine foreign socket isSocket ?_
    rw [← same, shows.handle]
  · obtain ⟨rest, split⟩ := inService.faithful.applied_prefix
    have waiting := (inService.faithful.orderly.laid).2
    rw [← split, List.drop_left, ← mirrors.dispatcher] at waiting
    rw [← split] at entered
    rcases List.mem_append.mp entered with applied | later
    · exact inHand.2 (mem_spent_iff.mpr (.inr (mem_filterMap_request?.mp applied)))
    · exact unsubmitted (waiting ▸ later)

/-- A connection with a writer is known, and its writer has not gone. -/
theorem follows_of_attended (mirrors : Mirrors leaving unseen gateway service)
    {connection : ConnectionId} (attended : service.hub.state.attended connection = true) :
    (Operation.abandon connection).Follows gateway.performed := by
  have inService := mirrors.steady.service
  have sound := sound_after gateway.config.hub.policies inService.lawful
  rw [mirrors.state_eq.trans inService.state_eq, State.attended] at attended
  split at attended
  next outbox found =>
    have suits := sound.suits found
    exact ⟨List.mem_map.mpr ⟨_, suits.made, rfl⟩, suits.attended_iff.mp attended⟩
  next => cases attended

theorem allows (mirrors : Mirrors leaving unseen gateway service) {operation : Operation}
    (allowed : service.Allows operation) : gateway.Allows operation := by
  have foreign {connection : ConnectionId}
      (apart : ∀ socket ∈ service.sockets, socket.connection ≠ connection) :
      ∀ session ∈ gateway.sessions, session.connection ≠ connection := by
    intro session member
    obtain ⟨socket, isSocket, shows⟩ := mirrors.exists_showing member
    rw [Session.connection, shows.handle]
    exact apart socket isSocket
  cases operation with
  | push handle payload => exact mirrors.spare allowed
  | close handle => exact mirrors.spare allowed
  | receive connection => exact ⟨mirrors.follows_of_attended allowed.1, foreign allowed.2⟩
  | abandon connection => exact ⟨mirrors.follows_of_attended allowed.1, foreign allowed.2⟩
  | connect handle capacity => exact allowed.elim
  | apply request => exact allowed.elim

/-- What others do with connections leaves the outboxes of sockets alone. -/
theorem getElem?_perform {operation : Operation} (allowed : service.Allows operation)
    (policies : Policies) (state : State) {socket : Socket} (member : socket ∈ service.sockets) :
    (state.perform policies operation).outboxes[socket.connection]? =
      state.outboxes[socket.connection]? := by
  cases operation with
  | push handle payload =>
    have different := allowed.foreign socket member
    have outcome := state.push_cases handle.connection payload
    simp only [State.perform]
    generalize state.push handle.connection payload = result at outcome
    cases outcome with
    | queued found attended room =>
      change (state.changeOutbox _ _).outboxes[_]? = _
      rw [State.getElem?_changeOutbox, if_neg different.symm]
    | _ => rfl
  | close handle => exact State.getElem?_release_of_ne state (allowed.foreign socket member).symm
  | receive connection | abandon connection =>
    exact (State.getElem?_changeOutbox ..).trans (if_neg (allowed.2 socket member).symm)
  | connect handle capacity => exact allowed.elim
  | apply request => exact allowed.elim

/-- Another party uses connections of its own. -/
theorem use (mirrors : Mirrors leaving unseen gateway service) {operation : Operation}
    (allowed : service.Allows operation) :
    Mirrors leaving unseen (gateway.use operation)
      (service.withHub fun hub =>
        hub.changeState fun state => state.perform hub.dispatcher.policies operation) := by
  have makes : operation.made? = none := by
    cases operation with
    | connect handle capacity => exact allowed.elim
    | _ => rfl
  constructor
  case steady => exact mirrors.steady.use (mirrors.allows allowed)
  case config => exact mirrors.config
  case settings => exact mirrors.settings
  case dispatcher =>
    simp only [Service.withHub, Hub.changeState, mirrors.dispatcher]
    rfl
  case held => exact mirrors.held
  case serial_lt =>
    intro handle isMade
    refine mirrors.serial_lt handle ?_
    simpa [Gateway.use, makes] using isMade
  case shows => exact mirrors.shows
  case still =>
    intro socket member running untouched outbox found
    have same := getElem?_perform allowed gateway.dispatcher.policies gateway.state member
    exact mirrors.still socket member running untouched outbox (same.symm.trans found)

theorem afterRequest (mirrors : Mirrors leaving service.hub.touched gateway service)
    (request? : Option FanoutRequest) :
    gateway.Yields leaving service
      (service.withHub fun hub => WebSocket.afterRequest hub request?) := by
  cases request? with
  | none => exact ⟨gateway, .refl gateway service, mirrors⟩
  | some request => exact mirrors.submit trivial

/-- A client receives what is on its way to it. -/
theorem collect (mirrors : Mirrors [] service.hub.touched gateway service)
    {connection : ConnectionId} {after : Service} {collected : List ServerFrame × Bool}
    (collects : service.collectFrames connection = some (after, collected)) :
    Mirrors [] after.hub.touched gateway after := by
  obtain ⟨socket, -, same⟩ := Option.map_eq_some_iff.mp collects
  obtain rfl := congrArg Prod.fst same
  exact mirrors.send connection fun _ => []

/-- Whatever happens to a service, unless a client receives something, is a run of the gateway that
it stands for. -/
theorem step (mirrors : Mirrors [] service.hub.touched gateway service) {after : Service}
    (steps : service.Step after) : gateway.Yields [] service after ∨
      ∃ connection collected, service.collectFrames connection = some (after, collected) := by
  cases steps with
  | collects collects => exact .inr ⟨_, _, collects⟩
  | opens serves user => exact .inl (mirrors.openSocket serves user)
  | receives member running now frame =>
    exact .inl (mirrors.receiveFrame member running now frame)
  | breaks member running fault => exact .inl (mirrors.breakSocket member running fault)
  | responds context request =>
    obtain ⟨request?, lines, responds⟩ := Api.submits_respond context service.hub request
    obtain ⟨next, mimics, entered⟩ := mirrors.afterRequest request?
    simp only [Service.withHub, responds]
    exact .inl ⟨next, mimics.trans (.still .refl rfl rfl), entered.write lines⟩
  | connects user capacity =>
    let handle : Handle := ⟨⟨service.hub.nextConnection⟩, user⟩
    have allowed : gateway.Allows (.connect handle capacity) := mirrors.fresh user
    exact .inl ⟨_, .still (.still .refl (.use allowed) rfl) rfl rfl,
      mirrors.connect user capacity⟩
  | @registers handle spares =>
    have registers : (service.hub.register handle).1 =
        (service.hub.enqueue (.register handle)).1 := by
      rw [Hub.register, Hub.enqueue_eq mirrors.running]
    simp only [Service.withHub, registers]
    exact .inl (mirrors.submit (mirrors.spare spares))
  | unregisters user connection => exact .inl (mirrors.submit trivial)
  | submits request =>
    obtain ⟨request?, submits⟩ := Api.exists_submit_afterRequest service.hub request
    simp only [Service.withHub, submits]
    exact .inl (mirrors.afterRequest request?)
  | uses allowed =>
    exact .inl ⟨_, .still (.still .refl (.use (mirrors.allows allowed)) rfl) rfl rfl,
      mirrors.use allowed⟩
  | settles =>
    obtain ⟨next, mimics, rests, -⟩ := mirrors.exists_settled
    exact .inl ⟨next, mimics.mono fun _ _ served => served.accepts, rests.mono _⟩

theorem create (config : Config) : Mirrors [] [] (.start config) (.create config) where
  steady := .start config
  config := rfl
  settings := rfl
  dispatcher := rfl
  held := rfl
  serial_lt := nofun
  shows := .nil
  still := nofun

/-- What becomes of a service is what becomes of a gateway. -/
theorem of_reaches {config : Config} (reached : Service.Reaches (.create config) service) :
    ∃ gateway, Gateway.Reaches (.start config) gateway ∧
      Mirrors [] service.hub.touched gateway service := by
  induction reached with
  | refl => exact ⟨_, .refl, .create config⟩
  | step _ steps ih =>
    obtain ⟨gateway, reached, mirrors⟩ := ih
    obtain ⟨next, mimics, mirrored⟩ | ⟨connection, collected, collects⟩ := mirrors.step steps
    · exact ⟨next, reached.trans mimics.reaches, mirrored⟩
    · exact ⟨gateway, reached, mirrors.collect collects⟩

end WebSocket.Mirrors

namespace WebSocket

/-! ## How sockets live -/

/-- A service that has come to rest as the quiescent gateway that it stands for. -/
structure AtRest (gateway : Gateway) (service : Service) : Prop where
  quiescent : gateway.Quiescent
  mirrors : Mirrors [] [] gateway service
  running_iff : ∀ socket ∈ service.sockets,
    (socket.running = true ↔ service.hub.state.Registers ⟨socket.connection, socket.user⟩)

/-- However sessions, the dispatcher and others take turns, a session registers first and, once it
has ended, has unregistered once, by which nobody else is unregistered; at rest it is open exactly
if its connection is registered. A service, whatever happens to it, is such a gateway, and when
everything has come to rest, a socket runs exactly if its connection is registered. -/
theorem lifecycle (config : Config) :
    (∀ gateway, Gateway.Reaches (.start config) gateway →
      ∀ session ∈ gateway.sessions, session.Lifecycle gateway) ∧
    ∀ service, Service.Reaches (.create config) service →
      ∃ gateway, Gateway.Reaches (.start config) gateway ∧ AtRest gateway service.settle := by
  refine ⟨fun gateway reached => lifecycle_of_reaches reached, fun service reached => ?_⟩
  obtain ⟨before, toBefore, mirrors⟩ := Mirrors.of_reaches reached
  obtain ⟨gateway, further, rests, quiescent⟩ := mirrors.settle_quiescent
  have toGateway := toBefore.trans further
  refine ⟨gateway, toGateway, quiescent, rests, fun socket member => ?_⟩
  obtain ⟨session, isSession, shows⟩ := rests.exists_shown member
  have openIff := (lifecycle_of_reaches toGateway session isSession).open_iff quiescent
  rw [rests.state_eq, ← shows.handle, ← openIff]
  cases running : socket.running with
  | true =>
    refine iff_of_true rfl fun ended => ?_
    cases (shows.isOpen running).phase.symm.trans ended.phase
  | false =>
    exact iff_of_false nofun fun unended => unended (shows.hasEnded running List.not_mem_nil)

/-- A service for which a user has opened a socket and, before anything else, another one. -/
def reopened : Service := (((Service.create {}).openSocket 7).1.openSocket 7).1

/-- The second socket of a user takes the place of the first, which ends and does not take the
second with it. -/
theorem lifecycle_reopened : ∃ gateway, Gateway.Reaches (.start {}) gateway ∧
    AtRest gateway reopened.settle ∧ (∀ session ∈ gateway.sessions, session.Lifecycle gateway) ∧
    reopened.settle.sockets.map (fun socket => (socket.connection, socket.running)) =
      [(⟨0⟩, false), (⟨1⟩, true)] ∧
    ¬ reopened.settle.hub.state.Registers ⟨⟨0⟩, 7⟩ ∧
    reopened.settle.hub.state.Registers ⟨⟨1⟩, 7⟩ := by
  have reached : Service.Reaches (.create {}) reopened :=
    .step (.step .refl (.opens rfl 7)) (.opens rfl 7)
  obtain ⟨gateway, toGateway, rests⟩ := (lifecycle {}).2 reopened reached
  exact ⟨gateway, toGateway, rests, (lifecycle {}).1 gateway toGateway, by decide +kernel,
    by decide +kernel, by decide +kernel⟩

end WebSocket

end Switchboard
