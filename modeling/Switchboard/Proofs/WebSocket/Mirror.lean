import Mathlib.Data.List.Forall2
import Switchboard.Proofs.WebSocket.Turns

/-!
# A service is a gateway

A service does in one go what the tasks of a gateway do in many turns: a writer empties its outbox,
a socket that ends leaves nothing behind. `Mirrors` says which service stands for which gateway, and
whatever a service does, some run of the gateway does too, in which every write succeeds. So what
holds of a gateway in every order of turns holds of the service. The frames that clients are sent,
but for the answers to pings, are those that the sessions have written (`Logs`), and stay so while
both go on (`Mimics`).
-/

namespace Switchboard.WebSocket

open Hub

/-- A socket stands for a session, which is open while it runs. One that does not run any more has
ended, unless it is among those that still have to unregister. -/
structure Shows (leaving : List ConnectionId) (socket : Socket) (session : Session) : Prop where
  handle : session.handle = ⟨socket.connection, socket.user⟩
  isOpen : socket.running = true → session.IsOpen
  isLeaving : socket.running = false → socket.connection ∈ leaving → session.IsLeaving
  hasEnded : socket.running = false → socket.connection ∉ leaving → session.HasEnded

/-- The hub has the other end of an outbox, and nothing is in it. -/
def Still (state : State) (connection : ConnectionId) : Prop :=
  ∀ outbox, state.outboxes[connection]? = some outbox → outbox.buffer = [] ∧ outbox.held = true

/-- A service stands for a gateway. What has changed in the outbox of a running socket is known:
its connection is `unseen`. -/
structure Mirrors (leaving unseen : List ConnectionId) (gateway : Gateway) (service : Service) :
    Prop where
  steady : gateway.Steady
  config : service.config = gateway.config
  settings : service.hub.config = gateway.config.hub
  dispatcher : service.hub.dispatcher = gateway.dispatcher
  held : service.held = true
  serial_lt : ∀ handle ∈ made gateway.performed,
    handle.connection.serial < service.hub.nextConnection
  shows : List.Forall₂ (Shows leaving) service.sockets gateway.sessions
  still : ∀ socket ∈ service.sockets, socket.running = true → socket.connection ∉ unseen →
    Still gateway.state socket.connection

/-- The writer of a session writes a frame; the answer to a ping it does not. -/
def isWritten : ServerFrame → Bool
  | .pong _ => false
  | .text _ | .binary _ | .close => true

theorem isWritten_ofPayload (payload : Payload) : isWritten (.ofPayload payload) = true := by
  rw [ServerFrame.ofPayload]
  split <;> rfl

/-- What sessions have written is what clients have received, as a log says, and what is on its way
to them, but for the answers to pings. -/
structure Logs (log : ConnectionId → List ServerFrame) (gateway : Gateway) (service : Service) :
    Prop where
  written : gateway.sessions.map Session.written = service.sockets.map fun socket =>
    (log socket.connection ++ socket.sent).filter isWritten
  unknown : ∀ connection ∉ service.sockets.map Socket.connection, log connection = []

/-- While the sessions of a gateway go on in a certain way, a service has the frames sent that they
write. -/
structure Mimics (change : Session → Session → Prop) (gateway next : Gateway)
    (service after : Service) : Prop where
  run : Gateway.ReachesBy change gateway next
  logs : ∀ log, Logs log gateway service → Logs log next after

/-- Some run of a gateway in which writes succeed leads to one that a service stands for, whose hub
has said which outboxes it has touched. -/
abbrev Gateway.Yields (gateway : Gateway) (leaving : List ConnectionId)
    (service after : Service) : Prop :=
  ∃ next, Mimics Session.Accepts gateway next service after ∧
    Mirrors leaving after.hub.touched next after

variable {leaving unseen : List ConnectionId} {gateway first : Gateway} {service : Service}

/-! ## Sockets and sessions -/

theorem Shows.congr {socket : Socket} {session : Session} (shows : Shows leaving socket session)
    {left : List ConnectionId} (same : socket.connection ∈ left ↔ socket.connection ∈ leaving) :
    Shows left socket session :=
  ⟨shows.handle, shows.isOpen, fun stopped member => shows.isLeaving stopped (same.mp member),
    fun stopped absent => shows.hasEnded stopped fun member => absent (same.mpr member)⟩

/-- A socket and its session, each among the others. -/
structure Among (leaving : List ConnectionId) (sockets : List Socket) (sessions : List Session)
    (socket : Socket) where
  before : List Socket
  later : List Socket
  earlier : List Session
  rest : List Session
  session : Session
  sockets_eq : sockets = before ++ socket :: later
  sessions_eq : sessions = earlier ++ session :: rest
  shows : Shows leaving socket session
  shows_before : List.Forall₂ (Shows leaving) before earlier
  shows_later : List.Forall₂ (Shows leaving) later rest

theorem nonempty_among {sockets : List Socket} {sessions : List Session}
    (shows : List.Forall₂ (Shows leaving) sockets sessions) {socket : Socket}
    (member : socket ∈ sockets) : Nonempty (Among leaving sockets sessions socket) := by
  induction shows with
  | nil => cases member
  | @cons first head others tail own shows ih =>
    rcases List.mem_cons.mp member with rfl | isLater
    · exact ⟨⟨[], others, [], tail, head, rfl, rfl, own, .nil, shows⟩⟩
    · obtain ⟨among⟩ := ih isLater
      exact ⟨⟨first :: among.before, among.later, head :: among.earlier, among.rest, among.session,
        congrArg (first :: ·) among.sockets_eq, congrArg (head :: ·) among.sessions_eq,
        among.shows, .cons own among.shows_before, among.shows_later⟩⟩

namespace Among

variable {sockets : List Socket} {sessions : List Session} {socket : Socket}

/-- The other sockets are of other connections. -/
theorem apart (among : Among leaving sockets sessions socket)
    (apart : (sockets.map Socket.connection).Nodup) :
    ∀ other ∈ among.before ++ among.later, other.connection ≠ socket.connection :=
  apart_of_nodup_map (among.sockets_eq ▸ apart)

/-- The socket and its session go on, and they are the only ones. -/
theorem replace (among : Among leaving sockets sessions socket)
    (apart : (sockets.map Socket.connection).Nodup) {left : List ConnectionId}
    (same : ∀ connection, connection ≠ socket.connection →
      (connection ∈ left ↔ connection ∈ leaving)) {after : Socket} {next : Session}
    (shows : Shows left after next) :
    List.Forall₂ (Shows left) (among.before ++ after :: among.later)
      (among.earlier ++ next :: among.rest) := by
  have others := among.apart apart
  have kept {sockets : List Socket} {sessions : List Session}
      (shown : List.Forall₂ (Shows leaving) sockets sessions)
      (different : ∀ other ∈ sockets, other.connection ≠ socket.connection) :
      List.Forall₂ (Shows left) sockets sessions := by
    induction shown with
    | nil => exact .nil
    | @cons other session _ _ shows _ ih =>
      rw [List.forall_mem_cons] at different
      exact .cons (shows.congr (same _ different.1)) (ih different.2)
  refine List.rel_append ?_ (.cons shows ?_)
  · exact kept among.shows_before fun other member =>
      others other (List.mem_append_left _ member)
  · exact kept among.shows_later fun other member =>
      others other (List.mem_append_right _ member)

end Among

/-! ## What is written -/

namespace Mimics

variable {change : Session → Session → Prop} {next : Gateway} {after : Service}

theorem reaches (mimics : Mimics change gateway next service after) :
    Gateway.Reaches gateway next :=
  mimics.run.reaches

/-- No frame is written, and no socket is opened. -/
theorem still (run : Gateway.ReachesBy change gateway next)
    (sessions : next.sessions = gateway.sessions) (sockets : after.sockets = service.sockets) :
    Mimics change gateway next service after :=
  ⟨run, fun _ logs => ⟨by rw [sessions, sockets]; exact logs.written,
    by rw [sockets]; exact logs.unknown⟩⟩

theorem refl (gateway : Gateway) (service : Service) :
    Mimics change gateway gateway service service :=
  still .refl rfl rfl

theorem trans {last : Gateway} {final : Service} (early : Mimics change gateway next service after)
    (late : Mimics change next last after final) : Mimics change gateway last service final :=
  ⟨early.run.trans late.run, fun log logs => late.logs log (early.logs log logs)⟩

theorem mono {other : Session → Session → Prop} (mimics : Mimics change gateway next service after)
    (weaker : ∀ session after, change session after → other session after) :
    Mimics other gateway next service after :=
  ⟨mimics.run.mono weaker, mimics.logs⟩

/-- A socket has frames sent, and its session writes them. -/
theorem replace {socket sends : Socket} {session : Session}
    (among : Among leaving service.sockets gateway.sessions socket)
    (run : Gateway.ReachesBy change gateway next)
    (sessions : next.sessions = among.earlier ++ session :: among.rest)
    (sockets : after.sockets = among.before ++ sends :: among.later)
    (connection : sends.connection = socket.connection) (frames : List ServerFrame)
    (sent : sends.sent = socket.sent ++ frames)
    (written : session.written = among.session.written ++ frames.filter isWritten) :
    Mimics change gateway next service after := by
  refine ⟨run, fun log logs => ⟨?_, ?_⟩⟩
  · have before := (congrArg (List.map Session.written) among.sessions_eq).symm.trans
      (logs.written.trans (congrArg (List.map fun socket =>
        (log socket.connection ++ socket.sent).filter isWritten) among.sockets_eq))
    rw [List.map_append, List.map_append, List.map_cons, List.map_cons] at before
    have same : (among.earlier.map Session.written).length = (among.before.map fun socket =>
        (log socket.connection ++ socket.sent).filter isWritten).length := by
      rw [List.length_map, List.length_map, among.shows_before.length_eq]
    obtain ⟨earlier, own⟩ := List.append_inj before same
    obtain ⟨now, later⟩ := List.cons.inj own
    rw [sessions, sockets, List.map_append, List.map_append, List.map_cons, List.map_cons, earlier,
      later, written, now, connection, sent]
    simp
  · have connections : after.sockets.map Socket.connection =
        service.sockets.map Socket.connection := by
      refine Eq.trans ?_ (congrArg (List.map Socket.connection) among.sockets_eq).symm
      rw [sockets, List.map_append, List.map_append, List.map_cons, List.map_cons, connection]
    rw [connections]
    exact logs.unknown

/-- A socket is opened, and no frame has been sent over it. -/
theorem opens {socket : Socket} {session : Session}
    (run : Gateway.ReachesBy change gateway next)
    (sessions : next.sessions = gateway.sessions ++ [session]) (unwritten : session.written = [])
    (sockets : after.sockets = service.sockets ++ [socket]) (unsent : socket.sent = [])
    (fresh : socket.connection ∉ service.sockets.map Socket.connection) :
    Mimics change gateway next service after := by
  refine ⟨run, fun log logs => ⟨?_, fun connection absent => ?_⟩⟩
  · rw [sessions, sockets, List.map_append, List.map_append, logs.written, List.map_singleton,
      List.map_singleton, unwritten, unsent, logs.unknown _ fresh]
    rfl
  · rw [sockets, List.map_append, List.mem_append, not_or] at absent
    exact logs.unknown connection absent.1

/-- Pings are answered. -/
theorem sends (gateway : Gateway) (service : Service) (connection : ConnectionId)
    {frames : List ServerFrame} (unwritten : frames.filter isWritten = []) :
    Mimics change gateway gateway service
      (service.changeSocket connection fun socket =>
        { socket with sent := socket.sent ++ frames }) := by
  refine ⟨.refl, fun log logs => ⟨?_, ?_⟩⟩
  · rw [logs.written, Service.changeSocket, List.map_map]
    refine List.map_congr_left fun socket _ => ?_
    simp only [Function.comp_apply]
    split
    · simp [unwritten]
    · rfl
  · have connections : (service.changeSocket connection fun socket =>
        { socket with sent := socket.sent ++ frames }).sockets.map Socket.connection =
          service.sockets.map Socket.connection := by
      rw [Service.changeSocket, List.map_map]
      refine List.map_congr_left fun socket _ => ?_
      simp only [Function.comp_apply]
      split <;> rfl
    rw [connections]
    exact logs.unknown

end Mimics

/-- The sockets before are all that matters of a service. -/
theorem Gateway.Yields.of_sockets_eq {before after : Service}
    (yields : gateway.Yields leaving before after) (same : before.sockets = service.sockets) :
    gateway.Yields leaving service after := by
  obtain ⟨next, mimics, mirrors⟩ := yields
  exact ⟨next, (Mimics.still .refl rfl same).trans mimics, mirrors⟩

namespace Mirrors

/-- Each socket shows a session. -/
theorem exists_shown (mirrors : Mirrors leaving unseen gateway service) {socket : Socket}
    (member : socket ∈ service.sockets) :
    ∃ session ∈ gateway.sessions, Shows leaving socket session :=
  exists_mem_right mirrors.shows member

/-- Sockets and sessions have the same connections, in the same order. -/
theorem connections_eq (mirrors : Mirrors leaving unseen gateway service) :
    service.sockets.map Socket.connection = gateway.sessions.map Session.connection := by
  have shows := mirrors.shows
  generalize service.sockets = sockets, gateway.sessions = sessions at shows
  induction shows with
  | nil => rfl
  | cons shows _ ih =>
    rw [List.map_cons, List.map_cons, ih, Session.connection, shows.handle]

/-- No two sockets are of one connection. -/
theorem apart (mirrors : Mirrors leaving unseen gateway service) :
    (service.sockets.map Socket.connection).Nodup :=
  mirrors.connections_eq ▸ mirrors.steady.apart

/-- The outbox of a running socket has a writer. -/
theorem attended (mirrors : Mirrors leaving unseen gateway service) {socket : Socket}
    (member : socket ∈ service.sockets) (running : socket.running = true) :
    gateway.state.attended socket.connection = true := by
  obtain ⟨session, isMember, shows⟩ := mirrors.exists_shown member
  have attends : session.writer.Attends := by rw [(shows.isOpen running).writer]; trivial
  have attended := mirrors.steady.attended isMember attends
  rwa [Session.connection, shows.handle] at attended

/-! ## The hub settles -/

theorem inService (mirrors : Mirrors leaving unseen gateway service) :
    service.hub.dispatcher.InService gateway.config.hub.policies gateway.requests
      gateway.performed := by
  rw [mirrors.dispatcher]
  exact mirrors.steady.service

/-- The dispatcher runs for a while, and nothing else changes. -/
theorem runs (mirrors : Mirrors leaving service.hub.touched gateway service) {hub : Hub}
    {applied : List Request} (runs : service.hub.dispatcher.Runs applied hub.dispatcher)
    (config : hub.config = service.hub.config)
    (nextConnection : hub.nextConnection = service.hub.nextConnection)
    (unchanged : ∀ connection, service.hub.state.attended connection = true →
      connection ∉ hub.touched → connection ∉ service.hub.touched ∧
        hub.state.outboxes[connection]? = service.hub.state.outboxes[connection]?) :
    Mirrors leaving hub.touched (gateway.ran applied hub.dispatcher) { service with hub } := by
  have state : service.hub.state = gateway.state := congrArg Dispatcher.state mirrors.dispatcher
  constructor
  case steady =>
    rw [mirrors.dispatcher] at runs
    have run : Gateway.ReachesBy Session.Served gateway _ := .runs .refl runs
    exact mirrors.steady.reaches run.reaches
  case config => exact mirrors.config
  case settings => exact config.trans mirrors.settings
  case dispatcher => rfl
  case held => exact mirrors.held
  case serial_lt =>
    rw [gateway.made_ran, nextConnection]
    exact mirrors.serial_lt
  case shows => exact mirrors.shows
  case still =>
    intro socket member running untouched outbox found
    have attended := mirrors.attended member running
    rw [← state] at attended
    obtain ⟨untouched, same⟩ := unchanged socket.connection attended untouched
    rw [state] at same
    exact mirrors.still socket member running untouched outbox (same.symm.trans found)

/-- The hub settles. -/
theorem settle (mirrors : Mirrors leaving service.hub.touched gateway service) :
    ∃ applied, service.hub.dispatcher.Runs applied service.hub.settle.dispatcher ∧
      service.hub.settle.dispatcher.isIdle = true ∧
      Mirrors leaving service.hub.settle.touched
        (gateway.ran applied service.hub.settle.dispatcher)
        { service with hub := service.hub.settle } := by
  have standing : service.hub.dispatcher.Runs [] service.hub.dispatcher := .refl
  obtain ⟨applied, runs⟩ := standing.run (16 * (service.hub.dispatcher.pending + 3)) []
  exact ⟨applied, runs, mirrors.inService.isIdle_settle, mirrors.runs runs rfl rfl
    fun _ attended untouched => Hub.getElem?_settle mirrors.inService attended untouched⟩

/-- The hub makes room in a lane. -/
theorem ready (mirrors : Mirrors leaving service.hub.touched gateway service) (name : LaneName) :
    ∃ applied, service.hub.dispatcher.Runs applied (service.hub.readied name).dispatcher ∧
      (service.hub.readied name).dispatcher.isFull name = false ∧
      Mirrors leaving (service.hub.readied name).touched
        (gateway.ran applied (service.hub.readied name).dispatcher)
        { service with hub := service.hub.readied name } := by
  obtain ⟨applied, runs, room⟩ := Hub.exists_runs_readied mirrors.inService name
  obtain ⟨config, nextConnection⟩ := service.hub.readied_fields name
  exact ⟨applied, runs, room, mirrors.runs runs config nextConnection
    fun _ attended untouched => Hub.getElem?_readied mirrors.inService attended untouched⟩

/-- What the dispatcher of a service does is a run of the gateway. -/
theorem reachesBy (mirrors : Mirrors leaving unseen gateway service)
    {change : Session → Session → Prop} [Std.Refl change] {applied : List Request}
    {after : Dispatcher} (runs : service.hub.dispatcher.Runs applied after) :
    Gateway.ReachesBy change gateway (gateway.ran applied after) := by
  rw [mirrors.dispatcher] at runs
  exact .runs .refl runs

/-- The dispatcher of a mirrored service has not stopped. -/
theorem running (mirrors : Mirrors leaving unseen gateway service) :
    service.hub.dispatcher.stage ≠ .stopped :=
  mirrors.inService.running

/-- A request enters for one of the sessions, which goes on. -/
theorem enter (mirrors : Mirrors leaving unseen gateway service) {next : Gateway}
    {origin : Option ConnectionId} {request : Request} {left : List ConnectionId}
    (reached : Gateway.Reaches gateway next)
    (enters : next = { gateway.enter origin request with sessions := next.sessions })
    (shows : List.Forall₂ (Shows left) service.sockets next.sessions) :
    Mirrors left unseen next { service with hub := service.hub.stampedIn request } := by
  have dispatcher : next.dispatcher = gateway.dispatcher.enter request := by rw [enters]; rfl
  have performed : next.performed = gateway.performed := by rw [enters]; rfl
  have config : next.config = gateway.config := by rw [enters]; rfl
  constructor
  case steady => exact mirrors.steady.reaches reached
  case config => exact mirrors.config.trans config.symm
  case settings => exact config ▸ mirrors.settings
  case dispatcher =>
    rw [dispatcher, ← mirrors.dispatcher]
    rfl
  case held => exact mirrors.held
  case serial_lt =>
    rw [performed]
    exact mirrors.serial_lt
  case shows => exact shows
  case still =>
    have state : next.state = gateway.state := by
      rw [Gateway.state, dispatcher, Dispatcher.state_enter]
      rfl
    rw [state]
    exact mirrors.still

/-- Another party submits a request. -/
theorem submit (mirrors : Mirrors leaving service.hub.touched gateway service) {request : Request}
    (permitted : gateway.Permits request) :
    gateway.Yields leaving service (service.withHub fun hub => (hub.enqueue request).1) := by
  have enqueue := Hub.enqueue_eq mirrors.running request
  obtain ⟨applied, runs, room, readied⟩ := mirrors.ready (Dispatcher.laneOf request)
  let ready := gateway.ran applied (service.hub.readied (Dispatcher.laneOf request)).dispatcher
  have steps : ready.Step (ready.enter none request) :=
    .submit (permitted.ran readied.steady) room
  rw [Service.withHub, enqueue]
  exact ⟨_, .still ((mirrors.reachesBy runs).still steps rfl) rfl rfl,
    readied.enter (.step .refl steps) rfl mirrors.shows⟩

/-- A socket that has stopped running unregisters its connection. -/
theorem depart {socket : Socket}
    (mirrors : Mirrors (socket.connection :: leaving) service.hub.touched gateway service)
    (fresh : socket.connection ∉ leaving) (stopped : Socket) (member : stopped ∈ service.sockets)
    (isOver : stopped.running = false) (connection : stopped.connection = socket.connection)
    (user : stopped.user = socket.user) :
    ∃ next, Mimics Session.Served gateway next service (service.depart socket) ∧
      Mirrors leaving (service.depart socket).hub.touched next (service.depart socket) ∧
      (service.depart socket).sockets = service.sockets := by
  have request : Request.unregister socket.user socket.connection =
      .unregister stopped.user stopped.connection := by rw [connection, user]
  have departs : service.depart socket =
      { service with
        hub := (service.hub.readied .unregister).stampedIn
          (.unregister stopped.user stopped.connection) } := by
    rw [Service.depart, Hub.unregister, Hub.enqueue_eq mirrors.running, request]
    rfl
  obtain ⟨applied, runs, room, readied⟩ := mirrors.ready .unregister
  let ready := gateway.ran applied (service.hub.readied .unregister).dispatcher
  obtain ⟨among⟩ := nonempty_among mirrors.shows member
  let session := among.session
  have isLeaving := among.shows.isLeaving isOver (by simp [connection])
  have farewell : session.farewell = .unregister stopped.user stopped.connection := by
    rw [Session.farewell, Session.connection, among.shows.handle]
  have present : ready.sessions = among.earlier ++ session :: among.rest := among.sessions_eq
  have turns : session.Turn ready.state (.submits session.farewell)
      { session with phase := .gone } :=
    .unregister isLeaving.phase
  have steps : ready.Step
      { ready.enter (some session.connection) session.farewell with
        sessions := among.earlier ++ { session with phase := .gone } :: among.rest } :=
    .turn present turns room
  have run : Gateway.ReachesBy Session.Served gateway _ :=
    (mirrors.reachesBy runs).replace present steps rfl ⟨.of_writer_eq rfl, .of_reader_eq rfl⟩
  have shows : Shows leaving stopped { session with phase := .gone } := by
    refine ⟨among.shows.handle, fun runs => ?_, fun _ isMember => ?_, fun _ _ => ?_⟩
    · cases isOver.symm.trans runs
    · exact absurd (connection ▸ isMember) fresh
    · exact ⟨rfl, isLeaving.writer, isLeaving.reader⟩
  have all := among.replace mirrors.apart
    (fun other different => by simp [connection ▸ different]) shows
  rw [← among.sockets_eq] at all
  rw [departs, ← farewell]
  exact ⟨_, .replace among run rfl among.sockets_eq rfl [] (List.append_nil _).symm
    (List.append_nil _).symm, readied.enter (.step .refl steps) rfl all, rfl⟩

end Mirrors

end Switchboard.WebSocket
