import Switchboard.Proofs.WebSocket.Mirror

/-!
# What clients do

A client opens a socket, sends frames, and closes the socket or is lost. Each is a run of the
gateway that the service stands for: the socket's session hears it and takes the turns that follow
from it.
-/

namespace Switchboard.WebSocket

open Hub

variable {leaving unseen : List ConnectionId} {gateway : Gateway} {service : Service}

namespace Mirrors

/-! ## Sockets that end -/

theorem still_changeOutbox_of_ne {state : State} {connection other : ConnectionId}
    {change : Outbox → Outbox} (different : other ≠ connection) (still : Still state other) :
    Still (state.changeOutbox connection change) other := by
  intro outbox found
  rw [State.getElem?_changeOutbox, if_neg different.symm] at found
  exact still outbox found

theorem sockets_changeSocket {sessions : List Session} {socket : Socket}
    (among : Among leaving service.sockets sessions socket)
    (apart : (service.sockets.map Socket.connection).Nodup) (change : Socket → Socket) :
    (service.changeSocket socket.connection change).sockets =
      among.before ++ change socket :: among.later := by
  have others := among.apart apart
  have kept (sockets : List Socket)
      (different : ∀ other ∈ sockets, other.connection ≠ socket.connection) :
      (sockets.map fun other =>
        if other.connection = socket.connection then change other else other) = sockets := by
    refine (List.map_congr_left fun other member => ?_).trans (List.map_id _)
    rw [if_neg (different other member)]
    rfl
  refine (congrArg (List.map _) among.sockets_eq).trans ?_
  rw [List.map_append, List.map_cons, if_pos rfl,
    kept among.before fun other member => others other (List.mem_append_left _ member),
    kept among.later fun other member => others other (List.mem_append_right _ member)]

/-- One socket and its session go on, and the outbox of its connection changes. -/
theorem change (mirrors : Mirrors leaving unseen gateway service) {socket : Socket}
    (among : Among leaving service.sockets gateway.sessions socket) {change : Outbox → Outbox}
    (after : Socket) {session : Session} {left nowUnseen : List ConnectionId} {next : Gateway}
    (alters : gateway.Alters socket.connection change
      (among.earlier ++ session :: among.rest) next)
    (leaves : ∀ connection, connection ≠ socket.connection →
      (connection ∈ left ↔ connection ∈ leaving))
    (sees : ∀ connection ∈ unseen, connection ≠ socket.connection → connection ∈ nowUnseen)
    (shows : Shows left after session)
    (still : after.running = true → after.connection ∉ nowUnseen →
      Still next.state after.connection) :
    Mirrors left nowUnseen next
      { service with
        hub := service.hub.changeState (·.changeOutbox socket.connection change)
        sockets := among.before ++ after :: among.later } := by
  constructor
  case steady => exact mirrors.steady.reaches alters.reached
  case config => exact mirrors.config.trans alters.config.symm
  case settings => exact alters.config ▸ mirrors.settings
  case dispatcher =>
    rw [alters.dispatcher]
    simp only [Hub.changeState, mirrors.dispatcher]
    rfl
  case held => exact mirrors.held
  case serial_lt =>
    rw [alters.made]
    exact mirrors.serial_lt
  case shows => exact alters.sessions ▸ among.replace mirrors.apart leaves shows
  case still =>
    intro other member running untouched
    have isOther (member : other ∈ among.before ++ among.later) :
        Still next.state other.connection := by
      have different := among.apart mirrors.apart other member
      have state : next.state = gateway.state.changeOutbox socket.connection change := by
        rw [Gateway.state, alters.dispatcher]
      have isMember : other ∈ service.sockets := among.sockets_eq ▸ mem_of_mem_others member
      rw [state]
      exact still_changeOutbox_of_ne different (mirrors.still other isMember running
        fun isUnseen => untouched (sees _ isUnseen different))
    rcases List.mem_append.mp member with isBefore | isLater
    · exact isOther (List.mem_append_left _ isBefore)
    · rcases List.mem_cons.mp isLater with rfl | isLater
      · exact still running untouched
      · exact isOther (List.mem_append_right _ isLater)

/-- A socket ends from the reader's side. -/
theorem endSocket (mirrors : Mirrors [] service.hub.touched gateway service) {socket : Socket}
    (member : socket ∈ service.sockets) (running : socket.running = true)
    (heard : ∀ session : Session, session.IsOpen → session.handle.user = socket.user →
      session.Heard gateway.config.websocket.maxRelayRecipients.toNat
        { session with reader := .ended }) :
    gateway.Yields [] service (service.endSocket socket) := by
  obtain ⟨among⟩ := nonempty_among mirrors.shows member
  have isOpen := among.shows.isOpen running
  have user : among.session.handle.user = socket.user := by rw [among.shows.handle]
  have connection : among.session.connection = socket.connection := by
    rw [Session.connection, among.shows.handle]
  have deaf : Gateway.ReachesBy Session.Accepts gateway
      { gateway with
        sessions := among.earlier ++ { among.session with reader := .ended } :: among.rest } :=
    .replace .refl among.sessions_eq
      (.hear among.sessions_eq (heard among.session isOpen user)) rfl (.of_writer_eq rfl)
  let after : Socket := { socket with running := false }
  let ended : Session :=
    { among.session with phase := .departing, writer := .ended, reader := .ended }
  have left := deaf.leave { among.session with reader := .ended } rfl isOpen.phase isOpen.writer rfl
  have alters : gateway.Alters socket.connection Outbox.abandon
      (among.earlier ++ ended :: among.rest) _ :=
    ⟨left.reaches, rfl, by rw [← connection]; rfl, by simp [Gateway.use, Operation.made?], rfl⟩
  have shows : Shows [socket.connection] after ended :=
    ⟨among.shows.handle, fun runs => (by cases runs), fun _ _ => ⟨rfl, rfl, rfl⟩,
      fun _ absent => absurd (List.mem_singleton_self _) absent⟩
  let abandoned : Service :=
    { service with
      hub := service.hub.changeState (·.changeOutbox socket.connection Outbox.abandon)
      sockets := among.before ++ after :: among.later }
  -- Until it unregisters, the socket that has ended is the only one that is still leaving.
  have mirrored : Mirrors [socket.connection] abandoned.hub.touched _ abandoned :=
    mirrors.change among after alters (fun other different => by simp [different])
      (fun _ isUnseen _ => isUnseen) shows fun runs => by cases runs
  have silent : Mimics Session.Accepts gateway _ service abandoned :=
    .replace among left rfl rfl rfl [] (List.append_nil _).symm (List.append_nil _).symm
  obtain ⟨next, mimics, departed, -⟩ :=
    mirrored.depart List.not_mem_nil after (by simp [abandoned]) rfl rfl rfl
  have endSocket : service.endSocket socket = abandoned.depart socket := by
    rw [Service.endSocket]
    congr 1
    simp only [Service.withHub, abandoned, after]
    rw [← sockets_changeSocket among mirrors.apart fun socket => { socket with running := false }]
    rfl
  rw [endSocket]
  exact ⟨next, silent.trans (mimics.mono fun _ _ served => served.accepts), departed⟩

/-! ## What clients do -/

/-- The journal does not matter. -/
theorem write (mirrors : Mirrors leaving unseen gateway service) (lines : List Entry) :
    Mirrors leaving unseen gateway (service.withHub (·.write lines)) :=
  ⟨mirrors.steady, mirrors.config, mirrors.settings, mirrors.dispatcher, mirrors.held,
    mirrors.serial_lt, mirrors.shows, mirrors.still⟩

/-- What is on its way to a client does not matter. -/
theorem send (mirrors : Mirrors leaving unseen gateway service) (connection : ConnectionId)
    (change : List ServerFrame → List ServerFrame) :
    Mirrors leaving unseen gateway
      (service.changeSocket connection fun socket =>
        { socket with sent := change socket.sent }) := by
  let turn (socket : Socket) : Socket :=
    if socket.connection = connection then { socket with sent := change socket.sent } else socket
  have fields (socket : Socket) : (turn socket).connection = socket.connection ∧
      (turn socket).user = socket.user ∧ (turn socket).running = socket.running := by
    simp only [turn]
    split <;> exact ⟨rfl, rfl, rfl⟩
  refine ⟨mirrors.steady, mirrors.config, mirrors.settings, mirrors.dispatcher, mirrors.held,
    mirrors.serial_lt, ?_, fun socket member running untouched => ?_⟩
  · refine List.forall₂_map_left_iff.mpr (mirrors.shows.imp fun socket session shows => ?_)
    obtain ⟨sameConnection, sameUser, sameRunning⟩ := fields socket
    change Shows leaving (turn socket) session
    refine ⟨?_, ?_, ?_, ?_⟩
    · rw [sameConnection, sameUser]; exact shows.handle
    · rw [sameRunning]; exact shows.isOpen
    · rw [sameRunning, sameConnection]; exact shows.isLeaving
    · rw [sameRunning, sameConnection]; exact shows.hasEnded
  · obtain ⟨before, isMember, rfl⟩ := List.mem_map.mp member
    obtain ⟨sameConnection, -, sameRunning⟩ := fields before
    change Still _ (turn before).connection
    change (turn before).connection ∉ unseen at untouched
    change (turn before).running = true at running
    rw [sameConnection] at untouched ⊢
    rw [sameRunning] at running
    exact mirrors.still before isMember running untouched

/-- A client sends a message that does not end its session. -/
theorem hear (mirrors : Mirrors [] service.hub.touched gateway service) {socket : Socket}
    (member : socket ∈ service.sockets) (running : socket.running = true) (now : Int64)
    (incoming : Incoming) {reaction : Reaction}
    (reacts : (react gateway.config.websocket.maxRelayRecipients.toNat socket.user now incoming).1 =
      reaction) (goes_on : reaction ≠ .stop) :
    gateway.Yields [] service
      { service with hub := afterRequest service.hub (reaction.request? socket.user) } := by
  obtain ⟨among⟩ := nonempty_among mirrors.shows member
  let session := among.session
  have isOpen : session.IsOpen := among.shows.isOpen running
  have started : session.phase ≠ .registering := by simp [isOpen.phase]
  have user : session.handle.user = socket.user := by rw [among.shows.handle]
  have same : { session with reader := .listening } = session := by rw [← isOpen.reader]
  have heard : session.Heard gateway.config.websocket.maxRelayRecipients.toNat
      { session with
        reader := (reaction.request? socket.user).elim .listening ReaderStage.submitting } := by
    have next : Session.readerAfter socket.user reaction =
        (reaction.request? socket.user).elim .listening ReaderStage.submitting := by
      cases reaction with
      | stop => exact absurd rfl goes_on
      | _ => rfl
    rw [← next, ← reacts, ← user]
    exact .message started isOpen.reader now incoming
  cases requested : reaction.request? socket.user with
  | none =>
    exact ⟨gateway, .refl gateway _, mirrors⟩
  | some request =>
    rw [requested] at heard
    obtain ⟨applied, runs, room, readied⟩ := mirrors.ready .fanout
    let ready := gateway.ran applied (service.hub.readied .fanout).dispatcher
    let submitting : Session := { session with reader := .submitting request }
    have present : ready.sessions = among.earlier ++ session :: among.rest := among.sessions_eq
    have hears : Gateway.ReachesBy Session.Accepts ready
        { ready with sessions := among.earlier ++ submitting :: among.rest } :=
      .replace .refl present (.hear present heard) rfl (.of_writer_eq rfl)
    have submits := hears.turn submitting rfl (.submit rfl) room (.of_writer_eq rfl)
    have sessions : among.earlier ++ { submitting with reader := .listening } :: among.rest =
        ready.sessions := by
      rw [present, ← same]
    rw [sessions] at submits
    have entered := readied.enter submits.reaches rfl mirrors.shows
    rw [afterRequest, Hub.enqueue_eq mirrors.running]
    exact ⟨_, .still ((mirrors.reachesBy runs).trans submits) rfl rfl, entered⟩

/-- A socket ends from the reader's side, and the journal says so. -/
theorem endSocket_write (mirrors : Mirrors [] service.hub.touched gateway service) {socket : Socket}
    (member : socket ∈ service.sockets) (running : socket.running = true) (lines : List Entry)
    (heard : ∀ session : Session, session.IsOpen → session.handle.user = socket.user →
      session.Heard gateway.config.websocket.maxRelayRecipients.toNat
        { session with reader := .ended }) :
    gateway.Yields [] service ((service.withHub (·.write lines)).endSocket socket) := by
  let told := service.withHub (·.write lines)
  have written : Mirrors [] told.hub.touched gateway told := mirrors.write lines
  exact (written.endSocket member running heard).of_sockets_eq rfl

/-- A client closes its socket, or nothing more can be read from it. -/
theorem breakSocket (mirrors : Mirrors [] service.hub.touched gateway service) {socket : Socket}
    (member : socket ∈ service.sockets) (running : socket.running = true) (fault : ReadFault) :
    gateway.Yields [] service (service.breakSocket socket fault) := by
  rw [Service.breakSocket]
  refine mirrors.endSocket_write member running _ fun session isOpen _ => ?_
  exact .lost (by simp [isOpen.phase]) isOpen.reader

theorem receiveMessage (mirrors : Mirrors [] service.hub.touched gateway service) {socket : Socket}
    (member : socket ∈ service.sockets) (running : socket.running = true) (now : Int64)
    (incoming : Incoming) :
    gateway.Yields [] service (service.receiveMessage socket now incoming) := by
  by_cases closes : incoming = .close
  · subst closes
    change gateway.Yields [] service (Service.endSocket _ _)
    refine mirrors.endSocket_write member running _ fun session isOpen _ => ?_
    exact .message (by simp [isOpen.phase]) isOpen.reader now .close
  · let reacted :=
      react gateway.config.websocket.maxRelayRecipients.toNat socket.user now incoming
    have goes_on : reacted.1 ≠ .stop := fun stops => closes (react_eq_stop_iff.mp stops)
    let told := service.withHub (·.write reacted.2)
    have written : Mirrors [] told.hub.touched gateway told := mirrors.write reacted.2
    obtain ⟨next, mimics, heard⟩ := written.hear member running now incoming rfl goes_on
    obtain ⟨lines, submits⟩ :=
      exists_submit_eq reacted.1 socket.user (service.hub.write reacted.2)
    let after := service.withHub fun hub => reacted.1.submit socket.user (hub.write reacted.2)
    have mirrored : Mirrors [] after.hub.touched next after := by
      simp only [after, Service.withHub, submits]
      exact heard.write lines
    have silent : Mimics Session.Accepts gateway next service after := by
      have first : Mimics Session.Accepts gateway gateway service told := .still .refl rfl rfl
      exact (first.trans mimics).trans (.still .refl rfl rfl)
    simp only [Service.receiveMessage]
    rw [mirrors.config]
    split
    next content =>
      exact ⟨next, silent.trans (.sends next after socket.connection rfl),
        mirrored.send socket.connection (· ++ [ServerFrame.pong content])⟩
    next stops => exact absurd stops goes_on
    next => exact ⟨next, silent, mirrored⟩

theorem receiveFrame (mirrors : Mirrors [] service.hub.touched gateway service) {socket : Socket}
    (member : socket ∈ service.sockets) (running : socket.running = true) (now : Int64)
    (frame : ClientFrame) :
    gateway.Yields [] service (service.receiveFrame socket now frame) := by
  rw [Service.receiveFrame]
  split
  next incoming _ => exact mirrors.receiveMessage member running now incoming
  next fault _ => exact mirrors.breakSocket member running fault

/-! ## New connections -/

theorem fresh (mirrors : Mirrors leaving unseen gateway service) (user : UserId) :
    ∀ earlier ∈ made gateway.performed,
      earlier.connection ≠ (⟨⟨service.hub.nextConnection⟩, user⟩ : Handle).connection := by
  intro earlier isMade same
  have older := mirrors.serial_lt earlier isMade
  rw [same] at older
  exact Nat.lt_irrefl _ older

/-- A connection is made. -/
theorem connect (mirrors : Mirrors leaving unseen gateway service) (user : UserId)
    (capacity : Nat) :
    Mirrors leaving unseen
      (gateway.use (.connect ⟨⟨service.hub.nextConnection⟩, user⟩ capacity))
      { service with hub := (service.hub.createConnection user capacity).1 } := by
  have fresh := mirrors.fresh user
  constructor
  case steady => exact mirrors.steady.use fresh
  case config => exact mirrors.config
  case settings => exact mirrors.settings
  case dispatcher =>
    simp only [Hub.createConnection, Hub.changeState, mirrors.dispatcher]
    rfl
  case held => exact mirrors.held
  case serial_lt =>
    intro handle isMade
    simp only [Gateway.use, made_concat, List.mem_append, Operation.made?, Option.toList_some,
      List.mem_singleton] at isMade
    rcases isMade with earlier | rfl
    · exact Nat.lt_succ_of_lt (mirrors.serial_lt handle earlier)
    · exact Nat.lt_succ_self _
  case shows => exact mirrors.shows
  case still =>
    intro socket member running untouched outbox found
    obtain ⟨session, isMember, shows⟩ := mirrors.exists_shown member
    have isMade := (mirrors.steady.fits session isMember).made
    have different := fresh session.handle isMade
    rw [shows.handle] at different
    have found : (gateway.state.addOutbox ⟨service.hub.nextConnection⟩
        (.create user capacity)).outboxes[socket.connection]? = some outbox := found
    rw [State.addOutbox, Std.ExtTreeMap.getElem?_insert,
      if_neg (by simpa using different.symm)] at found
    exact mirrors.still socket member running untouched outbox found

/-- A client opens a socket. -/
theorem openSocket (mirrors : Mirrors [] service.hub.touched gateway service)
    (serves : service.config.servesSockets = true) (user : UserId) :
    gateway.Yields [] service (service.openSocket user).1 := by
  let handle : Handle := ⟨⟨service.hub.nextConnection⟩, user⟩
  let capacity := service.hub.config.outboxCapacity.toNat
  let connected : Service := { service with hub := (service.hub.createConnection user capacity).1 }
  have fresh := mirrors.fresh user
  have made : Mirrors [] connected.hub.touched (gateway.use (.connect handle capacity)) connected :=
    mirrors.connect user capacity
  obtain ⟨applied, runs, room, readied⟩ := made.ready .register
  have opens : service.openSocket user =
      ({ service with
          hub := (connected.hub.readied .register).stampedIn (.register handle)
          sockets := service.sockets ++ [{ connection := handle.connection, user }] },
        handle.connection) := by
    have registers : connected.hub.register handle =
        ((connected.hub.readied .register).stampedIn (.register handle), .ok ()) := by
      rw [Hub.register, Hub.enqueue_eq made.running]
      rfl
    have connects : service.hub.connect user = (connected.hub, handle) := rfl
    simp [Service.openSocket, serves, connects, registers]
  let opened : Gateway :=
    { gateway.use (.connect handle capacity) with sessions := gateway.sessions ++ [{ handle }] }
  have outset : Gateway.ReachesBy Session.Accepts gateway opened := by
    refine .opens .refl ?_ rfl
    simp only [opened, capacity, mirrors.settings]
    exact .opens fresh
  rw [made.dispatcher] at runs
  have entered := (outset.runs runs).turn { handle } rfl (.register rfl) room (.of_writer_eq rfl)
  have unknown : handle.connection ∉ service.sockets.map Socket.connection := by
    rw [mirrors.connections_eq]
    intro isKnown
    obtain ⟨session, isMember, same⟩ := List.mem_map.mp isKnown
    exact fresh _ (mirrors.steady.fits session isMember).made same
  rw [opens]
  refine ⟨_, .opens entered rfl rfl rfl rfl unknown, ?_⟩
  constructor
  case steady => exact mirrors.steady.reaches entered.reaches
  case config => exact mirrors.config
  case settings => exact readied.settings
  case dispatcher => rfl
  case held => exact mirrors.held
  case serial_lt => exact readied.serial_lt
  case shows =>
    refine List.rel_append mirrors.shows (.cons ⟨rfl, fun _ => ⟨rfl, rfl, rfl⟩, nofun, nofun⟩ .nil)
  case still =>
    intro socket member running untouched outbox found
    change ((connected.hub.readied .register).dispatcher.enter _).state.outboxes[_]? = _ at found
    rw [Dispatcher.state_enter] at found
    rcases List.mem_append.mp member with earlier | now
    · exact readied.still socket earlier running untouched outbox found
    · obtain rfl := List.mem_singleton.mp now
      have present : connected.hub.state.outboxes[handle.connection]? =
          some (.create user capacity) := by
        simp [connected, Hub.createConnection, Hub.changeState, Hub.state, State.addOutbox, handle]
      have attended : connected.hub.state.attended handle.connection = true := by
        rw [State.attended, present]
        rfl
      have same := (Hub.getElem?_readied made.inService attended untouched).2
      obtain rfl := Option.some.inj ((same.trans present).symm.trans found)
      exact ⟨rfl, rfl⟩

end Mirrors

end Switchboard.WebSocket
