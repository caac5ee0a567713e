import Switchboard.Proofs.WebSocket.Clients

/-!
# A service comes to rest

When a service settles, its dispatcher applies what waits, the writers whose outboxes this has
touched write everything that is there, the sockets whose outboxes have been let go of end, and
those unregister, which may touch further outboxes. A socket that has ended never runs again, so
this comes to an end, and then the gateway that the service stands for is quiescent
(`Mirrors.settle_quiescent`).
-/

namespace Switchboard.WebSocket

open Hub

variable {leaving unseen : List ConnectionId} {gateway first : Gateway} {service : Service}

/-! ## Sockets that grow older -/

/-- A socket some time later: it may have ended. -/
structure Ages (before after : Socket) : Prop where
  connection : after.connection = before.connection
  user : after.user = before.user
  running : after.running = true → before.running = true

theorem Ages.refl (socket : Socket) : Ages socket socket := ⟨rfl, rfl, id⟩

theorem Ages.trans {first second third : Socket} (early : Ages first second)
    (late : Ages second third) : Ages first third :=
  ⟨late.connection.trans early.connection, late.user.trans early.user,
    early.running ∘ late.running⟩

namespace AllAge

variable {before after : List Socket}

theorem refl (sockets : List Socket) : List.Forall₂ Ages sockets sockets :=
  List.forall₂_same.mpr fun socket _ => .refl socket

theorem trans {later : List Socket} (early : List.Forall₂ Ages before after)
    (late : List.Forall₂ Ages after later) : List.Forall₂ Ages before later := by
  induction early generalizing later with
  | nil => exact late
  | cons ages _ ih =>
    cases late with
    | cons further rest => exact .cons (ages.trans further) (ih rest)

/-- Sockets that age do not start to run again. -/
theorem countP_le (age : List.Forall₂ Ages before after) :
    after.countP (·.running) ≤ before.countP (·.running) := by
  induction age with
  | nil => exact Nat.le_refl _
  | @cons socket older _ _ ages _ ih =>
    have running := ages.running
    rw [List.countP_cons, List.countP_cons]
    split
    next runs =>
      rw [if_pos (running runs)]
      omega
    next => omega

/-- Once a socket has ended, fewer are running. -/
theorem countP_lt (age : List.Forall₂ Ages before after) {socket : Socket}
    (member : socket ∈ before) (running : socket.running = true)
    (ended : ∀ older ∈ after, older.connection = socket.connection → older.running = false) :
    after.countP (·.running) < before.countP (·.running) := by
  induction age with
  | nil => cases member
  | @cons one older _ _ ages rest ih =>
    rw [List.forall_mem_cons] at ended
    rw [List.countP_cons, List.countP_cons]
    rcases List.mem_cons.mp member with rfl | later
    · have fewer := countP_le rest
      rw [if_pos running, if_neg (by simp [ended.1 ages.connection])]
      omega
    · have fewer := ih later ended.2
      have running := ages.running
      split
      next runs =>
        rw [if_pos (running runs)]
        omega
      next => omega

end AllAge

/-! ## Looking sockets up -/

theorem nodup_eraseDups (connections : List ConnectionId) : connections.eraseDups.Nodup := by
  match connections with
  | [] => exact List.nodup_nil
  | connection :: rest =>
    rw [List.eraseDups_cons, List.nodup_cons]
    refine ⟨fun again => ?_, nodup_eraseDups _⟩
    simpa using (List.mem_filter.mp (List.mem_eraseDups.mp again)).2
termination_by connections.length
decreasing_by exact Nat.lt_succ_of_le (List.length_filter_le _ _)

theorem socket?_eq_some {connection : ConnectionId} {socket : Socket}
    (found : service.socket? connection = some socket) :
    socket ∈ service.sockets ∧ socket.connection = connection :=
  ⟨List.mem_of_find?_eq_some found, by simpa using List.find?_some found⟩

/-- A member of a list of sockets of different connections is found by its connection. -/
theorem socket?_connection (apart : (service.sockets.map Socket.connection).Nodup) {socket : Socket}
    (member : socket ∈ service.sockets) : service.socket? socket.connection = some socket := by
  obtain ⟨before, later, split⟩ := List.append_of_mem member
  refine List.find?_eq_some_iff_append.mpr ⟨by simp, before, later, split, fun other isOther => ?_⟩
  simpa using apart_of_nodup_map (split ▸ apart) other (List.mem_append_left _ isOther)

/-- The running sockets among connections are found there. -/
theorem mem_runningAmong {connections : List ConnectionId} {socket : Socket} :
    socket ∈ service.runningAmong connections ↔ socket.connection ∈ connections ∧
      service.socket? socket.connection = some socket ∧ socket.running = true := by
  rw [Service.runningAmong, List.mem_filterMap]
  constructor
  · rintro ⟨connection, member, chosen⟩
    obtain ⟨found, running⟩ := Option.filter_eq_some_iff.mp chosen
    have same := (socket?_eq_some found).2
    exact ⟨same ▸ member, same ▸ found, running⟩
  · rintro ⟨member, found, running⟩
    exact ⟨socket.connection, member, Option.filter_eq_some_iff.mpr ⟨found, running⟩⟩

/-- The sockets that run have connections of their own. -/
theorem nodup_runningAmong {connections : List ConnectionId} (apart : connections.Nodup) :
    ((service.runningAmong connections).map Socket.connection).Nodup := by
  induction connections with
  | nil => exact List.nodup_nil
  | cons connection rest ih =>
    obtain ⟨fresh, apart⟩ := List.nodup_cons.mp apart
    cases chosen : (service.socket? connection).filter (·.running) with
    | none =>
      simp only [Service.runningAmong, List.filterMap_cons, chosen]
      exact ih apart
    | some socket =>
      simp only [Service.runningAmong, List.filterMap_cons, chosen, List.map_cons, List.nodup_cons]
      refine ⟨fun again => ?_, ih apart⟩
      obtain ⟨other, isRunning, same⟩ := List.mem_map.mp again
      have own := (socket?_eq_some (Option.filter_eq_some_iff.mp chosen).1).2
      exact fresh (own ▸ same ▸ (mem_runningAmong.mp isRunning).1)

/-! ## Sessions at rest -/

/-- An open session whose outbox is still waits for something from outside. -/
theorem Session.IsOpen.not_turn {state : State} {session next : Session} {deed : Deed}
    (isOpen : session.IsOpen) (still : Still state session.connection) :
    ¬ session.Turn state deed next := by
  obtain ⟨phase, writer, reader⟩ := isOpen
  intro turns
  cases turns with
  | @take outbox payload started draining found seen =>
    simp [Outbox.receive, (still outbox found).1, (still outbox found).2] at seen
  | @finish outbox started draining found atEnd =>
    simp [Outbox.receive, (still outbox found).1, (still outbox found).2] at atEnd
  | _ => simp_all

/-- A session that has ended does nothing. -/
theorem Session.HasEnded.not_turn {state : State} {session next : Session} {deed : Deed}
    (ended : session.HasEnded) : ¬ session.Turn state deed next := by
  obtain ⟨phase, writer, reader⟩ := ended
  intro turns
  cases turns <;> simp_all [WriterStage.Attends]

namespace Mirrors

theorem exists_showing (mirrors : Mirrors leaving unseen gateway service) {session : Session}
    (member : session ∈ gateway.sessions) :
    ∃ socket ∈ service.sockets, Shows leaving socket session :=
  exists_mem_left mirrors.shows member

/-- What is known of more outboxes is known of fewer. -/
theorem mono (mirrors : Mirrors leaving [] gateway service) (unseen : List ConnectionId) :
    Mirrors leaving unseen gateway service :=
  ⟨mirrors.steady, mirrors.config, mirrors.settings, mirrors.dispatcher, mirrors.held,
    mirrors.serial_lt, mirrors.shows,
    fun socket member running _ => mirrors.still socket member running List.not_mem_nil⟩

/-- Which sockets still have to unregister, and which outboxes have changed, is said in another
way. -/
theorem recount (mirrors : Mirrors leaving unseen gateway service)
    {left left_unseen : List ConnectionId}
    (leaves : ∀ socket ∈ service.sockets, socket.running = false →
      (socket.connection ∈ left ↔ socket.connection ∈ leaving))
    (sees : ∀ socket ∈ service.sockets, socket.running = true →
      socket.connection ∈ unseen → socket.connection ∈ left_unseen) :
    Mirrors left left_unseen gateway service := by
  refine ⟨mirrors.steady, mirrors.config, mirrors.settings, mirrors.dispatcher, mirrors.held,
    mirrors.serial_lt, ?_, fun socket member running untouched =>
      mirrors.still socket member running fun isUnseen =>
        untouched (sees socket member running isUnseen)⟩
  have shows := (List.forall₂_and_left service.sockets gateway.sessions).mpr
    ⟨leaves, mirrors.shows⟩
  refine shows.imp fun socket session ⟨same, shows⟩ => ⟨shows.handle, shows.isOpen, ?_, ?_⟩
  · exact fun stopped isLeft => shows.isLeaving stopped ((same stopped).mp isLeft)
  · exact fun stopped notLeft => shows.hasEnded stopped fun leaving =>
      notLeft ((same stopped).mpr leaving)

/-- A socket that runs has an outbox. -/
theorem exists_outbox (mirrors : Mirrors leaving unseen gateway service) {socket : Socket}
    (member : socket ∈ service.sockets) (running : socket.running = true) :
    ∃ outbox, gateway.state.outboxes[socket.connection]? = some outbox := by
  have attended := mirrors.attended member running
  rw [State.attended] at attended
  split at attended
  next outbox found => exact ⟨outbox, found⟩
  next => cases attended

theorem state_eq (mirrors : Mirrors leaving unseen gateway service) :
    service.hub.state = gateway.state :=
  congrArg Dispatcher.state mirrors.dispatcher

/-- What draining does to a running socket. -/
def drained (outbox : Outbox) (socket : Socket) : Socket :=
  { socket with
    running := outbox.held
    sent := socket.sent ++ outbox.buffer.map ServerFrame.ofPayload ++
      if outbox.held then [] else [.close] }

/-- All that draining writes is written by the writer. -/
theorem filter_isWritten_drained (payloads : List Payload) (held : Bool) :
    (payloads.map ServerFrame.ofPayload ++
        if held then [] else [ServerFrame.close]).filter isWritten =
      payloads.map ServerFrame.ofPayload ++ if held then [] else [ServerFrame.close] := by
  refine List.filter_eq_self.mpr fun frame member => ?_
  rcases List.mem_append.mp member with data | close
  · obtain ⟨payload, -, rfl⟩ := List.mem_map.mp data
    exact isWritten_ofPayload payload
  · cases held <;> simp_all [isWritten]

/-- To drain a socket empties its outbox and writes what was there. -/
theorem drain_eq {socket : Socket} (found : service.socket? socket.connection = some socket)
    (running : socket.running = true) {outbox : Outbox}
    (present : service.hub.state.outboxes[socket.connection]? = some outbox) :
    service.drain socket.connection =
      (service.withHub
        (·.changeState (·.changeOutbox socket.connection fun _ => leftover outbox))).changeSocket
        socket.connection (drained outbox) := by
  have taken : (outbox.take outbox.buffer.length).2 = emptied outbox := by
    simp [Outbox.take, emptied]
  simp only [Service.drain, found, present, running, Bool.not_true, Bool.false_eq_true, ↓reduceIte,
    taken]
  rfl

/-- A socket that has stopped is not drained. -/
theorem drain_eq_self {connection : ConnectionId}
    (stopped : ∀ socket ∈ service.sockets, socket.connection = connection →
      socket.running = false) : service.drain connection = service := by
  unfold Service.drain
  split
  next socket outbox found present =>
    obtain ⟨member, same⟩ := socket?_eq_some found
    simp [stopped socket member same]
  next => rfl

/-- The writer of a running socket writes what its outbox holds; the socket ends if the outbox has
been let go of. -/
theorem drain_running {socket : Socket}
    (mirrors : Mirrors leaving (socket.connection :: unseen) gateway service)
    (member : socket ∈ service.sockets) (running : socket.running = true)
    (awaited : socket.connection ∈ leaving) :
    ∃ next, Mimics Session.Served gateway next service (service.drain socket.connection) ∧
      Mirrors leaving unseen next (service.drain socket.connection) ∧
      List.Forall₂ Ages service.sockets (service.drain socket.connection).sockets ∧
      (service.drain socket.connection).hub.dispatcher.isIdle =
        service.hub.dispatcher.isIdle := by
  obtain ⟨among⟩ := nonempty_among mirrors.shows member
  have isOpen := among.shows.isOpen running
  have connection : among.session.connection = socket.connection := by
    rw [Session.connection, among.shows.handle]
  obtain ⟨outbox, present⟩ := mirrors.exists_outbox member running
  have there : service.hub.state.outboxes[socket.connection]? = some outbox := by
    rw [mirrors.state_eq]
    exact present
  have equal : service.drain socket.connection =
      { service with
        hub := service.hub.changeState (·.changeOutbox socket.connection fun _ => leftover outbox)
        sockets := among.before ++ drained outbox socket :: among.later } := by
    rw [drain_eq (socket?_connection mirrors.apart member) running there,
      ← sockets_changeSocket among mirrors.apart (drained outbox)]
    rfl
  have ages : List.Forall₂ Ages (among.before ++ socket :: among.later)
      (among.before ++ drained outbox socket :: among.later) :=
    List.rel_append (AllAge.refl _) (.cons ⟨rfl, rfl, fun _ => running⟩ (AllAge.refl _))
  rw [← among.sockets_eq] at ages
  obtain ⟨next, session, alters, run, handle, stays, leaves, written⟩ :=
    Gateway.exists_drained among.sessions_eq isOpen (connection ▸ present)
  rw [connection] at alters
  have shows : Shows leaving (drained outbox socket) session :=
    ⟨handle.trans among.shows.handle, stays, fun atEnd _ => leaves atEnd,
      fun _ absent => absurd awaited absent⟩
  have sees : ∀ other ∈ socket.connection :: unseen, other ≠ socket.connection → other ∈ unseen :=
    fun other isUnseen different => (List.mem_cons.mp isUnseen).resolve_left different
  rw [equal]
  have sent : (drained outbox socket).sent = socket.sent ++
      (outbox.buffer.map ServerFrame.ofPayload ++ if outbox.held then [] else [.close]) :=
    List.append_assoc ..
  refine ⟨next, .replace among run alters.sessions rfl rfl _ sent ?_, ?_, ages, rfl⟩
  · rw [written, filter_isWritten_drained]
  refine mirrors.change among (drained outbox socket) alters (fun _ _ => Iff.rfl) sees shows ?_
  intro (held : outbox.held = true) _ after isThere
  rw [Gateway.state, alters.dispatcher] at isThere
  change (gateway.state.changeOutbox _ _).outboxes[socket.connection]? = _ at isThere
  rw [State.getElem?_changeOutbox, if_pos rfl, present] at isThere
  obtain rfl : leftover outbox = after := Option.some.inj isThere
  rw [leftover, if_pos held]
  exact ⟨rfl, held⟩

/-- The writer of a connection whose outbox has changed writes what it holds, if it still runs. -/
theorem drain {connection : ConnectionId}
    (mirrors : Mirrors leaving (connection :: unseen) gateway service)
    (awaited : connection ∈ leaving) :
    ∃ next, Mimics Session.Served gateway next service (service.drain connection) ∧
      Mirrors leaving unseen next (service.drain connection) ∧
      List.Forall₂ Ages service.sockets (service.drain connection).sockets ∧
      (service.drain connection).hub.dispatcher.isIdle = service.hub.dispatcher.isIdle := by
  by_cases runs : ∃ socket ∈ service.sockets, socket.connection = connection ∧ socket.running = true
  · obtain ⟨socket, member, rfl, running⟩ := runs
    exact mirrors.drain_running member running awaited
  · have stopped : ∀ socket ∈ service.sockets, socket.connection = connection →
        socket.running = false := fun socket member same =>
      Bool.eq_false_iff.mpr fun running => runs ⟨socket, member, same, running⟩
    have same : service.drain connection = service := drain_eq_self stopped
    rw [same]
    refine ⟨gateway, .refl gateway service, mirrors.recount (fun _ _ _ => Iff.rfl) ?_,
      AllAge.refl _, rfl⟩
    intro socket member running isUnseen
    refine (List.mem_cons.mp isUnseen).resolve_left fun isOwn => ?_
    exact Bool.eq_false_iff.mp (stopped socket member isOwn) running

/-- The writers of connections whose outboxes have changed write what they hold. -/
theorem drainAll {woken : List Socket}
    (mirrors : Mirrors leaving (woken.map Socket.connection) gateway service)
    (awaited : ∀ socket ∈ woken, socket.connection ∈ leaving) :
    ∃ next, Mimics Session.Served gateway next service
        (woken.foldl (fun service socket => service.drain socket.connection) service) ∧
      Mirrors leaving [] next
        (woken.foldl (fun service socket => service.drain socket.connection) service) ∧
      List.Forall₂ Ages service.sockets
        (woken.foldl (fun service socket => service.drain socket.connection) service).sockets ∧
      (woken.foldl (fun service socket => service.drain socket.connection)
        service).hub.dispatcher.isIdle = service.hub.dispatcher.isIdle := by
  induction woken generalizing gateway service with
  | nil => exact ⟨gateway, .refl gateway service, mirrors, AllAge.refl _, rfl⟩
  | cons socket rest ih =>
    rw [List.forall_mem_cons] at awaited
    obtain ⟨next, mimics, drained, ages, idle⟩ := drain mirrors awaited.1
    obtain ⟨last, further, allDrained, laterAges, stillIdle⟩ := ih drained awaited.2
    exact ⟨last, mimics.trans further, allDrained, AllAge.trans ages laterAges,
      stillIdle.trans idle⟩

/-! ## Sockets that have ended -/

/-- The sockets that have ended unregister their connections. -/
theorem departAll {ended : List Socket}
    (mirrors : Mirrors (ended.map Socket.connection) service.hub.touched gateway service)
    (apart : (ended.map Socket.connection).Nodup)
    (stopped : ∀ socket ∈ ended, ∃ older ∈ service.sockets, Ages socket older ∧
      older.running = false) :
    ∃ next, Mimics Session.Served gateway next service (ended.foldl Service.depart service) ∧
      Mirrors [] (ended.foldl Service.depart service).hub.touched next
        (ended.foldl Service.depart service) ∧
      (ended.foldl Service.depart service).sockets = service.sockets := by
  induction ended generalizing gateway service with
  | nil => exact ⟨gateway, .refl gateway service, mirrors, rfl⟩
  | cons socket rest ih =>
    rw [List.forall_mem_cons] at stopped
    rw [List.map_cons, List.nodup_cons] at apart
    obtain ⟨⟨older, member, ages, isOver⟩, others⟩ := stopped
    obtain ⟨next, mimics, departed, same⟩ :=
      mirrors.depart apart.1 older member isOver ages.connection ages.user
    obtain ⟨last, further, allDeparted, still⟩ := ih departed apart.2 (by rwa [same])
    exact ⟨last, mimics.trans further, allDeparted, still.trans same⟩

/-! ## Rounds -/

/-- A socket has ended exactly if it is known and runs no more. -/
theorem hasEnded_iff {socket : Socket} : service.hasEnded socket = true ↔
    ∃ older, service.socket? socket.connection = some older ∧ older.running = false := by
  rw [Service.hasEnded]
  cases service.socket? socket.connection <;> simp

/-- One round of settling: the dispatcher has come to rest, writers have written, and some sockets
have ended. -/
structure Round (gateway : Gateway) (service : Service) (next : Gateway) (drained : Service)
    (ended : List Socket) : Prop where
  goes_on : ∀ fuel, service.settleWithin (fuel + 1) =
    if ended.isEmpty then drained else (ended.foldl Service.depart drained).settleWithin fuel
  mimics : Mimics Session.Served gateway next service drained
  mirrors : Mirrors (ended.map Socket.connection) [] next drained
  idle : drained.hub.dispatcher.isIdle = true
  ages : List.Forall₂ Ages service.sockets drained.sockets
  apart : (ended.map Socket.connection).Nodup
  present : ∀ socket ∈ ended, socket ∈ service.sockets ∧ socket.running = true
  stopped : ∀ socket ∈ ended, ∃ older ∈ drained.sockets, Ages socket older ∧ older.running = false

/-- The hub of a service is not let go of. -/
theorem setReachable_eq (mirrors : Mirrors leaving unseen gateway service) :
    service.hub.setReachable service.inUse = service.hub := by
  have reachable := mirrors.inService.reachable
  have used : service.inUse = true := by rw [Service.inUse, mirrors.held, Bool.true_or]
  rw [used, ← reachable]
  rfl

theorem exists_round (mirrors : Mirrors [] service.hub.touched gateway service) :
    ∃ next drained ended, Round gateway service next drained ended := by
  obtain ⟨requests, runs, idle, settled⟩ := mirrors.settle
  let applied : Service := { service with hub := service.hub.settle }
  let woken := applied.runningAmong applied.hub.touched.eraseDups
  let seen := applied.withHub fun hub => { hub with touched := [] }
  let drained := woken.foldl (fun service socket => service.drain socket.connection) seen
  let ended := woken.filter drained.hasEnded
  have isWoken {socket : Socket} : socket ∈ woken ↔ socket ∈ service.sockets ∧
      socket.running = true ∧ socket.connection ∈ applied.hub.touched := by
    refine mem_runningAmong.trans ⟨fun ⟨touched, found, running⟩ => ?_,
      fun ⟨member, running, touched⟩ => ?_⟩
    · exact ⟨(socket?_eq_some found).1, running, List.mem_eraseDups.mp touched⟩
    · exact ⟨List.mem_eraseDups.mpr touched, socket?_connection settled.apart member, running⟩
  have wokenApart : (woken.map Socket.connection).Nodup :=
    nodup_runningAmong (nodup_eraseDups applied.hub.touched)
  -- From here on the woken sockets are those that may end, and whose outboxes have to be looked at.
  have marked : Mirrors (woken.map Socket.connection) (woken.map Socket.connection)
      (gateway.ran requests service.hub.settle.dispatcher) applied := by
    refine settled.recount (fun socket member stopped => ?_) fun socket member running touched =>
      List.mem_map_of_mem (isWoken.mpr ⟨member, running, touched⟩)
    refine iff_of_false (fun isMarked => ?_) List.not_mem_nil
    -- A woken socket runs, and no other is of its connection.
    obtain ⟨other, isOther, same⟩ := List.mem_map.mp isMarked
    obtain ⟨otherMember, running, -⟩ := isWoken.mp isOther
    have found := socket?_connection settled.apart otherMember
    rw [same, socket?_connection settled.apart member] at found
    obtain rfl := Option.some.inj found
    cases stopped.symm.trans running
  have looked : Mirrors (woken.map Socket.connection) (woken.map Socket.connection)
      (gateway.ran requests service.hub.settle.dispatcher) seen :=
    ⟨marked.steady, marked.config, marked.settings, marked.dispatcher, marked.held,
      marked.serial_lt, marked.shows, marked.still⟩
  obtain ⟨next, wrote, written, ages, sameIdle⟩ :=
    looked.drainAll fun socket member => List.mem_map_of_mem member
  refine ⟨next, drained, ended, ?_⟩
  constructor
  case goes_on =>
    intro fuel
    have applies : service.withHub (fun hub => (hub.setReachable service.inUse).settle) = applied :=
      congrArg (fun hub : Hub => ({ service with hub := hub.settle } : Service))
        mirrors.setReachable_eq
    simp only [Service.settleWithin, applies]
    rfl
  case mimics =>
    have silent : Mimics Session.Served gateway
        (gateway.ran requests service.hub.settle.dispatcher) service seen :=
      .still (mirrors.reachesBy runs) rfl rfl
    exact silent.trans wrote
  case mirrors =>
    refine written.recount (fun socket member stopped => ⟨fun isEnded => ?_, fun isMarked => ?_⟩)
      fun _ _ _ isUnseen => isUnseen
    · obtain ⟨one, isOne, same⟩ := List.mem_map.mp isEnded
      exact List.mem_map.mpr ⟨one, (List.mem_filter.mp isOne).1, same⟩
    · obtain ⟨one, isOne, same⟩ := List.mem_map.mp isMarked
      refine List.mem_map.mpr ⟨one, List.mem_filter.mpr ⟨isOne, hasEnded_iff.mpr ?_⟩, same⟩
      exact ⟨socket, same ▸ socket?_connection written.apart member, stopped⟩
  case idle => exact sameIdle.trans idle
  case ages => exact ages
  case apart => exact wokenApart.sublist (List.filter_sublist.map _)
  case present =>
    intro socket isEnded
    obtain ⟨member, running, -⟩ := isWoken.mp (List.mem_filter.mp isEnded).1
    exact ⟨member, running⟩
  case stopped =>
    intro socket isEnded
    obtain ⟨isOne, atEnd⟩ := List.mem_filter.mp isEnded
    obtain ⟨older, isOlder, aged⟩ := exists_mem_right ages (isWoken.mp isOne).1
    obtain ⟨found, sameConnection, stopped⟩ := hasEnded_iff.mp atEnd
    rw [← aged.connection, socket?_connection written.apart isOlder] at sameConnection
    obtain rfl := Option.some.inj sameConnection
    exact ⟨older, isOlder, aged, stopped⟩

/-- A service that settles for more rounds than it has running sockets comes to rest. -/
theorem settleWithin (mirrors : Mirrors [] service.hub.touched gateway service) {fuel : Nat}
    (enough : service.sockets.countP (·.running) < fuel) :
    ∃ next, Mimics Session.Served gateway next service (service.settleWithin fuel) ∧
      Mirrors [] [] next (service.settleWithin fuel) ∧
      (service.settleWithin fuel).hub.dispatcher.isIdle = true := by
  induction fuel generalizing gateway service with
  | zero => exact absurd enough (Nat.not_lt_zero _)
  | succ fuel ih =>
    obtain ⟨next, drained, ended, round⟩ := mirrors.exists_round
    rw [round.goes_on]
    cases atEnd : ended with
    | nil =>
      refine ⟨next, round.mimics, ?_, round.idle⟩
      simpa [atEnd] using round.mirrors
    | cons socket rest =>
      have isEnded : socket ∈ ended := by simp [atEnd]
      obtain ⟨last, further, departed, same⟩ :=
        (round.mirrors.mono drained.hub.touched).departAll round.apart round.stopped
      rw [atEnd] at further departed same
      -- At least one socket has ended in this round.
      have fewer : (((socket :: rest).foldl Service.depart drained).sockets.countP (·.running)) <
          service.sockets.countP (·.running) := by
        obtain ⟨member, running⟩ := round.present socket isEnded
        rw [same]
        refine AllAge.countP_lt round.ages member running fun older isOlder sameConnection => ?_
        obtain ⟨found, isFound, aged, stopped⟩ := round.stopped socket isEnded
        have unique := socket?_connection round.mirrors.apart isOlder
        rw [sameConnection, ← aged.connection,
          socket?_connection round.mirrors.apart isFound] at unique
        exact Option.some.inj unique ▸ stopped
      obtain ⟨final, onward, rests, idle⟩ := ih departed (by omega)
      exact ⟨final, (round.mimics.trans further).trans onward, rests, idle⟩

/-- A service with an idle dispatcher that has seen every change stands for a gateway that is
quiescent. -/
theorem quiescent (mirrors : Mirrors [] [] gateway service)
    (idle : service.hub.dispatcher.isIdle = true) : gateway.Quiescent := by
  refine ⟨mirrors.dispatcher ▸ idle, fun session member deed next turns => ?_⟩
  obtain ⟨socket, isSocket, shows⟩ := mirrors.exists_showing member
  cases running : socket.running with
  | true =>
    have still := mirrors.still socket isSocket running List.not_mem_nil
    have connection : session.connection = socket.connection := by
      rw [Session.connection, shows.handle]
    exact absurd turns ((shows.isOpen running).not_turn (connection ▸ still))
  | false => exact absurd turns (shows.hasEnded running List.not_mem_nil).not_turn

/-- A service settles. -/
theorem exists_settled (mirrors : Mirrors [] service.hub.touched gateway service) :
    ∃ next, Mimics Session.Served gateway next service service.settle ∧
      Mirrors [] [] next service.settle ∧ next.Quiescent := by
  have enough : service.sockets.countP (·.running) < service.sockets.length + 2 :=
    Nat.lt_add_right 1 (Nat.lt_succ_of_le List.countP_le_length)
  obtain ⟨next, mimics, rests, idle⟩ := mirrors.settleWithin enough
  exact ⟨next, mimics, rests, rests.quiescent idle⟩

/-- A service that has settled stands for a gateway that is quiescent. -/
theorem settle_quiescent (mirrors : Mirrors [] service.hub.touched gateway service) :
    ∃ next, Gateway.Reaches gateway next ∧ Mirrors [] [] next service.settle ∧ next.Quiescent := by
  obtain ⟨next, mimics, rests⟩ := mirrors.exists_settled
  exact ⟨next, mimics.reaches, rests⟩

end Mirrors

end Switchboard.WebSocket
