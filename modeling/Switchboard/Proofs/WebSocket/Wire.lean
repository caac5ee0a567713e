import Switchboard.Proofs.WebSocket.Draining
import Switchboard.Proofs.WebSocket.Operation

/-!
# What clients receive

Whatever happens to a service, what its clients have received and what is on its way to them is what
the sessions of the gateway have written that the service stands for, but for the answers to pings
(`Logs.of_sends`). So the frames that a client receives are those of the payloads that have been
taken from the outbox of its connection, and once the hub has let go of it, of all that is in the
outbox, before a close frame (`conveyance`).
-/

namespace Switchboard

open Hub WebSocket

variable {gateway : Gateway} {service : Service} {log : ConnectionId → List ServerFrame}

/-- A run of a service in which clients receive frames; the log says which. -/
inductive Service.Sends (first : Service) : (ConnectionId → List ServerFrame) → Service → Prop where
  | start : Sends first (fun _ => []) first
  | step {log : ConnectionId → List ServerFrame} {service next : Service}
      (sends : Sends first log service) (steps : service.Step next)
      (silent : ∀ connection collected,
        service.collectFrames connection ≠ some (next, collected)) : Sends first log next
  | collect {log : ConnectionId → List ServerFrame} {service next : Service}
      {connection : ConnectionId} {frames : List ServerFrame} {isOver : Bool}
      (sends : Sends first log service)
      (collects : service.collectFrames connection = some (next, frames, isOver)) :
      Sends first (Function.update log connection (log connection ++ frames)) next

/-- When a client receives something, no request enters. -/
theorem Service.collectFrames_ne {next : Service}
    (differs : next.hub.dispatcher.nextStamp ≠ service.hub.dispatcher.nextStamp)
    (connection : ConnectionId) (collected : List ServerFrame × Bool) :
    service.collectFrames connection ≠ some (next, collected) := by
  intro collects
  obtain ⟨socket, -, same⟩ := Option.map_eq_some_iff.mp collects
  exact differs (congrArg (fun result => result.1.hub.dispatcher.nextStamp) same).symm

namespace WebSocket

/-! ## What is written is what is received -/

/-- A client receives what is on its way to it. -/
theorem Logs.collect (logs : Logs log gateway service)
    (apart : (service.sockets.map Socket.connection).Nodup) {connection : ConnectionId}
    {after : Service} {frames : List ServerFrame} {isOver : Bool}
    (collects : service.collectFrames connection = some (after, frames, isOver)) :
    Logs (Function.update log connection (log connection ++ frames)) gateway after := by
  obtain ⟨socket, found, same⟩ := Option.map_eq_some_iff.mp collects
  obtain ⟨rfl, rfl, -⟩ : service.changeSocket connection (fun socket =>
      { socket with sent := [] }) = after ∧ socket.sent = frames ∧ _ := by simpa using same
  obtain ⟨member, rfl⟩ := socket?_eq_some found
  have connections : (service.changeSocket socket.connection fun socket =>
      { socket with sent := [] }).sockets.map Socket.connection =
        service.sockets.map Socket.connection := by
    rw [Service.changeSocket, List.map_map]
    refine List.map_congr_left fun socket _ => ?_
    simp only [Function.comp_apply]
    split <;> rfl
  refine ⟨?_, fun other absent => ?_⟩
  · rw [logs.written, Service.changeSocket, List.map_map]
    refine List.map_congr_left fun other isOther => ?_
    by_cases own : other.connection = socket.connection
    · -- No other socket is of this connection.
      have isFound := socket?_connection apart isOther
      rw [own, found] at isFound
      obtain rfl := Option.some.inj isFound
      simp
    · simp [own]
  · rw [connections] at absent
    have different : other ≠ socket.connection := fun isOwn =>
      absent (isOwn ▸ List.mem_map_of_mem member)
    rw [Function.update_of_ne different]
    exact logs.unknown other absent

/-- What happens to a service is a run of the gateway that it stands for in which every write
succeeds, and clients receive what the sessions write. -/
theorem Logs.of_sends {config : Config} (sends : Service.Sends (.create config) log service) :
    ∃ gateway, Gateway.ReachesBy Session.Accepts (.start config) gateway ∧
      Mirrors [] service.hub.touched gateway service ∧ Logs log gateway service := by
  induction sends with
  | start => exact ⟨_, .refl, .create config, rfl, fun _ _ => rfl⟩
  | step _ steps silent ih =>
    obtain ⟨gateway, run, mirrors, logs⟩ := ih
    obtain ⟨next, mimics, mirrored⟩ | ⟨connection, collected, collects⟩ := mirrors.step steps
    · exact ⟨next, run.trans mimics.run, mirrored, mimics.logs _ logs⟩
    · exact absurd collects (silent connection collected)
  | collect _ collects ih =>
    obtain ⟨gateway, run, mirrors, logs⟩ := ih
    exact ⟨gateway, run, mirrors.collect collects, logs.collect mirrors.apart collects⟩

namespace Mirrors

variable {leaving unseen : List ConnectionId}

/-- A session has written what the client of its socket has received or is about to. -/
theorem forall_written (mirrors : Mirrors leaving unseen gateway service)
    (logs : Logs log gateway service) :
    List.Forall₂ (fun socket session => Shows leaving socket session ∧
      session.written = (log socket.connection ++ socket.sent).filter isWritten)
      service.sockets gateway.sessions := by
  refine mirrors.shows.mp (fun _ _ => And.intro) ?_
  have same := logs.written.symm
  rw [← List.forall₂_eq_eq_eq, List.forall₂_map_left_iff, List.forall₂_map_right_iff] at same
  exact same.imp fun _ _ => Eq.symm

theorem exists_writing (mirrors : Mirrors leaving unseen gateway service)
    (logs : Logs log gateway service) {socket : Socket} (member : socket ∈ service.sockets) :
    ∃ session ∈ gateway.sessions, Shows leaving socket session ∧
      session.written = (log socket.connection ++ socket.sent).filter isWritten :=
  exists_mem_right (mirrors.forall_written logs) member

theorem exists_written (mirrors : Mirrors leaving unseen gateway service)
    (logs : Logs log gateway service) {session : Session} (member : session ∈ gateway.sessions) :
    ∃ socket ∈ service.sockets, Shows leaving socket session ∧
      session.written = (log socket.connection ++ socket.sent).filter isWritten :=
  exists_mem_left (mirrors.forall_written logs) member

end Mirrors

/-! ## What a connection carries -/

/-- The frames that have been written are those of the payloads that have been taken, in order and
but for the last ones, which are `missing`. There may be one close frame after them, and then the
writer has `ended`. -/
def Conveys (written : List ServerFrame) (taken missing : List Payload) (ended : Prop) : Prop :=
  ∃ frames ending sent, written = frames ++ ending ∧ List.Forall₂ Carries frames sent ∧
    taken = sent ++ missing ∧ (ending = [] ∨ ending = [.close] ∧ ended)

/-- What a client of a service receives: the frames of what has been taken from its outbox. When a
running socket ends because the hub has let go of its connection, it receives the frames of what is
buffered, and a close frame after them. -/
structure Supplies (log : ConnectionId → List ServerFrame) (gateway : Gateway) (service : Service)
    (socket : Socket) : Prop where
  conveys : Conveys ((log socket.connection ++ socket.sent).filter isWritten)
    (gateway.received socket.connection) [] (socket.running = false)
  drains : socket.running = true →
    ¬ service.settle.hub.state.Registers ⟨socket.connection, socket.user⟩ →
    ∃ after ∈ service.settle.sockets, after.connection = socket.connection ∧
      after.running = false ∧ ∃ frames more,
        List.Forall₂ Carries frames (service.hub.state.buffered socket.connection ++ more) ∧
        (gateway.LetsGo ⟨socket.connection, socket.user⟩ → more = []) ∧
        (log socket.connection ++ after.sent).filter isWritten =
          (log socket.connection ++ socket.sent).filter isWritten ++ frames ++ [.close]

/-- Where nothing has been written, everything is missing. -/
theorem Conveys.taken_eq {taken missing : List Payload} {ended : Prop}
    (conveys : Conveys [] taken missing ended) : taken = missing := by
  obtain ⟨frames, ending, sent, isWritten, carries, isTaken, -⟩ := conveys
  rw [(List.nil_eq_append_iff.mp isWritten).1, List.forall₂_nil_left_iff] at carries
  rw [isTaken, carries, List.nil_append]

theorem Session.Accounts.conveys {session : Session} {taken : List Payload}
    (accounts : session.Accounts taken []) :
    Conveys session.written taken session.writer.underWay (session.writer = .ended) := by
  obtain ⟨sent, ending, isWritten, atEnd, isTaken⟩ := accounts.exists_written
  exact ⟨_, ending, sent, isWritten, carries_map_ofPayload sent,
    isTaken.trans (List.append_nil _), atEnd⟩

/-- Whatever becomes of the transport, at most one payload is missing. -/
theorem Session.Accounts.exists_conveys {session : Session} {taken lost : List Payload}
    (accounts : session.Accounts taken lost) : ∃ missing, missing.length ≤ 1 ∧
      Conveys session.written taken missing (session.writer = .ended) := by
  obtain ⟨sent, ending, isWritten, atEnd, isTaken⟩ := accounts.exists_written
  refine ⟨session.writer.underWay ++ lost, ?_, _, ending, sent, isWritten,
    carries_map_ofPayload sent, isTaken.trans (List.append_assoc ..), atEnd⟩
  cases writer : session.writer with
  | draining | writing =>
    rw [accounts.attentive (by rw [writer]; trivial)]
    simp [WriterStage.underWay]
  | closing | ended => simpa [WriterStage.underWay] using accounts.few

variable {socket : Socket}

/-- The writer of a socket's session is about to write nothing, and has ended exactly if the socket
does not run. -/
theorem Shows.writer {session : Session} (shows : Shows [] socket session) :
    session.writer.underWay = [] ∧ (session.writer = .ended ↔ socket.running = false) := by
  cases running : socket.running with
  | true => simp [(shows.isOpen running).writer, WriterStage.underWay]
  | false => simp [(shows.hasEnded running List.not_mem_nil).writer, WriterStage.underWay]

/-- The client of a socket receives what the session that it stands for writes. -/
theorem Mirrors.supplies {config : Config}
    (mirrors : Mirrors [] service.hub.touched gateway service) (logs : Logs log gateway service)
    (run : Gateway.ReachesBy Session.Accepts (.start config) gateway)
    (member : socket ∈ service.sockets) : Supplies log gateway service socket := by
  obtain ⟨session, isSession, shows, written⟩ := mirrors.exists_writing logs member
  have own : session.connection = socket.connection := congrArg Handle.connection shows.handle
  have accepts := run.acceptsOn socket.connection
  constructor
  case conveys =>
    have conveys := (accepts.accounted isSession own).conveys
    rwa [shows.writer.1, shows.writer.2, written] at conveys
  case drains =>
    intro running absent
    obtain ⟨next, mimics, rests, quiescent⟩ := mirrors.exists_settled
    rw [rests.state_eq, ← shows.handle] at absent
    obtain ⟨later, isLater, handle, ended, more, nothing, all⟩ :=
      Gateway.exists_written_of_isOpen accepts isSession own (shows.isOpen running)
        (mimics.run.mono fun _ _ served _ => served) quiescent absent
    obtain ⟨after, isAfter, showsAfter, writtenAfter⟩ :=
      rests.exists_written (mimics.logs log logs) isLater
    have same : after.connection = socket.connection := by
      rw [← own, Session.connection, ← handle, showsAfter.handle]
    refine ⟨after, isAfter, same, showsAfter.writer.2.mp ended.writer, _, more,
      carries_map_ofPayload _, shows.handle ▸ nothing, ?_⟩
    rw [← written, mirrors.state_eq, ← all, writtenAfter, same]

/-- Whatever happens, the data frames that are written over a connection are those of the payloads
that have been taken from its outbox, one for each and in order, as text if the payload is UTF-8 and
as bytes if it is not; at most the last one is missing, and where the transport accepts what is
written, only while it is about to be written. When the hub lets go of a connection whose client
stays, all that is buffered is written before one close frame, and nothing is after that. So it is
for the clients of a service. -/
theorem conveyance (config : Config) :
    (∀ gateway, Gateway.Reaches (.start config) gateway → ∀ session ∈ gateway.sessions,
      ∃ missing, missing.length ≤ 1 ∧ Conveys session.written
        (gateway.received session.connection) missing (session.writer = .ended)) ∧
    (∀ connection gateway,
      Gateway.ReachesBy (Gateway.AcceptsOn connection) (.start config) gateway →
      ∀ session ∈ gateway.sessions, session.connection = connection →
        Conveys session.written (gateway.received connection) session.writer.underWay
          (session.writer = .ended) ∧
        (session.reader ≠ .ended → gateway.LetsGo session.handle →
          ∀ next, Gateway.ReachesBy (Gateway.StaysOn connection) gateway next →
            ∃ after ∈ next.sessions, after.handle = session.handle ∧
              Gateway.Drained (gateway.accrued connection) next after)) ∧
    ∀ log service, Service.Sends (.create config) log service →
      ∃ gateway, Gateway.ReachesBy Session.Accepts (.start config) gateway ∧
        Mirrors [] service.hub.touched gateway service ∧
        ∀ socket ∈ service.sockets, Supplies log gateway service socket := by
  refine ⟨fun gateway reached session member => ?_,
    fun connection gateway reached session member own => ?_, fun log service sends => ?_⟩
  · have run := (Gateway.Steady.start config).reachesBy reached
    obtain ⟨lost, accounts, -⟩ := run.exists_accounts session member
    exact accounts.exists_conveys
  · exact ⟨(reached.accounted member own).conveys, fun present letsGo next further =>
      Gateway.drained_of_reachesBy reached member own present letsGo further⟩
  · obtain ⟨gateway, run, mirrors, logs⟩ := Logs.of_sends sends
    exact ⟨gateway, run, mirrors, fun socket member => mirrors.supplies logs run member⟩

/-! ## A socket that is superseded -/

/-- A user opens a socket, is sent a text and bytes that are none, and opens another socket, before
anything else happens. -/
def superseded : Service :=
  let opened := ((Service.create {}).openSocket 7).1
  let told := opened.withHub fun hub => (hub.submit (.to [7] "hi".toUTF8)).1
  let sent := told.withHub fun hub => (hub.submit (.to [7] ⟨#[0xff]⟩)).1
  (sent.openSocket 7).1

theorem sends_superseded : Service.Sends (.create {}) (fun _ => []) superseded := by
  refine .step (.step (.step (.step .start (.opens rfl 7) ?_) (.submits (.to [7] "hi".toUTF8)) ?_)
    (.submits (.to [7] ⟨#[0xff]⟩)) ?_) (.opens rfl 7) ?_ <;>
  exact Service.collectFrames_ne (by decide +kernel)

/-- The first socket is open. -/
theorem exists_socket_superseded : ∃ socket ∈ superseded.sockets, socket.connection = ⟨0⟩ ∧
    socket.user = 7 ∧ socket.running = true ∧ socket.sent = [] := by
  have all : ∀ socket ∈ superseded.sockets,
      socket.user = 7 ∧ socket.running = true ∧ socket.sent = [] := by decide +kernel
  obtain ⟨socket, member, connection⟩ :=
    List.mem_map.mp (by decide +kernel : ⟨0⟩ ∈ superseded.sockets.map Socket.connection)
  exact ⟨socket, member, connection, all socket member⟩

/-- The hub lets go of the first socket while what has been sent to it is still buffered, and then
everything comes to rest. -/
theorem exists_run_superseded : ∃ gateway next session,
    Gateway.ReachesBy (Gateway.AcceptsOn ⟨0⟩) (.start {}) gateway ∧
    gateway.state.buffered ⟨0⟩ = ["hi".toUTF8, ⟨#[0xff]⟩] ∧
    session ∈ gateway.sessions ∧ session.handle = ⟨⟨0⟩, 7⟩ ∧ session.IsOpen ∧
    session.written = [] ∧ gateway.LetsGo session.handle ∧
    Gateway.ReachesBy (Gateway.StaysOn ⟨0⟩) gateway next ∧ next.Quiescent := by
  obtain ⟨before, run, mirrors, logs⟩ := Logs.of_sends sends_superseded
  obtain ⟨applied, runs, idle, settled⟩ := mirrors.settle
  let heard : Service := { superseded with hub := superseded.hub.settle }
  have settled : Mirrors [] heard.hub.touched _ heard := settled
  obtain ⟨next, mimics, -, quiescent⟩ := settled.exists_settled
  have reached := run.trans (mirrors.reachesBy runs)
  obtain ⟨socket, member, connection, user, running, unsent⟩ := exists_socket_superseded
  obtain ⟨session, isSession, shows, written⟩ := mirrors.exists_writing logs member
  have handle : session.handle = ⟨⟨0⟩, 7⟩ := by rw [shows.handle, connection, user]
  have isOpen := shows.isOpen running
  -- The dispatcher rests, so the registration that it has submitted has been applied.
  obtain ⟨rest, submissions⟩ :=
    settled.steady.submittedBy_eq_cons isSession (by simp [isOpen.phase])
  have entered := mem_of_mem_submittedBy (submissions ▸ List.mem_cons_self)
  refine ⟨_, next, session, reached.acceptsOn ⟨0⟩, ?_, isSession, handle, isOpen, ?_,
    ⟨settled.steady.applied_of_mem idle (List.mem_map_of_mem entered), ?_⟩,
    mimics.run.mono fun _ _ served _ => served, quiescent⟩
  · rw [← settled.state_eq]
    decide +kernel
  · rw [written, unsent]
    rfl
  · rw [← settled.state_eq, handle]
    decide +kernel

/-- The first socket receives both payloads, the second of them as it is, and a close frame. -/
theorem conveyance_superseded :
    (∃ (gateway next : Gateway) (session after : Session), session ∈ gateway.sessions ∧
      gateway.LetsGo session.handle ∧ gateway.state.buffered ⟨0⟩ = ["hi".toUTF8, ⟨#[0xff]⟩] ∧
      session.written = [] ∧ next.Quiescent ∧ after ∈ next.sessions ∧
      after.handle = session.handle ∧
      after.written = [.text "hi", .binary ⟨#[0xff]⟩, .close]) ∧
    (∃ after ∈ superseded.settle.sockets, after.connection = ⟨0⟩ ∧ after.running = false ∧
      ∃ frames, after.sent.filter isWritten = frames ++ [.close]) ∧
    superseded.settle.sockets.map Socket.sent =
      [[.text "hi", .binary ⟨#[0xff]⟩, .close], []] := by
  refine ⟨?_, ?_, by decide +kernel⟩
  · obtain ⟨gateway, next, session, reached, buffered, member, handle, isOpen, unwritten, letsGo,
      further, quiescent⟩ := exists_run_superseded
    obtain ⟨conveys, drains⟩ := (conveyance {}).2.1 ⟨0⟩ gateway reached session member
      (congrArg Handle.connection handle)
    obtain ⟨after, isAfter, same, drained⟩ := drains (by simp [isOpen.reader]) letsGo next further
    rw [unwritten, isOpen.writer] at conveys
    have accrued : gateway.accrued ⟨0⟩ = ["hi".toUTF8, ⟨#[0xff]⟩] := by
      rw [Gateway.accrued, conveys.taken_eq, buffered]
      rfl
    obtain ⟨frames, carries, -, whole⟩ := drained.frames
    rw [accrued, forall₂_carries_iff] at carries
    refine ⟨gateway, next, session, after, member, letsGo, buffered, unwritten, quiescent, isAfter,
      same, ?_⟩
    rw [whole (drained.ended quiescent).writer, carries]
    decide +kernel
  · obtain ⟨gateway, -, -, supplies⟩ := (conveyance {}).2.2 _ _ sends_superseded
    obtain ⟨socket, member, connection, user, running, unsent⟩ := exists_socket_superseded
    have absent : ¬ superseded.settle.hub.state.Registers ⟨⟨0⟩, 7⟩ := by decide +kernel
    obtain ⟨after, isAfter, same, stopped, frames, -, -, -, received⟩ :=
      (supplies socket member).drains running (by rwa [connection, user])
    rw [unsent] at received
    exact ⟨after, isAfter, same.trans connection, stopped, frames, received⟩

end WebSocket

end Switchboard
