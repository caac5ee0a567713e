import Switchboard.Proofs.Hub.Settling
import Switchboard.Proofs.WebSocket.Frames

/-!
# Many turns at once

What the tasks of a session do when nothing comes between them: the writer takes and writes all that
its outbox holds, and a session one of whose tasks has ended ends. What a dispatcher does in a while
is a run of the gateway, too. All writes succeed in these runs.
-/

namespace Switchboard.WebSocket

open Hub

variable {gateway first : Gateway}

/-- Writer and reader of a session have ended, and it is about to unregister. -/
structure Session.IsLeaving (session : Session) : Prop where
  phase : session.phase = .departing
  writer : session.writer = .ended
  reader : session.reader = .ended

/-- The outbox after its writer has taken everything. -/
def emptied (outbox : Outbox) : Outbox := { outbox with buffer := [] }

/-- What draining leaves of an outbox. -/
def leftover (outbox : Outbox) : Outbox :=
  if outbox.held then emptied outbox else (emptied outbox).abandon

namespace Gateway

/-- The gateway after steps of the dispatcher. -/
def ran (gateway : Gateway) (applied : List Request) (after : Dispatcher) : Gateway :=
  { gateway with
    dispatcher := after
    performed := gateway.performed ++ applied.map .apply }

section

variable {change : Session → Session → Prop} [Std.Refl change] {next : Gateway}

/-- A step that leaves all sessions as they are. -/
theorem ReachesBy.still (reached : ReachesBy change first gateway) (steps : gateway.Step next)
    (same : next.sessions = gateway.sessions) : ReachesBy change first next :=
  reached.step steps ⟨_, [], same.trans (List.append_nil _).symm, List.forall₂_refl _⟩

theorem ReachesBy.runs (reached : ReachesBy change first gateway) {applied : List Request}
    {after : Dispatcher} (runs : gateway.dispatcher.Runs applied after) :
    ReachesBy change first (gateway.ran applied after) := by
  induction runs with
  | refl => simpa [ran] using reached
  | step _ moves ih => simpa [ran] using ih.still (.move moves) rfl

/-- A session is opened. -/
theorem ReachesBy.opens (reached : ReachesBy change first gateway) (steps : gateway.Step next)
    {session : Session} (sessions : next.sessions = gateway.sessions ++ [session]) :
    ReachesBy change first next :=
  reached.step steps ⟨_, _, sessions, List.forall₂_refl _⟩

variable {before later : List Session}

/-- One session goes on. -/
theorem ReachesBy.replace (reached : ReachesBy change first gateway) {session after : Session}
    (present : gateway.sessions = before ++ session :: later) (steps : gateway.Step next)
    (sessions : next.sessions = before ++ after :: later) (changes : change session after) :
    ReachesBy change first next := by
  refine reached.step steps ⟨_, [], sessions.trans (List.append_nil _).symm, ?_⟩
  rw [present]
  exact List.rel_append (List.forall₂_refl _) (.cons changes (List.forall₂_refl _))

/-- A session takes a turn. -/
theorem ReachesBy.turn (reached : ReachesBy change first gateway) (session : Session)
    (present : gateway.sessions = before ++ session :: later) {deed : Deed} {after : Session}
    (turns : session.Turn gateway.state deed after) (possible : gateway.Admits deed)
    (changes : change session after) :
    ReachesBy change first
      { gateway.carryOut session.connection deed with sessions := before ++ after :: later } :=
  reached.replace present (.turn present turns possible) rfl changes

end

theorem made_ran (gateway : Gateway) (applied : List Request) (after : Dispatcher) :
    made (gateway.ran applied after).performed = made gateway.performed := by
  have nothing : (applied.map Operation.apply).filterMap Operation.made? = [] := by
    simp [Operation.made?]
  rw [ran, made, List.filterMap_append, nothing, List.append_nil, made]

/-- What the dispatcher does leaves a handle alone that the hub has not been given. -/
theorem Spare.ran {handle : Handle} {applied : List Request} {after : Dispatcher}
    (spare : gateway.Spare handle) (steady : (gateway.ran applied after).Steady) :
    (gateway.ran applied after).Spare handle := by
  refine ⟨⟨(gateway.made_ran applied after).symm ▸ spare.inHand.1, fun gone => ?_⟩, spare.foreign,
    spare.kept⟩
  rcases mem_spent_iff.mp gone with closed | given
  · rcases List.mem_append.mp closed with earlier | now
    · exact spare.inHand.2 (mem_spent_iff.mpr (.inl earlier))
    · obtain ⟨_, _, isApply⟩ := List.mem_map.mp now
      cases isApply
  · have applied := mem_filterMap_request?.mpr given
    exact spare.kept (steady.service.faithful.applied_prefix.subset applied)

theorem Permits.ran {request : Request} {applied : List Request} {after : Dispatcher}
    (permitted : gateway.Permits request) (steady : (gateway.ran applied after).Steady) :
    (gateway.ran applied after).Permits request := by
  cases request with
  | register handle => exact Spare.ran permitted steady
  | unregister user connection => exact trivial
  | fanout request => exact trivial

variable {before later : List Session} {session : Session}

/-- A session whose reader has ended lets go of its outbox. -/
theorem ReachesBy.leave (reached : ReachesBy Session.Accepts first gateway) (session : Session)
    (present : gateway.sessions = before ++ session :: later) (phase : session.phase = .serving)
    (writer : session.writer = .draining) (reader : session.reader = .ended) :
    ReachesBy Session.Accepts first
      { gateway.use (.abandon session.connection) with
        sessions := before ++
          { session with phase := .departing, writer := .ended } :: later } := by
  have attends : session.writer.Attends := by rw [writer]; trivial
  have noticed : ReachesBy Session.Accepts first
      { gateway with sessions := before ++ { session with phase := .departing } :: later } :=
    reached.turn session present (.notice phase (.inr reader)) trivial (.of_writer_eq rfl)
  exact noticed.turn { session with phase := .departing } rfl (.cancel_writer (.inl rfl) attends)
    trivial (.of_idle (by simp [writer, WriterStage.frame?]))

section
variable {outbox : Outbox} {payload : Payload} {rest : List Payload}

/-- The writer of a session takes a payload and writes it. -/
theorem ReachesBy.pass (reached : ReachesBy Session.Served first gateway)
    (present : gateway.sessions = before ++ session :: later)
    (started : session.phase ≠ .registering) (writer : session.writer = .draining)
    (found : gateway.state.outboxes[session.connection]? = some outbox)
    (holds : outbox.buffer = payload :: rest) :
    ReachesBy Session.Served first
      { gateway.use (.receive session.connection) with
        sessions := before ++
          { session with written := session.written ++ [.ofPayload payload] } :: later } := by
  have next : outbox.receive.1 = .payload payload := by rw [Outbox.receive, holds]
  have taken : ReachesBy Session.Served first
      { gateway.use (.receive session.connection) with
        sessions := before ++ { session with writer := .writing payload } :: later } :=
    reached.turn session present (.take started writer found next) trivial
      ⟨.of_idle (by simp [writer, WriterStage.frame?]), .of_reader_eq rfl⟩
  have written := taken.turn { session with writer := .writing payload } rfl (.write rfl) trivial
    ⟨.of_written rfl rfl, .of_reader_eq rfl⟩
  rw [← writer] at written
  exact written

/-- An outbox from which a payload has been taken. -/
theorem getElem?_receive {connection : ConnectionId}
    (found : gateway.state.outboxes[connection]? = some outbox)
    (holds : outbox.buffer = payload :: rest) :
    (gateway.use (.receive connection)).state.outboxes[connection]? =
      some { outbox with buffer := rest } := by
  change (gateway.state.changeOutbox connection _).outboxes[_]? = _
  rw [State.getElem?_changeOutbox, if_pos rfl, found, Option.map_some, Outbox.receive, holds]

/-- If an outbox is emptied, it does not matter that a payload has been taken before. -/
theorem changeOutbox_receive_emptied {connection : ConnectionId}
    (found : gateway.state.outboxes[connection]? = some outbox)
    (holds : outbox.buffer = payload :: rest) :
    (gateway.use (.receive connection)).state.changeOutbox connection emptied =
      gateway.state.changeOutbox connection emptied := by
  change (gateway.state.changeOutbox connection _).changeOutbox _ _ = _
  rw [State.changeOutbox_changeOutbox]
  exact State.changeOutbox_congr found (by rw [Outbox.receive, holds]; rfl)

end

/-- The writer of a session takes and writes everything that its outbox holds. -/
theorem ReachesBy.empty (reached : ReachesBy Session.Served first gateway)
    (present : gateway.sessions = before ++ session :: later)
    (started : session.phase ≠ .registering) (writer : session.writer = .draining)
    {outbox : Outbox} (found : gateway.state.outboxes[session.connection]? = some outbox) :
    ∃ performed, made performed = made gateway.performed ∧
      ReachesBy Session.Served first
        { gateway with
          dispatcher := { gateway.dispatcher with
            state := gateway.state.changeOutbox session.connection emptied }
          sessions := before ++
            { session with
              written := session.written ++ outbox.buffer.map ServerFrame.ofPayload } :: later
          performed } := by
  generalize holds : outbox.buffer = payloads
  -- Each payload that is passed on leads to a gateway with one payload less.
  induction payloads generalizing gateway session outbox with
  | nil =>
    have same : gateway.state.changeOutbox session.connection emptied = gateway.state :=
      State.changeOutbox_eq_self fun other there => by
        rw [Option.some.inj (found.symm.trans there)] at holds
        rw [emptied, ← holds]
    refine ⟨gateway.performed, rfl, ?_⟩
    rw [same, List.map_nil, List.append_nil, ← present]
    exact reached
  | cons payload rest ih =>
    have passed := reached.pass present started writer found holds
    obtain ⟨performed, sameMade, drained⟩ :=
      ih passed rfl started writer (getElem?_receive found holds) rfl
    refine ⟨performed, sameMade.trans (by simp [use, Operation.made?]), ?_⟩
    have drained : ReachesBy Session.Served first
        { gateway with
          dispatcher := { gateway.dispatcher with
            state := (gateway.use (.receive session.connection)).state.changeOutbox
              session.connection emptied }
          sessions := before ++
            { session with
              written := session.written ++ [.ofPayload payload] ++
                rest.map ServerFrame.ofPayload } :: later
          performed } := drained
    rw [changeOutbox_receive_emptied found holds, List.append_assoc] at drained
    exact drained

/-- A session whose outbox is empty and let go of ends. -/
theorem ReachesBy.finish (reached : ReachesBy Session.Served first gateway)
    (present : gateway.sessions = before ++ session :: later) (isOpen : session.IsOpen)
    {outbox : Outbox} (found : gateway.state.outboxes[session.connection]? = some outbox)
    (atEnd : outbox.receive.1 = .closed) :
    ReachesBy Session.Served first
      { gateway.use (.abandon session.connection) with
        sessions := before ++
          { session with
            phase := .departing
            writer := .ended
            reader := .ended
            written := session.written ++ [.close] } :: later } := by
  have started : session.phase ≠ .registering := by simp [isOpen.phase]
  have listens : session.reader ≠ .ended := by simp [isOpen.reader]
  have closing : ReachesBy Session.Served first
      { gateway.use (.abandon session.connection) with
        sessions := before ++ { session with writer := .closing } :: later } :=
    reached.turn session present (.finish started isOpen.writer found atEnd) trivial
      ⟨.of_idle (by simp [isOpen.writer, WriterStage.frame?]), .of_reader_eq rfl⟩
  have closed : ReachesBy Session.Served first
      { gateway.use (.abandon session.connection) with
        sessions := before ++
          { session with writer := .ended, written := session.written ++ [.close] } :: later } :=
    closing.turn { session with writer := .closing } rfl (.close rfl) trivial
      ⟨.of_written rfl rfl, .of_reader_eq rfl⟩
  have noticed : ReachesBy Session.Served first
      { gateway.use (.abandon session.connection) with
        sessions := before ++
          { session with
            phase := .departing
            writer := .ended
            written := session.written ++ [.close] } :: later } :=
    closed.turn { session with writer := .ended, written := _ } rfl
      (.notice isOpen.phase (.inl rfl)) trivial ⟨.of_writer_eq rfl, .of_reader_eq rfl⟩
  exact noticed.turn { session with phase := .departing, writer := .ended, written := _ } rfl
    (.cancel_reader (.inl rfl) listens) trivial ⟨.of_writer_eq rfl, fun _ => .inr rfl⟩

theorem Reaches.trans {middle : Gateway} (reached : Reaches first middle)
    (further : Reaches middle gateway) : Reaches first gateway := by
  induction further with
  | refl => exact reached
  | step _ steps ih => exact ih.step steps

/-- What has become of a gateway: the outbox of a connection has changed, and sessions have gone
on. -/
structure Alters (gateway : Gateway) (connection : ConnectionId) (change : Outbox → Outbox)
    (sessions : List Session) (next : Gateway) : Prop where
  reached : Reaches gateway next
  config : next.config = gateway.config
  dispatcher : next.dispatcher =
    { gateway.dispatcher with state := gateway.state.changeOutbox connection change }
  made : made next.performed = made gateway.performed
  sessions : next.sessions = sessions

/-- An open session writes what its outbox holds and, if the outbox has been let go of, ends. -/
theorem exists_drained (present : gateway.sessions = before ++ session :: later)
    (isOpen : session.IsOpen)
    {outbox : Outbox} (found : gateway.state.outboxes[session.connection]? = some outbox) :
    ∃ next after, gateway.Alters session.connection (fun _ => leftover outbox)
        (before ++ after :: later) next ∧ ReachesBy Session.Served gateway next ∧
      after.handle = session.handle ∧ (outbox.held = true → after.IsOpen) ∧
      (outbox.held = false → after.IsLeaving) ∧
      after.written = session.written ++ (outbox.buffer.map ServerFrame.ofPayload ++
        if outbox.held then [] else [.close]) := by
  obtain ⟨phase, writer, reader⟩ := isOpen
  have started : session.phase ≠ .registering := by simp [phase]
  obtain ⟨performed, sameMade, wrote⟩ := ReachesBy.empty .refl present started writer found
  let written : Session :=
    { session with written := session.written ++ outbox.buffer.map ServerFrame.ofPayload }
  let silent : Gateway :=
    { gateway with
      dispatcher := { gateway.dispatcher with
        state := gateway.state.changeOutbox session.connection emptied }
      sessions := before ++ written :: later
      performed }
  have isWritten : silent.sessions = before ++ written :: later := rfl
  have empty : silent.state.outboxes[written.connection]? = some (emptied outbox) := by
    change (gateway.state.changeOutbox _ emptied).outboxes[session.connection]? = _
    rw [State.getElem?_changeOutbox, if_pos rfl, found, Option.map_some]
  cases held : outbox.held with
  | true =>
    have left : gateway.state.changeOutbox session.connection emptied =
        gateway.state.changeOutbox session.connection fun _ => leftover outbox :=
      State.changeOutbox_congr found (if_pos held).symm
    exact ⟨silent, written, ⟨wrote.reaches, rfl, by rw [← left], sameMade, rfl⟩, wrote, rfl,
      fun _ => ⟨phase, writer, reader⟩, fun ends => (by cases ends), by simp [written]⟩
  | false =>
    have atEnd : (emptied outbox).receive.1 = .closed := by simp [emptied, Outbox.receive, held]
    have finished := wrote.finish isWritten ⟨phase, writer, reader⟩ empty atEnd
    have left : silent.state.changeOutbox written.connection Outbox.abandon =
        gateway.state.changeOutbox session.connection fun _ => leftover outbox := by
      refine (State.changeOutbox_changeOutbox ..).trans (State.changeOutbox_congr found ?_)
      exact (if_neg (Bool.eq_false_iff.mp held)).symm
    refine ⟨_, _, ⟨finished.reaches, rfl, by rw [← left]; rfl, ?_, rfl⟩, finished, rfl,
      fun stays => (by cases stays), fun _ => ⟨rfl, rfl, rfl⟩, by simp [written]⟩
    change made (performed ++ [.abandon _]) = _
    simpa [Operation.made?] using sameMade

/-- The outbox of a session that has not let go of it has a writer. -/
theorem Steady.attended (steady : gateway.Steady) (member : session ∈ gateway.sessions)
    (attends : session.writer.Attends) : gateway.state.attended session.connection = true := by
  have sound := sound_after gateway.config.hub.policies steady.service.lawful
  obtain ⟨outbox, found, -⟩ := sound.outbox_of_made (steady.fits session member).made
  have state : gateway.state = State.after gateway.config.hub.policies gateway.performed :=
    steady.service.state_eq
  rw [state, State.attended, Session.connection, found]
  exact (sound.suits found).attended_iff.mpr ((steady.fits session member).attends_iff.mp attends)

end Gateway

end Switchboard.WebSocket
