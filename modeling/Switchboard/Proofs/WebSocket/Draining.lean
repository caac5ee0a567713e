import Switchboard.Proofs.WebSocket.Frames

/-!
# What becomes of a full outbox

When the hub lets go of a connection, nothing more is put into its outbox, and what is in it is
still written. While the transport accepts what is written and the client stays, every step keeps
what has been taken and what is buffered together the same (`Advances.exists_added`), and the
writer ends only after a close frame. So what has been written when everything has come to rest are
the frames of all that had been taken and was buffered at the moment when the hub let go, and one
close frame after them (`drained_of_reachesBy`).
-/

namespace Switchboard.WebSocket

open Hub

variable {gateway next first : Gateway} {session after : Session} {state : State}
  {operation? : Option Operation} {performed : List Operation}
  {entered : List (Option ConnectionId × Request)}

/-! ## How writers end -/

namespace Session.Evolves

theorem written_prefix (evolves : session.Evolves state operation? after) :
    session.written <+: after.written := by
  cases evolves with
  | rests => exact List.prefix_refl _
  | turns turns =>
    cases turns with
    | write | close => exact List.prefix_append _ _
    | _ => exact List.prefix_refl _
  | hears heard => cases heard <;> exact List.prefix_refl _

theorem reader_ended (evolves : session.Evolves state operation? after)
    (ended : session.reader = .ended) : after.reader = .ended := by
  cases evolves with
  | rests => exact ended
  | turns turns => cases turns <;> simp_all
  | hears heard => cases heard <;> simp_all

theorem writer_ended (evolves : session.Evolves state operation? after)
    (ended : session.writer = .ended) : after.writer = .ended := by
  cases evolves with
  | rests => exact ended
  | turns turns => cases turns <;> simp_all
  | hears heard => cases heard <;> simp_all

/-- A writer ends when it has written a close frame, where the transport accepts that, or when it is
cancelled since the reader has ended. -/
theorem ends (evolves : session.Evolves state operation? after)
    (fits : session.Fits performed entered) (accepts : session.Accepts after)
    (ended : after.writer = .ended) : session.writer = .ended ∨ .close ∈ after.written ∨
      session.writer ≠ .ended ∧ session.reader = .ended := by
  cases evolves with
  | rests => exact .inl ended
  | hears heard => cases heard <;> exact .inl ended
  | turns turns =>
    cases turns with
    | close => exact .inr (.inl (List.mem_append_right _ (List.mem_singleton_self _)))
    | close_failed writer | cancel_closing atEnd writer =>
      have wrote := accepts .close (by rw [writer]; rfl)
      simp [writer] at wrote
    | cancel_writer atEnd attends =>
      have busy : session.writer ≠ .ended := fun ended => by
        simp [ended, WriterStage.Attends] at attends
      exact .inr (.inr ⟨busy, (fits.atEnd atEnd).resolve_left busy⟩)
    | take | write | fail | finish => cases ended
    | _ => exact .inl ended

/-- Where the client stays and the transport accepts what is written, the writer lets go of its end
of the outbox only when there is nothing in it. -/
theorem empty_of_abandon (evolves : session.Evolves state operation? after)
    (fits : session.Fits performed entered) (accepts : session.Accepts after)
    (order : session.reader = .ended → session.writer = .ended)
    (leaves : operation? = some (.abandon session.connection)) :
    state.buffered session.connection = [] := by
  cases evolves with
  | rests apart => exact absurd leaves apart.2
  | hears => cases leaves
  | turns turns =>
    cases turns with
    | fail writer =>
      have wrote := accepts _ (by rw [writer]; rfl)
      simp [writer] at wrote
    | @finish outbox started writer found atEnd =>
      rw [State.buffered_of_found found]
      cases buffer : outbox.buffer with
      | nil => rfl
      | cons => simp [Outbox.receive, buffer] at atEnd
    | cancel_writer atEnd attends =>
      have ended := (fits.atEnd atEnd).elim id order
      simp [ended, WriterStage.Attends] at attends
    | _ => simp [Deed.operation?] at leaves

end Session.Evolves

/-! ## The hub lets go -/

/-- The hub has let go of the connection of a session: it has applied its registration, and does not
have it registered any more. -/
structure Gateway.LetsGo (gateway : Gateway) (handle : Handle) : Prop where
  given : .apply (.register handle) ∈ gateway.performed
  absent : ¬ gateway.state.Registers handle

namespace Gateway

theorem LetsGo.spent {handle : Handle} (letsGo : gateway.LetsGo handle) :
    handle ∈ spent gateway.performed :=
  mem_spent_of_register letsGo.given

/-- What the hub has let go of it does not take up again. -/
theorem LetsGo.advance (letsGo : gateway.LetsGo session.handle)
    (advances : gateway.Advances next operation? session after) : next.LetsGo session.handle := by
  have lawful := advances.now.service.lawful
  have state := advances.steady.service.state_eq
  have nowState := advances.now.service.state_eq
  rw [advances.config, advances.performed] at nowState
  rw [advances.performed] at lawful
  refine ⟨advances.performed ▸ List.mem_append_left _ letsGo.given, ?_⟩
  rw [Gateway.state, nowState]
  exact never_returns lawful letsGo.spent (state ▸ letsGo.absent)

/-- What has been taken from the outbox of a connection, and what is in it. -/
def accrued (gateway : Gateway) (connection : ConnectionId) : List Payload :=
  gateway.received connection ++ gateway.state.buffered connection

/-- Nothing of what is in an outbox gets lost while the client stays and the transport accepts what
is written, and nothing is added once the hub has let go. -/
theorem Advances.exists_added (advances : gateway.Advances next operation? session after)
    (accepts : session.Accepts after) (order : session.reader = .ended → session.writer = .ended) :
    ∃ added, next.accrued session.connection = gateway.accrued session.connection ++ added ∧
      (gateway.LetsGo session.handle → added = []) := by
  have fits := advances.steady.fits session advances.member
  have lawful := advances.now.service.lawful
  have state : gateway.state = State.after gateway.config.hub.policies gateway.performed :=
    advances.steady.service.state_eq
  have nowState : next.state = State.after next.config.hub.policies next.performed :=
    advances.now.service.state_eq
  rw [advances.config, advances.performed] at nowState
  rw [advances.performed] at lawful
  simp only [accrued, advances.received_eq, List.append_assoc, List.append_cancel_left_eq]
  cases operation? with
  | none =>
    rw [Option.toList_none, List.append_nil] at nowState
    exact ⟨[], by rw [nowState, state, List.append_nil]; rfl, fun _ => rfl⟩
  | some operation =>
    rw [Option.toList_some] at nowState lawful
    by_cases leaves : operation = .abandon session.connection
    · subst leaves
      rw [takenBy_eq_nil (by simp), advances.evolves.empty_of_abandon fits accepts order rfl,
        nowState, buffered_eq_nil_of_abandon _ lawful (by simp)]
      exact ⟨[], rfl, fun _ => rfl⟩
    · have before := lawful.of_append
      have sole := lawful.sole (mem_made_append _ fits.made)
      have balance := buffered_perform (sound_after gateway.config.hub.policies before)
        gateway.config.hub.policies before lawful.follows sole
      rw [forfeited_eq_nil leaves, List.nil_append, ← after_concat, ← state, ← nowState] at balance
      rw [takenBy_some]
      refine ⟨_, balance.symm, fun letsGo => ?_⟩
      rw [pushed_eq_nil_of_spent lawful letsGo.spent, fanned_eq_nil_of_not_registers letsGo.absent]
      rfl

/-- Whatever happens, each session goes on in some way. -/
theorem Steady.reachesBy (steady : first.Steady) (reached : Reaches first gateway) :
    ReachesBy (fun _ _ => True) first gateway := by
  induction reached with
  | refl => exact .refl
  | step reached steps ih =>
    obtain ⟨_, sessions, opened, evolves⟩ := (steady.reaches reached).exists_evolves steps
    exact ih.step steps ⟨sessions, opened, evolves.split, evolves.evolves.imp fun _ _ _ => trivial⟩

/-! ## Whole runs -/

variable {config : Config} {change : Session → Session → Prop} {connection : ConnectionId}

/-- What a session has written accounts for what it has taken, and nothing is lost where its
transport accepts what is written. -/
theorem ReachesBy.exists_accounts (reached : ReachesBy change (start config) gateway) :
    ∀ session ∈ gateway.sessions, ∃ lost,
      session.Accounts (gateway.received session.connection) lost ∧
      ((∀ earlier later, change earlier later → AcceptsOn session.connection earlier later) →
        lost = []) := by
  refine reached.forall_sessions (motive := fun gateway session => ∃ lost,
    session.Accounts (gateway.received session.connection) lost ∧
      ((∀ earlier later, change earlier later → AcceptsOn session.connection earlier later) →
        lost = [])) (.start config) nofun ?_ ?_
  · intro next session isNew
    have nothing : next.received session.connection = [] := received_eq_nil _ isNew.unused
    rw [nothing, isNew.fresh]
    exact ⟨[], ⟨⟨[], [], rfl, .inl rfl, rfl⟩, Nat.zero_le _, fun _ => rfl⟩, fun _ => rfl⟩
  · rintro gateway next operation? session after advances changed ⟨lost, accounts, none⟩
    obtain ⟨nowLost, accountsNow, kept⟩ := accounts.evolve advances.evolves
    rw [advances.connection_eq, advances.received_eq]
    exact ⟨nowLost, accountsNow, fun accepting =>
      (kept (accepting _ _ changed rfl)).trans (none accepting)⟩

theorem ReachesBy.acceptsOn (reached : ReachesBy Session.Accepts first gateway)
    (connection : ConnectionId) : ReachesBy (AcceptsOn connection) first gateway :=
  reached.mono fun _ _ accepts _ => accepts

theorem ReachesBy.stayOn (reached : ReachesBy (AcceptsOn connection) first gateway)
    (further : ReachesBy (StaysOn connection) gateway next) :
    ReachesBy (AcceptsOn connection) first next :=
  reached.trans (further.mono fun _ _ served same => (served same).accepts)

theorem ReachesBy.accounted (reached : ReachesBy (AcceptsOn connection) (start config) gateway)
    (member : session ∈ gateway.sessions) (own : session.connection = connection) :
    session.Accounts (gateway.received connection) [] := by
  obtain ⟨lost, accounts, nothing⟩ := reached.exists_accounts session member
  rw [nothing (own.symm ▸ fun _ _ accepts => accepts), own] at accounts
  exact accounts

/-- A writer that has ended has written a close frame, unless the reader has ended too. -/
theorem ReachesBy.closes (reached : ReachesBy (AcceptsOn connection) (start config) gateway) :
    ∀ session ∈ gateway.sessions, session.connection = connection → session.writer = .ended →
      .close ∈ session.written ∨ session.reader = .ended := by
  refine reached.forall_sessions (motive := fun _ session => session.connection = connection →
    session.writer = .ended → .close ∈ session.written ∨ session.reader = .ended)
    (.start config) nofun ?_ ?_
  · intro next session isNew own ended
    rw [isNew.fresh] at ended
    cases ended
  · intro gateway next operation? session after advances changed closes own ended
    have evolves := advances.evolves
    have same : session.connection = connection := advances.connection_eq.symm.trans own
    rcases evolves.ends (advances.steady.fits session advances.member) (changed same) ended with
      earlier | closed | ⟨-, gone⟩
    · exact (closes same earlier).imp (evolves.written_prefix.subset ·) evolves.reader_ended
    · exact .inl closed
    · exact .inr (evolves.reader_ended gone)

/-- What holds of a session while its client stays: what had accrued in its outbox has been taken or
is still there, and its writer ends only after a close frame. -/
structure Drains (owed : List Payload) (gateway : Gateway) (session : Session) : Prop where
  accrued : owed <+: gateway.accrued session.connection
  order : session.reader = .ended → session.writer = .ended
  closes : session.writer = .ended → .close ∈ session.written

theorem Drains.advance {owed : List Payload} (drains : Drains owed gateway session)
    (advances : gateway.Advances next operation? session after) (served : session.Served after) :
    Drains owed next after := by
  have evolves := advances.evolves
  constructor
  case accrued =>
    obtain ⟨added, now, -⟩ := advances.exists_added served.accepts drains.order
    rw [advances.connection_eq, now]
    exact drains.accrued.trans (List.prefix_append _ _)
  case order =>
    intro gone
    exact evolves.writer_ended ((served.stays gone).elim drains.order id)
  case closes =>
    intro ended
    rcases evolves.ends (advances.steady.fits session advances.member) served.accepts ended with
      earlier | closed | ⟨busy, gone⟩
    · exact evolves.written_prefix.subset (drains.closes earlier)
    · exact closed
    · exact absurd (drains.order gone) busy

/-- A session whose client is still there has not ended without a close frame. -/
theorem ReachesBy.drains (reached : ReachesBy (AcceptsOn connection) (start config) gateway)
    (member : session ∈ gateway.sessions) (own : session.connection = connection)
    (present : session.reader ≠ .ended) : Drains (gateway.accrued connection) gateway session where
  accrued := own ▸ List.prefix_refl _
  order := fun gone => absurd gone present
  closes := fun ended => (reached.closes session member own ended).resolve_right present

/-- While the client of a session stays, the session drains its outbox, and once the hub has let go
of it, what accrues stays the same. -/
theorem ReachesBy.exists_drains (reached : ReachesBy (StaysOn connection) first gateway)
    (steady : first.Steady) (member : session ∈ first.sessions)
    (own : session.connection = connection)
    (drains : Drains (first.accrued connection) first session) :
    ∃ after ∈ gateway.sessions, after.handle = session.handle ∧
      Drains (first.accrued connection) gateway after ∧
      (first.LetsGo session.handle → gateway.LetsGo after.handle ∧
        gateway.accrued connection = first.accrued connection) := by
  refine reached.exists_session (motive := fun gateway after =>
    Drains (first.accrued connection) gateway after ∧
      (first.LetsGo session.handle → gateway.LetsGo after.handle ∧
        gateway.accrued connection = first.accrued connection)) steady member
    ⟨drains, fun letsGo => ⟨letsGo, rfl⟩⟩ ?_
  rintro gateway next operation? earlier after handle advances changed ⟨drains, kept⟩
  have ownEarlier : earlier.connection = connection :=
    (congrArg Handle.connection handle).trans own
  have served := changed ownEarlier
  refine ⟨drains.advance advances served, fun letsGo => ?_⟩
  obtain ⟨stillGone, same⟩ := kept letsGo
  obtain ⟨added, now, nothing⟩ := advances.exists_added served.accepts drains.order
  rw [nothing stillGone, List.append_nil, ownEarlier] at now
  exact ⟨advances.handle_eq ▸ stillGone.advance advances, now.trans same⟩

/-- A session whose registration has been applied has started. -/
theorem LetsGo.started (letsGo : gateway.LetsGo session.handle) (steady : gateway.Steady)
    (member : session ∈ gateway.sessions) : session.phase ≠ .registering := by
  intro phase
  have applied := mem_filterMap_request?.mpr letsGo.given
  exact ((steady.fits session member).unstarted phase).2.2
    (steady.service.faithful.applied_prefix.subset applied)

/-- An outbox that the hub has let go of is there, and does not keep its writer waiting. -/
theorem LetsGo.exists_outbox (letsGo : gateway.LetsGo session.handle) (steady : gateway.Steady)
    (member : session ∈ gateway.sessions) :
    ∃ outbox, gateway.state.outboxes[session.connection]? = some outbox ∧
      outbox.receive.1 ≠ .pending := by
  have state : gateway.state = State.after gateway.config.hub.policies gateway.performed :=
    steady.service.state_eq
  have lawful := steady.service.lawful
  obtain ⟨outbox, found, -⟩ :=
    (sound_after _ lawful).outbox_of_made (steady.fits session member).made
  refine ⟨outbox, state ▸ found, fun waits => letsGo.absent ?_⟩
  rw [state]
  exact (held_iff_registers lawful letsGo.spent found).mp (held_of_receive_eq_pending waits).1

/-- Where the hub has let go, a writer that has not ended can go on by itself. -/
theorem LetsGo.exists_turn (letsGo : gateway.LetsGo session.handle) (steady : gateway.Steady)
    (member : session ∈ gateway.sessions) (busy : session.writer ≠ .ended) :
    ∃ deed after, session.Turn gateway.state deed after ∧ gateway.Admits deed ∧
      session.Accepts after ∧ after.writer ≠ session.writer := by
  have started := letsGo.started steady member
  obtain ⟨outbox, found, ready⟩ := letsGo.exists_outbox steady member
  cases writer : session.writer with
  | draining =>
    have idle : session.writer.frame? = none := by rw [writer]; rfl
    cases next : outbox.receive.1 with
    | payload payload =>
      exact ⟨_, _, .take started writer found next, trivial, .of_idle idle, by simp⟩
    | pending => exact absurd next ready
    | closed => exact ⟨_, _, .finish started writer found next, trivial, .of_idle idle, by simp⟩
  | writing payload =>
    exact ⟨_, _, .write writer, trivial, .of_written (by rw [writer]; rfl) rfl, by simp⟩
  | closing => exact ⟨_, _, .close writer, trivial, .of_written (by rw [writer]; rfl) rfl, by simp⟩
  | ended => exact absurd writer busy

/-- At rest, a session whose connection is not registered has ended. -/
theorem Steady.hasEnded (steady : gateway.Steady) (quiescent : gateway.Quiescent)
    (member : session ∈ gateway.sessions) (absent : ¬ gateway.state.Registers session.handle) :
    session.HasEnded := by
  refine (Session.isOpen_or_hasEnded (steady.rests quiescent member)).resolve_left ?_
  rintro ⟨isOpen, waits⟩
  exact absent (steady.registers_of_isOpen quiescent member isOpen waits)

namespace Drains

variable {owed : List Payload}

/-- Once its writer has ended, a session has written all that has accrued, and a close frame. -/
theorem written_eq (drains : Drains owed gateway session) (steady : gateway.Steady)
    (member : session ∈ gateway.sessions)
    (accounts : session.Accounts (gateway.received session.connection) [])
    (ended : session.writer = .ended) :
    session.written =
      (gateway.accrued session.connection).map ServerFrame.ofPayload ++ [.close] := by
  have gone : .abandon session.connection ∈ gateway.performed := by
    have leaves : ¬ session.writer.Attends := by simp [ended, WriterStage.Attends]
    rwa [(steady.fits session member).attends_iff, not_not] at leaves
  have state : gateway.state = State.after gateway.config.hub.policies gateway.performed :=
    steady.service.state_eq
  obtain ⟨sent, ending, isWritten, atEnd, isTaken⟩ := accounts.exists_written
  have all : gateway.accrued session.connection = sent := by
    rw [Gateway.accrued, isTaken, state,
      buffered_eq_nil_of_abandon _ steady.service.lawful gone, ended]
    simp [WriterStage.underWay]
  have closed := drains.closes ended
  rw [isWritten] at closed ⊢
  rcases atEnd with rfl | ⟨rfl, -⟩
  · rw [List.append_nil] at closed
    exact absurd closed (close_not_mem_map_ofPayload sent)
  · rw [all]

/-- At any time a session has written a part of that. -/
theorem written_prefix (drains : Drains owed gateway session) (steady : gateway.Steady)
    (member : session ∈ gateway.sessions)
    (accounts : session.Accounts (gateway.received session.connection) []) :
    session.written <+:
      (gateway.accrued session.connection).map ServerFrame.ofPayload ++ [.close] := by
  by_cases ended : session.writer = .ended
  · have all := drains.written_eq steady member accounts ended
    exact ⟨[], (List.append_nil _).trans all⟩
  · obtain ⟨sent, isWritten, isTaken⟩ := accounts.of_not_ended ended
    have part : sent <+: gateway.accrued session.connection := by
      rw [Gateway.accrued, isTaken, List.append_assoc, List.append_assoc]
      exact List.prefix_append _ _
    rw [isWritten]
    exact (part.map _).trans (List.prefix_append _ _)

end Drains

/-- What a session whose hub has let go still writes: the frames of what is owed, and a close frame
after them, and that is all. -/
structure Drained (owed : List Payload) (gateway : Gateway) (session : Session) : Prop where
  frames : ∃ frames, List.Forall₂ Carries frames owed ∧
    session.written <+: frames ++ [.close] ∧
    (session.writer = .ended → session.written = frames ++ [.close])
  ended : gateway.Quiescent → session.HasEnded
  goes_on : session.writer ≠ .ended → ∃ deed after, session.Turn gateway.state deed after ∧
    gateway.Admits deed ∧ session.Accepts after ∧ after.writer ≠ session.writer

/-- Everything that is buffered when the hub lets go of a connection is written before a close
frame, if the transport accepts what is written and the client stays. -/
theorem drained_of_reachesBy
    (reached : ReachesBy (AcceptsOn connection) (start config) gateway)
    (member : session ∈ gateway.sessions) (own : session.connection = connection)
    (present : session.reader ≠ .ended) (letsGo : gateway.LetsGo session.handle)
    (further : ReachesBy (StaysOn connection) gateway next) :
    ∃ after ∈ next.sessions, after.handle = session.handle ∧
      Drained (gateway.accrued connection) next after := by
  have steady := (Steady.start config).reaches reached.reaches
  have later := steady.reaches further.reaches
  obtain ⟨after, isAfter, handle, drains, kept⟩ :=
    further.exists_drains steady member own (reached.drains member own present)
  obtain ⟨stillGone, same⟩ := kept letsGo
  have ownAfter : after.connection = connection := (congrArg Handle.connection handle).trans own
  have accounts := (reached.stayOn further).accounted isAfter ownAfter
  rw [← ownAfter] at accounts same
  refine ⟨after, isAfter, handle, ⟨_, carries_map_ofPayload _, ?_, ?_⟩, ?_, ?_⟩
  · rw [← ownAfter, ← same]
    exact drains.written_prefix later isAfter accounts
  · rw [← ownAfter, ← same]
    exact drains.written_eq later isAfter accounts
  · exact fun quiescent => later.hasEnded quiescent isAfter stillGone.absent
  · exact stillGone.exists_turn later isAfter

/-- When an open session has ended since the hub has let go of its connection, it has written what
was buffered, and a close frame after that. -/
theorem exists_written_of_isOpen
    (reached : ReachesBy (AcceptsOn connection) (start config) gateway)
    (member : session ∈ gateway.sessions) (own : session.connection = connection)
    (isOpen : session.IsOpen) (further : ReachesBy (StaysOn connection) gateway next)
    (quiescent : next.Quiescent) (absent : ¬ next.state.Registers session.handle) :
    ∃ after ∈ next.sessions, after.handle = session.handle ∧ after.HasEnded ∧
      ∃ more, (gateway.LetsGo session.handle → more = []) ∧
        after.written = session.written ++
          (gateway.state.buffered connection ++ more).map ServerFrame.ofPayload ++ [.close] := by
  have steady := (Steady.start config).reaches reached.reaches
  have later := steady.reaches further.reaches
  have present : session.reader ≠ .ended := by simp [isOpen.reader]
  obtain ⟨after, isAfter, handle, drains, kept⟩ :=
    further.exists_drains steady member own (reached.drains member own present)
  have ownAfter : after.connection = connection := (congrArg Handle.connection handle).trans own
  have ended := later.hasEnded quiescent isAfter (handle ▸ absent)
  have accounts := (reached.stayOn further).accounted isAfter ownAfter
  rw [← ownAfter] at accounts
  have all := drains.written_eq later isAfter accounts ended.writer
  -- What it had written before are the frames of what had been taken.
  obtain ⟨sent, written, taken⟩ :=
    (reached.accounted member own).of_not_ended (by simp [isOpen.writer])
  rw [isOpen.writer, WriterStage.underWay, List.append_nil, List.append_nil] at taken
  obtain ⟨more, accrued⟩ := drains.accrued
  rw [ownAfter] at all accrued
  refine ⟨after, isAfter, handle, ended, more, fun letsGo => ?_, ?_⟩
  · rw [(kept letsGo).2] at accrued
    exact List.append_right_eq_self.mp accrued
  · rw [all, written, ← accrued, Gateway.accrued, taken]
    simp

end Gateway

end Switchboard.WebSocket
