import Switchboard.Proofs.Hub.Succession
import Switchboard.Proofs.WebSocket.Gateway

/-!
# The life of a session

Between the moments at which something happens from outside, a gateway comes to rest. A session that
rests is open or has ended (`Session.isOpen_or_hasEnded`). An open one finds its outbox held by the
hub, and so its connection registered; one that has ended has unregistered its connection, and a
connection that has left the registry never returns. So whatever the sessions, the dispatcher and
others have done, and in whichever order, a session is open exactly if its connection is registered.
-/

namespace Switchboard.WebSocket

open Hub

variable {gateway : Gateway} {session : Session}

/-- A session that can take no turn is open, and has nothing to write, or has ended. -/
theorem Session.isOpen_or_hasEnded {state : State}
    (rests : ∀ deed next, ¬ session.Turn state deed next) :
    (session.IsOpen ∧ ∀ outbox, state.outboxes[session.connection]? = some outbox →
      outbox.receive.1 = .pending) ∨ session.HasEnded := by
  have reader : session.reader = .listening ∨ session.reader = .ended := by
    cases reader : session.reader with
    | listening => exact .inl rfl
    | submitting request => exact absurd (.submit reader) (rests _ _)
    | ended => exact .inr rfl
  have writer : session.writer = .draining ∨ session.writer = .ended := by
    cases writer : session.writer with
    | draining => exact .inl rfl
    | writing payload => exact absurd (.write writer) (rests _ _)
    | closing => exact absurd (.close writer) (rests _ _)
    | ended => exact .inr rfl
  cases phase : session.phase with
  | registering => exact absurd (.register phase) (rests _ _)
  | departing => exact absurd (.unregister phase) (rests _ _)
  | serving =>
    have neither : ¬ (session.writer = .ended ∨ session.reader = .ended) := fun either =>
      rests _ _ (.notice phase either)
    have draining := writer.resolve_right fun ended => neither (.inl ended)
    refine .inl ⟨⟨phase, draining, reader.resolve_right fun ended => neither (.inr ended)⟩, ?_⟩
    intro outbox found
    have started : session.phase ≠ .registering := by simp [phase]
    cases seen : outbox.receive.1 with
    | payload payload => exact absurd (.take started draining found seen) (rests _ _)
    | pending => rfl
    | closed => exact absurd (.finish started draining found seen) (rests _ _)
  | gone =>
    refine .inr ⟨phase, writer.resolve_left fun draining => ?_, ?_⟩
    · exact rests _ _ (.cancel_writer (.inr phase) (draining ▸ trivial))
    · by_contra busy
      exact rests _ _ (.cancel_reader (.inr phase) busy)

/-- An outbox in which nothing is seen now but something may come is held, and empty. -/
theorem held_of_receive_eq_pending {outbox : Outbox} (seen : outbox.receive.1 = .pending) :
    outbox.held = true ∧ outbox.buffer = [] := by
  unfold Outbox.receive at seen
  cases buffer : outbox.buffer with
  | nil => simpa [buffer] using seen
  | cons payload rest => simp [buffer] at seen

namespace Gateway.Steady

/-- At rest no session can take a turn: every lane has room. -/
theorem rests (steady : gateway.Steady) (quiescent : gateway.Quiescent)
    (member : session ∈ gateway.sessions) (deed : Deed) (next : Session) :
    ¬ session.Turn gateway.state deed next := by
  intro turns
  refine quiescent.rests session member deed next turns ?_
  cases deed with
  | submits request => exact steady.service.isFull_eq_false quiescent.idle _
  | _ => exact trivial

/-- At rest everything that has entered has been applied. -/
theorem applied_of_mem (steady : gateway.Steady) (idle : gateway.dispatcher.isIdle = true)
    {request : Request} (entered : request ∈ gateway.requests) :
    Operation.apply request ∈ gateway.performed := by
  rw [← steady.service.faithful.applied_eq idle] at entered
  exact mem_filterMap_request?.mp entered

/-- A session that has registered has submitted its handle first. -/
theorem submittedBy_eq_cons (steady : gateway.Steady) (member : session ∈ gateway.sessions)
    (started : session.phase ≠ .registering) :
    ∃ rest, submittedBy session.connection gateway.entered =
      .register session.handle :: rest := by
  have first := (steady.fits session member).first
  have formalities : session.formalities.head? = some (.register session.handle) := by
    unfold Session.formalities
    cases phase : session.phase with
    | registering => exact absurd phase started
    | _ => rfl
  rw [formalities] at first
  exact List.head?_eq_some_iff.mp first

theorem spent_of_started (steady : gateway.Steady) (idle : gateway.dispatcher.isIdle = true)
    (member : session ∈ gateway.sessions) (started : session.phase ≠ .registering) :
    session.handle ∈ spent gateway.performed := by
  obtain ⟨rest, submissions⟩ := steady.submittedBy_eq_cons member started
  have entered := mem_of_mem_submittedBy (submissions ▸ List.mem_cons_self)
  exact mem_spent_of_register (steady.applied_of_mem idle (List.mem_map_of_mem entered))

/-- At rest an open session is registered. -/
theorem registers_of_isOpen (steady : gateway.Steady) (quiescent : gateway.Quiescent)
    (member : session ∈ gateway.sessions) (isOpen : session.IsOpen)
    (waits : ∀ outbox, gateway.state.outboxes[session.connection]? = some outbox →
      outbox.receive.1 = .pending) :
    gateway.state.Registers session.handle := by
  have lawful := steady.service.lawful
  have state : gateway.state = State.after gateway.config.hub.policies gateway.performed :=
    steady.service.state_eq
  have isMade := (steady.fits session member).made
  have sound := sound_after gateway.config.hub.policies lawful
  obtain ⟨outbox, found, -⟩ := sound.outbox_of_made isMade
  have held := (held_of_receive_eq_pending (waits outbox (state ▸ found))).1
  have started : session.phase ≠ .registering := by simp [isOpen.phase]
  rw [state]
  exact (held_iff_registers lawful (steady.spent_of_started quiescent.idle member started)
    found).mp held

/-- The last request of a session enters after its first. -/
theorem exists_entered_split (steady : gateway.Steady) (member : session ∈ gateway.sessions)
    (gone : session.phase = .gone) :
    ∃ before later, gateway.requests = before ++ session.farewell :: later ∧
      .register session.handle ∈ before := by
  have fits := steady.fits session member
  obtain ⟨rest, submissions⟩ := steady.submittedBy_eq_cons member (by simp [gone])
  have formal := fits.formal
  rw [submissions, List.filter_cons_of_pos rfl, Session.formalities, gone] at formal
  have isLater : session.farewell ∈ rest := by
    have isFormal : session.farewell ∈ rest.filter fun request => !isDelivery request := by
      rw [(List.cons.inj formal).2]
      exact List.mem_singleton_self _
    exact (List.mem_filter.mp isFormal).1
  obtain ⟨between, after, rfl⟩ := List.append_of_mem isLater
  rw [← List.cons_append] at submissions
  obtain ⟨first, last, split, ofFirst⟩ := exists_entered_of_submittedBy submissions
  refine ⟨first.map Prod.snd, last.map Prod.snd, ?_, ?_⟩
  · rw [requests, split]
    simp
  · exact List.mem_map_of_mem (mem_of_mem_submittedBy (ofFirst ▸ List.mem_cons_self))

/-- At rest a session that has ended is not registered. -/
theorem not_registers_of_hasEnded (steady : gateway.Steady) (quiescent : gateway.Quiescent)
    (member : session ∈ gateway.sessions) (ended : session.HasEnded) :
    ¬ gateway.state.Registers session.handle := by
  obtain ⟨before, later, split, isBefore⟩ := steady.exists_entered_split member ended.phase
  have state : gateway.state = State.after gateway.config.hub.policies gateway.performed :=
    steady.service.state_eq
  have lawful := steady.service.lawful
  -- The operations fall apart where the last request of the session is applied.
  have applied := (steady.service.faithful.applied_eq quiescent.idle).trans split
  obtain ⟨past, rest, performed, ofBefore, ofRest⟩ := List.filterMap_eq_append_iff.mp applied
  obtain ⟨between, operation, last, rfl, -, isFarewell, -⟩ := List.filterMap_eq_cons_iff.mp ofRest
  obtain rfl := Operation.request?_eq_some.mp isFarewell
  have given : session.handle ∈ spent past :=
    mem_spent_of_register (mem_filterMap_request?.mp (ofBefore ▸ isBefore))
  have upTo : gateway.performed = (past ++ between ++ [.apply session.farewell]) ++ last := by
    rw [performed]
    simp
  have removed : ¬ (State.after gateway.config.hub.policies
      (past ++ between ++ [.apply session.farewell])).Registers session.handle := by
    rw [after_concat]
    intro registers
    have left := (registers_unregister_iff session.handle.user session.connection
      gateway.config.hub.overflowPolicy session.handle).mp registers
    exact left.2 ⟨rfl, rfl⟩
  rw [upTo] at lawful
  rw [state, upTo]
  refine never_returns lawful ?_ removed
  rw [List.append_assoc]
  exact mem_spent_append _ given

end Gateway.Steady

/-- Unregistering the connection of a session leaves everybody else registered who is. -/
theorem Session.registers_farewell_iff (session : Session) (policies : Policies) (state : State)
    {other : Handle} (different : other ≠ session.handle) :
    (state.apply policies session.farewell).1.Registers other ↔ state.Registers other := by
  refine (registers_unregister_iff session.handle.user session.connection policies.overflow
    other).trans (and_iff_left fun ⟨sameUser, sameConnection⟩ => different ?_)
  cases other
  cases sameUser
  cases sameConnection
  rfl

/-- What is known of a session at any time. -/
structure Session.Lifecycle (gateway : Gateway) (session : Session) : Prop where
  open_iff : gateway.Quiescent → (¬ session.HasEnded ↔ gateway.state.Registers session.handle)
  open_or_ended : gateway.Quiescent → session.IsOpen ∨ session.HasEnded
  first : ∀ request rest, submittedBy session.connection gateway.entered = request :: rest →
    request = .register session.handle
  formal : (submittedBy session.connection gateway.entered).filter
    (fun request => !isDelivery request) <+: [.register session.handle, session.farewell]
  ended : session.HasEnded → (submittedBy session.connection gateway.entered).filter
    (fun request => !isDelivery request) = [.register session.handle, session.farewell]
  farewell_late : session.farewell ∈ submittedBy session.connection gateway.entered →
    session.writer = .ended ∨ session.reader = .ended
  spares : ∀ entry ∈ trail gateway.config.hub.policies gateway.performed,
    entry.2 = .apply session.farewell → ∀ other, other ≠ session.handle →
      ((entry.1.perform gateway.config.hub.policies entry.2).Registers other ↔
        entry.1.Registers other)

/-- Whatever happens, a session registers its connection first and, once it has ended, has
unregistered it once, by which nobody else is unregistered. When everything has come to rest, a
session has not ended exactly if its connection is registered. -/
theorem lifecycle_of_reaches {config : Config} {gateway : Gateway}
    (reached : Gateway.Reaches (Gateway.start config) gateway) :
    ∀ session ∈ gateway.sessions, session.Lifecycle gateway := by
  intro session member
  have steady := (Gateway.Steady.start config).reaches reached
  have fits := steady.fits session member
  constructor
  case open_iff =>
    intro quiescent
    rcases Session.isOpen_or_hasEnded (steady.rests quiescent member) with ⟨isOpen, waits⟩ | ended
    · have registers := steady.registers_of_isOpen quiescent member isOpen waits
      refine iff_of_true (fun ended => ?_) registers
      cases isOpen.phase.symm.trans ended.phase
    · exact iff_of_false (fun unended => unended ended)
        (steady.not_registers_of_hasEnded quiescent member ended)
  case open_or_ended =>
    intro quiescent
    exact (Session.isOpen_or_hasEnded (steady.rests quiescent member)).imp_left And.left
  case first =>
    intro request rest submissions
    have first := fits.first
    rw [submissions] at first
    cases phase : session.phase <;> simp_all [Session.formalities]
  case formal =>
    rw [fits.formal, Session.formalities]
    cases session.phase with
    | registering => exact List.nil_prefix
    | serving | departing => exact ⟨[session.farewell], rfl⟩
    | gone => exact List.prefix_refl _
  case ended =>
    intro ended
    rw [fits.formal, Session.formalities, ended.phase]
  case farewell_late =>
    intro submitted
    have formal : session.farewell ∈ session.formalities := by
      rw [← fits.formal]
      exact List.mem_filter.mpr ⟨submitted, rfl⟩
    refine fits.atEnd ?_
    cases phase : session.phase <;> simp_all [Session.formalities, Session.farewell]
  case spares =>
    rintro ⟨state, operation⟩ isEntry rfl other different
    exact session.registers_farewell_iff _ state different

end Switchboard.WebSocket
