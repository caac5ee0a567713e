import Mathlib.Data.List.Forall2
import Switchboard.Proofs.Text.Utf8
import Switchboard.Proofs.WebSocket.Lifecycle

/-!
# What a session writes

The writer of a session takes payloads from the outbox of its connection one by one and writes a
frame for each, which carries the bytes of the payload and no others (`carries_iff`). So whatever
turns sessions, the dispatcher and others take, what it has written are the frames of the payloads
that it has taken, in order and but for the one that it is about to write. A close frame comes after
them, and only a write that fails or is cut short loses a payload, which is then the last
(`Session.Accounts`). What a step of a gateway does to a session is said once, by `Session.Evolves`.
-/

namespace Switchboard.WebSocket

open Hub

variable {gateway next first : Gateway} {session after : Session}

/-! ## Lists whose members correspond -/

section
variable {α β : Type} {rel : α → β → Prop} {left : List α} {right : List β}

theorem exists_mem_right (all : List.Forall₂ rel left right) {a : α} (member : a ∈ left) :
    ∃ b ∈ right, rel a b := by
  induction all with
  | nil => cases member
  | @cons first second _ _ holds _ ih =>
    rcases List.mem_cons.mp member with rfl | later
    · exact ⟨second, List.mem_cons_self, holds⟩
    · obtain ⟨b, isMember, known⟩ := ih later
      exact ⟨b, List.mem_cons_of_mem _ isMember, known⟩

theorem exists_mem_left (all : List.Forall₂ rel left right) {b : β} (member : b ∈ right) :
    ∃ a ∈ left, rel a b := by
  have turned : List.Forall₂ (flip rel) right left := all.flip
  exact exists_mem_right turned member

end

/-! ## Frames and payloads -/

/-- A data frame carries a payload: its bytes are those of the payload, and it is a text frame
exactly if the payload is UTF-8. -/
inductive Carries : ServerFrame → Payload → Prop where
  | text (text : String) : Carries (.text text) text.toUTF8
  | binary {payload : Payload} (notText : ∀ text : String, payload ≠ text.toUTF8) :
      Carries (.binary payload) payload

/-- A payload is a text exactly if it is the encoding of it. -/
theorem asText?_eq_some_iff {payload : Payload} {text : String} :
    payload.asText? = some text ↔ payload = text.toUTF8 := by
  have reads : String.fromUTF8? payload.toList.toByteArray = some text ↔
      payload.toList = Text.encode text.toList := Text.fromUTF8?_eq_some_iff
  rw [Text.toByteArray_toList, ← Text.toList_toUTF8] at reads
  exact reads.trans ⟨Text.toList_injective, congrArg _⟩

/-- There is one frame that carries a payload, and it is the one that is written. -/
theorem carries_iff {frame : ServerFrame} {payload : Payload} :
    Carries frame payload ↔ frame = .ofPayload payload := by
  rw [ServerFrame.ofPayload]
  constructor
  · rintro (text | notText)
    · rw [asText?_eq_some_iff.mpr rfl]
    · cases read : payload.asText? with
      | none => rfl
      | some text => exact absurd (asText?_eq_some_iff.mp read) (notText text)
  · rintro rfl
    split
    next text isText =>
      rw [asText?_eq_some_iff.mp isText]
      exact .text text
    next notText =>
      refine .binary fun text same => ?_
      cases notText.symm.trans (asText?_eq_some_iff.mpr same)

/-- Frames carry payloads exactly if they are made of them. -/
theorem forall₂_carries_iff {frames : List ServerFrame} {payloads : List Payload} :
    List.Forall₂ Carries frames payloads ↔ frames = payloads.map ServerFrame.ofPayload := by
  rw [← List.forall₂_eq_eq_eq, List.forall₂_map_right_iff]
  exact ⟨.imp fun _ _ => carries_iff.mp, .imp fun _ _ => carries_iff.mpr⟩

theorem carries_map_ofPayload (payloads : List Payload) :
    List.Forall₂ Carries (payloads.map ServerFrame.ofPayload) payloads :=
  forall₂_carries_iff.mpr rfl

/-- No payload makes a close frame. -/
theorem ofPayload_ne_close (payload : Payload) : ServerFrame.ofPayload payload ≠ .close := by
  intro same
  have carries := carries_iff.mpr same.symm
  cases carries

theorem close_not_mem_map_ofPayload (payloads : List Payload) :
    ServerFrame.close ∉ payloads.map ServerFrame.ofPayload := by
  intro member
  obtain ⟨payload, -, same⟩ := List.mem_map.mp member
  exact ofPayload_ne_close payload same

/-! ## Runs in which writes succeed -/

/-- The frame that a writer is about to write. -/
def WriterStage.frame? : WriterStage → Option ServerFrame
  | .writing payload => some (.ofPayload payload)
  | .closing => some .close
  | .draining | .ended => none

/-- The payload that a writer has taken and not yet written. -/
def WriterStage.underWay : WriterStage → List Payload
  | .writing payload => [payload]
  | .draining | .closing | .ended => []

/-- What a session was about to write, if anything, it is still about to write or has written. -/
def Session.Accepts (session after : Session) : Prop :=
  ∀ frame, session.writer.frame? = some frame →
    after.writer = session.writer ∨ after.written = session.written ++ [frame]

namespace Session.Accepts

theorem of_writer_eq (same : after.writer = session.writer) : session.Accepts after :=
  fun _ _ => .inl same

/-- A session with nothing to write has nothing refused. -/
theorem of_idle (idle : session.writer.frame? = none) : session.Accepts after :=
  fun frame isNext => by cases idle.symm.trans isNext

/-- What has been written was not refused. -/
theorem of_written {frame : ServerFrame} (isNext : session.writer.frame? = some frame)
    (wrote : after.written = session.written ++ [frame]) : session.Accepts after := by
  intro other isOther
  obtain rfl := Option.some.inj (isNext.symm.trans isOther)
  exact .inr wrote

end Session.Accepts

/-- The client does not leave before the writer has ended. -/
def Session.Stays (session after : Session) : Prop :=
  after.reader = .ended → session.reader = .ended ∨ session.writer = .ended

theorem Session.Stays.of_reader_eq (same : after.reader = session.reader) : session.Stays after :=
  fun gone => .inl (same ▸ gone)

/-- The transport accepts what a session writes, and its client stays. -/
structure Session.Served (session after : Session) : Prop where
  accepts : session.Accepts after
  stays : session.Stays after

instance : Std.Refl Session.Accepts := ⟨fun _ => .of_writer_eq rfl⟩

instance : Std.Refl Session.Served := ⟨fun _ => ⟨.of_writer_eq rfl, .of_reader_eq rfl⟩⟩

namespace Gateway

/-- Each session of a gateway has gone on in a certain way, and others may have been opened. -/
def Changes (change : Session → Session → Prop) (gateway next : Gateway) : Prop :=
  ∃ sessions opened, next.sessions = sessions ++ opened ∧
    List.Forall₂ change gateway.sessions sessions

/-- A run in whose steps sessions go on in a certain way. -/
inductive ReachesBy (change : Session → Session → Prop) (first : Gateway) : Gateway → Prop where
  | refl : ReachesBy change first first
  | step {gateway next : Gateway} : ReachesBy change first gateway → gateway.Step next →
      gateway.Changes change next → ReachesBy change first next

/-- The transport of a connection accepts what is written to it. -/
def AcceptsOn (connection : ConnectionId) (session after : Session) : Prop :=
  session.connection = connection → session.Accepts after

/-- The transport of a connection accepts what is written to it, and its client stays. -/
def StaysOn (connection : ConnectionId) (session after : Session) : Prop :=
  session.connection = connection → session.Served after

variable {change other : Session → Session → Prop}

theorem ReachesBy.reaches (reached : ReachesBy change first gateway) : Reaches first gateway := by
  induction reached with
  | refl => exact .refl
  | step _ steps _ ih => exact ih.step steps

theorem ReachesBy.mono (reached : ReachesBy change first gateway)
    (weaker : ∀ session after, change session after → other session after) :
    ReachesBy other first gateway := by
  induction reached with
  | refl => exact .refl
  | step _ steps changes ih =>
    obtain ⟨sessions, opened, same, changed⟩ := changes
    exact ih.step steps ⟨sessions, opened, same, changed.imp fun _ _ => weaker _ _⟩

theorem ReachesBy.trans {middle : Gateway} (reached : ReachesBy change first middle)
    (further : ReachesBy change middle gateway) : ReachesBy change first gateway := by
  induction further with
  | refl => exact reached
  | step _ steps changes ih => exact ih.step steps changes

end Gateway

/-! ## One step and one session -/

/-- The operation on the state of the hub that comes with a deed. -/
def Deed.operation? : Deed → Option Operation
  | .uses operation => some operation
  | .nothing | .submits _ => none

/-- An operation leaves an outbox with its writer. -/
def Apart (connection : ConnectionId) (operation? : Option Operation) : Prop :=
  operation? ≠ some (.receive connection) ∧ operation? ≠ some (.abandon connection)

/-- What a session does concerns no other connection. -/
theorem Deed.Of.apart {deed : Deed} (of : deed.Of session) {connection : ConnectionId}
    (different : session.connection ≠ connection) : Apart connection deed.operation? := by
  cases of with
  | receives | abandons => simpa [Apart, operation?] using different
  | nothing | submits => simp [Apart, operation?]

/-- What a step that performs an operation makes of a session: nothing, unless the session takes a
turn or hears something from its client. -/
inductive Session.Evolves (state : State) (session : Session) :
    Option Operation → Session → Prop where
  | rests {operation? : Option Operation}
      (apart : Apart session.connection operation?) : Evolves state session operation? session
  | turns {deed : Deed} {after : Session} (turns : session.Turn state deed after) :
      Evolves state session deed.operation? after
  | hears {limit : Nat} {after : Session} (heard : session.Heard limit after) :
      Evolves state session none after

theorem Session.Evolves.handle_eq {state : State} {operation? : Option Operation}
    (evolves : session.Evolves state operation? after) : after.handle = session.handle := by
  cases evolves with
  | rests => rfl
  | turns turns => exact turns.handle_eq
  | hears heard => exact heard.handle_eq

/-- A session has just been opened, and nobody has taken anything from its outbox. -/
structure Session.IsNew (performed : List Operation) (session : Session) : Prop where
  fresh : session = { handle := session.handle }
  unused : Operation.receive session.connection ∉ performed

/-- What a step makes of a gateway. -/
structure Gateway.Evolves (gateway next : Gateway) (operation? : Option Operation)
    (sessions opened : List Session) : Prop where
  config : next.config = gateway.config
  performed : next.performed = gateway.performed ++ operation?.toList
  split : next.sessions = sessions ++ opened
  evolves : List.Forall₂ (fun session after => session.Evolves gateway.state operation? after)
    gateway.sessions sessions
  opened : ∀ session ∈ opened, session.IsNew next.performed

namespace Gateway.Steady

/-- All sessions rest. -/
theorem all_rest {state : State} {operation? : Option Operation} {sessions : List Session}
    (apart : ∀ session ∈ sessions, Apart session.connection operation?) :
    List.Forall₂ (fun session after => Session.Evolves state session operation? after)
      sessions sessions :=
  List.forall₂_same.mpr fun session member => .rests (apart session member)

/-- One session goes on, and the others rest. -/
theorem evolves_replace (steady : gateway.Steady) {before later : List Session}
    (present : gateway.sessions = before ++ session :: later) {operation? : Option Operation}
    (evolves : session.Evolves gateway.state operation? after)
    (apart : ∀ connection, session.connection ≠ connection → Apart connection operation?)
    (config : next.config = gateway.config)
    (performed : next.performed = gateway.performed ++ operation?.toList)
    (sessions : next.sessions = before ++ after :: later) :
    gateway.Evolves next operation? (before ++ after :: later) [] := by
  have others (other : Session) (isOther : other ∈ before ++ later) :
      Apart other.connection operation? :=
    apart _ (steady.apart_of_split present other isOther)
  refine ⟨config, performed, sessions.trans (List.append_nil _).symm, ?_, nofun⟩
  rw [present]
  exact List.rel_append
    (all_rest fun other isOther => others other (List.mem_append_left _ isOther))
    (.cons evolves (all_rest fun other isOther => others other (List.mem_append_right _ isOther)))

/-- What every step makes of a gateway. -/
theorem exists_evolves (steady : gateway.Steady) (steps : gateway.Step next) :
    ∃ operation? sessions opened, gateway.Evolves next operation? sessions opened := by
  cases steps with
  | @opens handle fresh =>
    refine ⟨some (.connect handle gateway.config.hub.outboxCapacity.toNat), gateway.sessions,
      [{ handle }], rfl, rfl, rfl, all_rest fun _ _ => by simp [Apart], fun session isNew => ?_⟩
    obtain rfl := List.mem_singleton.mp isNew
    refine ⟨rfl, fun taken => ?_⟩
    -- Who takes something from an outbox takes it from one that has been made.
    rcases List.mem_append.mp taken with earlier | now
    · obtain ⟨past, later, split⟩ := List.append_of_mem earlier
      have lawful := steady.service.lawful
      rw [split] at lawful fresh
      obtain ⟨other, isMade, same⟩ := List.mem_map.mp lawful.of_append_cons.follows.1
      exact fresh other (mem_made_append _ isMade) same
    · simp at now
  | @turn before later session after deed present turns possible =>
    refine ⟨deed.operation?, _, [], steady.evolves_replace present (.turns turns)
      (fun _ => turns.deed_of.apart) ?_ ?_ rfl⟩
    · cases deed <;> rfl
    · cases deed with
      | uses => rfl
      | nothing | submits => exact (List.append_nil _).symm
  | @hear before later session after present heard =>
    exact ⟨none, _, [], steady.evolves_replace present (.hears heard) (fun _ _ => by simp [Apart])
      rfl (List.append_nil _).symm rfl⟩
  | @move request after moves =>
    refine ⟨request.map .apply, gateway.sessions, [], rfl, by cases request <;> rfl,
      (List.append_nil _).symm, all_rest fun _ _ => by cases request <;> simp [Apart], nofun⟩
  | submit permitted room =>
    exact ⟨none, gateway.sessions, [], rfl, (List.append_nil _).symm, (List.append_nil _).symm,
      all_rest fun _ _ => by simp [Apart], nofun⟩
  | @use operation allowed =>
    refine ⟨some operation, gateway.sessions, [], rfl, rfl, (List.append_nil _).symm,
      all_rest fun session member => ?_, nofun⟩
    cases operation with
    | receive connection | abandon connection =>
      simpa [Apart] using (allowed.2 session member).symm
    | _ => simp [Apart]

end Gateway.Steady

/-- A step of a gateway as one of its sessions sees it. -/
structure Gateway.Advances (gateway next : Gateway) (operation? : Option Operation)
    (session after : Session) : Prop where
  steady : gateway.Steady
  now : next.Steady
  config : next.config = gateway.config
  performed : next.performed = gateway.performed ++ operation?.toList
  member : session ∈ gateway.sessions
  present : after ∈ next.sessions
  evolves : session.Evolves gateway.state operation? after

namespace Gateway

variable {change : Session → Session → Prop}

theorem Advances.handle_eq {operation? : Option Operation}
    (advances : gateway.Advances next operation? session after) : after.handle = session.handle :=
  advances.evolves.handle_eq

/-- A session keeps its connection. -/
theorem Advances.connection_eq {operation? : Option Operation}
    (advances : gateway.Advances next operation? session after) :
    after.connection = session.connection :=
  congrArg Handle.connection advances.handle_eq

/-- What becomes of the sessions in a step in which they go on in a certain way. -/
theorem Steady.forall_advances (steady : gateway.Steady) (steps : gateway.Step next)
    (changes : gateway.Changes change next) :
    ∃ operation?, (∀ session ∈ gateway.sessions, ∃ after,
        gateway.Advances next operation? session after ∧ change session after) ∧
      ∀ after ∈ next.sessions, after.IsNew next.performed ∨
        ∃ session, gateway.Advances next operation? session after ∧ change session after := by
  obtain ⟨operation?, sessions, opened, evolves⟩ := steady.exists_evolves steps
  obtain ⟨others, rest, split, changed⟩ := changes
  have same : sessions.length = others.length :=
    evolves.evolves.length_eq.symm.trans changed.length_eq
  obtain ⟨rfl, rfl⟩ := List.append_inj (evolves.split.symm.trans split) same
  have all : List.Forall₂ (fun session after =>
      session.Evolves gateway.state operation? after ∧ change session after)
      gateway.sessions sessions := evolves.evolves.mp (fun _ _ => And.intro) changed
  have advance {session after : Session} (member : session ∈ gateway.sessions)
      (isOld : after ∈ sessions) (goes : session.Evolves gateway.state operation? after) :
      gateway.Advances next operation? session after :=
    ⟨steady, steady.step steps, evolves.config, evolves.performed, member,
      evolves.split ▸ List.mem_append_left _ isOld, goes⟩
  refine ⟨operation?, fun session member => ?_, fun after member => ?_⟩
  · obtain ⟨after, isOld, goes, changes⟩ := exists_mem_right all member
    exact ⟨after, advance member isOld goes, changes⟩
  · rw [evolves.split] at member
    rcases List.mem_append.mp member with isOld | isNew
    · obtain ⟨session, isSession, goes, changes⟩ := exists_mem_left all isOld
      exact .inr ⟨session, advance isSession isOld goes, changes⟩
    · exact .inl (evolves.opened after isNew)

/-- What holds of all sessions at first and of each new one, and stays when a session goes on, holds
of all sessions at any time. -/
theorem ReachesBy.forall_sessions {motive : Gateway → Session → Prop}
    (reached : ReachesBy change first gateway) (steady : first.Steady)
    (initial : ∀ session ∈ first.sessions, motive first session)
    (opened : ∀ {next : Gateway} {session : Session}, session.IsNew next.performed →
      motive next session)
    (advanced : ∀ {gateway next : Gateway} {operation? : Option Operation}
      {session after : Session}, gateway.Advances next operation? session after →
      change session after → motive gateway session → motive next after) :
    ∀ session ∈ gateway.sessions, motive gateway session := by
  induction reached with
  | refl => exact initial
  | @step gateway next reached steps changes ih =>
    obtain ⟨operation?, -, all⟩ := (steady.reaches reached.reaches).forall_advances steps changes
    intro after member
    rcases all after member with isNew | ⟨session, advances, changed⟩
    · exact opened isNew
    · exact advanced advances changed (ih session advances.member)

/-- What holds of a session at first, and stays when it goes on, holds of it at any time. -/
theorem ReachesBy.exists_session {motive : Gateway → Session → Prop}
    (reached : ReachesBy change first gateway) (steady : first.Steady)
    (member : session ∈ first.sessions) (initial : motive first session)
    (advanced : ∀ {gateway next : Gateway} {operation? : Option Operation}
      {earlier after : Session}, earlier.handle = session.handle →
      gateway.Advances next operation? earlier after → change earlier after →
      motive gateway earlier → motive next after) :
    ∃ after ∈ gateway.sessions, after.handle = session.handle ∧ motive gateway after := by
  induction reached with
  | refl => exact ⟨session, member, rfl, initial⟩
  | @step gateway next reached steps changes ih =>
    obtain ⟨operation?, all, -⟩ := (steady.reaches reached.reaches).forall_advances steps changes
    obtain ⟨earlier, isEarlier, handle, holds⟩ := ih
    obtain ⟨after, advances, changed⟩ := all earlier isEarlier
    exact ⟨after, advances.present, advances.handle_eq.trans handle,
      advanced handle advances changed holds⟩

end Gateway

/-! ## What is written and what has been taken -/

/-- The payloads that have been taken from the outbox of a connection. -/
def Gateway.received (gateway : Gateway) (connection : ConnectionId) : List Payload :=
  Hub.received gateway.config.hub.policies gateway.performed connection

/-- What a session has written accounts for the payloads that it has taken: it has written a frame
for each, but for the one that it is about to write and those that are lost. A close frame comes
last. -/
structure Session.Accounts (session : Session) (taken lost : List Payload) : Prop where
  exists_written : ∃ sent ending, session.written = sent.map ServerFrame.ofPayload ++ ending ∧
    (ending = [] ∨ ending = [.close] ∧ session.writer = .ended) ∧
    taken = sent ++ session.writer.underWay ++ lost
  few : lost.length ≤ 1
  attentive : session.writer.Attends → lost = []

/-- The payload that is taken by an operation on a state. -/
def takenBy (connection : ConnectionId) (state : State) (operation? : Option Operation) :
    List Payload :=
  operation?.toList.flatMap fun operation => taken connection (state, operation)

@[simp] theorem takenBy_some (connection : ConnectionId) (state : State) (operation : Operation) :
    takenBy connection state (some operation) = taken connection (state, operation) :=
  List.flatMap_singleton _ _

/-- Only a receive of a connection takes anything for it. -/
theorem takenBy_eq_nil {connection : ConnectionId} {state : State}
    {operation? : Option Operation} (other : operation? ≠ some (.receive connection)) :
    takenBy connection state operation? = [] := by
  cases operation? with
  | none => rfl
  | some operation =>
    rw [takenBy_some]
    exact taken_eq_nil fun same => other (congrArg some same)

/-- What a connection has received grows by what a step takes for it. -/
theorem Gateway.Advances.received_eq {operation? : Option Operation}
    (advances : gateway.Advances next operation? session after) (connection : ConnectionId) :
    next.received connection =
      gateway.received connection ++ takenBy connection gateway.state operation? := by
  have state : gateway.state = State.after gateway.config.hub.policies gateway.performed :=
    advances.steady.service.state_eq
  rw [received, received, advances.config, advances.performed, state]
  cases operation? with
  | none => simp [takenBy]
  | some operation => simp [Hub.received]

namespace Session.Accounts

variable {taken lost : List Payload}

/-- A writer that goes on without writing. -/
theorem keep (accounts : session.Accounts taken lost) (written : after.written = session.written)
    (underWay : after.writer.underWay = session.writer.underWay)
    (attends : after.writer.Attends → session.writer.Attends)
    (ended : session.writer = .ended → after.writer = .ended) : after.Accounts taken lost := by
  obtain ⟨⟨sent, ending, isWritten, atEnd, isTaken⟩, few, attentive⟩ := accounts
  exact ⟨⟨sent, ending, written.trans isWritten, atEnd.imp_right (And.imp_right ended),
    underWay ▸ isTaken⟩, few, attentive ∘ attends⟩

/-- A writer that still writes has not written a close frame, and nothing is lost. -/
theorem of_not_ended (accounts : session.Accounts taken lost) (busy : session.writer ≠ .ended) :
    ∃ sent, session.written = sent.map ServerFrame.ofPayload ∧
      taken = sent ++ session.writer.underWay ++ lost := by
  obtain ⟨⟨sent, ending, isWritten, rfl | ⟨-, ended⟩, isTaken⟩, -, -⟩ := accounts
  · exact ⟨sent, isWritten.trans (List.append_nil _), isTaken⟩
  · exact absurd ended busy

/-- The writer lets go of its end of the outbox. What it was about to write is lost. -/
theorem leave (accounts : session.Accounts taken lost) (attends : session.writer.Attends)
    (written : after.written = session.written) (stops : ¬ after.writer.Attends) :
    after.Accounts taken session.writer.underWay := by
  have nothing := accounts.attentive attends
  obtain ⟨sent, isWritten, isTaken⟩ :=
    accounts.of_not_ended fun ended => by simp [ended, WriterStage.Attends] at attends
  refine ⟨⟨sent, [], written.trans (isWritten.trans (List.append_nil _).symm), .inl rfl, ?_⟩, ?_,
    fun attends => absurd attends stops⟩
  · have idle : after.writer.underWay = [] := by
      cases stage : after.writer <;> simp_all [WriterStage.Attends, WriterStage.underWay]
    rw [isTaken, nothing, idle, List.append_nil, List.append_nil]
  · cases session.writer <;> simp [WriterStage.underWay]

/-- What a turn makes of what a session has written. Nothing is lost where the transport accepts
what is written. -/
theorem turn (accounts : session.Accounts taken lost) {state : State} {deed : Deed}
    (turns : session.Turn state deed after) :
    ∃ nowLost, after.Accounts (taken ++ takenBy session.connection state deed.operation?) nowLost ∧
      (session.Accepts after → nowLost = lost) := by
  have quiet (other : deed.operation? ≠ some (.receive session.connection)) :
      taken ++ takenBy session.connection state deed.operation? = taken := by
    rw [takenBy_eq_nil other, List.append_nil]
  cases turns with
  | register | notice | unregister | submit | cancel_reader =>
    rw [quiet (by simp [Deed.operation?])]
    exact ⟨lost, accounts.keep rfl rfl id id, fun _ => rfl⟩
  | @take outbox payload started writer found next =>
    have nothing := accounts.attentive (by rw [writer]; trivial)
    obtain ⟨sent, isWritten, isTaken⟩ := accounts.of_not_ended (by simp [writer])
    have one : takenBy session.connection state (some (.receive session.connection)) =
        [payload] := by
      simp [Hub.taken, seen, found, next, Reception.payload?]
    rw [nothing, writer] at isTaken
    refine ⟨lost, ⟨⟨sent, [], by simpa using isWritten, .inl rfl, ?_⟩, accounts.few,
      fun _ => nothing⟩, fun _ => rfl⟩
    rw [Deed.operation?, one, nothing, isTaken]
    simp [WriterStage.underWay]
  | @write payload writer =>
    have nothing := accounts.attentive (by rw [writer]; trivial)
    obtain ⟨sent, isWritten, isTaken⟩ := accounts.of_not_ended (by simp [writer])
    rw [quiet (by simp [Deed.operation?])]
    rw [nothing, writer] at isTaken
    refine ⟨lost, ⟨⟨sent ++ [payload], [], by simp [isWritten], .inl rfl, ?_⟩, accounts.few,
      fun _ => nothing⟩, fun _ => rfl⟩
    rw [isTaken, nothing]
    simp [WriterStage.underWay]
  | @fail payload writer =>
    rw [quiet (by simp [Deed.operation?])]
    refine ⟨_, accounts.leave (by rw [writer]; trivial) rfl id, fun accepts => ?_⟩
    have wrote := accepts (.ofPayload payload) (by rw [writer]; rfl)
    simp [writer] at wrote
  | finish started writer found atEnd =>
    have attends : session.writer.Attends := by rw [writer]; trivial
    rw [quiet (by simp [Deed.operation?])]
    refine ⟨_, accounts.leave attends rfl id, fun _ => ?_⟩
    rw [writer, accounts.attentive attends]
    rfl
  | close writer =>
    obtain ⟨sent, isWritten, isTaken⟩ := accounts.of_not_ended (by simp [writer])
    rw [quiet (by simp [Deed.operation?])]
    refine ⟨lost, ⟨⟨sent, [.close], by simp [isWritten], .inr ⟨rfl, rfl⟩, ?_⟩, accounts.few,
      False.elim⟩, fun _ => rfl⟩
    rw [isTaken, writer]
    rfl
  | close_failed writer | cancel_closing atEnd writer =>
    rw [quiet (by simp [Deed.operation?])]
    exact ⟨lost, accounts.keep rfl (by rw [writer]; rfl) False.elim fun _ => rfl,
      fun _ => rfl⟩
  | cancel_writer atEnd attends =>
    rw [quiet (by simp [Deed.operation?])]
    refine ⟨_, accounts.leave attends rfl id, fun accepts => ?_⟩
    rw [accounts.attentive attends]
    cases writer : session.writer with
    | writing payload =>
      have wrote := accepts (.ofPayload payload) (by rw [writer]; rfl)
      simp [writer] at wrote
    | _ => rfl

/-- Each step keeps the account, and no more is lost where what is written is accepted. -/
theorem evolve (accounts : session.Accounts taken lost) {state : State}
    {operation? : Option Operation} (evolves : session.Evolves state operation? after) :
    ∃ nowLost, after.Accounts (taken ++ takenBy session.connection state operation?) nowLost ∧
      (session.Accepts after → nowLost = lost) := by
  cases evolves with
  | rests apart =>
    rw [takenBy_eq_nil apart.1, List.append_nil]
    exact ⟨lost, accounts, fun _ => rfl⟩
  | turns turns => exact accounts.turn turns
  | hears heard =>
    rw [takenBy_eq_nil (by simp), List.append_nil]
    cases heard with
    | message | lost => exact ⟨lost, accounts.keep rfl rfl id id, fun _ => rfl⟩

end Session.Accounts

end Switchboard.WebSocket
