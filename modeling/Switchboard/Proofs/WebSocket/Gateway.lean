import Switchboard.Proofs.Hub.Agreement
import Switchboard.Proofs.Hub.Faithful
import Switchboard.Proofs.WebSocket.Confinement

/-!
# Sessions around a hub

A session serves one WebSocket with three tasks. A supervisor registers a connection, waits for
either of the other two to end and unregisters the connection; a writer takes payloads from the
outbox and writes them; a reader listens to the client and submits what its messages bring about.
Each goes on in single steps, between which other sessions, the dispatcher and other parties do what
they like. A `Gateway` is such a system. `Steady` is what holds of it at any time.
-/

namespace Switchboard.WebSocket

open Hub

/-- The requests that the session of a connection has submitted, of those that have entered. -/
def submittedBy (connection : ConnectionId) (entered : List (Option ConnectionId × Request)) :
    List Request :=
  entered.filterMap fun one => if one.1 = some connection then some one.2 else none

/-- What a writer is about to do. -/
inductive WriterStage where
  /-- Take the next payload from the outbox. -/
  | draining
  /-- Write a payload. -/
  | writing (payload : Payload)
  /-- Write a close frame, the outbox being gone. -/
  | closing
  | ended
deriving DecidableEq

/-- The writer still has its end of the outbox. -/
def WriterStage.Attends : WriterStage → Prop
  | .draining | .writing _ => True
  | .closing | .ended => False

/-- What a reader is about to do. -/
inductive ReaderStage where
  /-- Read the next message of the client. -/
  | listening
  /-- Submit a request, once its lane has room. -/
  | submitting (request : FanoutRequest)
  | ended
deriving DecidableEq

/-- What a supervisor is about to do. -/
inductive Phase where
  /-- Register the connection and start writer and reader. -/
  | registering
  /-- Wait for either of them to end. -/
  | serving
  /-- Unregister the connection. -/
  | departing
  | gone
deriving DecidableEq

/-- The server's side of a WebSocket, task by task. -/
structure Session where
  handle : Handle
  phase : Phase := .registering
  writer : WriterStage := .draining
  reader : ReaderStage := .listening
  /-- What the writer has written, the oldest first. -/
  written : List ServerFrame := []
deriving DecidableEq

/-- What a turn of a session does to the hub. -/
inductive Deed where
  | nothing
  | submits (request : Request)
  /-- The writer uses its end of the outbox. -/
  | uses (operation : Operation)

namespace Session

def connection (session : Session) : ConnectionId := session.handle.connection

/-- The request that ends a session. -/
def farewell (session : Session) : Request :=
  .unregister session.handle.user session.connection

/-- All three tasks of a session have ended. -/
structure HasEnded (session : Session) : Prop where
  phase : session.phase = .gone
  writer : session.writer = .ended
  reader : session.reader = .ended

/-- All three tasks of a session wait: for a payload, for a message, and for either to end. -/
structure IsOpen (session : Session) : Prop where
  phase : session.phase = .serving
  writer : session.writer = .draining
  reader : session.reader = .listening

/-- A turn of one of the tasks of a session, which it takes by itself. Writing either succeeds or
fails. A task that the supervisor has cancelled may still take turns before it ends. -/
inductive Turn (state : State) (session : Session) : Deed → Session → Prop where
  | register (phase : session.phase = .registering) :
      Turn state session (.submits (.register session.handle)) { session with phase := .serving }
  | notice (phase : session.phase = .serving)
      (either : session.writer = .ended ∨ session.reader = .ended) :
      Turn state session .nothing { session with phase := .departing }
  | unregister (phase : session.phase = .departing) :
      Turn state session (.submits session.farewell) { session with phase := .gone }
  | take {outbox : Outbox} {payload : Payload} (started : session.phase ≠ .registering)
      (writer : session.writer = .draining)
      (found : state.outboxes[session.connection]? = some outbox)
      (next : outbox.receive.1 = .payload payload) :
      Turn state session (.uses (.receive session.connection))
        { session with writer := .writing payload }
  | write {payload : Payload} (writer : session.writer = .writing payload) :
      Turn state session .nothing
        { session with
          writer := .draining
          written := session.written ++ [.ofPayload payload] }
  | fail {payload : Payload} (writer : session.writer = .writing payload) :
      Turn state session (.uses (.abandon session.connection)) { session with writer := .closing }
  | finish {outbox : Outbox} (started : session.phase ≠ .registering)
      (writer : session.writer = .draining)
      (found : state.outboxes[session.connection]? = some outbox)
      (atEnd : outbox.receive.1 = .closed) :
      Turn state session (.uses (.abandon session.connection)) { session with writer := .closing }
  | close (writer : session.writer = .closing) :
      Turn state session .nothing
        { session with
          writer := .ended
          written := session.written ++ [.close] }
  | close_failed (writer : session.writer = .closing) :
      Turn state session .nothing { session with writer := .ended }
  | submit {request : FanoutRequest} (reader : session.reader = .submitting request) :
      Turn state session (.submits (.fanout request)) { session with reader := .listening }
  | cancel_reader (atEnd : session.phase = .departing ∨ session.phase = .gone)
      (reader : session.reader ≠ .ended) :
      Turn state session .nothing { session with reader := .ended }
  | cancel_writer (atEnd : session.phase = .departing ∨ session.phase = .gone)
      (writer : session.writer.Attends) :
      Turn state session (.uses (.abandon session.connection)) { session with writer := .ended }
  | cancel_closing (atEnd : session.phase = .departing ∨ session.phase = .gone)
      (writer : session.writer = .closing) :
      Turn state session .nothing { session with writer := .ended }

/-- What the reader does next after a reaction to a message of a user. -/
def readerAfter (user : UserId) : Reaction → ReaderStage
  | .stop => .ended
  | reaction => (reaction.request? user).elim .listening .submitting

/-- What the client of a session can make of it: it sends a message, or nothing more can be read
from it. -/
inductive Heard (limit : Nat) (session : Session) : Session → Prop where
  | message (started : session.phase ≠ .registering) (reader : session.reader = .listening)
      (now : Int64) (incoming : Incoming) :
      Heard limit session
        { session with
          reader := readerAfter session.handle.user
            (react limit session.handle.user now incoming).1 }
  | lost (started : session.phase ≠ .registering) (reader : session.reader = .listening) :
      Heard limit session { session with reader := .ended }

end Session

/-- A hub with the sessions around it. -/
structure Gateway where
  config : Config
  dispatcher : Dispatcher
  sessions : List Session := []
  /-- The requests that have entered, in the order of their stamps, each with the connection whose
  session has submitted it; none if another party has. -/
  entered : List (Option ConnectionId × Request) := []
  /-- What has been done to the hub's state. -/
  performed : List Operation := []

namespace Gateway

/-- A gateway without sessions, whose dispatcher has started. -/
def start (config : Config) : Gateway where
  config
  dispatcher := (Hub.create config.hub).dispatcher

def state (gateway : Gateway) : State := gateway.dispatcher.state

def requests (gateway : Gateway) : List Request := gateway.entered.map Prod.snd

def enter (gateway : Gateway) (origin : Option ConnectionId) (request : Request) : Gateway :=
  { gateway with
    dispatcher := gateway.dispatcher.enter request
    entered := gateway.entered ++ [(origin, request)] }

/-- Somebody uses the state of the hub. -/
def use (gateway : Gateway) (operation : Operation) : Gateway :=
  { gateway with
    dispatcher := { gateway.dispatcher with
      state := gateway.state.perform gateway.dispatcher.policies operation }
    performed := gateway.performed ++ [operation] }

/-- The gateway after a deed of the session of a connection. -/
def carryOut (gateway : Gateway) (connection : ConnectionId) : Deed → Gateway
  | .nothing => gateway
  | .submits request => gateway.enter (some connection) request
  | .uses operation => gateway.use operation

/-- A deed is possible: a request can enter if its lane has room. -/
def Admits (gateway : Gateway) : Deed → Prop
  | .submits request => gateway.dispatcher.isFull (Dispatcher.laneOf request) = false
  | .nothing | .uses _ => True

/-- A handle that a party other than a session has and has not given away. -/
structure Spare (gateway : Gateway) (handle : Handle) : Prop where
  inHand : InHand gateway.performed handle
  foreign : ∀ session ∈ gateway.sessions, session.handle ≠ handle
  kept : Request.register handle ∉ gateway.requests

/-- What parties other than sessions may submit: anything, but a handle only if they have it. -/
def Permits (gateway : Gateway) : Request → Prop
  | .register handle => gateway.Spare handle
  | .unregister _ _ | .fanout _ => True

/-- What parties other than sessions may do: make connections of their own and use them. -/
def Allows (gateway : Gateway) : Operation → Prop
  | .connect handle capacity => (Operation.connect handle capacity).Follows gateway.performed
  | .push handle _ | .close handle => gateway.Spare handle
  | .apply _ => False
  | .receive connection | .abandon connection =>
    (Operation.abandon connection).Follows gateway.performed ∧
      ∀ session ∈ gateway.sessions, session.connection ≠ connection

/-- One step of a gateway. -/
inductive Step (gateway : Gateway) : Gateway → Prop where
  | opens {handle : Handle}
      (fresh : ∀ earlier ∈ made gateway.performed, earlier.connection ≠ handle.connection) :
      Step gateway
        { gateway.use (.connect handle gateway.config.hub.outboxCapacity.toNat) with
          sessions := gateway.sessions ++ [{ handle }] }
  | turn {before later : List Session} {session next : Session} {deed : Deed}
      (present : gateway.sessions = before ++ session :: later)
      (turns : session.Turn gateway.state deed next) (possible : gateway.Admits deed) :
      Step gateway
        { gateway.carryOut session.connection deed with sessions := before ++ next :: later }
  /-- A client sends a message or is gone. -/
  | hear {before later : List Session} {session next : Session}
      (present : gateway.sessions = before ++ session :: later)
      (heard : session.Heard gateway.config.websocket.maxRelayRecipients.toNat next) :
      Step gateway { gateway with sessions := before ++ next :: later }
  | move {request : Option Request} {after : Dispatcher}
      (moves : gateway.dispatcher.Moves request after) :
      Step gateway
        { gateway with
          dispatcher := after
          performed := gateway.performed ++ request.toList.map .apply }
  /-- Another party submits a request. -/
  | submit {request : Request} (permitted : gateway.Permits request)
      (room : gateway.dispatcher.isFull (Dispatcher.laneOf request) = false) :
      Step gateway (gateway.enter none request)
  /-- Another party makes or uses a connection. -/
  | use {operation : Operation} (allowed : gateway.Allows operation) :
      Step gateway (gateway.use operation)

inductive Reaches (first : Gateway) : Gateway → Prop where
  | refl : Reaches first first
  | step {gateway next : Gateway} :
      Reaches first gateway → gateway.Step next → Reaches first next

/-- Nothing happens until somebody from outside does something: the dispatcher is idle, and no
session can take a turn. -/
structure Quiescent (gateway : Gateway) : Prop where
  idle : gateway.dispatcher.isIdle = true
  rests : ∀ session ∈ gateway.sessions, ∀ deed next,
    session.Turn gateway.state deed next → ¬ gateway.Admits deed

end Gateway

/-! ## One session -/

/-- What a session has submitted, but for deliveries. -/
def Session.formalities (session : Session) : List Request :=
  match session.phase with
  | .registering => []
  | .serving | .departing => [.register session.handle]
  | .gone => [.register session.handle, session.farewell]

def isDelivery : Request → Bool
  | .fanout _ => true
  | .register _ | .unregister _ _ => false

/-- What holds of a session at any time, after what has been done to the state and what has entered:
how far its tasks have come shows in both. -/
structure Session.Fits (performed : List Operation)
    (entered : List (Option ConnectionId × Request)) (session : Session) : Prop where
  made : session.handle ∈ made performed
  unclosed : Operation.close session.handle ∉ performed
  attends_iff : session.writer.Attends ↔ Operation.abandon session.connection ∉ performed
  unstarted : session.phase = .registering →
    session.writer = .draining ∧ session.reader = .listening ∧
      Request.register session.handle ∉ entered.map Prod.snd
  atEnd : session.phase = .departing ∨ session.phase = .gone →
    session.writer = .ended ∨ session.reader = .ended
  first : (submittedBy session.connection entered).head? = session.formalities.head?
  formal : (submittedBy session.connection entered).filter (fun request => !isDelivery request) =
    session.formalities

theorem submittedBy_concat (connection : ConnectionId)
    (entered : List (Option ConnectionId × Request)) (origin : Option ConnectionId)
    (request : Request) :
    submittedBy connection (entered ++ [(origin, request)]) =
      submittedBy connection entered ++ if origin = some connection then [request] else [] := by
  rw [submittedBy, List.filterMap_append]
  by_cases own : origin = some connection <;> simp [own, submittedBy]

/-- Where a session has submitted a request, the same request has entered. -/
theorem exists_entered_of_submittedBy {connection : ConnectionId}
    {entered : List (Option ConnectionId × Request)} {before later : List Request}
    {request : Request} (split : submittedBy connection entered = before ++ request :: later) :
    ∃ first last, entered = first ++ (some connection, request) :: last ∧
      submittedBy connection first = before := by
  rw [submittedBy, List.filterMap_eq_append_iff] at split
  obtain ⟨first, second, rfl, left, right⟩ := split
  obtain ⟨skipped, entry, last, rfl, others, own, -⟩ := List.filterMap_eq_cons_iff.mp right
  have isEntry : entry = (some connection, request) := by
    obtain ⟨origin, given⟩ := Option.ite_none_right_eq_some.mp own
    exact Prod.ext origin (Option.some.inj given)
  refine ⟨first ++ skipped, last, by rw [isEntry, List.append_assoc], ?_⟩
  rw [submittedBy, List.filterMap_append, left, List.filterMap_eq_nil_iff.mpr others,
    List.append_nil]

/-- What the session of a connection has submitted has entered. -/
theorem mem_of_mem_submittedBy {connection : ConnectionId}
    {entered : List (Option ConnectionId × Request)} {request : Request}
    (member : request ∈ submittedBy connection entered) : (some connection, request) ∈ entered := by
  obtain ⟨before, later, split⟩ := List.append_of_mem member
  obtain ⟨first, last, rfl, -⟩ := exists_entered_of_submittedBy split
  exact List.mem_append_right _ List.mem_cons_self

/-- What a deed of a session can be. -/
inductive Deed.Of (session : Session) : Deed → Prop where
  | nothing : Deed.Of session .nothing
  | submits {request : Request}
      (registers : ∀ handle, request = .register handle →
        handle = session.handle ∧ session.phase = .registering) : Deed.Of session (.submits request)
  | receives (attends : session.writer.Attends) :
      Deed.Of session (.uses (.receive session.connection))
  | abandons (attends : session.writer.Attends) :
      Deed.Of session (.uses (.abandon session.connection))

namespace Session

variable {state : State} {session next : Session} {deed : Deed} {performed : List Operation}
  {entered : List (Option ConnectionId × Request)}

theorem Turn.deed_of (turns : session.Turn state deed next) : deed.Of session := by
  cases turns with
  | register phase => exact .submits fun handle same => ⟨(Request.register.inj same).symm, phase⟩
  | unregister phase => exact .submits nofun
  | submit reader => exact .submits nofun
  | take started writer found next => exact .receives (writer ▸ trivial)
  | fail writer => exact .abandons (writer ▸ trivial)
  | finish started writer found atEnd => exact .abandons (writer ▸ trivial)
  | cancel_writer atEnd writer => exact .abandons writer
  | _ => exact .nothing

theorem Turn.handle_eq (turns : session.Turn state deed next) : next.handle = session.handle := by
  cases turns <;> rfl

theorem Heard.handle_eq {limit : Nat} (heard : session.Heard limit next) :
    next.handle = session.handle := by
  cases heard <;> rfl

namespace Fits

/-- A request that another party submits does not concern a session, unless it takes its handle. -/
theorem enter (fits : session.Fits performed entered) {origin : Option ConnectionId}
    {request : Request} (elsewhere : origin ≠ some session.connection)
    (other : request ≠ .register session.handle) :
    session.Fits performed (entered ++ [(origin, request)]) := by
  have same : submittedBy session.connection (entered ++ [(origin, request)]) =
      submittedBy session.connection entered := by
    rw [submittedBy_concat, if_neg elsewhere, List.append_nil]
  refine ⟨fits.made, fits.unclosed, fits.attends_iff, fun phase => ?_, fits.atEnd,
    same ▸ fits.first, same ▸ fits.formal⟩
  obtain ⟨writer, reader, fresh⟩ := fits.unstarted phase
  refine ⟨writer, reader, ?_⟩
  simpa [other.symm] using fresh

/-- What is done to the state does not concern a session, unless it takes an end of its
connection. -/
theorem use (fits : session.Fits performed entered) (operation : Operation)
    (unclosing : operation ≠ .close session.handle)
    (staying : operation ≠ .abandon session.connection) :
    session.Fits (performed ++ [operation]) entered where
  made := mem_made_append _ fits.made
  unclosed := by simpa [unclosing.symm] using fits.unclosed
  attends_iff := by simpa [staying.symm] using fits.attends_iff
  unstarted := fits.unstarted
  atEnd := fits.atEnd
  first := fits.first
  formal := fits.formal

/-- The supervisor submits a request and goes on. -/
theorem submit (fits : session.Fits performed entered) (next : Session) (request : Request)
    (handle : next.handle = session.handle) (writer : next.writer = session.writer)
    (reader : session.reader = .ended → next.reader = .ended)
    (started : next.phase ≠ .registering)
    (atEnd : next.phase = .departing ∨ next.phase = .gone →
      session.phase = .departing ∨ session.phase = .gone)
    (first : next.formalities.head? = (session.formalities ++ [request]).head?)
    (formal : next.formalities =
      session.formalities ++ [request].filter fun request => !isDelivery request) :
    next.Fits performed (entered ++ [(some session.connection, request)]) := by
  have connection : next.connection = session.connection := congrArg Handle.connection handle
  have grown : submittedBy next.connection (entered ++ [(some session.connection, request)]) =
      submittedBy session.connection entered ++ [request] := by
    rw [submittedBy_concat, connection, if_pos rfl]
  constructor
  case made => exact handle ▸ fits.made
  case unclosed => exact handle ▸ fits.unclosed
  case attends_iff =>
    rw [writer, connection]
    exact fits.attends_iff
  case unstarted => exact fun phase => absurd phase started
  case atEnd =>
    intro isOver
    rw [writer]
    exact (fits.atEnd (atEnd isOver)).imp_right reader
  case first => rw [grown, first, List.head?_append, List.head?_append, fits.first]
  case formal => rw [grown, List.filter_append, fits.formal, formal]

/-- A session goes on without submitting anything; its writer keeps its end of the outbox. -/
theorem proceed (fits : session.Fits performed entered) (next : Session)
    (handle : next.handle = session.handle)
    (formalities : next.formalities = session.formalities) (started : next.phase ≠ .registering)
    (attends : next.writer.Attends ↔ session.writer.Attends)
    (atEnd : next.phase = .departing ∨ next.phase = .gone →
      next.writer = .ended ∨ next.reader = .ended) :
    next.Fits performed entered := by
  have connection : next.connection = session.connection := congrArg Handle.connection handle
  constructor
  case made => exact handle ▸ fits.made
  case unclosed => exact handle ▸ fits.unclosed
  case attends_iff => exact connection ▸ attends.trans fits.attends_iff
  case unstarted => exact fun phase => absurd phase started
  case atEnd => exact atEnd
  case first => rw [formalities, connection]; exact fits.first
  case formal => rw [formalities, connection]; exact fits.formal

/-- The writer lets go of its end of the outbox. -/
theorem abandon (fits : session.Fits performed entered) (next : Session)
    (handle : next.handle = session.handle)
    (phase : next.phase = session.phase) (started : session.phase ≠ .registering)
    (leaves : ¬ next.writer.Attends)
    (atEnd : session.phase = .departing ∨ session.phase = .gone →
      next.writer = .ended ∨ next.reader = .ended) :
    next.Fits (performed ++ [.abandon session.connection]) entered := by
  have connection : next.connection = session.connection := congrArg Handle.connection handle
  have formalities : next.formalities = session.formalities := by
    simp only [formalities, farewell, phase, handle, connection]
  constructor
  case made => exact handle ▸ mem_made_append _ fits.made
  case unclosed => simpa [handle] using fits.unclosed
  case attends_iff => simp [leaves, connection]
  case unstarted => exact fun isUnstarted => absurd (phase ▸ isUnstarted) started
  case atEnd => exact phase ▸ atEnd
  case first => rw [formalities, connection]; exact fits.first
  case formal => rw [formalities, connection]; exact fits.formal

/-- A session that submits, writes or listens has started. -/
theorem started (fits : session.Fits performed entered)
    (busy : session.writer ≠ .draining ∨ session.reader ≠ .listening) :
    session.phase ≠ .registering := by
  intro phase
  obtain ⟨writer, reader, -⟩ := fits.unstarted phase
  rcases busy with busy | busy
  · exact busy writer
  · exact busy reader

theorem hear (fits : session.Fits performed entered) {limit : Nat}
    (heard : session.Heard limit next) : next.Fits performed entered := by
  cases heard with
  | message started reader now incoming =>
    refine fits.proceed _ rfl rfl started Iff.rfl fun isOver => ?_
    exact .inl ((fits.atEnd isOver).resolve_right (by simp [reader]))
  | lost started reader => exact fits.proceed _ rfl rfl started Iff.rfl fun _ => .inr rfl

end Fits

end Session

/-! ## All sessions -/

/-- Where the members of a list differ in something, each differs from all others. -/
theorem apart_of_nodup_map {α β : Type} {feature : α → β} {before later : List α} {one : α}
    (nodup : ((before ++ one :: later).map feature).Nodup) :
    ∀ other ∈ before ++ later, feature other ≠ feature one := by
  rw [List.map_append, List.map_cons] at nodup
  have fresh := (List.nodup_cons.mp ((List.perm_middle.nodup_iff).mp nodup)).1
  intro other member same
  exact fresh (by rw [← same, ← List.map_append]; exact List.mem_map_of_mem member)

theorem mem_of_mem_others {α : Type} {before later : List α} {one other : α}
    (member : other ∈ before ++ later) : other ∈ before ++ one :: later :=
  ((List.sublist_cons_self one later).append_left before).subset member

/-- What holds of a gateway at any time. -/
structure Gateway.Steady (gateway : Gateway) : Prop where
  service : gateway.dispatcher.InService gateway.config.hub.policies gateway.requests
    gateway.performed
  apart : (gateway.sessions.map Session.connection).Nodup
  origins : ∀ connection request, (some connection, request) ∈ gateway.entered →
    connection ∈ gateway.sessions.map Session.connection
  fits : ∀ session ∈ gateway.sessions, session.Fits gateway.performed gateway.entered

variable {gateway next : Gateway}

/-- A turn leaves the session that takes it as it should be. -/
theorem Session.Fits.turn {session next : Session}
    (fits : session.Fits gateway.performed gateway.entered) {state : State} {deed : Deed}
    (turns : session.Turn state deed next) :
    next.Fits (gateway.carryOut session.connection deed).performed
      (gateway.carryOut session.connection deed).entered := by
  have started_of_over (atEnd : session.phase = .departing ∨ session.phase = .gone) :
      session.phase ≠ .registering := by
    rcases atEnd with atEnd | atEnd <;> simp [atEnd]
  -- A turn that submits adds to the record of requests, and one by which the writer leaves to that
  -- of operations; all others show in neither.
  cases turns with
  | register phase =>
    have formalities : session.formalities = [] := by rw [formalities, phase]
    exact fits.submit { session with phase := .serving } (.register session.handle) rfl rfl id nofun
      nofun (by rw [formalities]; rfl) (by rw [formalities]; rfl)
  | unregister phase =>
    have formalities : session.formalities = [.register session.handle] := by
      rw [formalities, phase]
    exact fits.submit { session with phase := .gone } session.farewell rfl rfl id nofun
      (fun _ => .inl phase) (by rw [formalities]; rfl) (by rw [formalities]; rfl)
  | @submit request reader =>
    have started := fits.started (.inr (by simp [reader]))
    have formalities : session.formalities ≠ [] := by
      cases phase : session.phase <;> simp_all [formalities]
    exact fits.submit { session with reader := .listening } (.fanout request) rfl rfl
      (by simp [reader]) started id (List.head?_append_of_ne_nil _ formalities).symm
      (List.append_nil _).symm
  | notice phase either =>
    have formalities : session.formalities = [.register session.handle] := by
      rw [formalities, phase]
    exact fits.proceed { session with phase := .departing } rfl (by rw [formalities]; rfl) nofun
      Iff.rfl fun _ => either
  | @take outbox payload started writer found next =>
    have fits := fits.use (.receive session.connection) nofun nofun
    refine fits.proceed { session with writer := .writing payload } rfl rfl started
      (by simp [writer, WriterStage.Attends]) fun atEnd => ?_
    exact .inr ((fits.atEnd atEnd).resolve_left (by simp [writer]))
  | write writer =>
    have started := fits.started (.inl (by simp [writer]))
    refine fits.proceed { session with writer := .draining, written := _ } rfl rfl started
      (by simp [writer, WriterStage.Attends]) fun atEnd => ?_
    exact .inr ((fits.atEnd atEnd).resolve_left (by simp [writer]))
  | fail writer =>
    have started := fits.started (.inl (by simp [writer]))
    refine fits.abandon { session with writer := .closing } rfl rfl started id fun atEnd => ?_
    exact .inr ((fits.atEnd atEnd).resolve_left (by simp [writer]))
  | finish started writer found atEnd =>
    refine fits.abandon { session with writer := .closing } rfl rfl started id fun atEnd => ?_
    exact .inr ((fits.atEnd atEnd).resolve_left (by simp [writer]))
  | close writer =>
    have started := fits.started (.inl (by simp [writer]))
    exact fits.proceed { session with writer := .ended, written := _ } rfl rfl started
      (by simp [writer, WriterStage.Attends]) fun _ => .inl rfl
  | close_failed writer | cancel_closing atEnd writer =>
    have started := fits.started (.inl (by simp [writer]))
    exact fits.proceed { session with writer := .ended } rfl rfl started
      (by simp [writer, WriterStage.Attends]) fun _ => .inl rfl
  | cancel_reader atEnd reader =>
    exact fits.proceed { session with reader := .ended } rfl rfl (started_of_over atEnd) Iff.rfl
      fun _ => .inr rfl
  | cancel_writer atEnd writer =>
    exact fits.abandon { session with writer := .ended } rfl rfl (started_of_over atEnd) id
      fun _ => .inl rfl

/-- A turn of one session leaves another as it is. -/
theorem Session.Fits.turn_other {session other : Session}
    (fits : other.Fits gateway.performed gateway.entered) {deed : Deed} (of : deed.Of session)
    (different : session.connection ≠ other.connection) :
    other.Fits (gateway.carryOut session.connection deed).performed
      (gateway.carryOut session.connection deed).entered := by
  cases of with
  | nothing => exact fits
  | submits registers =>
    refine fits.enter (fun same => different (Option.some.inj same)) fun same => different ?_
    rw [connection, ← (registers _ same).1]
    rfl
  | receives attends => exact fits.use _ nofun nofun
  | abandons attends =>
    exact fits.use _ nofun fun same => different (Operation.abandon.inj same)

namespace Gateway.Steady

theorem start (config : Config) : (start config).Steady where
  service := Dispatcher.InService.create _ _ _ _
  apart := List.nodup_nil
  origins := nofun
  fits := nofun

/-- A connection that has not been made is not that of a session, and nothing is known of its
handle. -/
theorem of_fresh (steady : gateway.Steady) {handle : Handle}
    (fresh : ∀ earlier ∈ made gateway.performed, earlier.connection ≠ handle.connection) :
    (∀ session ∈ gateway.sessions, session.connection ≠ handle.connection) ∧
      Request.register handle ∉ gateway.requests ∧
      Operation.close handle ∉ gateway.performed ∧
      Operation.abandon handle.connection ∉ gateway.performed := by
  have lawful := steady.service.lawful
  refine ⟨fun session member => fresh _ (steady.fits session member).made, fun entered => ?_,
    fun closed => ?_, fun gone => ?_⟩
  · exact fresh handle (steady.service.given handle entered).1 rfl
  · exact fresh handle (lawful.made_of_spent (mem_spent_iff.mpr (.inl closed))) rfl
  · obtain ⟨other, isMade, same⟩ := List.mem_map.mp (lawful.made_of_abandon gone)
    exact fresh other isMade same

/-- A new session under an unused connection keeps the gateway steady. -/
theorem opens (steady : gateway.Steady) {handle : Handle}
    (fresh : ∀ earlier ∈ made gateway.performed, earlier.connection ≠ handle.connection) :
    Steady
      { gateway.use (.connect handle gateway.config.hub.outboxCapacity.toNat) with
        sessions := gateway.sessions ++ [{ handle }] } := by
  obtain ⟨apart, notEntered, unclosed, attended⟩ := steady.of_fresh fresh
  -- Whoever has submitted anything is among the sessions, whose connections have been made.
  have nothing : submittedBy handle.connection gateway.entered = [] := by
    refine List.filterMap_eq_nil_iff.mpr fun one member => if_neg fun own => ?_
    have known := steady.origins handle.connection one.2 (by rw [← own]; exact member)
    obtain ⟨session, isMember, same⟩ := List.mem_map.mp known
    exact apart session isMember same
  constructor
  case service => exact steady.service.use fresh rfl nofun
  case apart =>
    rw [List.map_append, List.nodup_append]
    refine ⟨steady.apart, List.pairwise_singleton _ _, ?_⟩
    rintro connection member other now rfl
    obtain ⟨session, isMember, rfl⟩ := List.mem_map.mp member
    exact apart session isMember (List.mem_singleton.mp now)
  case origins =>
    intro connection request entered
    rw [List.map_append]
    exact List.mem_append_left _ (steady.origins connection request entered)
  case fits =>
    intro session member
    rcases List.mem_append.mp member with earlier | now
    · exact (steady.fits session earlier).use _ nofun nofun
    · obtain rfl := List.mem_singleton.mp now
      constructor
      case made =>
        change handle ∈ made (gateway.performed ++ [.connect handle _])
        simp [Operation.made?]
      case unclosed => simpa [use] using unclosed
      case attends_iff => simpa [WriterStage.Attends, use, Session.connection] using attended
      case unstarted => exact fun _ => ⟨rfl, rfl, notEntered⟩
      case atEnd => exact fun isOver => by rcases isOver with isOver | isOver <;> cases isOver
      case first => exact congrArg List.head? nothing
      case formal => exact congrArg (List.filter _) nothing

/-- The session that is about to do something is not one of the others. -/
theorem apart_of_split (steady : gateway.Steady) {before later : List Session} {session : Session}
    (present : gateway.sessions = before ++ session :: later) :
    ∀ other ∈ before ++ later, session.connection ≠ other.connection :=
  fun other member => (apart_of_nodup_map (present ▸ steady.apart) other member).symm

/-- One session has gone on, while the hub is still in service and the other sessions are as they
should be. -/
theorem replace (steady : gateway.Steady) {before later : List Session} {session next : Session}
    (present : gateway.sessions = before ++ session :: later)
    (handle : next.handle = session.handle)
    {after : Gateway}
    (service : after.dispatcher.InService gateway.config.hub.policies after.requests
      after.performed)
    (config : after.config = gateway.config)
    (sessions : after.sessions = before ++ next :: later)
    (origins : ∀ connection request, (some connection, request) ∈ after.entered →
      (some connection, request) ∈ gateway.entered ∨ connection = session.connection)
    (fits : next.Fits after.performed after.entered)
    (others : ∀ other ∈ before ++ later, other.Fits after.performed after.entered) :
    after.Steady := by
  have connections : after.sessions.map Session.connection =
      gateway.sessions.map Session.connection := by
    rw [sessions, present, List.map_append, List.map_append, List.map_cons, List.map_cons]
    simp only [Session.connection, handle]
  constructor
  case service => exact config ▸ service
  case apart => exact connections ▸ steady.apart
  case origins =>
    intro connection request entered
    rw [connections]
    rcases origins connection request entered with earlier | rfl
    · exact steady.origins connection request earlier
    · exact List.mem_map_of_mem (by simp [present])
  case fits =>
    intro other member
    rw [sessions] at member
    rcases List.mem_append.mp member with earlier | isLater
    · exact others other (List.mem_append_left _ earlier)
    · rcases List.mem_cons.mp isLater with rfl | isLater
      · exact fits
      · exact others other (List.mem_append_right _ isLater)

/-- The hub stays in service with whatever a session does. -/
theorem service_carryOut (steady : gateway.Steady) {session : Session}
    (member : session ∈ gateway.sessions) {deed : Deed} (of : deed.Of session) :
    (gateway.carryOut session.connection deed).dispatcher.InService gateway.config.hub.policies
      (gateway.carryOut session.connection deed).requests
      (gateway.carryOut session.connection deed).performed := by
  have fits := steady.fits session member
  have known : session.connection ∈ (made gateway.performed).map Handle.connection :=
    List.mem_map_of_mem fits.made
  cases of with
  | nothing => exact steady.service
  | @submits request registers =>
    have entered : (gateway.carryOut session.connection (.submits request)).requests =
        gateway.requests ++ [request] :=
      List.map_append
    rw [entered]
    refine steady.service.enter fun handle same => ?_
    obtain ⟨rfl, phase⟩ := registers handle same
    exact ⟨fits.made, fits.unclosed, (fits.unstarted phase).2.2⟩
  | receives attends =>
    exact steady.service.use ⟨known, fits.attends_iff.mp attends⟩ rfl nofun
  | abandons attends =>
    exact steady.service.use ⟨known, fits.attends_iff.mp attends⟩ rfl nofun

/-- So does a turn of a session. -/
theorem turn (steady : gateway.Steady) {before later : List Session} {session next : Session}
    (present : gateway.sessions = before ++ session :: later) {deed : Deed}
    (turns : session.Turn gateway.state deed next) :
    Steady
      { gateway.carryOut session.connection deed with sessions := before ++ next :: later } := by
  have member : session ∈ gateway.sessions := by simp [present]
  refine steady.replace present turns.handle_eq
    (steady.service_carryOut member turns.deed_of) ?_ rfl ?_
    ((steady.fits session member).turn turns) fun other isOther => ?_
  · cases deed <;> rfl
  · intro connection request entered
    cases deed with
    | submits submitted =>
      rcases List.mem_append.mp entered with earlier | now
      · exact .inl earlier
      · exact .inr (Option.some.inj (congrArg Prod.fst (List.mem_singleton.mp now)))
    | _ => exact .inl entered
  · have isMember : other ∈ gateway.sessions := present ▸ mem_of_mem_others isOther
    exact (steady.fits other isMember).turn_other turns.deed_of
      (steady.apart_of_split present other isOther)

theorem hear (steady : gateway.Steady) {before later : List Session} {session next : Session}
    (present : gateway.sessions = before ++ session :: later) {limit : Nat}
    (heard : session.Heard limit next) :
    Steady { gateway with sessions := before ++ next :: later } := by
  refine steady.replace present heard.handle_eq steady.service rfl rfl
    (fun _ _ entered => .inl entered) ((steady.fits session (by simp [present])).hear heard)
    fun other isOther => steady.fits other (present ▸ mem_of_mem_others isOther)

theorem move (steady : gateway.Steady) {request : Option Request} {after : Dispatcher}
    (moves : gateway.dispatcher.Moves request after) :
    Steady
      { gateway with
        dispatcher := after
        performed := gateway.performed ++ request.toList.map .apply } where
  service := steady.service.moves moves
  apart := steady.apart
  origins := steady.origins
  fits := fun session member => by
    cases request with
    | none => simpa using steady.fits session member
    | some one => exact (steady.fits session member).use (.apply one) nofun nofun

theorem submit (steady : gateway.Steady) {request : Request}
    (permitted : gateway.Permits request) : (gateway.enter none request).Steady where
  service := by
    have entered : (gateway.enter none request).requests = gateway.requests ++ [request] :=
      List.map_append
    rw [entered]
    refine steady.service.enter fun handle same => ?_
    subst same
    obtain ⟨⟨isMade, unspent⟩, -, kept⟩ := permitted
    exact ⟨isMade, fun closed => unspent (mem_spent_iff.mpr (.inl closed)), kept⟩
  apart := steady.apart
  origins := fun connection one entered => by
    rcases List.mem_append.mp entered with earlier | now
    · exact steady.origins connection one earlier
    · cases List.mem_singleton.mp now
  fits := fun session member => by
    refine (steady.fits session member).enter nofun fun same => ?_
    subst same
    exact permitted.foreign session member rfl

/-- So does an operation that the gateway allows. -/
theorem use (steady : gateway.Steady) {operation : Operation}
    (allowed : gateway.Allows operation) : (gateway.use operation).Steady := by
  have follows : operation.Follows gateway.performed := by
    cases operation with
    | connect handle capacity => exact allowed
    | push handle payload => exact allowed.inHand
    | close handle => exact allowed.inHand
    | apply request => exact allowed.elim
    | receive connection => exact allowed.1
    | abandon connection => exact allowed.1
  have foreign : operation.request? = none := by
    cases operation with
    | apply request => exact allowed.elim
    | _ => rfl
  refine ⟨steady.service.use follows foreign ?_, steady.apart, steady.origins, ?_⟩
  · rintro handle rfl
    exact allowed.kept
  · intro session member
    refine (steady.fits session member).use operation ?_ ?_
    · rintro rfl
      exact allowed.foreign session member rfl
    · rintro rfl
      exact allowed.2 session member rfl

/-- Every step keeps a gateway as it should be. -/
theorem step (steady : gateway.Steady) (steps : gateway.Step next) : next.Steady := by
  cases steps with
  | opens fresh => exact steady.opens fresh
  | turn present turns possible => exact steady.turn present turns
  | hear present heard => exact steady.hear present heard
  | move moves => exact steady.move moves
  | submit permitted room => exact steady.submit permitted
  | use allowed => exact steady.use allowed

/-- A steady gateway stays so. -/
theorem reaches (steady : gateway.Steady) (later : Reaches gateway next) : next.Steady := by
  induction later with
  | refl => exact steady
  | step _ steps ih => exact ih.step steps

end Gateway.Steady

end Switchboard.WebSocket
