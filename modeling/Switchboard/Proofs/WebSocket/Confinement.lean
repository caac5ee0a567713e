import Switchboard.Proofs.Hub.Recipients
import Switchboard.Proofs.Message.Written
import Switchboard.Service

/-!
# What a client can bring about

Whatever the client of a user sends, what comes of it is at most one request for a delivery. It is
either a relay of what the text says to the users that the text lists, under the name of the sender
and within the limit, or a reply to the sender alone (`confinement`). Nothing in a text can change
whose name a relay bears, since that name is taken from the socket.
-/

namespace Switchboard.WebSocket

open Hub Message

variable {limit : Nat} {user : UserId} {now : Int64} {incoming : Incoming}

/-! ## The request of a reaction -/

/-- The request that delivers an event to users. -/
def delivery (users : List UserId) (event : ServerEvent) : FanoutRequest :=
  (FanoutRequest.to users event.render.toUTF8).withKind event.kind

/-- The request that a reaction submits for a user: none where nobody is to receive anything. -/
def Reaction.request? (reaction : Reaction) (user : UserId) : Option FanoutRequest :=
  match reaction with
  | .relay relayed =>
    if relayed.recipients.isEmpty then none else some (delivery relayed.recipients relayed.event)
  | .reply event => some (delivery [user] event)
  | .nothing | .stop => none

/-- What a submission makes of a dispatcher: at most one request enters, after whatever has to be
applied to make room for it. A request that is submitted after the end is lost. -/
inductive Submitted (dispatcher : Dispatcher) : Option FanoutRequest → Dispatcher → Prop where
  | nothing : Submitted dispatcher none dispatcher
  | lost {request : FanoutRequest} (atEnd : dispatcher.stage = .stopped) :
      Submitted dispatcher (some request) dispatcher
  | entered {request : FanoutRequest} (running : dispatcher.stage ≠ .stopped)
      (room : dispatcher.isFull .fanout = false) :
      Submitted dispatcher (some request) (dispatcher.enter (.fanout request))
  | entered_late {request : FanoutRequest} (running : dispatcher.stage ≠ .stopped)
      (full : dispatcher.isFull .fanout = true) :
      Submitted dispatcher (some request) (dispatcher.settle.1.enter (.fanout request))

/-- The hub after a request, if there is one, has been submitted. -/
def afterRequest (hub : Hub) : Option FanoutRequest → Hub
  | none => hub
  | some request => (hub.enqueue (.fanout request)).1

theorem submitted_afterRequest (hub : Hub) (request? : Option FanoutRequest) :
    Submitted hub.dispatcher request? (afterRequest hub request?).dispatcher := by
  cases request? with
  | none => exact .nothing
  | some request =>
    rw [afterRequest, Hub.enqueue]
    by_cases atEnd : hub.dispatcher.stage = .stopped
    · simpa [atEnd] using Submitted.lost atEnd
    · cases full : hub.dispatcher.isFull .fanout with
      | false => simpa [atEnd, Dispatcher.laneOf, full] using Submitted.entered atEnd full
      | true =>
        have entered : Submitted hub.dispatcher (some request) _ := .entered_late atEnd full
        simpa [atEnd, Dispatcher.laneOf, full, Hub.settle] using entered

/-- A delivery of a text is submitted as one request, unless nobody is to receive it. -/
theorem deliverJson_eq (hub : Hub) (users : List UserId) (event : ServerEvent) :
    (hub.deliverJson users event.kind (.ok event.render)).1 =
      afterRequest hub (if users.isEmpty then none else some (delivery users event)) := by
  cases users with
  | nil => rfl
  | cons first rest =>
    have someone : (distinct (first :: rest)).isEmpty = false := by
      simp [distinct_eq_nil]
    simp [Hub.deliverJson, Hub.submit, delivery, FanoutRequest.to, FanoutRequest.withKind, someone,
      afterRequest]

/-- A reaction submits its request and may write to the journal. -/
theorem exists_submit_eq (reaction : Reaction) (user : UserId) (hub : Hub) :
    ∃ lines, reaction.submit user hub =
      (afterRequest hub (reaction.request? user)).write lines := by
  have unwritten (hub : Hub) : hub = hub.write [] := by simp [Hub.write]
  cases reaction with
  | relay relay =>
    have submits := deliverJson_eq hub relay.recipients relay.event
    simp only [Reaction.submit, Reaction.request?]
    rw [← submits]
    split
    next result => exact ⟨[], by rw [result]; exact unwritten _⟩
    next result => exact ⟨_, by rw [result]⟩
  | reply event =>
    have submits : _ = afterRequest hub (some (delivery [user] event)) :=
      deliverJson_eq hub [user] event
    simp only [Reaction.submit, Reaction.request?, Hub.sendJson]
    rw [← submits]
    split
    next result => exact ⟨[], by rw [result]; exact unwritten _⟩
    next result => exact ⟨_, by rw [result]⟩
  | nothing | stop => exact ⟨[], unwritten hub⟩

/-- All that a submission does to the dispatcher is due to the request. -/
theorem submitted_submit (reaction : Reaction) (user : UserId) (hub : Hub) :
    Submitted hub.dispatcher (reaction.request? user) (reaction.submit user hub).dispatcher := by
  obtain ⟨lines, submits⟩ := exists_submit_eq reaction user hub
  rw [submits]
  exact submitted_afterRequest hub (reaction.request? user)

/-! ## Relays and replies -/

/-- An event tells others in the name of a user what a message says. -/
inductive Tells (user : UserId) (now : Int64) : ClientMessage → ServerEvent → Prop where
  | typing {conversation : Int64} {recipients : List UserId} {isTyping : Bool} :
      Tells user now (.typing conversation recipients isTyping)
        (.typing conversation user isTyping now)
  | read {conversation message : Int64} {recipients : List UserId} :
      Tells user now (.read conversation message recipients)
        (.receipt conversation message user .read now)
  | delivered {conversation message : Int64} {recipients : List UserId} :
      Tells user now (.delivered conversation message recipients)
        (.receipt conversation message user .delivered now)

/-- A message is answered, or relayed as the event that tells what it says. -/
theorem toRelay?_cases (message : ClientMessage) (user : UserId) (now : Int64) :
    (message = .ping ∧ message.toRelay? user now = none) ∨
      ∃ listed event, message.toRelay? user now = some ⟨listed, event⟩ ∧
        message.fields.recipients = some listed ∧ Tells user now message event := by
  cases message with
  | typing conversation recipients isTyping => exact .inr ⟨_, _, rfl, rfl, .typing⟩
  | read conversation message recipients => exact .inr ⟨_, _, rfl, rfl, .read⟩
  | delivered conversation message recipients => exact .inr ⟨_, _, rfl, rfl, .delivered⟩
  | ping => exact .inl ⟨rfl, rfl⟩

/-- A request delivers an event, in its JSON form and under the word for its kind. -/
structure Delivers (event : ServerEvent) (request : FanoutRequest) : Prop where
  payload : request.payload = event.render.toUTF8
  kind : request.kind = some event.kind

/-- A request relays a text of a user: the event tells what the text says, in the name of the user,
and goes to the users that the text lists, each once. The list is neither empty nor too long. -/
inductive RelayOf (limit : Nat) (user : UserId) (now : Int64) (text : String)
    (request : FanoutRequest) : Prop where
  | intro {message : ClientMessage} {value : Json.Value} {event : ServerEvent}
      {listed : List UserId}
      (decodes : ClientMessage.parse text.toUTF8.toList = .ok message)
      (parses : Json.parse text.toUTF8.toList = .ok value)
      (written : message.WrittenIn value)
      (lists : message.fields.recipients = some listed)
      (tells : Tells user now message event)
      (delivers : Delivers event request)
      (recipients : ∀ recipient, recipient ∈ request.recipients ↔ recipient ∈ listed)
      (someone : 1 ≤ listed.length)
      (within : listed.length ≤ limit)

/-- A request replies to a user alone. -/
structure ReplyTo (user : UserId) (event : ServerEvent) (request : FanoutRequest) : Prop where
  recipients : request.recipients = [user]
  delivers : Delivers event request

/-- What is answered with an error: a text that does not decode or that lists too many users, and
what is no text. -/
inductive Refused (limit : Nat) : Incoming → Prop where
  | undecodable {text : String} {error : Json.Error}
      (fails : ClientMessage.parse text.toUTF8.toList = .error error) : Refused limit (.text text)
  | overlong {text : String} {message : ClientMessage} {listed : List UserId}
      (decodes : ClientMessage.parse text.toUTF8.toList = .ok message)
      (lists : message.fields.recipients = some listed) (excess : limit < listed.length) :
      Refused limit (.text text)
  | binary : Refused limit .binary

/-- What only concerns the connection. -/
inductive Control : Incoming → Prop where
  | ping (content : ByteArray) : Control (.ping content)
  | pong : Control .pong
  | close : Control .close

/-- What may come of a message from the client of a user: at most one request, which is a relay in
the name of that user or a reply to that user. -/
structure Confined (limit : Nat) (user : UserId) (now : Int64) (incoming : Incoming)
    (request? : Option FanoutRequest) : Prop where
  relay_or_reply : ∀ request, request? = some request →
    (∃ text, incoming = .text text ∧ RelayOf limit user now text request) ∨
      ReplyTo user (.pong now) request ∨ ∃ cause, ReplyTo user (.error cause) request
  refused : Refused limit incoming →
    ∃ request cause, request? = some request ∧ ReplyTo user (.error cause) request
  control : Control incoming → request? = none
  answered : ∀ text, incoming = .text text →
    ClientMessage.parse text.toUTF8.toList = .ok .ping →
    ∃ request, request? = some request ∧ ReplyTo user (.pong now) request
  relayed : ∀ text message listed, incoming = .text text →
    ClientMessage.parse text.toUTF8.toList = .ok message →
    message.fields.recipients = some listed → 1 ≤ listed.length → listed.length ≤ limit →
    ∃ request, request? = some request ∧ RelayOf limit user now text request
  unaddressed : ∀ text message, incoming = .text text →
    ClientMessage.parse text.toUTF8.toList = .ok message →
    message.fields.recipients = some [] → request? = none

theorem replyTo_delivery (user : UserId) (event : ServerEvent) :
    ReplyTo user event (delivery [user] event) :=
  ⟨distinct_singleton user, rfl, rfl⟩

/-! ## What a text brings about -/

section

variable {text : String} {message : ClientMessage} {listed : List UserId}

theorem reactToText_of_error {error : Json.Error}
    (fails : ClientMessage.parse text.toUTF8.toList = .error error) :
    (reactToText limit user now text).1 =
      .reply (.error ("Invalid message format: " ++ error.message)) := by
  simp only [reactToText, fails]

theorem reactToText_of_ping (decodes : ClientMessage.parse text.toUTF8.toList = .ok .ping) :
    (reactToText limit user now text).1 = .reply (.pong now) := by
  simp only [reactToText, decodes]
  rfl

/-- A message that lists users is relayed to them, unless they are too many. -/
theorem reactToText_of_lists (limit : Nat) (user : UserId) (now : Int64)
    (decodes : ClientMessage.parse text.toUTF8.toList = .ok message)
    (lists : message.fields.recipients = some listed) :
    ∃ event, Tells user now message event ∧
      (listed.length ≤ limit → (reactToText limit user now text).1 = .relay ⟨listed, event⟩) ∧
      (limit < listed.length →
        ∃ cause, (reactToText limit user now text).1 = .reply (.error cause)) := by
  obtain ⟨rfl, -⟩ | ⟨named, event, relays, lists_named, tells⟩ := toRelay?_cases message user now
  · cases lists
  · obtain rfl : named = listed := Option.some.inj (lists_named.symm.trans lists)
    refine ⟨event, tells, fun within => ?_, fun excess => ?_⟩
    · simp only [reactToText, decodes, relays, if_neg (Nat.not_lt.mpr within)]
    · simp only [reactToText, decodes, relays, if_pos excess]
      exact ⟨_, rfl⟩

/-- A relay of a text goes to those that the text lists. -/
theorem relayOf_delivery {event : ServerEvent}
    (decodes : ClientMessage.parse text.toUTF8.toList = .ok message)
    (lists : message.fields.recipients = some listed) (tells : Tells user now message event)
    (someone : 1 ≤ listed.length) (within : listed.length ≤ limit) :
    RelayOf limit user now text (delivery listed event) := by
  obtain ⟨value, parses, written⟩ := writtenIn_of_parse decodes
  exact .intro decodes parses written lists tells ⟨rfl, rfl⟩ (fun _ => mem_distinct) someone within

/-- The request that a text brings about is a relay of it or a reply. -/
theorem relay_or_reply_reactToText {request : FanoutRequest}
    (submits : (reactToText limit user now text).1.request? user = some request) :
    RelayOf limit user now text request ∨
      ReplyTo user (.pong now) request ∨ ∃ cause, ReplyTo user (.error cause) request := by
  cases decodes : ClientMessage.parse text.toUTF8.toList with
  | error error =>
    rw [reactToText_of_error decodes] at submits
    cases submits
    exact .inr (.inr ⟨_, replyTo_delivery user _⟩)
  | ok message =>
    obtain ⟨rfl, -⟩ | ⟨listed, -, -, lists, -⟩ := toRelay?_cases message user now
    · rw [reactToText_of_ping decodes] at submits
      cases submits
      exact .inr (.inl (replyTo_delivery user _))
    · obtain ⟨event, tells, relays, refuses⟩ := reactToText_of_lists limit user now decodes lists
      obtain excess | within := Nat.lt_or_ge limit listed.length
      · obtain ⟨cause, replies⟩ := refuses excess
        rw [replies] at submits
        cases submits
        exact .inr (.inr ⟨cause, replyTo_delivery user _⟩)
      · rw [relays within] at submits
        cases listed with
        | nil => cases submits
        | cons first rest =>
          cases submits
          exact .inl (relayOf_delivery decodes lists tells (by simp) within)

end

/-- What a client sends is confined. -/
theorem confined_react (limit : Nat) (user : UserId) (now : Int64) (incoming : Incoming) :
    Confined limit user now incoming ((react limit user now incoming).1.request? user) where
  relay_or_reply := by
    intro request submits
    cases incoming with
    | text text =>
      exact (relay_or_reply_reactToText submits).imp_left fun relay => ⟨text, rfl, relay⟩
    | binary =>
      cases submits
      exact .inr (.inr ⟨_, replyTo_delivery user _⟩)
    | ping | pong | close => cases submits
  refused := by
    intro refused
    cases refused with
    | undecodable fails =>
      exact ⟨_, _, by rw [react, reactToText_of_error fails]; rfl, replyTo_delivery user _⟩
    | overlong decodes lists excess =>
      obtain ⟨event, -, -, refuses⟩ := reactToText_of_lists limit user now decodes lists
      obtain ⟨cause, replies⟩ := refuses excess
      exact ⟨_, cause, by rw [react, replies]; rfl, replyTo_delivery user _⟩
    | binary => exact ⟨_, _, rfl, replyTo_delivery user _⟩
  control := by
    rintro (_ | _ | _) <;> rfl
  answered := by
    rintro text rfl decodes
    exact ⟨_, by rw [react, reactToText_of_ping decodes]; rfl, replyTo_delivery user _⟩
  relayed := by
    rintro text message listed rfl decodes lists someone within
    obtain ⟨event, tells, relays, -⟩ := reactToText_of_lists limit user now decodes lists
    refine ⟨delivery listed event, ?_, relayOf_delivery decodes lists tells someone within⟩
    have named : listed.isEmpty = false := List.isEmpty_eq_false_iff.mpr fun nobody => by
      simp [nobody] at someone
    rw [react, relays within]
    simp [Reaction.request?, named]
  unaddressed := by
    rintro text message rfl decodes lists
    obtain ⟨event, -, relays, -⟩ := reactToText_of_lists limit user now decodes lists
    rw [react, relays (Nat.zero_le limit)]
    rfl

/-! ## What a socket makes of it -/

/-- What handling a message from the client of a socket makes of a service: `request?` is all that
is submitted, `hub` what the hub is then, and the socket goes on unless the client closes it. -/
structure Handled (service : Service) (socket : Socket) (now : Int64) (incoming : Incoming)
    (request? : Option FanoutRequest) (hub : Hub) : Prop where
  confined : Confined service.config.websocket.maxRelayRecipients.toNat socket.user now incoming
    request?
  submitted : Submitted service.hub.dispatcher request? hub.dispatcher
  goes_on : incoming ≠ .close →
    (service.receiveMessage socket now incoming).hub = hub ∧
      (service.receiveMessage socket now incoming).sockets.map
          (fun socket => (socket.connection, socket.user, socket.running)) =
        service.sockets.map fun socket => (socket.connection, socket.user, socket.running)
  ends : incoming = .close →
    service.receiveMessage socket now incoming = ({ service with hub }).endSocket socket

/-- Only a client that closes the connection stops its reader. -/
theorem react_eq_stop_iff : (react limit user now incoming).1 = .stop ↔ incoming = .close := by
  cases incoming with
  | text text =>
    have goes_on : (reactToText limit user now text).1 ≠ .stop := by
      unfold reactToText
      grind
    simpa [react] using goes_on
  | binary | ping | pong | close => simp [react]

/-- Whatever a client sends, it can have at most one request submitted, and that is a relay in the
name of its own user, as its text says it and no farther than the limit, or a reply to that user. -/
theorem confinement (service : Service) (socket : Socket) (now : Int64) (incoming : Incoming) :
    ∃ request? hub, Handled service socket now incoming request? hub := by
  let limit := service.config.websocket.maxRelayRecipients.toNat
  let reacted := react limit socket.user now incoming
  refine ⟨reacted.1.request? socket.user,
    reacted.1.submit socket.user (service.hub.write reacted.2),
    confined_react limit socket.user now incoming, submitted_submit _ _ (service.hub.write _), ?_,
    ?_⟩
  · intro open_still
    have goes_on : reacted.1 ≠ .stop := fun stops => open_still (react_eq_stop_iff.mp stops)
    simp only [Service.receiveMessage]
    split
    · refine ⟨rfl, ?_⟩
      simp only [Service.changeSocket, Service.withHub, List.map_map]
      refine List.map_congr_left fun socket _ => ?_
      simp only [Function.comp_apply]
      split <;> rfl
    next stops => exact absurd stops goes_on
    · exact ⟨rfl, rfl⟩
  · rintro rfl
    rfl

/-- A text that says who and when it is from is relayed as what it is. -/
example :
    (react 10 7 0 (.text ("\x7b\"user_id\":99,\"type\":\"read\",\"conversation_id\":4," ++
      "\"message_id\":5,\"recipients\":[2,2,3],\"timestamp\":1\x7d"))).1 =
      .relay ⟨[2, 2, 3], .receipt 4 5 7 .read 0⟩ := by
  decide +kernel

end Switchboard.WebSocket
