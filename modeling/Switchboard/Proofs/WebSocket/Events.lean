import Switchboard.Proofs.Json.Canonical
import Switchboard.Proofs.WebSocket.Confinement

/-!
# Events as clients receive them

The payload that carries an event is a JSON text, and what it decodes to is an object with the
members of the event, each with its value (`encodes_delivery`). No two events share a payload
(`Encodes.event_eq`), and whatever a client sends that is not a message, it is told so in one such
object. `event_encoding` puts this together.
-/

namespace Switchboard.WebSocket

open Hub Message Json

variable {event other : ServerEvent} {members : List (String × Value)}

/-! ## What an event says -/

/-- The members of an event, in order. -/
inductive Says : ServerEvent → List (String × Value) → Prop where
  | typing {conversation user timestamp : Int64} {isTyping : Bool} :
      Says (.typing conversation user isTyping timestamp)
        [("type", .string "typing"), ("conversation_id", .integer conversation.toInt),
          ("user_id", .integer user.toInt), ("is_typing", .bool isTyping),
          ("timestamp", .integer timestamp.toInt)]
  | delivered {conversation message user timestamp : Int64} :
      Says (.receipt conversation message user .delivered timestamp)
        [("type", .string "receipt"), ("conversation_id", .integer conversation.toInt),
          ("message_id", .integer message.toInt), ("user_id", .integer user.toInt),
          ("status", .string "delivered"), ("timestamp", .integer timestamp.toInt)]
  | read {conversation message user timestamp : Int64} :
      Says (.receipt conversation message user .read timestamp)
        [("type", .string "receipt"), ("conversation_id", .integer conversation.toInt),
          ("message_id", .integer message.toInt), ("user_id", .integer user.toInt),
          ("status", .string "read"), ("timestamp", .integer timestamp.toInt)]
  | pong {timestamp : Int64} :
      Says (.pong timestamp) [("type", .string "pong"), ("timestamp", .integer timestamp.toInt)]
  | error {message : String} :
      Says (.error message) [("type", .string "error"), ("message", .string message)]

theorem exists_says (event : ServerEvent) : ∃ members, Says event members := by
  cases event with
  | typing => exact ⟨_, .typing⟩
  | receipt conversation message user status timestamp =>
    cases status with
    | delivered => exact ⟨_, .delivered⟩
    | read => exact ⟨_, .read⟩
  | pong => exact ⟨_, .pong⟩
  | error => exact ⟨_, .error⟩

/-- An event is the object of the members that it says. -/
theorem Says.toJson_eq (tells : Says event members) : event.toJson = .object members := by
  cases tells <;> rfl

theorem ReceiptStatus.name_injective : Function.Injective ReceiptStatus.name := by
  intro status other same
  cases status <;> cases other <;> simp_all [ReceiptStatus.name]

theorem toJson_injective : Function.Injective ServerEvent.toJson := by
  intro event other same
  cases event <;> cases other <;>
    simp_all [ServerEvent.toJson, ServerEvent.kind, int64ToJson, Int64.toInt_inj,
      ReceiptStatus.name_injective.eq_iff]

/-- The members tell which event it is. -/
theorem Says.event_eq (tells : Says event members) (also : Says other members) : event = other :=
  toJson_injective (tells.toJson_eq.trans also.toJson_eq.symm)

/-- The kind of an event is its first member. -/
theorem Says.lookup?_type (tells : Says event members) :
    lookup? "type" members = some (.string event.kind) := by
  cases tells <;> rfl

/-- The members of an event hold no other numbers than integers, and nothing that nests. -/
theorem Says.plain_and_flat (tells : Says event members) :
    ∀ member ∈ members, member.2.term.Each Literal.IsPlain ∧ member.2.term.Nests 0 := by
  cases tells <;>
    simp [Value.term, isPlain_int64, Term.Each.number, Term.Each.string, Term.Each.bool,
      Term.Nests.number, Term.Nests.string, Term.Nests.bool]

/-! ## Payloads that carry an event -/

/-- A payload is a text, and as JSON it is an object that tells an event by these members. -/
structure Encodes (payload : Payload) (event : ServerEvent) (members : List (String × Value)) :
    Prop where
  tells : Says event members
  kind : lookup? "type" members = some (.string event.kind)
  /-- The payload is UTF-8, and a text frame is written for it. -/
  text : ∃ text, payload.asText? = some text ∧ ServerFrame.ofPayload payload = .text text
  /-- The text is well formed and has no other reading. -/
  spelled : ∀ term, Spells IsText payload.toList term [] ↔ term = (Value.object members).term
  decoded : Json.parse payload.toList = .ok (.object members)

/-- A payload carries at most one event. -/
theorem Encodes.event_eq {payload : Payload} {others : List (String × Value)}
    (encodes : Encodes payload event members) (also : Encodes payload other others) :
    event = other := by
  obtain rfl : members = others := by
    have same := encodes.decoded.symm.trans also.decoded
    cases same
    rfl
  exact encodes.tells.event_eq also.tells

/-- The encoding of a text is read back as that text. -/
theorem asText?_toUTF8 (text : String) : Payload.asText? text.toUTF8 = some text := by
  have reads := Text.fromUTF8?_eq_some_iff.mpr (Text.toList_toUTF8 text)
  rwa [Text.toByteArray_toList] at reads

/-- What reads as text leaves in a text frame. -/
theorem ofPayload_of_asText? {payload : Payload} {text : String}
    (reads : payload.asText? = some text) : ServerFrame.ofPayload payload = .text text := by
  simp only [ServerFrame.ofPayload, reads]

/-- The text of an event encodes it. -/
theorem encodes_render (tells : Says event members) :
    Encodes event.render.toUTF8 event members := by
  have plain : (Value.object members).term.Each Literal.IsPlain := by
    rw [Value.term, memberTerms_eq_map]
    exact .object (List.forall_mem_map.mpr fun member isMember =>
      (tells.plain_and_flat member isMember).1)
  have nests : (Value.object members).term.Nests maxDepth := by
    rw [Value.term, memberTerms_eq_map]
    exact .mono (.object (List.forall_mem_map.mpr fun member isMember =>
      (tells.plain_and_flat member isMember).2)) (by decide)
  have isText : event.render.toUTF8.toList = (Value.object members).term.compact := by
    rw [← tells.toJson_eq]
    exact toList_renderInOrder event.toJson
  have spells : Spells IsText event.render.toUTF8.toList (Value.object members).term [] := by
    rw [isText, ← List.append_nil (Term.compact _)]
    exact spells_compact _ []
  refine ⟨tells, tells.lookup?_type, ?_,
    fun term => ⟨fun also => ?_, fun same => same ▸ spells⟩, ?_⟩
  · exact ⟨event.render, asText?_toUTF8 _, ofPayload_of_asText? (asText?_toUTF8 _)⟩
  · exact (Spells.unique functional_isText term also spells trivial trivial).1
  · rw [isText, parse_compact plain nests]

/-! ## Calls that deliver an event -/

/-- A call on a hub comes to the submission of one request for users, and its payload encodes an
event. -/
structure Submits (hub : Hub) (users : List UserId) (kind : String) (event : ServerEvent)
    (members : List (String × Value)) (outcome : Hub × Except HubError Unit)
    (request : FanoutRequest) : Prop where
  outcome_eq : outcome = hub.submit request
  addressed : ∀ user, user ∈ request.recipients ↔ user ∈ users
  kind : request.kind = some kind
  encodes : Encodes request.payload event members

theorem submits_deliverJson (hub : Hub) (users : List UserId) (kind : String)
    (tells : Says event members) :
    Submits hub users kind event members (hub.deliverJson users kind (.ok event.render))
      ((FanoutRequest.to users event.render.toUTF8).withKind kind) :=
  ⟨rfl, fun _ => mem_distinct, rfl, encodes_render tells⟩

/-- The reply to a text that is no message. -/
def refusal (error : Json.Error) : ServerEvent :=
  .error ("Invalid message format: " ++ error.message)

/-- A text that is no message has a refusal sent to its sender. -/
theorem exists_submit_eq_refusal (limit : Nat) (user : UserId) (now : Int64) {text : String}
    {error : Json.Error} (fails : ClientMessage.parse text.toUTF8.toList = .error error)
    (hub : Hub) :
    ∃ lines, (react limit user now (.text text)).1.submit user hub =
      (hub.sendJson user "error" (.ok (refusal error).render)).1.write lines := by
  obtain ⟨lines, submits⟩ := exists_submit_eq (react limit user now (.text text)).1 user hub
  rw [react, reactToText_of_error fails] at submits ⊢
  exact ⟨lines, submits⟩

/-- What is delivered of an event is its encoding, no two events share an encoding, and a text that
is no message is answered by the encoding of an error that quotes what is wrong with it. -/
theorem event_encoding :
    (∀ (hub : Hub) (users : List UserId) (kind : String) (event : ServerEvent),
      ∃ members request, Submits hub users kind event members
        (hub.deliverJson users kind (.ok event.render)) request) ∧
    (∀ (hub : Hub) (user : UserId) (kind : String) (event : ServerEvent),
      ∃ members request, Submits hub [user] kind event members
        (hub.sendJson user kind (.ok event.render)) request) ∧
    (∀ payload event other members others, Encodes payload event members →
      Encodes payload other others → event = other) ∧
    ∀ limit user now text error, ClientMessage.parse text.toUTF8.toList = .error error →
      ∀ hub : Hub, ∃ lines request,
        (react limit user now (.text text)).1.submit user hub =
          (hub.sendJson user "error" (.ok (refusal error).render)).1.write lines ∧
        Submits hub [user] "error" (refusal error)
          [("type", .string "error"),
            ("message", .string ("Invalid message format: " ++ error.message))]
          (hub.sendJson user "error" (.ok (refusal error).render)) request := by
  refine ⟨fun hub users kind event => ?_, fun hub user kind event => ?_,
    fun payload event other members others encodes also => encodes.event_eq also,
    fun limit user now text error fails hub => ?_⟩
  · obtain ⟨members, tells⟩ := exists_says event
    exact ⟨members, _, submits_deliverJson hub users kind tells⟩
  · obtain ⟨members, tells⟩ := exists_says event
    exact ⟨members, _, submits_deliverJson hub [user] kind tells⟩
  · obtain ⟨lines, submits⟩ := exists_submit_eq_refusal limit user now fails hub
    exact ⟨lines, _, submits, submits_deliverJson hub [user] "error" .error⟩

/-- A kind with a quote, a line break and a character beyond the basic plane is quoted back. -/
theorem event_encoding_unknown_kind :
    ∃ error, ClientMessage.parse "\x7b\"type\":\"\\\"\\n😀\"\x7d".toUTF8.toList = .error error ∧
      error.message = "unknown variant `\"\n😀`, expected one of `typing`, `read`, `delivered`, " ++
        "`ping` at line 1 column 18" ∧
      ∃ request, Submits (.create {}) [7] "error" (refusal error)
        [("type", .string "error"),
          ("message", .string ("Invalid message format: " ++ error.message))]
        (Hub.sendJson (.create {}) 7 "error" (.ok (refusal error).render)) request := by
  refine ⟨_, by with_unfolding_all rfl, by decide +kernel, ?_⟩
  obtain ⟨lines, request, -, submits⟩ := event_encoding.2.2.2 10 7 0
    "\x7b\"type\":\"\\\"\\n😀\"\x7d" _ (by with_unfolding_all rfl) (.create {})
  exact ⟨request, submits⟩

end Switchboard.WebSocket
