import Switchboard.Proofs.Api.Bodies
import Switchboard.Proofs.Api.Publishing
import Switchboard.Proofs.Json.Printing

/-!
# What is delivered of a payload

The payload of an event that is accepted is read as a value and written again as canonical text. So
what enters the outboxes of its recipients denotes the payload that stands in the body, but each of
its numbers as the reader makes it (`relaying`): an integer of 64 bits is kept, any other number
becomes the shortest decimal of a binary64 number near it, which need not be the same number
(`not_denotes_of_accepted`).
-/

namespace Switchboard.Api

open Hub Http Json

/-- Where the payload stands in a body that is an array. -/
def payloadPlace : Route → Nat
  | .events => 2
  | _ => 1

/-- What becomes of a payload that is accepted. -/
structure Relayed (before after : Hub) (term : Term String) (submitted : FanoutRequest) :
    Prop where
  entered : after = entered before submitted
  denotes_iff : ∀ meaning,
    Denotes submitted.payload.toList meaning ↔ meaning = term.sent.meaning
  whole : term.Each Literal.IsWhole → Denotes submitted.payload.toList term.meaning
  queued : ∀ (policies : Policies) {past : List Operation} {handle : Handle}, Lawful past →
    handle ∈ made past →
      ((State.after policies past).apply policies (.fanout submitted)).1.buffered
          handle.connection =
        (State.after policies past).buffered handle.connection ++
          if handle.user ∈ submitted.recipients ∧ (State.after policies past).Registers handle ∧
            (State.after policies past).accepts handle.connection = true
          then [submitted.payload] else []

variable {context : Context} {hub : Hub} {request : Http.Request}

/-- A submission with recipients that is accepted has entered. -/
theorem entered_of_status {submitted : FanoutRequest} (someone : submitted.recipients ≠ [])
    (status : (submit context hub submitted).2.status = 202) :
    (submit context hub submitted).1 = entered hub submitted := by
  by_cases stopped : hub.dispatcher.stage = .stopped
  · have refused : hub.submit submitted = (hub, .error (.dispatcherStopped "fanout")) := by
      rw [Hub.submit, if_neg (by simpa using someone), Hub.enqueue, if_pos stopped]
      rfl
    rw [submit, refused] at status
    cases status
  · rw [submit_of_running context stopped someone]

theorem decodes_of_readBody {α : Type} {reader : Nat → Bytes → Outcome α} {body : α}
    (read : readBody reader request = .ok body) : Decodes reader request body := by
  unfold readBody at read
  split at read
  · cases read
  · split at read
    · cases read
    · dsimp only at read
      split at read
      next rest reads =>
        cases read
        exact ⟨rest, reads⟩
      next => cases read

/-- An event that is accepted enters the hub with what has been read of the payload in its body. -/
theorem readAs_of_status {route : Route} (submission : route.isSubmission = true)
    (status : (answer context hub request route).2.status = 202) :
    ∃ (users : List UserId) (kind : Option String) (payload : Value) (term : Term String),
      Carries (payloadPlace route) request.body.toList term ∧ ReadAs payload term ∧
        (answer context hub request route).1 = entered hub (buildRequest users kind payload) := by
  cases route with
  | events =>
    rw [answer] at status ⊢
    cases read : readBody PublishBody.read request with
    | error fault =>
      rw [read] at status
      exact absurd status (status_bodyFault fault)
    | ok body =>
      simp only [read] at status ⊢
      obtain ⟨rest, reads⟩ := decodes_of_readBody read
      obtain ⟨term, carries, readAs⟩ := carries_of_publishBody reads
      by_cases admits : context.Admits body
      · have someone : (buildRequest body.recipients body.kind body.payload).recipients ≠ [] :=
          fun nobody => admits.1 (distinct_eq_nil.mp nobody)
        rw [publish_of_admits admits] at status ⊢
        exact ⟨body.recipients, body.kind, body.payload, term, carries, readAs,
          entered_of_status someone status⟩
      · rw [(publish_of_not_admits hub admits).2] at status
        cases status
  | userEvents part =>
    rw [answer] at status ⊢
    cases names : userOfPath part with
    | error fault =>
      rw [names] at status
      cases fault <;> cases status
    | ok user =>
      cases read : readBody DirectBody.read request with
      | error fault =>
        simp only [names, read] at status
        exact absurd status (status_bodyFault fault)
      | ok body =>
        simp only [names, read] at status ⊢
        obtain ⟨rest, reads⟩ := decodes_of_readBody read
        obtain ⟨term, carries, readAs⟩ := carries_of_directBody reads
        have someone : (buildRequest [user] body.kind body.payload).recipients ≠ [] :=
          fun nobody => List.cons_ne_nil _ _ (distinct_eq_nil.mp nobody)
        exact ⟨[user], body.kind, body.payload, term, carries, readAs,
          entered_of_status someone status⟩
  | _ => cases submission

theorem exists_of_status {route : Route} (submission : route.isSubmission = true)
    (status : (answer context hub request route).2.status = 202) :
    ∃ (users : List UserId) (kind : Option String) (payload : Value) (term : Term String),
      Carries (payloadPlace route) request.body.toList term ∧ payload.term = term.sent ∧
        (answer context hub request route).1 = entered hub (buildRequest users kind payload) := by
  obtain ⟨users, kind, payload, term, carries, readAs, enters⟩ := readAs_of_status submission status
  exact ⟨users, kind, payload, term, carries, readAs.term_eq, enters⟩

/-- The body of an event that is accepted carries one payload, and what is delivered denotes it, but
for numbers that the reader does not keep. -/
theorem relaying {route : Route} (routed : Route.ofPath? request.target.path = some route)
    (submission : route.isSubmission = true) (method : request.method = "POST")
    (status : (respond context hub request).2.status = 202) :
    ∃ term, (∀ other, Carries (payloadPlace route) request.body.toList other ↔ other = term) ∧
      ∃ submitted, Relayed hub (respond context hub request).1 term submitted := by
  rw [respond_of_post method routed submission] at status ⊢
  obtain ⟨users, kind, payload, term, carries, same, enters⟩ := exists_of_status submission status
  have denotes : Denotes (buildRequest users kind payload).payload.toList term.sent.meaning := by
    rw [← same]
    exact denotes_render payload
  refine ⟨term, fun other => ⟨fun also => also.unique carries, fun same => same ▸ carries⟩,
    buildRequest users kind payload, ?_⟩
  constructor
  case entered => exact enters
  case denotes_iff =>
    intro meaning
    constructor
    · exact fun also => also.unique denotes
    · rintro rfl
      exact denotes
  case whole =>
    intro whole
    rw [← meaning_sent whole]
    exact denotes
  case queued =>
    intro policies past handle lawful isMade
    exact buffered_fanOut (sound_after policies lawful) lawful (lawful.sole isMade)
      policies.overflow _

theorem relaying_modest :
    (respond modest (.create {})
        (post "/api/v1/users/7/events" "\x7b\"payload\":[-1,\"a\"]\x7d")).2.status = 202 ∧
      ∃ term submitted, Carries 1
          (post "/api/v1/users/7/events" "\x7b\"payload\":[-1,\"a\"]\x7d").body.toList term ∧
        Denotes (FanoutRequest.payload submitted).toList term.sent.meaning := by
  have routed : Route.ofPath? "/api/v1/users/7/events" = some (.userEvents "7") := by decide
  have status : (respond modest (.create {})
      (post "/api/v1/users/7/events" "\x7b\"payload\":[-1,\"a\"]\x7d")).2.status = 202 := by
    with_unfolding_all rfl
  obtain ⟨term, carries, submitted, relayed⟩ := relaying routed rfl rfl status
  exact ⟨status, term, submitted, (carries term).mpr rfl, (relayed.denotes_iff _).mpr rfl⟩

/-! ## A number that is not kept -/

/-- A body for user 1 with the text of a payload. -/
def enclosing (text : Bytes) : Bytes :=
  0x7b :: (Text.encode (quotedChars "recipients") ++ 0x3a ::
    (Text.encode (Value.array [.integer 1]).chars ++ 0x2c ::
      (Text.encode (quotedChars "payload") ++ 0x3a :: (text ++ [0x7d]))))

/-- Such a body carries what the text spells. -/
theorem carries_enclosing {text : Bytes} {term : Term String}
    (spells : Spells IsText (text ++ [0x7d]) term [0x7d]) : Carries 2 (enclosing text) term := by
  have users (rest : Bytes) := passed_of_spells (spells_chars (.array [.integer 1]) rest)
  have last : Members IsText Passed false
      (0x2c :: (Text.encode (quotedChars "payload") ++ 0x3a :: (text ++ [0x7d])))
      [("payload", ⟨text ++ [0x7d], [0x7d]⟩)] [] := by
    rw [encode_quotedChars]
    exact .next (next_cons rfl) (next_cons rfl) (quoted_escaped _) (next_cons rfl)
      (passed_of_spells spells) (.done (next_cons rfl))
  rw [enclosing, encode_quotedChars "recipients"]
  exact .member (next_cons rfl) (.next rfl (next_cons rfl) (quoted_escaped _) (next_cons rfl)
    (users _) last) rfl spells

/-- The least natural that does not fit 64 bits. -/
def beyond : Literal where
  negative := false
  whole := [1, 8, 4, 4, 6, 7, 4, 4, 0, 7, 3, 7, 0, 9, 5, 5, 1, 6, 1, 6]
  places := []
  scale := none
  ne_nil := List.cons_ne_nil _ _
  no_leading_zero := by decide

theorem value_beyond : beyond.value = 18446744073709551616 := by
  norm_num [Literal.value, beyond, valueFrom]

theorem sent_beyond : beyond.sent.value = 18446744073709552000 := by
  have read : beyond.number? = some (.float ⟨false, 4503599627370496, 12⟩) := by decide +kernel
  have shortest : (⟨false, 4503599627370496, 12⟩ : Decimal.Binary64).shortest =
      ⟨18446744073709552, 3⟩ := by decide +kernel
  rw [sent_of_number? read, Number.literal, value_ofBinary64, shortest]
  norm_num

/-- It is posted for user 1. -/
def outsized : Http.Request :=
  post "/api/v1/events" "\x7b\"recipients\":[1],\"payload\":18446744073709551616\x7d"

/-- What is delivered need not denote the payload. -/
theorem not_denotes_of_accepted :
    ¬ ∀ (context : Context) (hub : Hub) (request : Http.Request) (term : Term String)
        (submitted : FanoutRequest), request.method = "POST" →
      request.target.path = "/api/v1/events" → (respond context hub request).2.status = 202 →
        Carries 2 request.body.toList term →
          (respond context hub request).1 = entered hub submitted →
            Denotes submitted.payload.toList term.meaning := by
  intro claimed
  have text : outsized.body.toList = enclosing beyond.text := by
    rw [outsized, post, Text.toList_toUTF8]
    decide +kernel
  have status : (respond modest (.create {}) outsized).2.status = 202 := by with_unfolding_all rfl
  have responds : respond modest (.create {}) outsized =
      ((answer modest (.create {}) outsized .events).1, _) :=
    respond_of_post rfl ofPath?_events rfl
  have answered : (answer modest (.create {}) outsized .events).2.status = 202 :=
    (congrArg (·.2.status) responds).symm.trans status
  obtain ⟨users, kind, payload, term, carries, same, enters⟩ := exists_of_status rfl answered
  obtain rfl : term = .number beyond :=
    carries.unique (text ▸ carries_enclosing (spells_number beyond))
  have entrance := (congrArg Prod.fst responds).trans enters
  have denotes := claimed _ _ _ _ _ rfl rfl status carries entrance
  have kept := denotes.unique (denotes_render payload)
  rw [same] at kept
  have value : beyond.value = beyond.sent.value := Meaning.number.inj kept
  rw [value_beyond, sent_beyond] at value
  norm_num at value

end Switchboard.Api
