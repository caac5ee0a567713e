import Switchboard.Proofs.Decimal.Integer
import Switchboard.Proofs.Hub.Tally
import Switchboard.Proofs.Text.Utf8
import Switchboard.Proofs.WebSocket.Operation

/-!
# What publishing does

An event that is posted to a list of users is accepted exactly if its body can be read and the list
is neither empty nor too long. Then one request enters the hub, for each user once, and the number
in the response is that of the recipients, each of whom the hub will account for once it applies the
request. Anything else leaves the hub as it is. The path that names one user does the same as a list
of that user (`publishing`).
-/

namespace Switchboard.Api

open Hub Http Json

/-! ## Paths -/

theorem ofPath?_events : Route.ofPath? "/api/v1/events" = some .events := by decide

/-- A path that names a user, whatever it is written like. -/
theorem ofPath?_userEvents {part : String} (whole : '/' ∉ part.toList) :
    Route.ofPath? ("/api/v1/users/" ++ part ++ "/events") = some (.userEvents part) := by
  have parts : segments ("/api/v1/users/" ++ part ++ "/events") =
      ["", "api", "v1", "users", part, "events"] := by
    have joined : ("/api/v1/users/" ++ part ++ "/events").toList =
        ['/'].intercalate (["", "api", "v1", "users", part, "events"].map String.toList) := by
      simp [List.intercalate, List.intersperse]
    rw [segments, joined, List.splitOn_intercalate]
    · simp
    · simpa using whole
    · simp
  rw [Route.ofPath?, parts]
  rfl

/-- Without a percent sign there is nothing to decode. -/
theorem decodePercent_of_not_mem {bytes : List UInt8} (plain : 0x25 ∉ bytes) :
    decodePercent bytes = bytes := by
  fun_induction decodePercent bytes with
  | case1 => rfl
  | case2 => rfl
  | case3 => rfl
  | case4 a b c rest escape high low highIs lowIs ih => simp_all
  | case5 a b c rest escape _ ih => simp_all
  | case6 a b c rest _ ih => simp_all

/-- A user in decimal digits is read back from a path. -/
theorem userOfPath_repr (user : UserId) : userOfPath user.toInt.repr = .ok user := by
  have plain : 0x25 ∉ user.toInt.repr.toUTF8.toList := by
    intro member
    rw [Text.toList_toUTF8] at member
    have percent : '%' ∈ user.toInt.repr.toList := Text.mem_of_mem_encode (by decide) member
    exact absurd (Decimal.mem_repr percent) (by decide)
  have text : String.fromUTF8? user.toInt.repr.toUTF8.toList.toByteArray =
      some user.toInt.repr := by
    rw [Text.fromUTF8?_eq_some_iff, Text.toList_toUTF8]
  simp only [userOfPath, decodePercent_of_not_mem plain, text, Decimal.readInt64_repr]

/-- A path names a user. -/
def Addresses (path : String) (user : UserId) : Prop :=
  ∃ part, path = "/api/v1/users/" ++ part ++ "/events" ∧ '/' ∉ part.toList ∧
    userOfPath part = .ok user

/-- Every user has a path. -/
theorem addresses_repr (user : UserId) :
    Addresses ("/api/v1/users/" ++ user.toInt.repr ++ "/events") user :=
  ⟨user.toInt.repr, rfl, fun member => absurd (Decimal.mem_repr member) (by decide),
    userOfPath_repr user⟩

/-! ## Bodies -/

/-- A request posts a body that says that it is JSON and is no longer than may be. -/
structure Posts (request : Http.Request) : Prop where
  method : request.method = "POST"
  isJson : ((request.headers.get? "content-type").map isJsonType).getD false = true
  size : request.body.size ≤ maxBodySize

/-- The body of a request is read as a value. -/
def Decodes {α : Type} (reader : Nat → Bytes → Outcome α) (request : Http.Request) (body : α) :
    Prop :=
  ∃ rest, reader (boundOf request.body.toList) request.body.toList = .ok (body, rest)

variable {request : Http.Request} {context : Context} {hub : Hub}

theorem readBody_eq_ok_iff (posts : Posts request) {α : Type}
    {reader : Nat → Bytes → Outcome α} {body : α} :
    readBody reader request = .ok body ↔ Decodes reader request body := by
  simp only [readBody, posts.isJson, Bool.not_true, Bool.false_eq_true, ↓reduceIte,
    Nat.not_lt_of_le posts.size, Decodes]
  cases reader (boundOf request.body.toList) request.body.toList with
  | error failure => simp
  | ok result => simp [Prod.ext_iff]

/-! ## Requests that enter -/

/-- The hub after a request has entered, once its lane has room. -/
def entered (hub : Hub) (submitted : FanoutRequest) : Hub :=
  let ready := if hub.dispatcher.isFull .fanout then hub.settle else hub
  { ready with dispatcher := ready.dispatcher.enter (.fanout submitted) }

/-- The text of the response to an event that is accepted. -/
def acceptance (recipients : Nat) : String :=
  "\x7b\"status\":\"accepted\",\"recipients\":" ++ toString recipients ++ "\x7d"

theorem body_accepted (recipients : Nat) :
    (accepted recipients).body = (acceptance recipients).toUTF8 := by
  have opening : (writeString ((writeString ((writeString ("".push '\x7b') "status").push ':')
      "accepted").push ',') "recipients").push ':' =
        "\x7b\"status\":\"accepted\",\"recipients\":" := by decide +kernel
  have number : toString (recipients : Int) = toString recipients := rfl
  have closing (text : String) : text.push '\x7d' = text ++ "\x7d" := by
    rw [← String.toList_inj]
    simp
  rw [accepted, Response.json, Json.Value.renderInOrder, Json.Value.write, writeMembers,
    writeMembers, writeMembers, Json.Value.write, Json.Value.write]
  simp only [↓reduceIte, Bool.false_eq_true]
  rw [opening, closing, number]
  rfl

/-- A request that has a recipient is accepted by a hub whose dispatcher runs. -/
theorem submit_of_running (context : Context) (running : hub.dispatcher.stage ≠ .stopped)
    {submitted : FanoutRequest} (someone : submitted.recipients ≠ []) :
    submit context hub submitted =
      (entered hub submitted, accepted submitted.recipients.length) := by
  have enqueued : hub.submit submitted = (entered hub submitted, .ok ()) := by
    rw [Hub.submit, if_neg (by simpa using someone), Hub.enqueue, if_neg running]
    rfl
  rw [submit, enqueued]

/-- A context admits a body by its list of recipients. -/
def Context.Admits (context : Context) (body : PublishBody) : Prop :=
  body.recipients ≠ [] ∧ body.recipients.length ≤ context.maxRecipients.toNat

/-- An admitted body is built into a request and submitted. -/
theorem publish_of_admits {body : PublishBody}
    (admits : context.Admits body) :
    publish context hub body =
      submit context hub (buildRequest body.recipients body.kind body.payload) := by
  rw [publish, if_neg (by simpa using admits.1), if_neg (Nat.not_lt_of_le admits.2)]

theorem publish_of_not_admits (hub : Hub) {body : PublishBody}
    (refused : ¬ context.Admits body) :
    (publish context hub body).1.dispatcher = hub.dispatcher ∧
      (publish context hub body).2.status = 400 := by
  rw [publish]
  split
  · exact ⟨rfl, rfl⟩
  · split
    · exact ⟨rfl, rfl⟩
    · next someone short =>
      exact absurd ⟨by simpa using someone, Nat.le_of_not_lt short⟩ refused

/-! ## Responses -/

/-- A request to a path that takes events gets what is answered, with the headers of every
response. -/
theorem respond_of_post (method : request.method = "POST") {route : Route}
    (routed : Route.ofPath? request.target.path = some route)
    (submission : route.isSubmission = true) :
    respond context hub request =
      ((answer context hub request route).1,
        (answer context hub request route).2.withHeaders
          (commonHeaders "POST" (answer context hub request route).2)) := by
  have answered : answerRoute context hub request = answer context hub request route := by
    simp [answerRoute, routed, method, Route.answers, submission]
  simp [respond, answered, method]

/-- The answer to an event for users whom the context admits. -/
theorem answer_of_admits (running : hub.dispatcher.stage ≠ .stopped) (posts : Posts request)
    {body : PublishBody} (decodes : Decodes PublishBody.read request body)
    (admits : context.Admits body) :
    answer context hub request .events =
      (entered hub (buildRequest body.recipients body.kind body.payload),
        accepted (distinct body.recipients).length) := by
  have someone : (buildRequest body.recipients body.kind body.payload).recipients ≠ [] :=
    fun nobody => admits.1 (distinct_eq_nil.mp nobody)
  rw [answer, (readBody_eq_ok_iff posts).mpr decodes]
  simp only [publish_of_admits admits, submit_of_running context running someone]
  rfl

/-- A body that cannot be read is never accepted. -/
theorem status_bodyFault (fault : BodyFault) : fault.response.status ≠ 202 := by
  cases fault with
  | unreadable error =>
    rw [BodyFault.response]
    split <;> simp [Response.text]
  | _ => simp [BodyFault.response, Response.text]

/-- The answer to any other event. -/
theorem answer_of_not_admits (posts : Posts request)
    (refused : ¬ ∃ body, Decodes PublishBody.read request body ∧ context.Admits body) :
    (answer context hub request .events).1.dispatcher = hub.dispatcher ∧
      (answer context hub request .events).2.status ≠ 202 := by
  rw [answer]
  cases read : readBody PublishBody.read request with
  | error fault => exact ⟨rfl, status_bodyFault fault⟩
  | ok body =>
    have decodes := (readBody_eq_ok_iff posts).mp read
    have notAdmitted : ¬ context.Admits body := fun admits => refused ⟨body, decodes, admits⟩
    obtain ⟨same, status⟩ := publish_of_not_admits hub notAdmitted
    exact ⟨same, by simp [status]⟩

/-! ## Publishing -/

/-- What an event comes to that is posted to a list of users and accepted. -/
structure Published (context : Context) (hub : Hub) (request : Http.Request) (body : PublishBody)
    (submitted : FanoutRequest) : Prop where
  hub_eq : (respond context hub request).1 = entered hub submitted
  recipients : FirstOccurrences body.recipients submitted.recipients
  payload : submitted.payload = body.payload.render.toUTF8
  kind : submitted.kind = body.kind
  response : (respond context hub request).2.body =
    (acceptance submitted.recipients.length).toUTF8
  accounted : ∀ (policies : Policies) (state : State),
    (state.apply policies (.fanout submitted)).1.handled .recipient =
      state.handled .recipient + submitted.recipients.length

/-- What the paths that take events do. -/
structure Publishing (context : Context) (hub : Hub) : Prop where
  accepted_iff : ∀ {request : Http.Request}, Posts request →
    request.target.path = "/api/v1/events" →
      ((respond context hub request).2.status = 202 ↔
        ∃ body, Decodes PublishBody.read request body ∧ context.Admits body)
  published : ∀ {request : Http.Request} {body : PublishBody}, Posts request →
    request.target.path = "/api/v1/events" → Decodes PublishBody.read request body →
      context.Admits body → ∃ submitted, Published context hub request body submitted
  untouched : ∀ {request : Http.Request}, Posts request →
    request.target.path = "/api/v1/events" → (respond context hub request).2.status ≠ 202 →
      (respond context hub request).1.dispatcher = hub.dispatcher
  direct : 1 ≤ context.maxRecipients.toNat →
    ∀ {user : UserId} {one many : Http.Request} {kind : Option String} {payload : Value},
      Posts one → Addresses one.target.path user → Decodes DirectBody.read one ⟨kind, payload⟩ →
        Posts many → many.target.path = "/api/v1/events" →
          Decodes PublishBody.read many ⟨[user], kind, payload⟩ →
            respond context hub one = respond context hub many

theorem publishing (context : Context) {hub : Hub} (running : hub.dispatcher.stage ≠ .stopped) :
    Publishing context hub := by
  have responds {request : Http.Request} (posts : Posts request)
      (path : request.target.path = "/api/v1/events") :
      respond context hub request =
        ((answer context hub request .events).1,
          (answer context hub request .events).2.withHeaders
            (commonHeaders "POST" (answer context hub request .events).2)) :=
    respond_of_post posts.method (by rw [path, ofPath?_events]) rfl
  have isAccepted {request : Http.Request} {body : PublishBody} (posts : Posts request)
      (path : request.target.path = "/api/v1/events")
      (decodes : Decodes PublishBody.read request body) (admits : context.Admits body) :
      (respond context hub request).2.status = 202 := by
    rw [responds posts path, answer_of_admits running posts decodes admits]
    rfl
  constructor
  case accepted_iff =>
    intro request posts path
    constructor
    · intro status
      by_contra refused
      rw [responds posts path] at status
      exact (answer_of_not_admits posts refused).2 status
    · rintro ⟨body, decodes, admits⟩
      exact isAccepted posts path decodes admits
  case published =>
    intro request body posts path decodes admits
    have answered := answer_of_admits running posts decodes admits
    refine ⟨buildRequest body.recipients body.kind body.payload, ?_, ?_, rfl, rfl, ?_, ?_⟩
    · rw [responds posts path, answered]
    · exact firstOccurrences_distinct body.recipients
    · rw [responds posts path, answered]
      exact body_accepted _
    · intro policies state
      rw [Nat.add_comm]
      exact (state.handled_fanOut policies.overflow _ .recipient).symm
  case untouched =>
    intro request posts path status
    have refused : ¬ ∃ body, Decodes PublishBody.read request body ∧ context.Admits body :=
      fun ⟨body, decodes, admits⟩ => status (isAccepted posts path decodes admits)
    rw [responds posts path]
    exact (answer_of_not_admits posts refused).1
  case direct =>
    intro atLeastOne user one many kind payload postsOne addressed decodesOne postsMany path
      decodesMany
    obtain ⟨part, written, whole, names⟩ := addressed
    have admits : context.Admits ⟨[user], kind, payload⟩ := ⟨List.cons_ne_nil _ _, atLeastOne⟩
    have someone : (buildRequest [user] kind payload).recipients ≠ [] :=
      fun nobody => admits.1 (distinct_eq_nil.mp nobody)
    have answered : answer context hub one (.userEvents part) =
        answer context hub many .events := by
      rw [answer_of_admits running postsMany decodesMany admits, answer, names]
      simp only [(readBody_eq_ok_iff postsOne).mpr decodesOne, sendToUser,
        submit_of_running context running someone]
      rfl
    rw [responds postsMany path, ← answered]
    exact respond_of_post postsOne.method (by rw [written, ofPath?_userEvents whole]) rfl

/-- A post of a text that says that it is JSON. -/
def post (path text : String) : Http.Request where
  method := "POST"
  target := { path }
  headers := [("Content-Type", "application/json")]
  body := text.toUTF8

/-- Three recipients are admitted. -/
def modest : Context where
  maxRecipients := 3
  version := "0"
  uptime := 0
  requestId := ""

theorem publishing_modest :
    (Hub.create {}).dispatcher.stage ≠ .stopped ∧
      (respond modest (.create {})
        (post "/api/v1/events" "\x7b\"payload\":[],\"recipients\":[8,7,8]\x7d")).2.status = 202 ∧
      respond modest (.create {}) (post "/api/v1/users/7/events" "\x7b\"payload\":true\x7d") =
        respond modest (.create {}) (post "/api/v1/events" "[[7],null,true]") := by
  have running : (Hub.create {}).dispatcher.stage ≠ .stopped := by decide
  have publishes := publishing modest running
  have named : ((Headers.get? [("Content-Type", "application/json")] "content-type").map
      isJsonType).getD false = true := by decide +kernel
  have posts (path text : String) (short : text.toUTF8.size ≤ maxBodySize) :
      Posts (post path text) := ⟨rfl, named, short⟩
  refine ⟨running, ?_, ?_⟩
  · exact (publishes.accepted_iff (posts _ _ (by decide)) rfl).mpr
      ⟨⟨[8, 7, 8], none, .array []⟩, ⟨[], by with_unfolding_all rfl⟩, by decide, by decide⟩
  · have addressed : Addresses "/api/v1/users/7/events" 7 := addresses_repr 7
    exact publishes.direct (by decide) (posts _ _ (by decide)) addressed
      ⟨[], by with_unfolding_all rfl⟩ (posts _ _ (by decide)) rfl ⟨[], by with_unfolding_all rfl⟩

end Switchboard.Api
