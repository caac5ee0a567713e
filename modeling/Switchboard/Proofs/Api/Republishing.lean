import Switchboard.Proofs.Api.Payloads
import Switchboard.Proofs.Json.Canonical

/-!
# What is delivered of a payload does not depend on how it was written

Payloads that mean the same and whose numbers are plain integers enter the hub as the same bytes,
wherever and however they were posted: the canonical text of what they mean. It can be read as that
value again, and if it is posted as a payload it enters the hub unchanged (`republishing`).
-/

namespace Switchboard.Api

open Hub Http Json

/-- The payload of a body stands in it. In an array it is the last item, at `index`. -/
inductive Places (index : Nat) : Bytes → Span → Prop where
  | member {body opened rest : Bytes} {members : List (String × Span)} {payload : Span}
      (brace : Next body 0x7b opened) (inside : Members IsText Passed true opened members rest)
      (only : members.filter (·.1 = "payload") = [("payload", payload)]) :
      Places index body payload
  | item {body opened rest : Bytes} (before : List Span) {payload : Span}
      (bracket : Next body 0x5b opened)
      (inside : Items Passed true opened (before ++ [payload]) rest)
      (place : before.length = index) : Places index body payload

theorem Places.carries {index : Nat} {body : Bytes} {span : Span} {term : Term String}
    (places : Places index body span) (spells : Spells IsText span.start term span.behind) :
    Carries index body term := by
  cases places with
  | member brace inside only => exact .member brace inside only spells
  | item before bracket inside place => exact .item before bracket inside place spells

/-- An event is accepted: its payload spells a term, and a request enters the hub. -/
structure Accepted (context : Context) (hub : Hub) (request : Http.Request) (term : Term String)
    (submitted : FanoutRequest) : Prop where
  method : request.method = "POST"
  carries : ∃ route, Route.ofPath? request.target.path = some route ∧ route.isSubmission = true ∧
    Carries (payloadPlace route) request.body.toList term
  status : (respond context hub request).2.status = 202
  entered : (respond context hub request).1 = entered hub submitted

/-- The payload that a request posts is a text. -/
def PostsText (request : Http.Request) (text : Bytes) : Prop :=
  ∃ route span, Route.ofPath? request.target.path = some route ∧
    Places (payloadPlace route) request.body.toList span ∧
      skipBlanks span.start = text ++ span.behind

variable {context : Context} {hub : Hub} {request : Http.Request} {term : Term String}
  {submitted : FanoutRequest}

/-- What has entered a hub can be told from the hub. -/
theorem entered_injective {other : FanoutRequest}
    (same : entered hub submitted = entered hub other) : submitted = other := by
  have waiting := congrArg (fun hub : Hub => hub.dispatcher.fanning.waiting.getLast?) same
  have last (submitted : FanoutRequest) :
      ((entered hub submitted).dispatcher.fanning.waiting.getLast?.map (·.item)) =
        some submitted := by
    simp [entered, Dispatcher.enter, Lane.enter]
  exact Option.some.inj ((last submitted).symm.trans
    ((congrArg (Option.map (·.item)) waiting).trans (last other)))

/-- What enters is what was read of the payload. -/
theorem Accepted.exists_payload (accepted : Accepted context hub request term submitted) :
    ∃ payload : Value, ReadAs payload term ∧ submitted.payload = payload.render.toUTF8 := by
  obtain ⟨route, routed, submission, carries⟩ := accepted.carries
  have status := accepted.status
  have enters := accepted.entered
  rw [respond_of_post accepted.method routed submission] at status enters
  obtain ⟨users, kind, payload, found, isFound, readAs, entrance⟩ :=
    readAs_of_status submission status
  obtain rfl := carries.unique isFound
  obtain rfl := entered_injective (enters.symm.trans entrance)
  exact ⟨payload, readAs, rfl⟩

/-- What becomes of a payload whose numbers are plain integers. -/
structure Republished (term : Term String) (submitted : FanoutRequest) : Prop where
  canonical : IsCanonical submitted.payload.toList term.meaning
  decoded : ∃ value, parse submitted.payload.toList = .ok value ∧
    value.term.meaning = term.meaning
  /-- Whatever else means the same enters as the same bytes. -/
  alike : ∀ {context : Context} {hub : Hub} {request : Http.Request} {other : Term String}
      {entering : FanoutRequest},
    Accepted context hub request other entering → other.EachLive Literal.IsPlain →
      other.meaning = term.meaning → entering.payload = submitted.payload
  /-- The bytes themselves may be posted. -/
  again : ∀ {context : Context} {hub : Hub} {request : Http.Request} {other : Term String}
      {entering : FanoutRequest},
    Accepted context hub request other entering → PostsText request submitted.payload.toList →
      entering.payload = submitted.payload

theorem Accepted.isCanonical (accepted : Accepted context hub request term submitted)
    (live : term.EachLive Literal.IsPlain) :
    IsCanonical submitted.payload.toList term.meaning := by
  obtain ⟨payload, readAs, text⟩ := accepted.exists_payload
  rw [text]
  exact isCanonical_render readAs.term_eq live

theorem Accepted.alike (accepted : Accepted context hub request term submitted)
    (live : term.EachLive Literal.IsPlain) {elsewhere : Context} {otherHub : Hub}
    {otherRequest : Http.Request} {other : Term String} {entering : FanoutRequest}
    (alsoAccepted : Accepted elsewhere otherHub otherRequest other entering)
    (alsoLive : other.EachLive Literal.IsPlain) (same : other.meaning = term.meaning) :
    entering.payload = submitted.payload := by
  have canonical := alsoAccepted.isCanonical alsoLive
  rw [same] at canonical
  exact Text.toList_injective (canonical.unique (accepted.isCanonical live))

/-- Payloads that mean the same are delivered as the same bytes, which mean the same and are
delivered as they are. -/
theorem republishing (accepted : Accepted context hub request term submitted)
    (live : term.EachLive Literal.IsPlain) : Republished term submitted := by
  constructor
  case canonical => exact accepted.isCanonical live
  case decoded =>
    obtain ⟨payload, readAs, text⟩ := accepted.exists_payload
    refine ⟨payload.canonical, ?_, ?_⟩
    · rw [text, Value.render, toList_renderInOrder]
      have plain := each_canonical (readAs.term_eq ▸ live.sent)
      exact parse_compact plain ((nests_canonical readAs.nests).mono (Nat.sub_le _ _))
    · rw [meaning_canonical, readAs.term_eq, live.meaning_sent]
  case alike =>
    intro context hub request other entering alsoAccepted alsoLive same
    exact accepted.alike live alsoAccepted alsoLive same
  case again =>
    intro context hub request other entering alsoAccepted posts
    obtain ⟨canonical, text, ordered, plain, same⟩ := accepted.isCanonical live
    obtain ⟨route, span, routed, places, begins⟩ := posts
    obtain ⟨otherRoute, alsoRouted, -, carries⟩ := alsoAccepted.carries
    obtain rfl := Option.some.inj (routed.symm.trans alsoRouted)
    have spells : Spells IsText span.start canonical span.behind := by
      refine (spells_compact canonical span.behind).congr_skipBlanks ?_
      rw [← text, ← begins, skipBlanks_skipBlanks]
    obtain rfl := carries.unique (places.carries spells)
    exact accepted.alike live alsoAccepted plain.live same

/-- A post that is accepted has a payload, and a request enters. -/
theorem exists_accepted {route : Route} (method : request.method = "POST")
    (routed : Route.ofPath? request.target.path = some route)
    (submission : route.isSubmission = true)
    (status : (respond context hub request).2.status = 202) :
    ∃ term submitted, Accepted context hub request term submitted := by
  have answered := status
  rw [respond_of_post method routed submission] at answered
  obtain ⟨users, kind, payload, term, carries, -, entrance⟩ := readAs_of_status submission answered
  refine ⟨term, buildRequest users kind payload, method, ⟨route, routed, submission, carries⟩,
    status, ?_⟩
  rw [respond_of_post method routed submission]
  exact entrance

/-! ## A payload that is tidied up -/

/-- The number -1, as it is written. -/
def minusOne : Literal := ⟨true, [1], [], none, List.cons_ne_nil _ _, by decide⟩

theorem isPlain_minusOne : minusOne.IsPlain := by
  have value : minusOne.value = -1 := by norm_num [Literal.value, minusOne, valueFrom]
  exact ⟨⟨rfl, rfl, by rw [value]; norm_num, by rw [value]; norm_num⟩, by rw [value]; norm_num⟩

/-- Members out of order, one of them repeated. -/
def untidy : Term String :=
  .object [("b", .null), ("a", .string "\"/"), ("b", .number minusOne)]

/-- A text of them with escapes, one of them in a name. -/
def untidyText : String := "\x7b\"b\":null,\"\\u0061\":\"\\\"\\/\",\"b\":-1\x7d"

/-- The members that count, in order. -/
def tidy : Term String := .object [("a", .string "\"/"), ("b", .number minusOne)]

/-- Their text. -/
def tidyText : String := "\x7b\"a\":\"\\\"/\",\"b\":-1\x7d"

theorem spells_untidy (rest : Bytes) :
    Spells IsText (Text.encode untidyText.toList ++ rest) untidy rest := by
  have b {rest : Bytes} : IsText (0x62 :: 0x22 :: rest) "b" rest :=
    .plain ⟨by decide, by decide, by decide⟩ .close
  have hex {rest : Bytes} : Hex4 (0x30 :: 0x30 :: 0x36 :: 0x31 :: rest) 0x61 rest :=
    @Hex4.digits _ _ _ _ 0 0 6 1 rest rfl rfl rfl rfl
  have a {rest : Bytes} :
      IsText (0x5c :: 0x75 :: 0x30 :: 0x30 :: 0x36 :: 0x31 :: 0x22 :: rest) "a" rest :=
    .escape (.point hex (.inl (by decide))) .close
  have text {rest : Bytes} : IsText (0x5c :: 0x22 :: 0x5c :: 0x2f :: 0x22 :: rest) "\"/" rest :=
    .escape (.letter rfl) (.escape (.letter rfl) .close)
  exact .object rfl (.next rfl rfl b rfl (.null rfl)
    (.next rfl rfl a rfl (.string rfl text) (.next rfl rfl b rfl (.number rfl) (.done rfl))))

theorem live_untidy : untidy.EachLive Literal.IsPlain := by
  refine Term.Each.live (.object ?_)
  simp only [List.forall_mem_cons]
  exact ⟨.null, .string _, .number isPlain_minusOne, by simp⟩

theorem meaning_tidy : tidy.meaning = untidy.meaning := by
  refine congrArg Meaning.object (funext fun name => ?_)
  by_cases isB : "b" = name
  · subst isB
    simp [memberMeaning]
  · simp [memberMeaning, isB]

/-- The tidy text is the canonical one. -/
theorem isCanonical_tidyText : IsCanonical (Text.encode tidyText.toList) untidy.meaning := by
  refine ⟨tidy, by decide +kernel, .object (List.pairwise_pair.mpr (by decide)) ?_, .object ?_,
    meaning_tidy⟩
  · simp only [List.forall_mem_cons]
    exact ⟨.string _, .number _, by simp⟩
  · simp only [List.forall_mem_cons]
    exact ⟨.string _, .number isPlain_minusOne, by simp⟩

/-- The untidy text is posted for user 1. -/
def untidyPost : Http.Request :=
  post "/api/v1/events" ("\x7b\"recipients\":[1],\"payload\":" ++ untidyText ++ "\x7d")

/-- The tidy one is posted for user 7, in an array. -/
def tidyPost : Http.Request :=
  post "/api/v1/users/7/events" ("[null, " ++ tidyText ++ "]")

theorem toList_untidyPost :
    untidyPost.body.toList = enclosing (Text.encode untidyText.toList) := by
  rw [untidyPost, post, Text.toList_toUTF8]
  decide +kernel

/-- The payload stands in the body behind a blank. -/
theorem places_tidyPost :
    Places 1 tidyPost.body.toList ⟨0x20 :: (Text.encode tidyText.toList ++ [0x5d]), [0x5d]⟩ := by
  have body : tidyPost.body.toList =
      0x5b :: (Text.encode ['n', 'u', 'l', 'l'] ++ 0x2c :: 0x20 ::
        (Text.encode tidyText.toList ++ [0x5d])) := by
    rw [tidyPost, post, Text.toList_toUTF8]
    decide +kernel
  have compact : Text.encode tidyText.toList = tidy.compact := by decide +kernel
  have spells : Spells IsText (0x20 :: (Text.encode tidyText.toList ++ [0x5d])) tidy [0x5d] := by
    rw [compact]
    exact (spells_compact tidy [0x5d]).congr_skipBlanks rfl
  rw [body]
  exact .item [_] rfl (.next rfl (.value (.null rfl)) (.next rfl (passed_of_spells spells)
    (.done rfl))) rfl

/-- The untidy text is posted, and then the tidy one that has entered for it. -/
theorem republishing_untidy :
    ∃ submitted entering, Accepted modest (.create {}) untidyPost untidy submitted ∧
      untidy.EachLive Literal.IsPlain ∧
      submitted.payload.toList = Text.encode tidyText.toList ∧
      PostsText tidyPost submitted.payload.toList ∧
      (respond modest (.create {}) tidyPost).1 = entered (.create {}) entering ∧
      entering.payload = submitted.payload := by
  have routed : Route.ofPath? "/api/v1/users/7/events" = some (.userEvents "7") := by decide
  obtain ⟨term, submitted, accepted⟩ := exists_accepted (rfl : untidyPost.method = "POST")
    ofPath?_events rfl
    (show (respond modest (.create {}) _).2.status = 202 by with_unfolding_all rfl)
  obtain ⟨route, isRoute, -, carries⟩ := accepted.carries
  obtain rfl := Option.some.inj (ofPath?_events.symm.trans isRoute)
  obtain rfl : term = untidy :=
    carries.unique (toList_untidyPost ▸ carries_enclosing (spells_untidy _))
  obtain ⟨other, entering, alsoAccepted⟩ := exists_accepted (rfl : tidyPost.method = "POST")
    routed rfl
    (show (respond modest (.create {}) _).2.status = 202 by with_unfolding_all rfl)
  have republished := republishing accepted live_untidy
  have text : submitted.payload.toList = Text.encode tidyText.toList :=
    republished.canonical.unique isCanonical_tidyText
  have posts : PostsText tidyPost submitted.payload.toList :=
    ⟨_, _, routed, places_tidyPost, by rw [text]; rfl⟩
  exact ⟨submitted, entering, accepted, live_untidy, text, posts, alsoAccepted.entered,
    republished.again alsoAccepted posts⟩

end Switchboard.Api
