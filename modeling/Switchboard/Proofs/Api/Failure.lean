import Switchboard.Proofs.Api.Publishing
import Switchboard.Proofs.Hub.Attempt

/-!
# Failure leaves everything as it was

Whatever the interface is asked, the hub is as before but for its journal, unless the response says
that an event is accepted (`respond_cases`). The same holds of a request that might have opened a
WebSocket and of one whose head is refused (`receiveHead_cases`). With what is known of calls on the
hub this is `failure_spares`.
-/

namespace Switchboard

open Hub

namespace Api

/-- What can come of a request: its event is accepted, or only lines are written. -/
inductive Answered (hub : Hub) : Hub × Http.Response → Prop where
  | accepted {after : Hub} {response : Http.Response} (status : response.status = 202) :
      Answered hub (after, response)
  | spared (lines : List Entry) (response : Http.Response) :
      Answered hub (hub.write lines, response)

variable (context : Context) (hub : Hub)

/-- A response that is given without a look at the hub, or after one. -/
theorem answered_unchanged (response : Http.Response) : Answered hub (hub, response) := by
  have answered : Answered hub (hub.write [], response) := .spared [] response
  rwa [Hub.write, List.append_nil] at answered

/-- A submission is answered with 202 or spares the hub. -/
theorem submit_cases (request : FanoutRequest) : Answered hub (submit context hub request) := by
  have made := Attempt.make_cases hub (.submit request)
  change Attempt.Made hub _ (hub.submit request) at made
  rw [submit]
  generalize hub.submit request = result at made
  cases made with
  | textless asks => cases asks
  | vacant asks => exact .accepted rfl
  | stopped asks stopped => exact .spared _ _
  | enters asks running => exact .accepted rfl

/-- So is a body to publish. -/
theorem publish_cases (body : PublishBody) : Answered hub (publish context hub body) := by
  rw [publish]
  split
  · exact .spared _ _
  · split
    · exact .spared _ _
    · exact submit_cases context hub _

/-- So is a request, by whichever route it came. -/
theorem answer_cases (request : Http.Request) (route : Route) :
    Answered hub (answer context hub request route) := by
  cases route with
  | events =>
    rw [answer]
    split
    · exact publish_cases context hub _
    · exact answered_unchanged hub _
  | userEvents part =>
    rw [answer]
    split
    · exact answered_unchanged hub _
    · split
      · exact submit_cases context hub _
      · exact answered_unchanged hub _
  | userPresence part | socket =>
    rw [answer]
    split <;> exact answered_unchanged hub _
  | presence | liveness | health => exact answered_unchanged hub _

theorem answerRoute_cases (request : Http.Request) :
    Answered hub (answerRoute context hub request) := by
  rw [answerRoute]
  split
  · exact answered_unchanged hub _
  · split
    · exact answered_unchanged hub _
    · split
      · exact answer_cases context hub request _
      · exact answered_unchanged hub _

/-- The headers and the length of a response say nothing about what has come of the request. -/
theorem respond_cases (request : Http.Request) : Answered hub (respond context hub request) := by
  have answered := answerRoute_cases context hub request
  rw [respond]
  generalize answerRoute context hub request = result at answered
  cases answered with
  | accepted status =>
    refine .accepted ?_
    split <;> exact status
  | spared lines response => exact .spared lines _

end Api

namespace Service

/-- What can come of a head that arrives: its event is accepted, a socket is opened, or only lines
are written. -/
inductive Received (service : Service) : Service × (ConnectionId ⊕ Http.Response) → Prop where
  | accepted {after : Service} {response : Http.Response} (status : response.status = 202) :
      Received service (after, .inr response)
  | upgraded (after : Service) (connection : ConnectionId) :
      Received service (after, .inl connection)
  | spared (lines : List Entry) (response : Http.Response) :
      Received service ({ service with hub := service.hub.write lines }, .inr response)

theorem Received.spares {service after : Service} {response : Http.Response}
    (received : Received service (after, .inr response)) (refused : response.status ≠ 202) :
    Hub.Spared none service.hub after.hub := by
  cases received with
  | accepted status => exact absurd status refused
  | spared lines => exact .write service.hub lines

variable (context : Api.Context) (service : Service)

/-- A service that did nothing has spared its hub. -/
theorem received_unchanged (response : Http.Response) :
    Received service (service, .inr response) := by
  have received : Received service (service.withHub (·.write []), .inr response) :=
    .spared [] response
  rwa [Service.withHub, Hub.write, List.append_nil] at received

theorem receiveRequest_cases (request : Http.Request) :
    Received service (service.receiveRequest context request) := by
  rw [receiveRequest]
  split
  · split
    · exact .upgraded _ _
    · exact received_unchanged service _
  · have answered := Api.respond_cases context service.hub request
    generalize Api.respond context service.hub request = result at answered
    cases answered with
    | accepted status => exact .accepted status
    | spared lines response => exact .spared lines response

theorem receiveHead_cases (head : Http.Head) :
    Received service (service.receiveHead context head) := by
  rw [receiveHead]
  split
  · exact receiveRequest_cases context service _
  · exact received_unchanged service _

end Service

/-- Failure leaves everything as it was. A call that fails uses no stamp, enqueues nothing and
changes neither registry nor presence, counters or outboxes, but that a handle which was to be
registered is gone. Nor does a request to the interface do anything, whatever its method, its path
and its body, unless the response is that an event is accepted or a WebSocket is opened. -/
theorem failure_spares :
    (∀ (attempt : Attempt) (hub : Hub), attempt.FailsCleanly hub) ∧
    (∀ (context : Api.Context) (hub : Hub) (request : Http.Request),
      (Api.respond context hub request).2.status ≠ 202 →
        Spared none hub (Api.respond context hub request).1) ∧
    (∀ (context : Api.Context) (service after : Service) (request : Http.Request)
        (response : Http.Response),
      service.receiveRequest context request = (after, .inr response) → response.status ≠ 202 →
        Spared none service.hub after.hub) ∧
    (∀ (context : Api.Context) (service after : Service) (head : Http.Head)
        (response : Http.Response),
      service.receiveHead context head = (after, .inr response) → response.status ≠ 202 →
        Spared none service.hub after.hub) := by
  refine ⟨Attempt.failsCleanly, ?_, ?_, ?_⟩
  · intro context hub request refused
    have answered := Api.respond_cases context hub request
    generalize Api.respond context hub request = result at answered refused
    cases answered with
    | accepted status => exact absurd status refused
    | spared lines response => exact .write hub lines
  · intro context service after request response receives refused
    have received := service.receiveRequest_cases context request
    rw [receives] at received
    exact received.spares refused
  · intro context service after head response receives refused
    have received := service.receiveHead_cases context head
    rw [receives] at received
    exact received.spares refused

/-- A hub whose dispatcher is gone, with a connection of user 7 that has not been registered. -/
def forlorn : Hub := ((Hub.create {}).connect 7).1.kill

theorem failure_spares_forlorn :
    (Attempt.make forlorn (.register ⟨⟨0⟩, 7⟩)).2 = .error (.dispatcherStopped "register") ∧
      Spared (some ⟨0⟩) forlorn (Attempt.make forlorn (.register ⟨⟨0⟩, 7⟩)).1 ∧
      (Attempt.make forlorn (.deliverJson [] "note" (.error "no text"))).2 =
        .error (.serialization "no text") ∧
      Attempt.make forlorn (.deliver [] .empty) = (forlorn, .ok ()) ∧
      (Api.respond Api.modest forlorn
        (Api.post "/api/v1/users/7/events" "\x7b\"payload\":1\x7d")).2.status = 503 ∧
      Spared none forlorn (Api.respond Api.modest forlorn
        (Api.post "/api/v1/users/7/events" "\x7b\"payload\":1\x7d")).1 := by
  have ⟨calls, answers, _⟩ := failure_spares
  have stopped : (Attempt.make forlorn (.register ⟨⟨0⟩, 7⟩)).2 =
      .error (.dispatcherStopped "register") :=
    (calls _ forlorn).stopped_iff.mpr ⟨rfl, rfl, id, fun _ textless => by cases textless⟩
  have status : (Api.respond Api.modest forlorn
      (Api.post "/api/v1/users/7/events" "\x7b\"payload\":1\x7d")).2.status = 503 := by
    with_unfolding_all rfl
  refine ⟨stopped, (calls _ forlorn).spared stopped, (calls _ forlorn).serialization_iff.mpr rfl,
    ?_, status, answers _ _ _ (by rw [status]; decide)⟩
  exact (calls (.deliver [] .empty) forlorn).vacant rfl fun _ textless => by cases textless

end Switchboard
