import Switchboard.Api.Body
import Switchboard.Api.Error
import Switchboard.Api.Route
import Switchboard.Http.Percent
import Switchboard.Text.Quoted
import Switchboard.WebSocket.Handshake

/-!
# Answering requests

The interface over a hub: producers submit events, anybody may ask who is reachable and how the hub
is doing. A request changes the hub only if it is accepted.
-/

namespace Switchboard.Api

open Hub Http

/-- What answering a request takes besides the hub. -/
structure Context where
  /-- The longest list of recipients that is accepted. -/
  maxRecipients : UInt64
  /-- The version that the interface shows. -/
  version : String
  /-- Whole seconds since the start. -/
  uptime : Nat
  /-- The identity that an error of this request gets. -/
  requestId : String

/-- Why a path names no user. -/
inductive PathFault where
  | notText
  | notInteger (text : String)
deriving DecidableEq, Repr

/-- The response to a path that names no user. -/
def PathFault.response : PathFault → Response
  | .notText => .text 400 "Invalid URL: Invalid UTF-8 in `user_id`"
  | .notInteger text =>
    .text 400 ("Invalid URL: Cannot parse `" ++ Text.quoted text ++ "` to a `i64`")

/-- The user whom a part of a path names. -/
def userOfPath (part : String) : Except PathFault UserId :=
  match String.fromUTF8? (decodePercent part.toUTF8.toList).toByteArray with
  | none => .error .notText
  | some text =>
    match Decimal.readInt64 text with
    | .ok user => .ok user
    | .error _ => .error (.notInteger text)

/-- The response to an event that is accepted for a number of recipients. -/
def accepted (recipients : Nat) : Response :=
  .json 202 <| Json.Value.renderInOrder <| .object
    [("status", .string "accepted"), ("recipients", .integer recipients)]

/-- Fails a request: the hub writes a line, and nothing else about it changes. -/
def refuse (context : Context) (hub : Hub) (error : ApiError) : Hub × Response :=
  (hub.write [error.entry context.requestId], error.response context.requestId)

/-- The request to the hub for a payload; the payload's text is canonical. -/
def buildRequest (users : List UserId) (kind : Option String) (payload : Json.Value) :
    FanoutRequest :=
  { FanoutRequest.to users payload.render.toUTF8 with kind }

/-- Submits a request and tells how many recipients it has. -/
def submit (context : Context) (hub : Hub) (request : FanoutRequest) : Hub × Response :=
  match hub.submit request with
  | (after, .ok ()) => (after, accepted request.recipients.length)
  | (after, .error error) => refuse context after (.hub error)

/-- Publishes an event to a list of users, which must be neither empty nor too long. -/
def publish (context : Context) (hub : Hub) (body : PublishBody) : Hub × Response :=
  if body.recipients.isEmpty then refuse context hub (.validation "No recipients")
  else if context.maxRecipients.toNat < body.recipients.length then
    refuse context hub
      (.validation ("Recipient count exceeds maximum of " ++ toString context.maxRecipients.toNat))
  else submit context hub (buildRequest body.recipients body.kind body.payload)

/-- Sends an event to one user. -/
def sendToUser (context : Context) (hub : Hub) (user : UserId) (body : DirectBody) :
    Hub × Response :=
  submit context hub (buildRequest [user] body.kind body.payload)

/-- Who is reachable. -/
def presenceResponse (hub : Hub) : Response :=
  .json 200 <| Json.Value.renderInOrder <| .object
    [("online", .array (hub.listOnline.map fun user => .integer user.toInt)),
      ("count", .integer hub.listOnline.length)]

/-- Whether one user is reachable. -/
def userPresenceResponse (hub : Hub) (user : UserId) : Response :=
  .json 200 <| Json.Value.renderInOrder <| .object
    [("user_id", .integer user.toInt), ("online", .bool (hub.isOnline user))]

/-- How the hub is doing. -/
def healthResponse (context : Context) (hub : Hub) : Response :=
  .json 200 <| Json.Value.renderInOrder <| .object
    [("status", .string "healthy"), ("connections", .integer hub.count),
      ("uptime_seconds", .integer context.uptime), ("version", .string context.version),
      ("hub", hub.stats.toJson)]

/-- Answers a request to a route with a method that the route answers to. -/
def answer (context : Context) (hub : Hub) (request : Http.Request) : Route → Hub × Response
  | .events =>
    match readBody PublishBody.read request with
    | .ok body => publish context hub body
    | .error fault => (hub, fault.response)
  | .userEvents part =>
    match userOfPath part with
    | .error fault => (hub, fault.response)
    | .ok user =>
      match readBody DirectBody.read request with
      | .ok body => sendToUser context hub user body
      | .error fault => (hub, fault.response)
  | .presence => (hub, presenceResponse hub)
  | .userPresence part =>
    match userOfPath part with
    | .error fault => (hub, fault.response)
    | .ok user => (hub, userPresenceResponse hub user)
  | .liveness => (hub, .empty 200)
  | .health => (hub, healthResponse context hub)
  | .socket =>
    match WebSocket.openingUser request false with
    | .error fault => (hub, fault.response)
    | .ok _ => (hub, WebSocket.HandshakeFault.notUpgradable.response)

/-- Answers a request but for what every response has in common. -/
def answerRoute (context : Context) (hub : Hub) (request : Http.Request) : Hub × Response :=
  match Route.ofPath? request.target.path with
  | none => (hub, .empty (if request.method == "OPTIONS" then 200 else 404))
  | some route =>
    if request.method == "OPTIONS" then
      (hub, (Response.empty 200).withHeaders [("allow", route.allow)])
    else if route.answers request.method then answer context hub request route
    else (hub, (Response.empty 405).withHeaders [("allow", route.allow)])

/-- The headers that every response has: the length of its body, and that any origin may read it. -/
def commonHeaders (method : String) (response : Response) : Headers :=
  [("content-length", toString response.body.size),
    ("access-control-allow-origin", "*"),
    ("vary", "origin, access-control-request-method, access-control-request-headers")] ++
    if method == "OPTIONS" then
      [("access-control-allow-methods", "*"), ("access-control-allow-headers", "*")]
    else [("access-control-expose-headers", "*")]

/-- Answers a request. A request for the headers only gets those of the full response. -/
def respond (context : Context) (hub : Hub) (request : Http.Request) : Hub × Response :=
  let (after, response) := answerRoute context hub request
  let complete := response.withHeaders (commonHeaders request.method response)
  (after, if request.method == "HEAD" then complete.withoutBody else complete)

end Switchboard.Api
