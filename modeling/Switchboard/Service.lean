import Switchboard.Api.Respond
import Switchboard.Config.Basic
import Switchboard.Http.Head
import Switchboard.WebSocket.Reaction

/-!
# The service

A hub with the transports around it: the HTTP interface, and the WebSocket connections, each of
which has a reader for what its client sends and a writer for what its outbox holds. A connection
ends as soon as either of the two does, and then unregisters. `settle` lets everything run until
nothing is left to do.
-/

namespace Switchboard

open Hub WebSocket

/-- The server's side of a WebSocket. -/
structure Socket where
  connection : ConnectionId
  user : UserId
  /-- Reader and writer still run. -/
  running : Bool := true
  /-- What has been sent and not yet received by the client, the oldest first. -/
  sent : List ServerFrame := []

/-- A hub and its transports. -/
structure Service where
  config : Config
  hub : Hub
  sockets : List Socket := []
  /-- The service itself still uses the hub. -/
  held : Bool := true

namespace Service

/-- The service that settings describe. -/
def create (config : Config) : Service := { config, hub := .create config.hub }

/-- The socket of a connection. -/
def socket? (service : Service) (connection : ConnectionId) : Option Socket :=
  service.sockets.find? fun socket => socket.connection = connection

/-- Changes the socket of a connection. -/
def changeSocket (service : Service) (connection : ConnectionId) (change : Socket → Socket) :
    Service :=
  { service with
    sockets := service.sockets.map fun socket =>
      if socket.connection = connection then change socket else socket }

/-- Whether anybody can still submit requests: the service or a running socket. -/
def inUse (service : Service) : Bool := service.held || service.sockets.any (·.running)

/-- Changes the hub. -/
def withHub (service : Service) (change : Hub → Hub) : Service :=
  { service with hub := change service.hub }

/-! ## Running until nothing is left to do -/

/-- Lets the writer of a socket send what its outbox holds. When the outbox has been let go of, a
close frame follows and the socket ends. -/
def drain (service : Service) (connection : ConnectionId) : Service :=
  match service.socket? connection, service.hub.state.outboxes[connection]? with
  | some socket, some outbox =>
    if !socket.running then service
    else
      let frames := outbox.buffer.map ServerFrame.ofPayload
      let (_, drained) := outbox.take outbox.buffer.length
      let after := service.withHub
        (·.changeState (·.changeOutbox connection fun _ =>
          if outbox.held then drained else drained.abandon))
      after.changeSocket connection fun socket =>
        { socket with
          running := outbox.held
          sent := socket.sent ++ frames ++ (if outbox.held then [] else [.close]) }
  | _, _ => service

/-- Unregisters the connection of a socket that has ended. -/
def depart (service : Service) (socket : Socket) : Service :=
  match service.hub.unregister socket.user socket.connection with
  | (hub, .ok ()) => { service with hub }
  | (hub, .error error) =>
    { service with
      hub := hub.write [⟨.warn, "Failed to unregister WebSocket connection",
        [Entry.user socket.user, ("error", .text error.message)]⟩] }

/-- The running sockets among connections. -/
def runningAmong (service : Service) (connections : List ConnectionId) : List Socket :=
  connections.filterMap fun connection => (service.socket? connection).filter (·.running)

/-- The socket's connection has ended since `before`. -/
def hasEnded (service : Service) (before : Socket) : Bool :=
  ((service.socket? before.connection).map fun socket => !socket.running).getD false

/-- Lets the dispatcher apply what waits, then the writers that it woke, then has the sockets that
ended unregister, and so on. Each further round means that a socket has ended, so `fuel` is their
number. -/
def settleWithin : (fuel : Nat) → Service → Service
  | 0, service => service
  | fuel + 1, service =>
    let applied := service.withHub fun hub => (hub.setReachable service.inUse).settle
    let woken := applied.runningAmong applied.hub.touched.eraseDups
    let seen := applied.withHub fun hub => { hub with touched := [] }
    let drained := woken.foldl (fun service socket => service.drain socket.connection) seen
    let ended := woken.filter drained.hasEnded
    if ended.isEmpty then drained
    else settleWithin fuel (ended.foldl depart drained)

/-- Lets everything run until nothing is left to do. -/
def settle (service : Service) : Service := service.settleWithin (service.sockets.length + 2)

/-! ## Sockets -/

/-- Ends a socket from the reader's side: what its outbox holds is lost, and it unregisters. -/
def endSocket (service : Service) (socket : Socket) : Service :=
  let stopped := service.changeSocket socket.connection fun socket =>
    { socket with running := false }
  let abandoned := stopped.withHub
    (·.changeState (·.changeOutbox socket.connection Outbox.abandon))
  abandoned.depart socket

/-- Opens a socket for a user. If no socket can be served, it breaks down before the hub hears of
it; if the hub does not take the connection, it is closed at once. -/
def openSocket (service : Service) (user : UserId) : Service × ConnectionId :=
  let (connected, handle) := service.hub.connect user
  if !service.config.servesSockets then
    ({ service with
        hub := connected.discard handle
        sockets := service.sockets ++
          [{ connection := handle.connection, user, running := false }] },
      handle.connection)
  else match connected.register handle with
  | (hub, .ok ()) =>
    ({ service with
        hub, sockets := service.sockets ++ [{ connection := handle.connection, user }] },
      handle.connection)
  | (hub, .error error) =>
    ({ service with
        hub := hub.write [⟨.error, "Failed to register WebSocket connection",
          [Entry.user user, ("error", .text error.message)]⟩]
        sockets := service.sockets ++
          [{ connection := handle.connection, user, running := false, sent := [.close] }] },
      handle.connection)

/-- Answers a request over a connection that can be taken over: a request that opens a WebSocket
gets one, any other a response. -/
def receiveRequest (context : Api.Context) (service : Service) (request : Http.Request) :
    Service × (ConnectionId ⊕ Http.Response) :=
  if request.method == "GET" && Api.Route.ofPath? request.target.path = some .socket then
    match openingUser request true with
    | .ok user =>
      let (after, connection) := service.openSocket user
      (after, .inl connection)
    | .error fault => (service, .inr fault.response)
  else
    let (hub, response) := Api.respond context service.hub request
    ({ service with hub }, .inr response)

/-- Answers what arrives on a connection: a request, if its head is well formed. -/
def receiveHead (context : Api.Context) (service : Service) (head : Http.Head) :
    Service × (ConnectionId ⊕ Http.Response) :=
  match head.request with
  | .ok request => service.receiveRequest context request
  | .error response => (service, .inr response)

/-- Reads a message from the client of a running socket. -/
def receiveMessage (service : Service) (socket : Socket) (now : Int64) (incoming : Incoming) :
    Service :=
  let (reaction, lines) :=
    react service.config.websocket.maxRelayRecipients.toNat socket.user now incoming
  let after := service.withHub fun hub => reaction.submit socket.user (hub.write lines)
  match incoming, reaction with
  | .ping content, _ =>
    after.changeSocket socket.connection fun socket =>
      { socket with sent := socket.sent ++ [.pong content] }
  | _, .stop => after.endSocket socket
  | _, _ => after

/-- Stops reading from the client of a running socket. -/
def breakSocket (service : Service) (socket : Socket) (fault : ReadFault) : Service :=
  (service.withHub (·.write [⟨.debug, "WebSocket receive error",
    [Entry.user socket.user, ("error", .text fault.message)]⟩])).endSocket socket

/-- Takes in a frame from the client of a running socket. -/
def receiveFrame (service : Service) (socket : Socket) (now : Int64) (frame : ClientFrame) :
    Service :=
  match frame.read service.config.websocket.maxMessageSize.toNat with
  | .ok incoming => service.receiveMessage socket now incoming
  | .error fault => service.breakSocket socket fault

/-- What the client of a socket receives: the frames sent since it last looked, and whether the
connection is over. -/
def collectFrames (service : Service) (connection : ConnectionId) :
    Option (Service × List ServerFrame × Bool) :=
  (service.socket? connection).map fun socket =>
    (service.changeSocket connection fun socket => { socket with sent := [] },
      socket.sent, !socket.running)

/-! ## The end -/

/-- Kills every task: the dispatcher and all sockets. -/
def kill (service : Service) : Service :=
  { service with
    hub := service.hub.kill
    sockets := service.sockets.map fun socket => { socket with running := false } }

/-- Lets go of the hub. What has been submitted is still applied. -/
def dropHub (service : Service) : Service := { service with held := false }

/-- Whether no presence event can come any more. -/
def isOver (service : Service) : Bool := !service.inUse && service.hub.hasStopped

end Service

end Switchboard
