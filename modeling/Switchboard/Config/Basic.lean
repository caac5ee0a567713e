import Switchboard.Hub.Config
import Switchboard.Text.Quoted

/-!
# Settings

The settings of the whole program in their four sections, with their defaults, and what makes them
fit to run with.
-/

namespace Switchboard

open Hub

/-- The settings of the HTTP server. -/
structure ServerConfig where
  host : String := "0.0.0.0"
  port : UInt16 := 8080
  /-- The longest list of recipients that a producer may send. -/
  maxPublishRecipients : UInt64 := 10000
deriving DecidableEq, Repr

/-- The settings of WebSocket connections. -/
structure WebSocketConfig where
  /-- The longest message that a client may send, in bytes. -/
  maxMessageSize : UInt64 := 524288
  writeBufferSize : UInt64 := 1024
  /-- The longest list of recipients that a client may send. -/
  maxRelayRecipients : UInt64 := 256
deriving DecidableEq, Repr

/-- The settings of the log. -/
structure LoggingConfig where
  level : String := "info"
  format : String := "pretty"
deriving DecidableEq, Repr

/-- All settings. -/
structure Config where
  server : ServerConfig := {}
  hub : HubConfig := {}
  websocket : WebSocketConfig := {}
  logging : LoggingConfig := {}
deriving DecidableEq, Repr

namespace Config

/-- Why settings are not fit to run with. -/
inductive Flaw where
  /-- A size that must be positive is zero. -/
  | zero (setting : String)
  | unknownFormat (format : String)
deriving DecidableEq, Repr

/-- The wording of a flaw. -/
def Flaw.message : Flaw → String
  | .zero setting => setting ++ " must be greater than 0"
  | .unknownFormat format =>
    "logging.format must be \"pretty\" or \"json\", got " ++ Text.quoted format

/-- The sizes that must be positive, in the order in which they are looked at. -/
def positiveSizes (config : Config) : List (String × UInt64) :=
  [("server.max_publish_recipients", config.server.maxPublishRecipients),
    ("hub.outbox_capacity", config.hub.outboxCapacity),
    ("hub.register_queue", config.hub.registerQueue),
    ("hub.unregister_queue", config.hub.unregisterQueue),
    ("hub.fanout_queue", config.hub.fanoutQueue),
    ("hub.presence_channel", config.hub.presenceChannel),
    ("websocket.max_message_size", config.websocket.maxMessageSize)]

/-- Whether settings are fit to run with. -/
def validate (config : Config) : Except Flaw Unit :=
  match config.positiveSizes.find? fun setting => setting.2 == 0 with
  | some (setting, _) => .error (.zero setting)
  | none =>
    if config.logging.format == "pretty" || config.logging.format == "json" then .ok ()
    else .error (.unknownFormat config.logging.format)

/-- The largest outbox that can be made. -/
def maxOutboxCapacity : UInt64 := 2305843009213693951

/-- Whether sockets can be served: their outboxes can be made, and there is room beyond the write
buffer. -/
def servesSockets (config : Config) : Bool :=
  config.hub.outboxCapacity ≤ maxOutboxCapacity &&
    config.websocket.writeBufferSize.toNat < UInt64.size - 1

/-- The address that the server binds to. -/
def bindAddress (config : Config) : String :=
  config.server.host ++ ":" ++ toString config.server.port.toNat

end Config

end Switchboard
