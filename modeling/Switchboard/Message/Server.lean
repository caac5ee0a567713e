import Switchboard.Hub.Identity
import Switchboard.Json.Value

/-!
# Messages to clients

The events that a client receives, and their JSON form.
-/

namespace Switchboard.Message

open Hub

/-- How far a message has come. -/
inductive ReceiptStatus where
  | delivered
  | read
deriving DecidableEq, Repr

/-- The word for a status. -/
def ReceiptStatus.name : ReceiptStatus → String
  | .delivered => "delivered"
  | .read => "read"

/-- An event for a client. Timestamps are milliseconds since 1970. -/
inductive ServerEvent where
  /-- Somebody in a conversation has started or stopped typing. -/
  | typing (conversation : Int64) (user : UserId) (isTyping : Bool) (timestamp : Int64)
  /-- Somebody has received or read a message. -/
  | receipt (conversation message : Int64) (user : UserId) (status : ReceiptStatus)
      (timestamp : Int64)
  /-- The answer to a ping. -/
  | pong (timestamp : Int64)
  /-- The client's last message was no good. -/
  | error (message : String)
deriving DecidableEq, Repr

/-- The word for the kind of an event. -/
def ServerEvent.kind : ServerEvent → String
  | .typing .. => "typing"
  | .receipt .. => "receipt"
  | .pong _ => "pong"
  | .error _ => "error"

/-- A signed 64-bit integer as a JSON number. -/
def int64ToJson (n : Int64) : Json.Value := .integer n.toInt

/-- An event as a JSON object whose first member tells the kind. -/
def ServerEvent.toJson (event : ServerEvent) : Json.Value :=
  .object <| ("type", .string event.kind) ::
    match event with
    | .typing conversation user isTyping timestamp =>
      [("conversation_id", int64ToJson conversation), ("user_id", int64ToJson user),
        ("is_typing", .bool isTyping), ("timestamp", int64ToJson timestamp)]
    | .receipt conversation message user status timestamp =>
      [("conversation_id", int64ToJson conversation), ("message_id", int64ToJson message),
        ("user_id", int64ToJson user), ("status", .string status.name),
        ("timestamp", int64ToJson timestamp)]
    | .pong timestamp => [("timestamp", int64ToJson timestamp)]
    | .error message => [("message", .string message)]

/-- The JSON text of an event. -/
def ServerEvent.render (event : ServerEvent) : String := event.toJson.renderInOrder

end Switchboard.Message
