import Switchboard.Hub.Fanout
import Switchboard.Text.Unfinished

/-!
# Frames

What travels over a WebSocket either way, and what becomes of a client's frames before anybody looks
at their content: messages must be text where they say so, and neither too long nor, for control
frames, longer than the protocol allows.
-/

namespace Switchboard.WebSocket

open Hub (Payload)

/-- What a client sends. -/
inductive ClientFrame where
  /-- A text message in one frame or several. -/
  | text (fragments : List ByteArray)
  | binary (content : ByteArray)
  | ping (content : ByteArray)
  | pong (content : ByteArray)
  | close (reason : Option (Nat × ByteArray))

/-- What a client receives. -/
inductive ServerFrame where
  | text (text : String)
  | binary (content : ByteArray)
  | pong (content : ByteArray)
  | close
deriving DecidableEq

/-- The frame for a payload: text if it can be, and otherwise binary. -/
def ServerFrame.ofPayload (payload : Payload) : ServerFrame :=
  match payload.asText? with
  | some content => .text content
  | none => .binary payload

/-- A message from a client, complete and within its limits. -/
inductive Incoming where
  | text (text : String)
  | binary
  | ping (content : ByteArray)
  | pong
  | close
deriving DecidableEq

/-- Why nothing more can be read from a client. -/
inductive ReadFault where
  | notText
  | tooLong (size limit : Nat)
  | controlTooLong
  /-- The client is gone without a word. -/
  | reset
deriving DecidableEq, Repr

/-- The wording of a fault. -/
def ReadFault.message : ReadFault → String
  | .notText => "UTF-8 encoding error"
  | .tooLong size limit =>
    "Space limit exceeded: Message too long: " ++ toString size ++ " > " ++ toString limit
  | .controlTooLong =>
    "WebSocket protocol error: Control frame too big (payload must be 125 bytes or less)"
  | .reset => "WebSocket protocol error: Connection reset without closing handshake"

/-- The longest frame that is taken in, whatever the limit for messages. -/
def maxFrameSize : Nat := 16 * 1024 * 1024

/-- The longest content of a control frame. -/
def maxControlSize : Nat := 125

/-- Puts a message together from its fragments; each must fit and keep the text well formed. -/
def assemble (limit : Nat) : ByteArray → List ByteArray → Except ReadFault String
  | done, [] =>
    match String.fromUTF8? done with
    | some text => .ok text
    | none => .error .notText
  | done, fragment :: rest =>
    let whole := done ++ fragment
    if maxFrameSize < fragment.size then .error (.tooLong fragment.size maxFrameSize)
    else if limit < whole.size then .error (.tooLong whole.size limit)
    else if Text.isTextPrefix whole.toList then assemble limit whole rest
    else .error .notText

/-- The message that a frame carries. -/
def ClientFrame.read (limit : Nat) : ClientFrame → Except ReadFault Incoming
  | .text fragments => (assemble limit .empty fragments).map .text
  | .binary content =>
    if maxFrameSize < content.size then .error (.tooLong content.size maxFrameSize)
    else if limit < content.size then .error (.tooLong content.size limit)
    else .ok .binary
  | .ping content =>
    if maxControlSize < content.size then .error .controlTooLong else .ok (.ping content)
  | .pong content => if maxControlSize < content.size then .error .controlTooLong else .ok .pong
  | .close none => .ok .close
  | .close (some (_, reason)) =>
    if maxControlSize < reason.size + 2 then .error .controlTooLong
    else if (String.fromUTF8? reason).isNone then .error .notText
    else .ok .close

end Switchboard.WebSocket
