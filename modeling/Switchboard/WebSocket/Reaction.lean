import Switchboard.Hub.Facade
import Switchboard.Message.Client
import Switchboard.WebSocket.Frame

/-!
# What a client's message brings about

A message is relayed to the users it names, or answered to the user who sent it, or it does nothing,
or it ends the connection. Whatever it says, it is the sender's identity that others see.
-/

namespace Switchboard.WebSocket

open Hub Message

/-- What a message brings about. -/
inductive Reaction where
  /-- An event for other users. -/
  | relay (relay : Relay)
  /-- An event for the user who sent the message. -/
  | reply (event : ServerEvent)
  | nothing
  | stop
deriving DecidableEq, Repr

/-- What a text from a user brings about. -/
def reactToText (maxRecipients : Nat) (user : UserId) (now : Int64) (text : String) :
    Reaction × List Entry :=
  match ClientMessage.parse text.toUTF8.toList with
  | .error error =>
    (.reply (.error ("Invalid message format: " ++ error.message)),
      [⟨.debug, "Invalid client message", [Entry.user user, ("error", .text error.message)]⟩])
  | .ok message =>
    match message.toRelay? user now with
    | none => (.reply (.pong now), [])
    | some relay =>
      if maxRecipients < relay.recipients.length then
        (.reply (.error ("Too many recipients: " ++ toString relay.recipients.length ++
          " (max " ++ toString maxRecipients ++ ")")), [])
      else (.relay relay, [])

/-- What a message from a user brings about. -/
def react (maxRecipients : Nat) (user : UserId) (now : Int64) :
    Incoming → Reaction × List Entry
  | .text text => reactToText maxRecipients user now text
  | .binary => (.reply (.error "Binary messages not supported"), [])
  | .ping _ | .pong => (.nothing, [])
  | .close => (.stop, [⟨.debug, "Client requested close", [Entry.user user]⟩])

/-- Submits what a reaction asks for. A failure goes to the journal only. -/
def Reaction.submit (reaction : Reaction) (user : UserId) (hub : Hub) : Hub :=
  match reaction with
  | .relay relayed =>
    match hub.deliverJson relayed.recipients relayed.event.kind (.ok relayed.event.render) with
    | (after, .ok ()) => after
    | (after, .error error) =>
      after.write [⟨.error, "Failed to relay client event",
        [Entry.user user, ("kind", .text relayed.event.kind), ("error", .text error.message)]⟩]
  | .reply event =>
    match hub.sendJson user event.kind (.ok event.render) with
    | (after, .ok ()) => after
    | (after, .error error) =>
      after.write [⟨.error, "Failed to queue reply",
        [Entry.user user, ("error", .text error.message)]⟩]
  | .nothing | .stop => hub

end Switchboard.WebSocket
