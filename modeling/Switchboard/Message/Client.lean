import Switchboard.Json.Record
import Switchboard.Message.Server

/-!
# Messages from clients

What a client may send, how it is read from JSON, and what becomes of it. A message is an object
whose member `type` tells the kind; since that member may stand anywhere, the others are first kept
as values and decoded once the kind is known. An array with the kind in front will do as well.
-/

namespace Switchboard.Message

open Hub Json

/-- A message from a client. -/
inductive ClientMessage where
  | typing (conversation : Int64) (recipients : List UserId) (isTyping : Bool)
  | read (conversation message : Int64) (recipients : List UserId)
  | delivered (conversation message : Int64) (recipients : List UserId)
  | ping
deriving DecidableEq, Repr

/-- The kinds of messages. -/
inductive ClientKind where
  | typing
  | read
  | delivered
  | ping
deriving DecidableEq, Repr

/-- The kinds by name. -/
def ClientKind.known : List (String × ClientKind) :=
  [("typing", .typing), ("read", .read), ("delivered", .delivered), ("ping", .ping)]

/-- What remains of a message once its kind is known. -/
inductive Content where
  | items (values : List Value)
  | members (values : List (String × Value))

/-! ## The kind and the rest -/

/-- The name of the member that tells the kind. -/
def kindMember : String := "type"

/-- Reads the members of a message: its kind, and the other members in order; `others` holds those
read so far, the last first. -/
def readTagged (bound : Nat) : Nat → Bool → Option ClientKind → List (String × Value) → Bytes →
    Except Failure (Except Complaint (ClientKind × Content) × Bytes)
  | 0, _, _, _, rest => failAt .endInObject rest
  | rounds + 1, first, kind, others, bytes => do
    let (name?, rest) ← readName (readString bound) first bytes
    match name? with
    | some name =>
      if name == kindMember then
        if kind.isSome then .ok (.error (.duplicateField kindMember), rest)
        else
          let rest ← expectColon rest
          let (kind, rest) ← readVariant bound "variant identifier" ClientKind.known rest
          readTagged bound rounds false (some kind) others rest
      else
        let rest ← expectColon rest
        let (value, rest) ← within (.member name) (readValue bound (maxDepth - 1) rest)
        readTagged bound rounds false kind ((name, value) :: others) rest
    | none =>
      match kind with
      | some kind => .ok (.ok (kind, .members others.reverse), rest)
      | none => .ok (.error (.missingField kindMember), rest)

/-- Reads the items of a message given as an array: its kind, and the other items in order. -/
def readListed (bound : Nat) (bytes : Bytes) :
    Except Failure (Except Complaint (ClientKind × Content) × Bytes) := do
  let (kind, rest) ← readNextItem 0 (readVariant bound "variant identifier" ClientKind.known) bytes
  match kind with
  | none => .ok (.error (.missingField kindMember), rest)
  | some kind =>
    let (items, rest) ← readRemaining bound bound [] rest
    .ok (.ok (kind, .items items), rest)
where
  /-- Reads the items up to the closing bracket, which is left. -/
  readRemaining (bound : Nat) : Nat → List Value → Bytes → Except Failure (List Value × Bytes)
    | 0, _, rest => failAt .endInList rest
    | rounds + 1, done, bytes => do
      let (more, rest) ← nextItem false bytes
      if more then
        let (value, rest) ← readValue bound (maxDepth - 1) rest
        readRemaining bound rounds (value :: done) rest
      else .ok (done.reverse, rest)

/-- Reads the kind of a message and what else it has. -/
def readKind (bound : Nat) (bytes : Bytes) : Outcome (ClientKind × Content) :=
  readRecord bound "internally tagged enum ClientMessage" (readListed bound)
    (readTagged bound bound true none []) bytes

/-! ## The fields of a kind -/

/-- A signed integer for each item of a list. -/
def usersOf : Value → Except Complaint (List UserId)
  | .array items => items.mapM Value.toInt64
  | other => .error (.wrongType other.found "a sequence")

/-- A truth value. -/
def boolOf : Value → Except Complaint Bool
  | .bool value => .ok value
  | other => .error (.wrongType other.found "a boolean")

/-- The fields of a message that have been met. -/
structure Fields where
  conversation : Option Int64 := none
  message : Option Int64 := none
  recipients : Option (List UserId) := none
  isTyping : Option Bool := none

/-- What a field holds. -/
inductive FieldName where
  | conversation
  | message
  | recipients
  | isTyping
deriving DecidableEq, Repr

/-- The member that holds a field. -/
def FieldName.name : FieldName → String
  | .conversation => "conversation_id"
  | .message => "message_id"
  | .recipients => "recipients"
  | .isTyping => "is_typing"

/-- The fields of a kind, in the order of the array form. -/
def ClientKind.fields : ClientKind → List FieldName
  | .typing => [.conversation, .recipients, .isTyping]
  | .read | .delivered => [.conversation, .message, .recipients]
  | .ping => []

/-- Whether a field has been met. -/
def Fields.has (fields : Fields) : FieldName → Bool
  | .conversation => fields.conversation.isSome
  | .message => fields.message.isSome
  | .recipients => fields.recipients.isSome
  | .isTyping => fields.isTyping.isSome

/-- Sets a field from a value. -/
def Fields.set (fields : Fields) (value : Value) : FieldName → Except Complaint Fields
  | .conversation => do .ok { fields with conversation := some (← value.toInt64) }
  | .message => do .ok { fields with message := some (← value.toInt64) }
  | .recipients => do .ok { fields with recipients := some (← usersOf value) }
  | .isTyping => do .ok { fields with isTyping := some (← boolOf value) }

/-- Sets the fields among `known` from members. Other members do not matter. -/
def Fields.ofMembers (known : List FieldName) :
    Fields → List (String × Value) → Except Complaint Fields
  | fields, [] => .ok fields
  | fields, (name, value) :: rest =>
    match known.find? fun field => field.name == name with
    | none => ofMembers known fields rest
    | some field =>
      if fields.has field then .error (.duplicateField name)
      else do ofMembers known (← fields.set value field) rest

/-- Sets the fields of a kind from items. All but the truth value, which is true by default, have to
be there. -/
def Fields.ofItems (expected : String) :
    List FieldName → Nat → Fields → List Value → Except Complaint (Fields × Nat × List Value)
  | [], count, fields, items => .ok (fields, count, items)
  | .isTyping :: known, count, fields, [] => ofItems expected known count fields []
  | _ :: _, count, _, [] => .error (.wrongLength count expected)
  | field :: known, count, fields, value :: rest => do
    ofItems expected known (count + 1) (← fields.set value field) rest

/-- The value of a field that has to be there. -/
def required {α : Type} (field : FieldName) : Option α → Except Complaint α
  | some value => .ok value
  | none => .error (.missingField field.name)

/-- The message of a kind with the fields met. -/
def ClientMessage.ofFields (kind : ClientKind) (fields : Fields) :
    Except Complaint ClientMessage :=
  match kind with
  | .typing => do
    let conversation ← required .conversation fields.conversation
    let recipients ← required .recipients fields.recipients
    .ok (.typing conversation recipients (fields.isTyping.getD true))
  | .read => do
    let conversation ← required .conversation fields.conversation
    let message ← required .message fields.message
    .ok (.read conversation message (← required .recipients fields.recipients))
  | .delivered => do
    let conversation ← required .conversation fields.conversation
    let message ← required .message fields.message
    .ok (.delivered conversation message (← required .recipients fields.recipients))
  | .ping => .ok .ping

/-- What a kind is called where its items are too few. -/
def ClientKind.expectation : ClientKind → String
  | .typing => "struct variant ClientMessage::Typing with 3 elements"
  | .read => "struct variant ClientMessage::Read with 3 elements"
  | .delivered => "struct variant ClientMessage::Delivered with 3 elements"
  | .ping => "unit variant ClientMessage::Ping"

/-- A number of items in words. -/
def describeItems (count : Nat) : String :=
  if count == 1 then "1 element in sequence" else toString count ++ " elements in sequence"

/-- Decodes a message whose kind is known. -/
def ClientMessage.ofContent (kind : ClientKind) : Content → Except Complaint ClientMessage
  | .members values => do ofFields kind (← Fields.ofMembers kind.fields {} values)
  | .items values => do
    let (fields, count, extra) ← Fields.ofItems kind.expectation kind.fields 0 {} values
    let message ← ofFields kind fields
    if extra.isEmpty then .ok message
    else .error (.wrongLength (count + extra.length) (describeItems count))

/-- Reads a message from a JSON text. Complaints about the fields of a known kind have no position,
and they win over what follows the message in the text. -/
def ClientMessage.parse (text : Bytes) : Except Error ClientMessage :=
  match readKind (boundOf text) text with
  | .error failure => .error (failure.toError text)
  | .ok ((kind, content), rest) =>
    match ofContent kind content with
    | .error complaint => .error (.ofComplaint complaint)
    | .ok message =>
      match expectEnd rest with
      | .error failure => .error (failure.toError text)
      | .ok () => .ok message

/-! ## What becomes of a message -/

/-- An event for other users. -/
structure Relay where
  recipients : List UserId
  event : ServerEvent
deriving DecidableEq, Repr

/-- The event that a message means for the users it names; none for a message that is answered to
its sender. -/
def ClientMessage.toRelay? (message : ClientMessage) (sender : UserId) (now : Int64) :
    Option Relay :=
  match message with
  | .typing conversation recipients isTyping =>
    some ⟨recipients, .typing conversation sender isTyping now⟩
  | .read conversation id recipients =>
    some ⟨recipients, .receipt conversation id sender .read now⟩
  | .delivered conversation id recipients =>
    some ⟨recipients, .receipt conversation id sender .delivered now⟩
  | .ping => none

end Switchboard.Message
