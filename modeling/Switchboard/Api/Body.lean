import Switchboard.Http.MediaType
import Switchboard.Hub.Identity
import Switchboard.Json.Record

/-!
# Bodies of requests

The two bodies that producers send, and how they are read from JSON. What follows the value in a
body is not looked at.
-/

namespace Switchboard.Api

open Hub Http Json

/-- A payload for a list of users. -/
structure PublishBody where
  recipients : List UserId
  kind : Option String
  payload : Value

/-- A payload for the user whom the path names. -/
structure DirectBody where
  kind : Option String
  payload : Value

/-- The fields of a body that have been read. -/
structure BodyFields where
  recipients : Option (List UserId) := none
  kind : Option (Option String) := none
  payload : Option Value := none

/-- Reads the users of a list. -/
def readUsers (bound : Nat) (bytes : Bytes) : Outcome (List UserId) :=
  readArray bound (readInt64 bound) bytes

/-- Reads the payload, which is nested once already. -/
def readPayload (bound : Nat) (bytes : Bytes) : Outcome Value :=
  readValue bound (maxDepth - 1) bytes

/-- The use of a member that a body has whatever its form. -/
def sharedMember (bound : Nat) (fields : BodyFields) (name : String) : MemberUse BodyFields :=
  if name == "kind" then
    if fields.kind.isSome then .repeated
    else
      .read fun bytes =>
        mapOutcome (fun kind => { fields with kind := some kind }) (readOptionalText bound bytes)
  else if name == "payload" then
    if fields.payload.isSome then .repeated
    else
      .read fun bytes =>
        mapOutcome (fun payload => { fields with payload := some payload })
          (readPayload bound bytes)
  else .ignored

/-- The use of a member of a body that names its recipients. -/
def publishMember (bound : Nat) (fields : BodyFields) (name : String) : MemberUse BodyFields :=
  if name == "recipients" then
    if fields.recipients.isSome then .repeated
    else
      .read fun bytes =>
        mapOutcome (fun users => { fields with recipients := some users }) (readUsers bound bytes)
  else sharedMember bound fields name

/-- A field that has to be there. -/
def required {α : Type} (name : String) : Option α → Except Complaint α
  | some value => .ok value
  | none => .error (.missingField name)

/-- The body with the fields read. -/
def BodyFields.toPublish (fields : BodyFields) : Except Complaint PublishBody := do
  let recipients ← required "recipients" fields.recipients
  .ok ⟨recipients, fields.kind.join, ← required "payload" fields.payload⟩

/-- The body with the fields read. -/
def BodyFields.toDirect (fields : BodyFields) : Except Complaint DirectBody := do
  .ok ⟨fields.kind.join, ← required "payload" fields.payload⟩

/-- An item of a body given as an array that has to be there. -/
def requiredItem {α : Type} (index : Nat) (expected : String) : Option α → Except Complaint α
  | some value => .ok value
  | none => .error (.wrongLength index expected)

/-- Reads a body that names its recipients. -/
def PublishBody.read (bound : Nat) (bytes : Bytes) : Outcome PublishBody :=
  readRecord bound "struct PublishRequest"
    (fun rest => do
      let expected := "struct PublishRequest with 3 elements"
      let (recipients, rest) ← readNextItem 0 (readUsers bound) rest
      match recipients with
      | none => .ok (.error (.wrongLength 0 expected), rest)
      | some recipients =>
        let (kind, rest) ← readNextItem 1 (readOptionalText bound) rest
        let (payload, rest) ← readNextItem 2 (readPayload bound) rest
        .ok ((requiredItem 2 expected payload).map fun payload =>
          ⟨recipients, kind.join, payload⟩, rest))
    (fun rest => do
      let (fields, rest) ← collectMembers bound (publishMember bound) bound true {} rest
      .ok (fields.bind BodyFields.toPublish, rest))
    bytes

/-- Reads a body for one user. -/
def DirectBody.read (bound : Nat) (bytes : Bytes) : Outcome DirectBody :=
  readRecord bound "struct DirectRequest"
    (fun rest => do
      let (kind, rest) ← readNextItem 0 (readOptionalText bound) rest
      let (payload, rest) ← readNextItem 1 (readPayload bound) rest
      .ok ((requiredItem 1 "struct DirectRequest with 2 elements" payload).map fun payload =>
        ⟨kind.join, payload⟩, rest))
    (fun rest => do
      let (fields, rest) ← collectMembers bound (sharedMember bound) bound true {} rest
      .ok (fields.bind BodyFields.toDirect, rest))
    bytes

/-- Why a body is turned away. -/
inductive BodyFault where
  /-- It does not say that it is JSON. -/
  | notJson
  | tooLong
  | unreadable (error : Json.Error)
deriving Repr

/-- The longest body, in bytes. -/
def maxBodySize : Nat := 2 * 1024 * 1024

/-- The response to a body that is turned away. -/
def BodyFault.response : BodyFault → Response
  | .notJson => .text 415 "Expected request with `Content-Type: application/json`"
  | .tooLong => .text 413 "Failed to buffer the request body: length limit exceeded"
  | .unreadable error =>
    if error.fault.isComplaint then
      .text 422
        ("Failed to deserialize the JSON body into the target type: " ++ error.messageWithPath)
    else .text 400 ("Failed to parse the request body as JSON: " ++ error.messageWithPath)

/-- Reads the body of a request with a reader. -/
def readBody {α : Type} (reader : Nat → Bytes → Outcome α) (request : Request) :
    Except BodyFault α :=
  if !((request.headers.get? "content-type").map isJsonType).getD false then .error .notJson
  else if maxBodySize < request.body.size then .error .tooLong
  else
    let text := request.body.toList
    match reader (boundOf text) text with
    | .ok (value, _) => .ok value
    | .error failure => .error (.unreadable (failure.toError text))

end Switchboard.Api
