import Switchboard.Hub.Facade
import Switchboard.Http.Message

/-!
# Errors of the interface

Why a request to the interface fails, as its response and as a line in the journal.
-/

namespace Switchboard.Api

open Hub Http

/-- Why a request fails. -/
inductive ApiError where
  /-- The request itself is no good. -/
  | validation (reason : String)
  /-- The hub does not take it. -/
  | hub (cause : HubError)
  | internal (reason : String)
  | io (cause : String)
deriving DecidableEq, Repr

/-- The wording of an error. -/
def ApiError.message : ApiError → String
  | .validation reason => "Validation error: " ++ reason
  | .hub cause => "Hub error: " ++ cause.message
  | .internal reason => "Internal error: " ++ reason
  | .io cause => "IO error: " ++ cause

/-- The status of the response to an error. -/
def ApiError.status : ApiError → Nat
  | .validation _ => 400
  | .hub (.dispatcherStopped _) => 503
  | .hub (.serialization _) => 500
  | .internal _ => 500
  | .io _ => 500

/-- The word for the kind of an error. -/
def ApiError.code : ApiError → String
  | .validation _ => "VALIDATION_ERROR"
  | .hub (.dispatcherStopped _) => "HUB_UNAVAILABLE"
  | .hub (.serialization _) => "SERIALIZATION_ERROR"
  | .internal _ => "INTERNAL_ERROR"
  | .io _ => "IO_ERROR"

/-- The response to an error; `requestId` ties it to the journal. -/
def ApiError.response (error : ApiError) (requestId : String) : Response :=
  .json error.status <| Json.Value.renderInOrder <| .object
    [("error", .object [("code", .string error.code), ("message", .string error.message)]),
      ("request_id", .string requestId)]

/-- The line in the journal about an error. -/
def ApiError.entry (error : ApiError) (requestId : String) : Entry :=
  ⟨.error, "API error occurred",
    [("request_id", .text requestId), ("error_code", .text error.code),
      ("error_message", .text error.message)]⟩

end Switchboard.Api
