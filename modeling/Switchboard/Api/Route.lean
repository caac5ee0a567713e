import Switchboard.Http.Message

/-!
# Routes

What each path is for, and the methods that it answers to.
-/

namespace Switchboard.Api

/-- What a request can be about. The user is as written in the path. -/
inductive Route where
  /-- Publish an event to a list of users. -/
  | events
  /-- Send an event to one user. -/
  | userEvents (user : String)
  /-- Who is reachable. -/
  | presence
  /-- Whether one user is reachable. -/
  | userPresence (user : String)
  | liveness
  | health
  /-- Open a WebSocket. -/
  | socket
deriving DecidableEq, Repr

/-- The parts of a path, which slashes separate. -/
def segments (path : String) : List String := (path.toList.splitOn '/').map String.ofList

/-- The route of a path. A user may be left empty between two slashes, but not at the end. -/
def Route.ofPath? (path : String) : Option Route :=
  match segments path with
  | ["", "api", "v1", "events"] => some .events
  | ["", "api", "v1", "users", user, "events"] => some (.userEvents user)
  | ["", "api", "v1", "presence"] => some .presence
  | ["", "api", "v1", "presence", user] => if user.isEmpty then none else some (.userPresence user)
  | ["", "health", "live"] => some .liveness
  | ["", "health"] => some .health
  | ["", "ws"] => some .socket
  | _ => none

/-- Whether a route takes something in rather than giving something out. -/
def Route.isSubmission : Route → Bool
  | .events | .userEvents _ => true
  | _ => false

/-- The methods that a route answers to, as its header lists them. -/
def Route.allow (route : Route) : String := if route.isSubmission then "POST" else "GET,HEAD"

/-- Whether a route answers to a method. -/
def Route.answers (route : Route) (method : String) : Bool :=
  if route.isSubmission then method == "POST" else method == "GET" || method == "HEAD"

end Switchboard.Api
