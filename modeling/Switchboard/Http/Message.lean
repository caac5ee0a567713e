import Switchboard.Http.Target

/-!
# HTTP requests and responses

What the interface needs of HTTP: a method, a target, headers and a body one way, a status, headers
and a body the other.
-/

namespace Switchboard.Http

/-- Header names and values in order. -/
abbrev Headers := List (String × String)

/-- A text with its ASCII letters in lower case. -/
def lowerAscii (text : String) : String := String.ofList (text.toList.map Char.toLower)

/-- The value of the first header of a name, whatever the case of its letters. -/
def Headers.get? (headers : Headers) (name : String) : Option String :=
  (List.find? (fun header => lowerAscii header.1 == name) headers).map (·.2)

/-- A request. -/
structure Request where
  method : String
  target : Target
  headers : Headers := []
  body : ByteArray := .empty

/-- A response. -/
structure Response where
  status : Nat
  headers : Headers := []
  body : ByteArray := .empty

/-- A response without headers and body. -/
def Response.empty (status : Nat) : Response := { status }

/-- A response in plain text. -/
def Response.text (status : Nat) (text : String) : Response where
  status
  headers := [("content-type", "text/plain; charset=utf-8")]
  body := text.toUTF8

/-- A response in JSON. -/
def Response.json (status : Nat) (text : String) : Response where
  status
  headers := [("content-type", "application/json")]
  body := text.toUTF8

/-- The response with more headers. -/
def Response.withHeaders (response : Response) (headers : Headers) : Response :=
  { response with headers := response.headers ++ headers }

/-- The response to a request for the headers only. -/
def Response.withoutBody (response : Response) : Response := { response with body := .empty }

end Switchboard.Http
