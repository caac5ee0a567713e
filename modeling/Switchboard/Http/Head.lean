import Switchboard.Decimal.Integer
import Switchboard.Http.Message
import Switchboard.Text.Blank

/-!
# Request heads

The lines of a request before its body, as they arrive: a method, a target and headers. A head that
is not well formed is refused before anybody looks at what the request is about.
-/

namespace Switchboard.Http

/-- A request's head. -/
structure Head where
  method : String
  target : String
  headers : Headers := []

/-- The response to a target that cannot be read. -/
def TargetFault.response : TargetFault → Response
  | .malformed => .empty 400
  | .tooLong => .empty 414

namespace Head

/-- Whether a text is a name: not empty, of letters, digits and a few signs. -/
def isToken (text : String) : Bool :=
  !text.isEmpty && text.toList.all fun c =>
    c.isAlphanum || "!#$%&\x27*+-.^_`|~".toList.contains c

/-- Whether a character is neither a blank nor a control. -/
def isVisible (c : Char) : Bool := 0x20 < c.toNat && c.toNat != 0x7f

/-- Whether a character may stand in the value of a header. -/
def isValueChar (c : Char) : Bool := isVisible c || c == ' ' || c == '\t'

/-- Whether a header is well formed. -/
def isHeader (header : String × String) : Bool :=
  isToken header.1 && header.2.toList.all isValueChar

/-- Whether a length announced for the body is a number of 64 bits. -/
def hasLength (headers : Headers) : Bool :=
  match headers.get? "content-length" with
  | none => true
  | some text =>
    text.toList.all Char.isDigit && (Decimal.readNatural (UInt64.size - 1) text).isOk

/-- Whether an encoding announced for the body comes in chunks in the end. -/
def hasEncoding (headers : Headers) : Bool :=
  match headers.get? "transfer-encoding" with
  | none => true
  | some text =>
    Text.trim (((lowerAscii text).splitOn ",").getLastD "").toList == "chunked".toList

/-- The request that a head opens, without its body, or the response that refuses the head. -/
def request (head : Head) : Except Response Request :=
  if !isToken head.method || !head.target.toList.all isVisible || !head.headers.all isHeader then
    .error (.empty 400)
  else
    match Target.read head.target with
    | .error fault => .error fault.response
    | .ok target =>
      if hasLength head.headers && hasEncoding head.headers then
        .ok { method := head.method, target, headers := head.headers }
      else .error (.empty 400)

end Head

end Switchboard.Http
