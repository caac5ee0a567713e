import Switchboard.Http.Query
import Switchboard.Http.Message

/-!
# The opening handshake

What a request to open a WebSocket has to bring along, in the order in which it is looked for.
-/

namespace Switchboard.WebSocket

open Http

/-- Why a request does not open a WebSocket. -/
inductive HandshakeFault where
  | methodNotGet
  | noConnectionUpgrade
  | noWebSocketUpgrade
  | wrongVersion
  | noKey
  /-- The connection cannot be taken over. -/
  | notUpgradable
  | badQuery (fault : QueryFault)
deriving DecidableEq, Repr

/-- The response to a request that does not open a WebSocket. -/
def HandshakeFault.response : HandshakeFault → Response
  | .methodNotGet => .text 405 "Request method must be `GET`"
  | .noConnectionUpgrade => .text 400 "Connection header did not include 'upgrade'"
  | .noWebSocketUpgrade => .text 400 "`Upgrade` header did not include 'websocket'"
  | .wrongVersion => .text 400 "`Sec-WebSocket-Version` header did not include '13'"
  | .noKey => .text 400 "`Sec-WebSocket-Key` header missing"
  | .notUpgradable =>
    .text 426 "WebSocket request couldn't be upgraded since no upgrade state was present"
  | .badQuery fault => .text 400 ("Failed to deserialize query string: " ++ fault.message)

/-- Whether a text occurs in another. -/
def occursIn (part : List Char) : List Char → Bool
  | [] => part.isEmpty
  | c :: rest => part.isPrefixOf (c :: rest) || occursIn part rest

/-- Whether a header holds a value, whatever the case of its letters. -/
def headerIs (headers : Headers) (name value : String) : Bool :=
  ((headers.get? name).map fun text => lowerAscii text == value).getD false

/-- The user who opens a WebSocket, if the request is as it should be; `upgradable` says whether the
connection can be taken over. -/
def openingUser (request : Request) (upgradable : Bool) : Except HandshakeFault Int64 :=
  if request.method != "GET" then .error .methodNotGet
  else if !(((request.headers.get? "connection").map fun text =>
      occursIn "upgrade".toList (lowerAscii text).toList).getD false) then
    .error .noConnectionUpgrade
  else if !headerIs request.headers "upgrade" "websocket" then .error .noWebSocketUpgrade
  else if !headerIs request.headers "sec-websocket-version" "13" then .error .wrongVersion
  else if (request.headers.get? "sec-websocket-key").isNone then .error .noKey
  else if !upgradable then .error .notUpgradable
  else (integerOfQuery "user_id" request.target.query).mapError .badQuery

end Switchboard.WebSocket
