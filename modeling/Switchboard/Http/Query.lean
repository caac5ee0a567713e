import Switchboard.Decimal.Integer
import Switchboard.Http.Percent

/-!
# The user in a query

A client says whose connection it opens in the query of its request.
-/

namespace Switchboard.Http

/-- Why a query names no user. -/
inductive QueryFault where
  | missing (name : String)
  | repeated (name : String)
  | noInteger (fault : Decimal.IntegerFault)
deriving DecidableEq, Repr

/-- The wording of a query's fault. -/
def QueryFault.message : QueryFault → String
  | .missing name => "missing field `" ++ name ++ "`"
  | .repeated name => "duplicate field `" ++ name ++ "`"
  | .noInteger fault => fault.message

/-- Reads the integer that a name has in a list of pairs. The first fault from the left wins. -/
def integerOfPairs (name : String) : Option Int64 → List (String × String) →
    Except QueryFault Int64
  | none, [] => .error (.missing name)
  | some value, [] => .ok value
  | found, (key, text) :: rest =>
    if key != name then integerOfPairs name found rest
    else if found.isSome then .error (.repeated name)
    else
      match Decimal.readInt64 text with
      | .ok value => integerOfPairs name (some value) rest
      | .error fault => .error (.noInteger fault)

/-- The integer that a name has in a query. -/
def integerOfQuery (name query : String) : Except QueryFault Int64 :=
  integerOfPairs name none (decodeForm query)

end Switchboard.Http
