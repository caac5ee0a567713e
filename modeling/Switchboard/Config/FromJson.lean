import Switchboard.Config.Decode
import Switchboard.Json.Value

/-!
# Settings in JSON

JSON is strict about arrays: one for a section may not be longer than the section.
-/

namespace Switchboard.Config

/-- A choice in JSON: a name, or an object with one name and null. -/
def chooseInJson (known : List String) : Datum → Except Complaint String
  | .string name => knownName known name
  | .table [(name, value)] => do
    let name ← knownName known name
    match value with
    | .null => .ok name
    | other => .error (.wrongType other.found "unit")
  | .table _ => .error (.wrongValue .map "map with a single key")
  | other => .error (.wrongType other.found "string or map")

/-- The dialect of JSON. -/
def jsonDialect : Dialect := ⟨true, chooseInJson⟩

mutual

/-- A JSON value as written settings, the members of its objects in canonical order. -/
def Datum.ofJson : Json.Value → Datum
  | .null => .null
  | .bool value => .boolean value
  | .integer value => .integer value
  | .float value => .float value.compactText
  | .string text => .string text
  | .array items => .sequence (datumItems items)
  | .object members => .table (Json.canonicalMembers (datumMembers members))

/-- The items of a JSON array. -/
def datumItems : List Json.Value → List Datum
  | [] => []
  | item :: rest => Datum.ofJson item :: datumItems rest

/-- The members of a JSON object. -/
def datumMembers : List (String × Json.Value) → List (String × Datum)
  | [] => []
  | (name, value) :: rest => (name, Datum.ofJson value) :: datumMembers rest

end

/-- All settings from a JSON value. -/
def ofJson (value : Json.Value) : Except Complaint Config := decode jsonDialect (.ofJson value)

end Switchboard.Config
