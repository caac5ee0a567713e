import Switchboard.Complaint
import Switchboard.Text.Quoted

/-!
# Written settings

The tree that settings are written as, whatever the format. The formats differ in how strict they
are about arrays and how they write a choice; a dialect says so.
-/

namespace Switchboard.Config

/-- A written value. A number with a fraction comes as its text. -/
inductive Datum where
  | null
  | boolean (value : Bool)
  | integer (value : Int)
  | float (text : String)
  | string (text : String)
  | dateTime
  | sequence (items : List Datum)
  /-- A list of tables, each of which is written as a section of its own. -/
  | tables (items : List Datum)
  | table (entries : List (String × Datum))
deriving Repr

/-- What a decoder finds in a value. -/
def Datum.found : Datum → Found
  | .null => .null
  | .boolean value => .boolean value
  | .integer value => .integer value
  | .float text => .float text
  | .string text => .string (Text.quoted text)
  | .dateTime => .map
  | .sequence _ => .sequence
  | .tables _ => .sequence
  | .table _ => .map

/-- How a format treats what the others do not share. -/
structure Dialect where
  /-- An array for a section may not have more items than the section has settings. -/
  refusesExtraItems : Bool
  /-- The name that a value chooses, given the names there are. -/
  choose : List String → Datum → Except Complaint String

/-- The name, if it is among those known. -/
def knownName (known : List String) (name : String) : Except Complaint String :=
  if known.contains name then .ok name else .error (.unknownVariant name known)

end Switchboard.Config
