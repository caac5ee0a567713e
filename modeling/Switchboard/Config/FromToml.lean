import Switchboard.Config.Decode
import Switchboard.Toml.Document

/-!
# Settings in TOML

TOML is lenient about arrays: what follows the last setting of a section does not matter. A choice
may be written as a table with the one name in it.
-/

namespace Switchboard.Config

/-- What there is instead of a table. -/
def Datum.kind : Datum → String
  | .null => "null"
  | .boolean _ => "boolean"
  | .integer _ => "integer"
  | .float _ => "float"
  | .string _ => "string"
  | .dateTime => "datetime"
  | .sequence _ => "array"
  | .tables _ => "array of tables"
  | .table _ => "table"

/-- What stands beside a chosen name: an empty table, or an empty array. -/
def requireEmpty : Datum → Except Complaint Unit
  | .table [] => .ok ()
  | .sequence [] => .ok ()
  | .tables [] => .ok ()
  | .table _ => .error (.other "expected empty table")
  | .sequence _ => .error (.other "expected empty table")
  | .tables _ => .error (.other "expected empty array")
  | other => .error (.other ("expected table, found " ++ other.kind))

/-- A choice in TOML: a name, or a table with one name and nothing beside it. -/
def chooseInToml (known : List String) : Datum → Except Complaint String
  | .string name => knownName known name
  | .table [] => .error (.other "wanted exactly 1 element, found 0 elements")
  | .table [(name, value)] => do
    let name ← knownName known name
    requireEmpty value
    .ok name
  | .table _ => .error (.other "wanted exactly 1 element, more than 1 element")
  | _ => .error (.other "wanted string or table")

/-- The dialect of TOML. -/
def tomlDialect : Dialect := ⟨false, chooseInToml⟩

mutual

/-- A TOML value as written settings. -/
def Datum.ofToml : Toml.Value → Datum
  | .boolean value => .boolean value
  | .integer value => .integer value
  | .real value => .float value.plainText
  | .string text => .string text
  | .dateTime => .dateTime
  | .array items => .sequence (datumsOfToml items)
  | .inlineTable entries => .table (entriesOfToml entries)
  | .table _ entries => .table (entriesOfToml entries)
  | .tables items => .tables (tablesOfToml items)

/-- The items of a TOML array. -/
def datumsOfToml : List Toml.Value → List Datum
  | [] => []
  | item :: rest => Datum.ofToml item :: datumsOfToml rest

/-- The entries of a TOML table. -/
def entriesOfToml : List (String × Toml.Value) → List (String × Datum)
  | [] => []
  | (name, value) :: rest => (name, Datum.ofToml value) :: entriesOfToml rest

/-- The items of a TOML list of tables. -/
def tablesOfToml : List (List (String × Toml.Value)) → List Datum
  | [] => []
  | entries :: rest => .table (entriesOfToml entries) :: tablesOfToml rest

end

/-- Why a text holds no settings. -/
inductive TextFault where
  /-- It is not TOML at all. -/
  | malformed
  | unfit (complaint : Complaint)
deriving DecidableEq, Repr

/-- The wording of a text's fault. -/
def TextFault.message : TextFault → String
  | .malformed => "not a TOML document"
  | .unfit complaint => complaint.message

/-- All settings from a text. -/
def ofToml (text : String) : Except TextFault Config :=
  match Toml.parse? text with
  | none => .error .malformed
  | some table => (decode tomlDialect (.table (entriesOfToml table))).mapError .unfit

end Switchboard.Config
