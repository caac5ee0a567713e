import Switchboard.Decimal.Shortest

/-!
# TOML values

The entries of a table keep the order in which they were written. A table remembers how it came into
being, since that decides what a document may still add to it: `Table.assign?` adds a value by a
dotted key, and `Table.open?` and `Table.openItem?` are what headers do.
-/

namespace Switchboard.Toml

open Decimal

/-- A number that is no integer. -/
inductive Real where
  | finite (value : Binary64)
  | infinite (negative : Bool)
  | notANumber
deriving DecidableEq, Repr

/-- The text of a number, never with an exponent. -/
def Real.plainText : Real → String
  | .finite value => value.plainText
  | .infinite negative => if negative then "-inf" else "inf"
  | .notANumber => "NaN"

/-- How a table came into being. -/
inductive Origin where
  /-- By its own header, or as the item that a header opened. -/
  | headed
  /-- By the header of a table inside it. Its own header may still come. -/
  | implied
  /-- By a dotted key. -/
  | dotted
deriving DecidableEq, Repr

/-- A value. An inline table and an array are complete as they are written; a table and a list of
tables are what headers and dotted keys make. -/
inductive Value where
  | boolean (value : Bool)
  | integer (value : Int)
  | real (value : Real)
  | string (text : String)
  | dateTime
  | array (items : List Value)
  | inlineTable (entries : List (String × Value))
  | table (origin : Origin) (entries : List (String × Value))
  | tables (items : List (List (String × Value)))
deriving Repr

/-- The entries of a table, in the order of writing. -/
abbrev Table := List (String × Value)

namespace Table

/-- The value of a name. -/
def get? (name : String) (table : Table) : Option Value :=
  (table.find? fun entry => entry.1 == name).map (·.2)

/-- The table without a name. -/
def erase (name : String) (table : Table) : Table := table.filter fun entry => entry.1 != name

/-- Changes the value of a name where it stands; a new one goes to the end. -/
def alter (name : String) (change : Option Value → Option Value) : Table → Option Table
  | [] => (change none).map fun value => [(name, value)]
  | entry :: rest =>
    if entry.1 == name then (change (some entry.2)).map fun value => (name, value) :: rest
    else (alter name change rest).map (entry :: ·)

/-- Changes the last of a list of tables. -/
def changeLast (change : Table → Option Table) : List Table → Option (List Table)
  | [] => none
  | [last] => (change last).map fun changed => [changed]
  | item :: rest => (changeLast change rest).map (item :: ·)

/-- Adds a value by a dotted key: the tables on the way to it, then its name in the last of them.
Such a key may neither add to a table that has a header nor to one that a header implies, though it
may pass through the latter. -/
def assign? (name : String) (value : Value) : List String → Table → Option Table
  | [], table => if (table.get? name).isSome then none else some (table ++ [(name, value)])
  | step :: path, table =>
    table.alter step fun
      | none => (assign? name value path []).map (.table .dotted)
      | some (.table origin inner) =>
        if origin = .headed || (path.isEmpty && origin = .implied) then none
        else (assign? name value path inner).map (.table origin)
      | some (.tables items) =>
        if path.isEmpty then none
        else (changeLast (assign? name value path) items).map .tables
      | some _ => none

/-- Changes the table at the end of a header's path. Of a list of tables it is the last one that the
path passes through; a table that is missing is implied. -/
def within? (change : Table → Option Table) : List String → Table → Option Table
  | [], table => change table
  | step :: path, table =>
    table.alter step fun
      | none => (within? change path []).map (.table .implied)
      | some (.table origin inner) => (within? change path inner).map (.table origin)
      | some (.tables items) => (changeLast (within? change path) items).map .tables
      | some _ => none

/-- Opens a table by its header. It may have been implied before, and then moves to the end. -/
def open? (name : String) (table : Table) : Option Table :=
  match table.get? name with
  | none => some (table ++ [(name, .table .headed [])])
  | some (.table .implied inner) => some (table.erase name ++ [(name, .table .headed inner)])
  | some _ => none

/-- Opens a further item of a list of tables. -/
def openItem? (name : String) (table : Table) : Option Table :=
  table.alter name fun
    | none => some (.tables [[]])
    | some (.tables items) => some (.tables (items ++ [[]]))
    | some _ => none

end Table

end Switchboard.Toml
