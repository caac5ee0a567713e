import Switchboard.Complaint
import Switchboard.Decimal.Shortest
import Switchboard.Text.Quoted

/-!
# JSON values and their compact text

A JSON value keeps the members of an object as they were written, in order and with repetitions.
Its compact text is canonical: no blanks, members ordered by name, and of members that share a name
only the last.
-/

namespace Switchboard.Json

open Decimal

/-- A JSON value. Integers lie between `-2^63` and `2^64`; all other numbers are binary64. -/
inductive Value where
  | null
  | bool (value : Bool)
  | integer (value : Int)
  | float (value : Binary64)
  | string (text : String)
  | array (items : List Value)
  | object (members : List (String × Value))
deriving Repr

/-- What a decoder finds in a value. -/
def Value.found : Value → Found
  | .null => .null
  | .bool value => .boolean value
  | .integer value => .integer value
  | .float value => .float value.compactText
  | .string text => .string (Text.quoted text)
  | .array _ => .sequence
  | .object _ => .map

/-- Keeps the last of neighbours that share a name. -/
def lastOfEach {α : Type} (members : List (String × α)) : List (String × α) :=
  members.foldr (fun member kept =>
    match kept with
    | [] => [member]
    | next :: rest => if member.1 == next.1 then next :: rest else member :: next :: rest) []

/-- Members in ascending order of their names, each name once and with the value given last. Strings
are ordered by code point, which is the order of their UTF-8 bytes. -/
def canonicalMembers {α : Type} (members : List (String × α)) : List (String × α) :=
  lastOfEach (members.mergeSort fun a b => a.1 ≤ b.1)

/-- The value of the first member of a name. -/
def lookup? {α : Type} (name : String) (members : List (String × α)) : Option α :=
  (members.find? fun member => member.1 == name).map (·.2)

/-- A hexadecimal digit. -/
def hexDigit (n : Nat) : Char := (Nat.toDigits 16 n).headD '0'

/-- One character of a string's text. Quote, backslash and controls are escaped, the common controls
by a letter and the others by their code point. -/
def escapeChar (c : Char) : List Char :=
  match c with
  | '"' => ['\\', '"']
  | '\\' => ['\\', '\\']
  | '\x08' => ['\\', 'b']
  | '\x0c' => ['\\', 'f']
  | '\n' => ['\\', 'n']
  | '\r' => ['\\', 'r']
  | '\t' => ['\\', 't']
  | c =>
    if c.toNat < 0x20 then
      ['\\', 'u', '0', '0', hexDigit (c.toNat / 16), hexDigit (c.toNat % 16)]
    else [c]

/-- Writes a string between quotes. -/
def writeString (out text : String) : String :=
  (text.toList.foldl (fun out c => (escapeChar c).foldl String.push out) (out.push '"')).push '"'

mutual

/-- Writes the compact text of a value whose objects are canonical. -/
def Value.write (out : String) : Value → String
  | .null => out ++ "null"
  | .bool true => out ++ "true"
  | .bool false => out ++ "false"
  | .integer value => out ++ toString value
  | .float value => out ++ value.compactText
  | .string text => writeString out text
  | .array items => (writeItems (out.push '[') true items).push ']'
  | .object members => (writeMembers (out.push '{') true members).push '}'

/-- Writes the items of an array, a comma before each but the first. -/
def writeItems (out : String) (first : Bool) : List Value → String
  | [] => out
  | item :: rest =>
    writeItems (Value.write (if first then out else out.push ',') item) false rest

/-- Writes the members of an object, a comma before each but the first. -/
def writeMembers (out : String) (first : Bool) : List (String × Value) → String
  | [] => out
  | (name, value) :: rest =>
    let named := (writeString (if first then out else out.push ',') name).push ':'
    writeMembers (Value.write named value) false rest

end

mutual

/-- The value with the members of every object in canonical order. -/
def Value.canonical : Value → Value
  | .array items => .array (canonicalItems items [])
  | .object members => .object (canonicalMembers (canonicalValues members []))
  | other => other

/-- The canonical forms of items, in order after those of `done`, which is reversed. -/
def canonicalItems : List Value → List Value → List Value
  | [], done => done.reverse
  | item :: rest, done => canonicalItems rest (item.canonical :: done)

/-- The members with canonical values, in order after those of `done`, which is reversed. -/
def canonicalValues : List (String × Value) → List (String × Value) → List (String × Value)
  | [], done => done.reverse
  | (name, value) :: rest, done => canonicalValues rest ((name, value.canonical) :: done)

end

/-- The compact text of a value with its members in the order they have. -/
def Value.renderInOrder (value : Value) : String := value.write ""

/-- The canonical compact text of a value. -/
def Value.render (value : Value) : String := value.canonical.renderInOrder

end Switchboard.Json
