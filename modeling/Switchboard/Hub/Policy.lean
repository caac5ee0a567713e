import Switchboard.Json.Record
import Switchboard.Text.Blank
import Switchboard.Text.Lowercase

/-!
# Policies

The two choices that a hub leaves open: what happens to a recipient whose outbox is full, and who
stays when a user connects twice.
-/

namespace Switchboard.Hub

/-- What happens when a recipient's outbox is full. -/
inductive OverflowPolicy where
  /-- The connection is let go; its client reconnects and catches up elsewhere. -/
  | evict
  /-- The connection stays and the payload is lost. -/
  | dropNewest
deriving DecidableEq, Repr, Inhabited

/-- What happens when a user registers while another connection of theirs is registered. -/
inductive DuplicatePolicy where
  /-- The newcomer takes the place of the connection that is there. -/
  | replace
  /-- The connection that is there stays, and the newcomer is turned away. -/
  | reject
deriving DecidableEq, Repr, Inhabited

/-- The two policies of a hub. -/
structure Policies where
  overflow : OverflowPolicy := .evict
  duplicate : DuplicatePolicy := .replace
deriving DecidableEq, Repr

/-- The name of an overflow policy. -/
def OverflowPolicy.name : OverflowPolicy → String
  | .evict => "evict"
  | .dropNewest => "drop_newest"

/-- The name of a duplicate policy. -/
def DuplicatePolicy.name : DuplicatePolicy → String
  | .replace => "replace"
  | .reject => "reject"

/-- The overflow policies by name. -/
def OverflowPolicy.known : List (String × OverflowPolicy) :=
  [("evict", .evict), ("drop_newest", .dropNewest)]

/-- The duplicate policies by name. -/
def DuplicatePolicy.known : List (String × DuplicatePolicy) :=
  [("replace", .replace), ("reject", .reject)]

/-- A policy's name as settings are compared: without outer blanks and in lower case. -/
def normalizeName (text : String) : String :=
  String.ofList (Text.lower (Text.trim text.toList))

/-- Reads an overflow policy from a setting; the words may also be joined by a hyphen. -/
def OverflowPolicy.parse (text : String) : Except String OverflowPolicy :=
  let name := normalizeName text
  if name == "evict" then .ok .evict
  else if name == "drop_newest" || name == "drop-newest" then .ok .dropNewest
  else .error ("Unknown overflow policy: " ++ name)

/-- Reads a duplicate policy from a setting. -/
def DuplicatePolicy.parse (text : String) : Except String DuplicatePolicy :=
  let name := normalizeName text
  if name == "replace" then .ok .replace
  else if name == "reject" then .ok .reject
  else .error ("Unknown duplicate policy: " ++ name)

/-- Reads an overflow policy from a JSON text. -/
def OverflowPolicy.parseJson (text : Json.Bytes) : Except Json.Error OverflowPolicy :=
  Json.readWhole (Json.readChoice (Json.boundOf text) OverflowPolicy.known) text

/-- Reads a duplicate policy from a JSON text. -/
def DuplicatePolicy.parseJson (text : Json.Bytes) : Except Json.Error DuplicatePolicy :=
  Json.readWhole (Json.readChoice (Json.boundOf text) DuplicatePolicy.known) text

end Switchboard.Hub
