import Switchboard.OsError

/-!
# Files

What a search for settings has to know of the files around it: whether a path leads somewhere, and
what is read there.
-/

namespace Switchboard

/-- Why there is no text to read at a path. -/
inductive FileFault where
  | system (error : OsError)
  /-- The path holds a character that no path can hold. -/
  | nulInPath
  /-- What is read is not UTF-8. -/
  | notText
deriving DecidableEq, Repr

/-- The wording of a fault. -/
def FileFault.message : FileFault → String
  | .system error => error.message
  | .nulInPath => "file name contained an unexpected NUL byte"
  | .notText => "stream did not contain valid UTF-8"

/-- The files that can be reached. -/
structure Files where
  /-- The path leads somewhere, be it only to a directory. -/
  leads : String → Bool
  /-- The bytes at a path. -/
  read : String → Except FileFault ByteArray

/-- The text at a path. -/
def Files.readText (files : Files) (path : String) : Except FileFault String := do
  match String.fromUTF8? (← files.read path) with
  | some text => .ok text
  | none => .error .notText

/-- The files at the paths listed; nothing is anywhere else. -/
def Files.ofList (entries : List (String × Except FileFault ByteArray)) : Files where
  leads path := entries.any fun entry => entry.1 == path
  read path :=
    match entries.find? fun entry => entry.1 == path with
    | some (_, content) => content
    | none => .error (.system .notFound)

end Switchboard
