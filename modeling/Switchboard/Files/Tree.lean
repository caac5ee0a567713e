import Switchboard.Files.Basic

/-!
# File trees

A tree of directories in memory, with the rules by which a path is walked: every step starts at a
directory, a dot stays there, two dots go back, and an empty step does nothing.
-/

namespace Switchboard

/-- A file or a directory. -/
inductive FileTree where
  | file (content : ByteArray)
  | directory (entries : List (String × FileTree))

namespace FileTree

/-- An empty directory. -/
def empty : FileTree := .directory []

/-- What a directory holds under a name. -/
def entry? (name : String) : FileTree → Option FileTree
  | .file _ => none
  | .directory entries => (entries.find? fun entry => entry.1 == name).map (·.2)

/-- Puts something at the end of a path of names, with the directories on the way. -/
def put (content : FileTree) : List String → FileTree → FileTree
  | [], _ => content
  | name :: path, tree =>
    let below := put content path ((tree.entry? name).getD empty)
    match tree with
    | .file _ => .directory [(name, below)]
    | .directory entries =>
      .directory ((name, below) :: entries.filter fun entry => entry.1 != name)

/-- The longest name of a file, in bytes. -/
def maxNameSize : Nat := 255

/-- The longest path, in bytes. -/
def maxPathSize : Nat := 4095

/-- Walks on from a place: `above` holds the directories that lead to it, the nearest first. -/
def walk : List FileTree → FileTree → List String → Except OsError FileTree
  | _, place, [] => .ok place
  | above, place, step :: steps =>
    match place with
    | .file _ => .error .notDirectory
    | .directory _ =>
      if step.isEmpty || step == "." then walk above place steps
      else if step == ".." then
        match above with
        | [] => walk [] place steps
        | parent :: above => walk above parent steps
      else if maxNameSize < step.utf8ByteSize then .error .nameTooLong
      else
        match place.entry? step with
        | some next => walk (place :: above) next steps
        | none => .error .notFound

/-- What a path leads to. A relative path starts at the directory that the names in `current` lead
to. -/
def resolve (root : FileTree) (current : List String) (path : String) :
    Except FileFault FileTree :=
  if path.toList.contains '\x00' then .error .nulInPath
  else if path.isEmpty then .error (.system .notFound)
  else if maxPathSize < path.utf8ByteSize then .error (.system .nameTooLong)
  else
    let steps := path.splitOn "/"
    let absolute := path.toList.head? == some '/'
    (walk [] root (if absolute then steps else current ++ steps)).mapError .system

/-- The files of a tree, as seen from the directory that the names in `current` lead to. -/
def files (root : FileTree) (current : List String) : Files where
  leads path := (root.resolve current path).isOk
  read path := do
    match ← root.resolve current path with
    | .file content => .ok content
    | .directory _ => .error (.system .isDirectory)

end FileTree

end Switchboard
