import Switchboard.CommandLine.Run

/-!
# The program

Reads the arguments, the environment and the files that settings may come from, and does what the
command line comes to. There is no network here: a server that is to be run fails to bind.
-/

open Switchboard

/-- The variables of the environment that the program looks at. -/
def usedVariables : List String :=
  ["HOME", "XDG_CONFIG_HOME"] ++ Config.overrides.map (·.name)

/-- The variables that are set, with their values. -/
def readEnvironment : IO (List (String × ByteArray)) :=
  usedVariables.filterMapM fun name => do
    return (← IO.getEnv name).map fun value => (name, value.toUTF8)

/-- The error of the operating system behind a failure to read. -/
def osErrorOf : IO.Error → OsError
  | .noFileOrDirectory .. => .notFound
  | .inappropriateType .. => .isDirectory
  | .permissionDenied .. => .permissionDenied
  | .noSuchThing .. => .notFound
  | _ => ⟨5⟩

/-- What is read at a path; nothing if it leads nowhere. -/
def readPath (path : String) : IO (Option (String × Except FileFault ByteArray)) := do
  match ← (IO.FS.readBinFile path).toBaseIO with
  | .ok content => return some (path, .ok content)
  | .error error =>
    let error := osErrorOf error
    if error = .notFound then return none else return some (path, .error (.system error))

def main (arguments : List String) : IO UInt32 := do
  let set ← readEnvironment
  let environment : Config.Environment := fun name => set.lookup name
  let paths := CommandLine.pathsToRead environment none arguments
  let files := Files.ofList (← paths.filterMapM readPath)
  let outcome := match (CommandLine.run files environment none arguments).withoutRights with
    | .serve _ => CommandLine.bindFailure .notSupported
    | outcome => outcome
  match outcome with
  | .exit code output errors =>
    (← IO.getStdout).putStr output
    (← IO.getStderr).putStr errors
    return code.toUInt32
  | .serve _ => return 0
