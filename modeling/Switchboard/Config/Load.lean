import Switchboard.Config.FromToml
import Switchboard.Config.Override
import Switchboard.Files.Basic

/-!
# Loading settings

Settings from a file, with what the environment overrides, and the search for the first file that
can be used. A file that is there but cannot be used is reported, and the search goes on.
-/

namespace Switchboard.Config

/-- Why a file gives no settings. -/
inductive LoadError where
  | unreadable (path : String) (fault : FileFault)
  | unparsable (path : String) (fault : TextFault)
  | invalid (flaw : Flaw)
deriving DecidableEq, Repr

/-- The wording of an error. -/
def LoadError.message : LoadError → String
  | .unreadable path fault =>
    "Failed to read config file " ++ Text.quotedPath path ++ ": " ++ fault.message
  | .unparsable path fault =>
    "Failed to parse config file " ++ Text.quotedPath path ++ ": TOML parse error: " ++
      fault.message
  | .invalid flaw => "Invalid configuration: " ++ flaw.message

/-- The settings that a file holds, whether or not they are fit to run with. -/
def read (files : Files) (path : String) : Except LoadError Config := do
  let text ← (files.readText path).mapError (.unreadable path)
  (ofToml text).mapError (.unparsable path)

/-- The settings, if they are fit to run with. -/
def check (config : Config) : Except LoadError Config :=
  match config.validate with
  | .ok () => .ok config
  | .error flaw => .error (.invalid flaw)

/-- Loads the settings of a file. -/
def load (files : Files) (path : String) : Except LoadError Config := do
  check (← read files path)

/-- Loads the settings of a file, which must be fit to run with by themselves, and applies what the
environment overrides; the outcome must again be fit to run with. -/
def loadWith (files : Files) (environment : Environment) (path : String) :
    Except LoadError Config × List Ignored :=
  match load files path with
  | .error error => (.error error, [])
  | .ok config =>
    let (changed, ignored) := config.override environment
    (check changed, ignored)

/-- What a search for settings comes to. -/
structure Report where
  config : Config
  /-- The file that the settings come from; none if no file could be used. -/
  source : Option String
  /-- Why the files that are there, up to the source, could not be used. -/
  failures : List LoadError
  /-- Variables that could not be used, once for every time that they were looked at. -/
  ignored : List Ignored
deriving Repr

/-- What a search comes to without any file. -/
def Report.withoutFile (environment : Environment) : Report :=
  let (config, ignored) := ofEnvironment environment
  { config, source := none, failures := [], ignored }

/-- Loads the first file of a list that is there and can be used. If there is none, the settings are
what the environment makes of the defaults. -/
def loadFirst (files : Files) (environment : Environment) : List String → Report
  | [] => .withoutFile environment
  | path :: rest =>
    if files.leads path then
      match loadWith files environment path with
      | (.ok config, ignored) => { config, source := some path, failures := [], ignored }
      | (.error error, ignored) =>
        let report := loadFirst files environment rest
        { report with
          failures := error :: report.failures, ignored := ignored ++ report.ignored }
    else loadFirst files environment rest

/-! ## The standard places -/

/-- A path inside a directory. -/
def join (directory name : String) : String :=
  if directory.isEmpty || directory.endsWith "/" then directory ++ name
  else directory ++ "/" ++ name

/-- The home directory: what the environment says unless that is empty, else that of the account. -/
def homeDirectory (environment : Environment) (account : Option String) : Option String :=
  ((environment.path? "HOME").filter fun home => !home.isEmpty).or account

/-- The directory for a user's settings, which the environment may only name by an absolute path. -/
def settingsDirectory (environment : Environment) (account : Option String) : Option String :=
  ((environment.path? "XDG_CONFIG_HOME").filter fun path => path.startsWith "/").or
    ((homeDirectory environment account).map fun home => join home ".config")

/-- The places where a file is looked for, in order. -/
def defaultPaths (environment : Environment) (account : Option String) : List String :=
  ((settingsDirectory environment account).map fun directory =>
    join (join directory "chathub") "config.toml").toList ++
    ["/etc/chathub/config.toml", "./config.toml"]

/-- Loads the first file of the standard places. -/
def loadDefault (files : Files) (environment : Environment) (account : Option String) : Report :=
  loadFirst files environment (defaultPaths environment account)

end Switchboard.Config
