import Switchboard.CommandLine.Arguments
import Switchboard.Config.Load
import Switchboard.Config.Template
import Switchboard.Program

/-!
# Running a command

What a command comes to: something to print and an exit code, or a server to run.
-/

namespace Switchboard.CommandLine

/-- The text of a help page. -/
def Page.text : Page → String
  | .program =>
    "Real-time connection hub for chat clients\n\n" ++
    "Usage: chathub <COMMAND>\n\n" ++
    "Commands:\n" ++
    "  serve   Run the HTTP and WebSocket server\n" ++
    "  config  Print a default config file\n" ++
    "  help    Print this message or the help of the given subcommand(s)\n\n" ++
    "Options:\n" ++
    "  -h, --help     Print help\n" ++
    "  -V, --version  Print version\n"
  | .serve =>
    "Run the HTTP and WebSocket server\n\n" ++
    "Usage: chathub serve [OPTIONS]\n\n" ++
    "Options:\n" ++
    "  -c, --config <CONFIG>  Config file (default: search standard locations)\n" ++
    "      --host <HOST>      Override the bind host\n" ++
    "  -p, --port <PORT>      Override the bind port\n" ++
    "  -h, --help             Print help\n"
  | .config =>
    "Print a default config file\n\n" ++
    "Usage: chathub config\n\n" ++
    "Options:\n" ++
    "  -h, --help  Print help\n"
  | .help =>
    "Print this message or the help of the given subcommand(s)\n\n" ++
    "Usage: chathub help [COMMAND]...\n\n" ++
    "Arguments:\n" ++
    "  [COMMAND]...  Print help for the subcommand(s)\n"

/-- What a command comes to. -/
inductive Outcome where
  | exit (code : UInt8) (output errors : String)
  /-- A server is to be run with these settings. -/
  | serve (config : Config)
deriving Repr

/-- One cause of a failure, indented; it is numbered if there are several. -/
def causeLine (several : Bool) (cause : String × Nat) : String :=
  "    " ++ (if several then toString cause.2 ++ ": " else "") ++ cause.1 ++ "\n"

/-- The text of a failure with its causes, the nearest first. -/
def failureText (what : String) (causes : List String) : String :=
  "Error: " ++ what ++ "\n\nCaused by:\n" ++
    String.join (causes.zipIdx.map (causeLine (1 < causes.length)))

/-- The outcome when the address of a server cannot be bound to. -/
def bindFailure (error : OsError) : Outcome :=
  .exit 1 "" (failureText "Server failed" ["IO error: " ++ error.message, error.message])

/-- Whether a port is kept for programs with special rights. -/
def isReservedPort (port : UInt16) : Bool := 0 < port && port < 1024

/-- What a command comes to without special rights: no server on a port that takes them. -/
def Outcome.withoutRights : Outcome → Outcome
  | .serve config =>
    if isReservedPort config.server.port then bindFailure .permissionDenied else .serve config
  | .exit code output errors => .exit code output errors

/-- The settings with what the options override. -/
def ServeOptions.override (options : ServeOptions) (config : Config) : Config :=
  { config with
    server :=
      { config.server with
        host := options.host.getD config.server.host
        port := options.port.getD config.server.port } }

/-- The settings that a server runs with: those of the file given, or of the first in the standard
places. -/
def serveConfig (files : Files) (environment : Config.Environment) (account : Option String)
    (options : ServeOptions) : Except (String × Config.LoadError) Config :=
  match options.config with
  | none => .ok (options.override (Config.loadDefault files environment account).config)
  | some path =>
    match (Config.loadWith files environment path).1 with
    | .ok config => .ok (options.override config)
    | .error error => .error (path, error)

/-- Runs what is asked for. -/
def Request.run (files : Files) (environment : Config.Environment) (account : Option String) :
    Request → Outcome
  | .help page => .exit 0 page.text ""
  | .version => .exit 0 (programName ++ " " ++ programVersion ++ "\n") ""
  | .template => .exit 0 Config.template ""
  | .serve options =>
    match serveConfig files environment account options with
    | .ok config => .serve config
    | .error (path, error) =>
      .exit 1 "" <|
        failureText ("Failed to load config from " ++ Text.quotedPath path) [error.message]

/-- Runs the program. -/
def run (files : Files) (environment : Config.Environment) (account : Option String)
    (arguments : List String) : Outcome :=
  match Request.read arguments with
  | .ok request => request.run files environment account
  | .error fault => .exit 2 "" ("error: " ++ fault.message ++ "\n")

/-- The paths where the program may look for settings. -/
def pathsToRead (environment : Config.Environment) (account : Option String)
    (arguments : List String) : List String :=
  match Request.read arguments with
  | .ok (.serve options) =>
    match options.config with
    | some path => [path]
    | none => Config.defaultPaths environment account
  | _ => []

end Switchboard.CommandLine
