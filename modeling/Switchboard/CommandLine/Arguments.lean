import Switchboard.Decimal.Integer

/-!
# Arguments

What the arguments of the program ask for. They are read in order, and the first one that asks for
help or is no good decides.
-/

namespace Switchboard.CommandLine

open Decimal

/-- The options of the server. -/
structure ServeOptions where
  /-- The file to load; if none is given, the standard places are searched. -/
  config : Option String := none
  host : Option String := none
  port : Option UInt16 := none
deriving DecidableEq, Repr

/-- The help pages. -/
inductive Page where
  | program
  | serve
  | config
  | help
deriving DecidableEq, Repr

/-- What is asked for. -/
inductive Request where
  | serve (options : ServeOptions)
  /-- Print the default file. -/
  | template
  | help (page : Page)
  | version
deriving DecidableEq, Repr

/-- An option that takes a value. -/
inductive ValueOption where
  | config
  | host
  | port
deriving DecidableEq, Repr

/-- The name of an option. -/
def ValueOption.name : ValueOption → String
  | .config => "--config"
  | .host => "--host"
  | .port => "--port"

/-- Why arguments are no good. -/
inductive UsageFault where
  | noCommand
  | unknownCommand (name : String)
  | unexpected (argument : String)
  | noValue (option : ValueOption)
  | badValue (option : ValueOption) (value : String)
  | repeated (option : ValueOption)
deriving DecidableEq, Repr

/-- The wording of a fault. -/
def UsageFault.message : UsageFault → String
  | .noCommand => "a command is required"
  | .unknownCommand name => "unknown command '" ++ name ++ "'"
  | .unexpected argument => "unexpected argument '" ++ argument ++ "'"
  | .noValue option => "a value is required for '" ++ option.name ++ "'"
  | .badValue option value => "invalid value '" ++ value ++ "' for '" ++ option.name ++ "'"
  | .repeated option => "'" ++ option.name ++ "' cannot be used more than once"

/-- The shapes that an argument can have. -/
inductive Shape where
  /-- Two dashes alone: what follows are no options. -/
  | separator
  /-- A name after two dashes, with a value if there is an equals sign. -/
  | long (name : String) (value : Option String)
  /-- A letter after one dash, and what is attached to it. -/
  | short (letter : Char) (attached : List Char)
  | plain (text : String)
deriving DecidableEq, Repr

/-- The shape of an argument. A dash alone is plain. -/
def Shape.of (argument : String) : Shape :=
  match argument.toList with
  | ['-', '-'] => .separator
  | '-' :: '-' :: rest =>
    let name := String.ofList (rest.takeWhile (· != '='))
    match rest.dropWhile (· != '=') with
    | [] => .long name none
    | _ :: value => .long name (some (String.ofList value))
  | '-' :: letter :: attached => .short letter attached
  | _ => .plain argument

/-- The value that is attached to a letter; an equals sign may stand between them. -/
def attachedValue : List Char → Option String
  | [] => none
  | '=' :: value => some (String.ofList value)
  | value => some (String.ofList value)

/-- Whether an argument can be the value of the option before it. -/
def isValue (argument : String) : Bool :=
  match Shape.of argument with
  | .plain _ => true
  | _ => false

/-- Reads a port. -/
def readPort (text : String) : Option UInt16 :=
  match readInt64 text with
  | .ok n => if 0 ≤ n && n.toInt < UInt16.size then some (UInt16.ofNat n.toNatClampNeg) else none
  | .error _ => none

/-- Sets an option to a value. -/
def ServeOptions.set (options : ServeOptions) (option : ValueOption) (value : String) :
    Except UsageFault ServeOptions :=
  match option with
  | .config =>
    if options.config.isSome then .error (.repeated .config)
    else if value.isEmpty then .error (.noValue .config)
    else .ok { options with config := some value }
  | .host =>
    if options.host.isSome then .error (.repeated .host)
    else .ok { options with host := some value }
  | .port =>
    if options.port.isSome then .error (.repeated .port)
    else
      match readPort value with
      | some port => .ok { options with port := some port }
      | none => .error (.badValue .port value)

/-- The option that a name stands for. -/
def longOption? (name : String) : Option ValueOption :=
  if name == "config" then some .config
  else if name == "host" then some .host
  else if name == "port" then some .port
  else none

/-- The option that a letter stands for. -/
def shortOption? (letter : Char) : Option ValueOption :=
  if letter == 'c' then some .config
  else if letter == 'p' then some .port
  else none

/-- What an argument of the server asks for. -/
inductive ServeStep where
  | help
  /-- An option whose value is attached. -/
  | set (option : ValueOption) (value : String)
  /-- An option whose value is the next argument. -/
  | await (option : ValueOption)
  /-- No options follow. -/
  | separate
deriving DecidableEq, Repr

/-- The step for an option with or without an attached value. -/
def ServeStep.ofOption (option : ValueOption) : Option String → ServeStep
  | some value => .set option value
  | none => .await option

/-- The step that an argument of the server takes. -/
def ServeStep.of? (argument : String) : Option ServeStep :=
  match Shape.of argument with
  | .separator => some .separate
  | .long name value =>
    if name == "help" && value.isNone then some .help
    else (longOption? name).map fun option => .ofOption option value
  | .short letter attached =>
    if letter == 'h' then some .help
    else (shortOption? letter).map fun option => .ofOption option (attachedValue attached)
  | .plain _ => none

/-- Reads the arguments of the server. -/
def readServe (options : ServeOptions) : List String → Except UsageFault Request
  | [] => .ok (.serve options)
  | argument :: rest =>
    match ServeStep.of? argument with
    | none => .error (.unexpected argument)
    | some .help => .ok (.help .serve)
    | some (.set option value) => do readServe (← options.set option value) rest
    | some .separate =>
      match rest with
      | [] => .ok (.serve options)
      | other :: _ => .error (.unexpected other)
    | some (.await option) =>
      match rest with
      | [] => .error (.noValue option)
      | value :: rest =>
        if isValue value then do readServe (← options.set option value) rest
        else .error (.noValue option)

/-- Whether an argument asks for help. -/
def asksForHelp (argument : String) : Bool :=
  match Shape.of argument with
  | .long "help" none => true
  | .short 'h' _ => true
  | _ => false

/-- Reads the arguments of the command that prints the default file. -/
def readTemplate : List String → Except UsageFault Request
  | [] => .ok .template
  | ["--"] => .ok .template
  | argument :: _ =>
    if asksForHelp argument then .ok (.help .config) else .error (.unexpected argument)

/-- The help page of a command. -/
def Page.ofCommand? (name : String) : Option Page :=
  if name == "serve" then some .serve
  else if name == "config" then some .config
  else if name == "help" then some .help
  else none

/-- Reads the arguments of the help command. No command has commands of its own. -/
def readHelp : List String → Except UsageFault Request
  | [] => .ok (.help .program)
  | name :: rest =>
    match Page.ofCommand? name, rest with
    | none, _ => .error (.unknownCommand name)
    | some page, [] => .ok (.help page)
    | some _, other :: _ => .error (.unknownCommand other)

/-- Whether an argument asks for the version. -/
def asksForVersion (argument : String) : Bool :=
  match Shape.of argument with
  | .long "version" none => true
  | .short 'V' _ => true
  | _ => false

/-- Reads all arguments. -/
def Request.read : List String → Except UsageFault Request
  | [] => .error .noCommand
  | argument :: rest =>
    if asksForHelp argument then .ok (.help .program)
    else if asksForVersion argument then .ok .version
    else if argument == "serve" then readServe {} rest
    else if argument == "config" then readTemplate rest
    else if argument == "help" then readHelp rest
    else if isValue argument then .error (.unknownCommand argument)
    else .error (.unexpected argument)

end Switchboard.CommandLine
