import Switchboard.Config.Basic
import Switchboard.Decimal.Integer
import Switchboard.Hub.Journal
import Switchboard.Text.Lossy

/-!
# Overriding settings

Some settings can be overridden by variables of the environment. A variable whose value the setting
cannot take is ignored, and a line in the journal says so.
-/

namespace Switchboard.Config

open Hub Decimal

/-- The variables of an environment, which hold bytes. -/
abbrev Environment := String → Option ByteArray

/-- The text that a variable holds; one that holds no text counts as unset. -/
def Environment.text? (environment : Environment) (name : String) : Option String :=
  (environment name).bind String.fromUTF8?

/-- The path that a variable holds. Bytes that are no text are shown as replacements. -/
def Environment.path? (environment : Environment) (name : String) : Option String :=
  (environment name).map fun bytes => Text.decodeLossy bytes.toList

/-- A setting that a variable overrides. -/
structure Override where
  /-- The variable's name. -/
  name : String
  /-- The settings with the value of the variable, if it is one that the setting can take. -/
  apply : Config → String → Option Config

/-- A size. -/
def readSize (text : String) : Option UInt64 :=
  (readNatural (UInt64.size - 1) text).toOption.map UInt64.ofNat

/-- A port. -/
def readPort (text : String) : Option UInt16 :=
  (readNatural (UInt16.size - 1) text).toOption.map UInt16.ofNat

/-- The settings that variables override, in the order in which they are looked at. -/
def overrides : List Override :=
  [⟨"CHATHUB_HOST", fun config text =>
      some { config with server := { config.server with host := text } }⟩,
    ⟨"CHATHUB_PORT", fun config text => (readPort text).map fun port =>
      { config with server := { config.server with port } }⟩,
    ⟨"CHATHUB_MAX_PUBLISH_RECIPIENTS", fun config text =>
      (readSize text).map fun maxPublishRecipients =>
        { config with server := { config.server with maxPublishRecipients } }⟩,
    ⟨"CHATHUB_OUTBOX_CAPACITY", fun config text => (readSize text).map fun outboxCapacity =>
      { config with hub := { config.hub with outboxCapacity } }⟩,
    ⟨"CHATHUB_FANOUT_QUEUE", fun config text => (readSize text).map fun fanoutQueue =>
      { config with hub := { config.hub with fanoutQueue } }⟩,
    ⟨"CHATHUB_OVERFLOW_POLICY", fun config text =>
      (OverflowPolicy.parse text).toOption.map fun overflowPolicy =>
        { config with hub := { config.hub with overflowPolicy } }⟩,
    ⟨"CHATHUB_DUPLICATE_POLICY", fun config text =>
      (DuplicatePolicy.parse text).toOption.map fun duplicatePolicy =>
        { config with hub := { config.hub with duplicatePolicy } }⟩,
    ⟨"CHATHUB_MAX_MESSAGE_SIZE", fun config text => (readSize text).map fun maxMessageSize =>
      { config with websocket := { config.websocket with maxMessageSize } }⟩,
    ⟨"CHATHUB_LOG_LEVEL", fun config text =>
      some { config with logging := { config.logging with level := text } }⟩,
    ⟨"CHATHUB_LOG_FORMAT", fun config text =>
      some { config with logging := { config.logging with format := text } }⟩]

/-- A variable that was set but could not be used. -/
structure Ignored where
  name : String
  value : String
deriving DecidableEq, Repr

/-- The line in the journal about a variable that could not be used. -/
def Ignored.entry (ignored : Ignored) : Entry :=
  ⟨.warn, "Ignoring invalid value " ++ Text.quoted ignored.value ++ " for " ++ ignored.name,
    []⟩

/-- Applies one override. -/
def applyOverride (environment : Environment) (config : Config) (rule : Override) :
    Config × List Ignored :=
  match environment.text? rule.name with
  | none => (config, [])
  | some value =>
    match rule.apply config value with
    | some changed => (changed, [])
    | none => (config, [⟨rule.name, value⟩])

/-- Applies overrides in order. -/
def applyOverrides (environment : Environment) :
    List Override → Config → Config × List Ignored
  | [], config => (config, [])
  | rule :: rest, config =>
    let (changed, ignored) := applyOverride environment config rule
    let (final, others) := applyOverrides environment rest changed
    (final, ignored ++ others)

/-- The settings with all that the environment overrides. -/
def override (config : Config) (environment : Environment) : Config × List Ignored :=
  applyOverrides environment overrides config

/-- The settings that the environment makes of the defaults. They need not be fit to run with. -/
def ofEnvironment (environment : Environment) : Config × List Ignored :=
  override {} environment

end Switchboard.Config
