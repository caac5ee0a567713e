import Switchboard.Config.Basic
import Switchboard.Config.Datum

/-!
# Decoding settings

Settings from what is written. A section may be a table, in which unknown names do not matter, or an
array of its settings in order; what is missing keeps its default. The first complaint in the order
of the writing wins.
-/

namespace Switchboard.Config

open Hub

/-- A text. -/
def decodeText : Datum → Except Complaint String
  | .string text => .ok text
  | other => .error (.wrongType other.found "a string")

/-- A natural number below `limit`, which the type named has. -/
def decodeNatural (limit : Nat) (type : String) : Datum → Except Complaint Nat
  | .integer n =>
    if 0 ≤ n && n < limit then .ok n.toNat else .error (.wrongValue (.integer n) type)
  | other => .error (.wrongType other.found type)

/-- A size. -/
def decodeSize (datum : Datum) : Except Complaint UInt64 :=
  (decodeNatural UInt64.size "usize" datum).map UInt64.ofNat

/-- A port. -/
def decodePort (datum : Datum) : Except Complaint UInt16 :=
  (decodeNatural UInt16.size "u16" datum).map UInt16.ofNat

/-- A choice among named values. -/
def decodeChoice {α : Type} (dialect : Dialect) (known : List (String × α)) (default : α)
    (datum : Datum) : Except Complaint α :=
  (dialect.choose (known.map (·.1)) datum).map fun name =>
    (Json.lookup? name known).getD default

/-- A setting of a section: its name, and how a written value changes it. -/
structure Setting (σ : Type) where
  name : String
  decode : σ → Datum → Except Complaint σ

/-- Applies the settings of an array, in order. -/
def applyItems {σ : Type} : List (Setting σ) → σ → List Datum → Except Complaint σ
  | setting :: settings, fields, datum :: rest => do
    applyItems settings (← setting.decode fields datum) rest
  | _, fields, _ => .ok fields

/-- Applies the settings of a table, in the order of its entries. -/
def applyEntries {σ : Type} (settings : List (Setting σ)) :
    σ → List (String × Datum) → Except Complaint σ
  | fields, [] => .ok fields
  | fields, (name, datum) :: rest =>
    match settings.find? fun setting => setting.name == name with
    | none => applyEntries settings fields rest
    | some setting => do applyEntries settings (← setting.decode fields datum) rest

/-- Decodes a section from the array of its settings, given its defaults. -/
def decodeItems {σ : Type} (dialect : Dialect) (settings : List (Setting σ)) (defaults : σ)
    (items : List Datum) : Except Complaint σ := do
  let decoded ← applyItems settings defaults items
  if dialect.refusesExtraItems && settings.length < items.length then
    .error (.wrongLength items.length "fewer elements in array")
  else .ok decoded

/-- Decodes a section, given its defaults. -/
def decodeSection {σ : Type} (dialect : Dialect) (expected : String) (settings : List (Setting σ))
    (defaults : σ) : Datum → Except Complaint σ
  | .sequence items => decodeItems dialect settings defaults items
  | .tables items => decodeItems dialect settings defaults items
  | .table entries => applyEntries settings defaults entries
  | .dateTime => .ok defaults
  | other => .error (.wrongType other.found expected)

/-- The settings of the server. -/
def serverSettings : List (Setting ServerConfig) :=
  [⟨"host", fun server datum => do .ok { server with host := ← decodeText datum }⟩,
    ⟨"port", fun server datum => do .ok { server with port := ← decodePort datum }⟩,
    ⟨"max_publish_recipients", fun server datum => do
      .ok { server with maxPublishRecipients := ← decodeSize datum }⟩]

/-- The settings of the hub. -/
def hubSettings (dialect : Dialect) : List (Setting HubConfig) :=
  [⟨"outbox_capacity", fun hub datum => do .ok { hub with outboxCapacity := ← decodeSize datum }⟩,
    ⟨"register_queue", fun hub datum => do .ok { hub with registerQueue := ← decodeSize datum }⟩,
    ⟨"unregister_queue", fun hub datum => do
      .ok { hub with unregisterQueue := ← decodeSize datum }⟩,
    ⟨"fanout_queue", fun hub datum => do .ok { hub with fanoutQueue := ← decodeSize datum }⟩,
    ⟨"overflow_policy", fun hub datum => do
      .ok { hub with
        overflowPolicy := ← decodeChoice dialect OverflowPolicy.known .evict datum }⟩,
    ⟨"duplicate_policy", fun hub datum => do
      .ok { hub with
        duplicatePolicy := ← decodeChoice dialect DuplicatePolicy.known .replace datum }⟩,
    ⟨"presence_channel", fun hub datum => do
      .ok { hub with presenceChannel := ← decodeSize datum }⟩]

/-- The settings of WebSocket connections. -/
def webSocketSettings : List (Setting WebSocketConfig) :=
  [⟨"max_message_size", fun socket datum => do
      .ok { socket with maxMessageSize := ← decodeSize datum }⟩,
    ⟨"write_buffer_size", fun socket datum => do
      .ok { socket with writeBufferSize := ← decodeSize datum }⟩,
    ⟨"max_relay_recipients", fun socket datum => do
      .ok { socket with maxRelayRecipients := ← decodeSize datum }⟩]

/-- The settings of the log. -/
def loggingSettings : List (Setting LoggingConfig) :=
  [⟨"level", fun logging datum => do .ok { logging with level := ← decodeText datum }⟩,
    ⟨"format", fun logging datum => do .ok { logging with format := ← decodeText datum }⟩]

/-- The sections. -/
def sections (dialect : Dialect) : List (Setting Config) :=
  [⟨"server", fun config datum => do
      .ok { config with
        server := ← decodeSection dialect "struct ServerConfig" serverSettings {} datum }⟩,
    ⟨"hub", fun config datum => do
      .ok { config with
        hub := ← decodeSection dialect "struct HubConfig" (hubSettings dialect) {} datum }⟩,
    ⟨"websocket", fun config datum => do
      .ok { config with
        websocket :=
          ← decodeSection dialect "struct WebSocketConfig" webSocketSettings {} datum }⟩,
    ⟨"logging", fun config datum => do
      .ok { config with
        logging := ← decodeSection dialect "struct LoggingConfig" loggingSettings {} datum }⟩]

/-- All settings. -/
def decode (dialect : Dialect) (datum : Datum) : Except Complaint Config :=
  decodeSection dialect "struct Config" (sections dialect) {} datum

end Switchboard.Config
