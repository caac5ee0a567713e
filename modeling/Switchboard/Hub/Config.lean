import Switchboard.Hub.Policy

/-!
# Settings of a hub

Sizes are machine words.
-/

namespace Switchboard.Hub

/-- The settings of a hub. -/
structure HubConfig where
  /-- Payloads buffered per connection. -/
  outboxCapacity : UInt64 := 256
  registerQueue : UInt64 := 256
  unregisterQueue : UInt64 := 256
  fanoutQueue : UInt64 := 1024
  overflowPolicy : OverflowPolicy := .evict
  duplicatePolicy : DuplicatePolicy := .replace
  /-- Presence events kept for subscribers that are behind. -/
  presenceChannel : UInt64 := 256
deriving DecidableEq, Repr

/-- The policies among the settings. -/
def HubConfig.policies (config : HubConfig) : Policies :=
  ⟨config.overflowPolicy, config.duplicatePolicy⟩

/-- A size as a JSON number. -/
def sizeToJson (size : UInt64) : Json.Value := .integer size.toNat

/-- The settings as a JSON object. -/
def HubConfig.toJson (config : HubConfig) : Json.Value :=
  .object
    [("outbox_capacity", sizeToJson config.outboxCapacity),
      ("register_queue", sizeToJson config.registerQueue),
      ("unregister_queue", sizeToJson config.unregisterQueue),
      ("fanout_queue", sizeToJson config.fanoutQueue),
      ("overflow_policy", .string config.overflowPolicy.name),
      ("duplicate_policy", .string config.duplicatePolicy.name),
      ("presence_channel", sizeToJson config.presenceChannel)]

end Switchboard.Hub
