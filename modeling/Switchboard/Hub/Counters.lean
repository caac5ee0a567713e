import Switchboard.Json.Value

/-!
# Counters

How often each thing has happened in a hub. The counts are exact; a snapshot reports them in 64-bit
words.
-/

namespace Switchboard.Hub

/-- What is counted. -/
inductive Occurrence where
  | registered
  | replaced
  | rejected
  | unregistered
  | staleUnregister
  | fanout
  | delivered
  | skippedOffline
  | dropped
  | evicted
deriving DecidableEq, Repr

/-- The number of times that each thing has happened. -/
structure Counters where
  registered : Nat := 0
  replaced : Nat := 0
  rejected : Nat := 0
  unregistered : Nat := 0
  staleUnregisters : Nat := 0
  fanoutRequests : Nat := 0
  delivered : Nat := 0
  skippedOffline : Nat := 0
  dropped : Nat := 0
  evicted : Nat := 0
deriving DecidableEq, Repr

/-- Counts one occurrence. -/
def Counters.record (counters : Counters) : Occurrence → Counters
  | .registered => { counters with registered := counters.registered + 1 }
  | .replaced => { counters with replaced := counters.replaced + 1 }
  | .rejected => { counters with rejected := counters.rejected + 1 }
  | .unregistered => { counters with unregistered := counters.unregistered + 1 }
  | .staleUnregister => { counters with staleUnregisters := counters.staleUnregisters + 1 }
  | .fanout => { counters with fanoutRequests := counters.fanoutRequests + 1 }
  | .delivered => { counters with delivered := counters.delivered + 1 }
  | .skippedOffline => { counters with skippedOffline := counters.skippedOffline + 1 }
  | .dropped => { counters with dropped := counters.dropped + 1 }
  | .evicted => { counters with evicted := counters.evicted + 1 }

/-- The counts by name, as words. -/
def Counters.snapshot (counters : Counters) : List (String × UInt64) :=
  [("registered", .ofNat counters.registered),
    ("replaced", .ofNat counters.replaced),
    ("rejected", .ofNat counters.rejected),
    ("unregistered", .ofNat counters.unregistered),
    ("stale_unregisters", .ofNat counters.staleUnregisters),
    ("fanout_requests", .ofNat counters.fanoutRequests),
    ("delivered", .ofNat counters.delivered),
    ("skipped_offline", .ofNat counters.skippedOffline),
    ("dropped", .ofNat counters.dropped),
    ("evicted", .ofNat counters.evicted)]

/-- The snapshot as a JSON object. -/
def Counters.toJson (counters : Counters) : Json.Value :=
  .object (counters.snapshot.map fun (name, count) => (name, .integer count.toNat))

end Switchboard.Hub
