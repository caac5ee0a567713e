import Mathlib.Algebra.BigOperators.Group.List.Basic
import Mathlib.Algebra.Ring.Nat
import Mathlib.Data.List.Induction
import Switchboard.Proofs.Hub.Requests

/-!
# What the counters say

Each counter counts one outcome of requests. Put together, they tell how many requests of each kind
have been applied and how many recipients they had (`handled_after`), and how many connections are
registered (`tallied_after`). That a delivery finds no writer has no counter; it is told by the
event that is published then.
-/

namespace Switchboard.Hub

/-- The event of a delivery that finds no writer. -/
def PresenceEvent.isClosed : PresenceEvent → Bool
  | .offline _ _ .closed => true
  | _ => false

/-- The number of deliveries that have found no writer. -/
def State.closed (state : State) : Nat := state.published.countP PresenceEvent.isClosed

/-- The counts by name. -/
def Counters.counts (counters : Counters) : List (String × Nat) :=
  [("registered", counters.registered), ("replaced", counters.replaced),
    ("rejected", counters.rejected), ("unregistered", counters.unregistered),
    ("stale_unregisters", counters.staleUnregisters),
    ("fanout_requests", counters.fanoutRequests), ("delivered", counters.delivered),
    ("skipped_offline", counters.skippedOffline), ("dropped", counters.dropped),
    ("evicted", counters.evicted)]

/-- A snapshot is exact as long as the counts fit into words. -/
theorem Counters.snapshot_exact (counters : Counters)
    (small : ∀ count ∈ counters.counts, count.2 < 2 ^ 64) :
    (counters.snapshot.map fun count => (count.1, count.2.toNat)) = counters.counts := by
  have words : counters.snapshot = counters.counts.map fun count => (count.1, .ofNat count.2) := rfl
  rw [words, List.map_map]
  conv_rhs => rw [← List.map_id counters.counts]
  refine List.map_congr_left fun count member => ?_
  exact Prod.ext rfl (UInt64.toNat_ofNat_of_lt' (small count member))

/-! ## Requests and recipients -/

/-- What requests bring to a hub. -/
inductive Matter where
  | registration
  | removal
  | fanout
  | recipient
deriving DecidableEq

/-- What a hub has dealt with, by its counters. -/
def State.handled (state : State) : Matter → Nat
  | .registration => state.counters.registered + state.counters.rejected
  | .removal => state.counters.unregistered + state.counters.staleUnregisters
  | .fanout => state.counters.fanoutRequests
  | .recipient =>
    state.counters.delivered + state.counters.skippedOffline + state.counters.dropped +
      state.counters.evicted + state.closed

/-- The matter that an occurrence settles. A replacement comes with a registration. -/
def Occurrence.settles? : Occurrence → Option Matter
  | .registered | .rejected => some .registration
  | .replaced => none
  | .unregistered | .staleUnregister => some .removal
  | .fanout => some .fanout
  | .delivered | .skippedOffline | .dropped | .evicted => some .recipient

/-- The matter that an event settles. -/
def PresenceEvent.settles? (event : PresenceEvent) : Option Matter :=
  if event.isClosed then some .recipient else none

/-- What an operation brings. -/
def Operation.brings : Operation → Matter → Nat
  | .apply (.register _), .registration => 1
  | .apply (.unregister _ _), .removal => 1
  | .apply (.fanout _), .fanout => 1
  | .apply (.fanout request), .recipient => request.recipients.length
  | _, _ => 0

/-- A registration is applied when the writer of its connection is gone. -/
def comesLate : State × Operation → Bool
  | (state, .apply (.register handle)) => !state.attended handle.connection
  | _ => false

namespace State

variable {state : State}

/-- Events are counted that tell of a missing writer. -/
@[simp] theorem closed_publish (event : PresenceEvent) :
    (state.publish event).closed = state.closed + event.isClosed.toNat := by
  simp only [closed, publish, List.countP_append, List.countP_singleton]
  cases event.isClosed <;> rfl

/-- A count settles at most one matter. -/
@[simp] theorem handled_record (occurrence : Occurrence) (matter : Matter) :
    (state.record occurrence).handled matter =
      state.handled matter + if occurrence.settles? = some matter then 1 else 0 := by
  have counters : (state.record occurrence).counters = state.counters.record occurrence := rfl
  have closed : (state.record occurrence).closed = state.closed := rfl
  cases matter <;> cases occurrence <;>
    simp [handled, counters, closed, Occurrence.settles?, Counters.record] <;> omega

/-- An event settles at most one matter. -/
@[simp] theorem handled_publish (event : PresenceEvent) (matter : Matter) :
    (state.publish event).handled matter =
      state.handled matter + if event.settles? = some matter then 1 else 0 := by
  have counters : (state.publish event).counters = state.counters := rfl
  cases told : event.isClosed <;> cases matter <;>
    simp [handled, counters, PresenceEvent.settles?, told, Nat.add_assoc]

@[simp] theorem handled_enter (handle : Handle) (matter : Matter) :
    (state.enter handle).handled matter = state.handled matter := rfl

@[simp] theorem handled_leave (user : UserId) (matter : Matter) :
    (state.leave user).handled matter = state.handled matter := rfl

@[simp] theorem handled_markOnline (user : UserId) (matter : Matter) :
    (state.markOnline user).handled matter = state.handled matter := rfl

@[simp] theorem handled_markOffline (user : UserId) (matter : Matter) :
    (state.markOffline user).handled matter = state.handled matter := rfl

@[simp] theorem handled_changeOutbox (connection : ConnectionId) (change : Outbox → Outbox)
    (matter : Matter) :
    (state.changeOutbox connection change).handled matter = state.handled matter := rfl

@[simp] theorem handled_release (connection : ConnectionId) (matter : Matter) :
    (state.release connection).handled matter = state.handled matter := rfl

/-- Letting go of a connection settles what its event settles. -/
@[simp] theorem handled_discard (user : UserId) (connection : ConnectionId)
    (reason : OfflineReason) (matter : Matter) :
    (state.discard user connection reason).handled matter =
      state.handled matter +
        if (PresenceEvent.offline user connection reason).settles? = some matter then 1 else 0 := by
  simp [discard]

/-- A registration is dealt with, unless it comes too late for its writer. -/
theorem handled_register (policy : DuplicatePolicy) (handle : Handle) (matter : Matter) :
    (Operation.apply (.register handle)).brings matter + state.handled matter =
      (state.register policy handle).1.handled matter +
        if matter = .registration ∧ comesLate (state, .apply (.register handle)) then 1 else 0 := by
  have outcome := state.register_cases policy handle
  generalize state.register policy handle = result at outcome
  cases outcome with
  | ignored gone => cases matter <;> simp [Operation.brings, comesLate, gone, Nat.add_comm]
  | inserted attended free | replaced attended occupied chosen
  | rejected attended occupied chosen =>
    cases matter <;>
      simp [Operation.brings, comesLate, attended, Occurrence.settles?, PresenceEvent.settles?,
        PresenceEvent.isClosed, Nat.add_comm]

/-- A request to unregister is handled in one way. -/
theorem handled_unregister (user : UserId) (connection : ConnectionId) (matter : Matter) :
    (Operation.apply (.unregister user connection)).brings matter + state.handled matter =
      (state.unregister user connection).1.handled matter := by
  have outcome := state.unregister_cases user connection
  generalize state.unregister user connection = result at outcome
  cases outcome with
  | removed registered same | stale other =>
    cases matter <;>
      simp [Operation.brings, Occurrence.settles?, PresenceEvent.settles?, PresenceEvent.isClosed,
        Nat.add_comm]

/-- Each recipient is dealt with in one way. -/
theorem handled_deliver (policy : OverflowPolicy) (payload : Payload) (user : UserId)
    (matter : Matter) :
    (state.deliver policy payload user).1.handled matter =
      state.handled matter + if matter = .recipient then 1 else 0 := by
  have outcome := state.deliver_cases policy payload user
  generalize state.deliver policy payload user = result at outcome
  cases outcome with
  | offline absent | delivered registered found attended room
  | evicted registered found attended full chosen | dropped registered found attended full chosen
  | closed registered gone =>
    simp [Occurrence.settles?, PresenceEvent.settles?, PresenceEvent.isClosed, eq_comm]

/-- A fan-out is counted once, and each of its recipients is handled in one way. -/
theorem handled_fanOut (policy : OverflowPolicy) (request : FanoutRequest) (matter : Matter) :
    (Operation.apply (.fanout request)).brings matter + state.handled matter =
      (state.fanOut policy request).1.handled matter := by
  have folded (users : List UserId) (state : State) :
      (users.foldl (fun state user => (state.deliver policy request.payload user).1) state).handled
          matter =
        state.handled matter + if matter = .recipient then users.length else 0 := by
    induction users generalizing state with
    | nil => simp
    | cons user rest ih =>
      rw [List.foldl_cons, ih, handled_deliver]
      split <;> simp [Nat.add_assoc, Nat.add_comm]
  rw [fanOut_eq_foldl, folded, handled_record]
  cases matter <;> simp [Operation.brings, Occurrence.settles?, Nat.add_comm]

/-- An operation brings in what it handles, but for a registration that comes too late. -/
theorem handled_perform (policies : Policies) (operation : Operation) (matter : Matter) :
    operation.brings matter + state.handled matter =
      (state.perform policies operation).handled matter +
        if matter = .registration ∧ comesLate (state, operation) then 1 else 0 := by
  rcases state.perform_cases policies operation with ⟨request, rfl, same⟩ | ⟨idle, outboxes, same⟩
  · rw [same]
    cases request with
    | register handle => exact handled_register policies.duplicate handle matter
    | unregister user connection =>
      rw [if_neg (by simp [comesLate]), Nat.add_zero]
      exact handled_unregister user connection matter
    | fanout request =>
      rw [if_neg (by simp [comesLate]), Nat.add_zero]
      exact handled_fanOut policies.overflow request matter
  · rw [same]
    cases operation with
    | apply request => cases idle
    | _ => simp [Operation.brings, comesLate, handled, closed]

end State

/-- What a run brings has been dealt with, but for the registrations that came too late. -/
theorem handled_after (policies : Policies) (run : List Operation) (matter : Matter) :
    (run.map fun operation => operation.brings matter).sum =
      (State.after policies run).handled matter +
        if matter = .registration then (trail policies run).countP comesLate else 0 := by
  induction run using List.reverseRecOn with
  | nil => cases matter <;> rfl
  | append_singleton past operation ih =>
    have step := (State.after policies past).handled_perform policies operation matter
    rw [List.map_append, List.sum_append, ih, after_concat, trail_concat, List.countP_append]
    simp only [List.map_singleton, List.sum_singleton, List.countP_singleton]
    by_cases registers : matter = .registration
    · simp only [registers, true_and, ↓reduceIte] at step ⊢
      omega
    · simp only [registers, false_and, ↓reduceIte] at step ⊢
      omega

/-! ## Connections -/

/-- What the counters say of a number of registered connections. -/
structure Counters.Fits (policies : Policies) (size closed : Nat) (counters : Counters) : Prop where
  registered_eq :
    counters.registered =
      size + counters.replaced + counters.unregistered + counters.evicted + closed
  dropped_eq : policies.overflow = .evict → counters.dropped = 0
  evicted_eq : policies.overflow = .dropNewest → counters.evicted = 0
  rejected_eq : policies.duplicate = .replace → counters.rejected = 0
  replaced_eq : policies.duplicate = .reject → counters.replaced = 0

namespace Counters.Fits

variable {policies : Policies} {size closed : Nat} {counters : Counters}

/-- Somebody who was not there is registered. -/
theorem arrive (fits : counters.Fits policies size closed) :
    (counters.record .registered).Fits policies (size + 1) closed :=
  { fits with
    registered_eq := by
      have equation := fits.registered_eq
      simp only [record]
      omega }

/-- A newcomer takes the place of another connection. -/
theorem replace (fits : counters.Fits policies size closed)
    (chosen : policies.duplicate = .replace) :
    ((counters.record .registered).record .replaced).Fits policies size closed :=
  { fits with
    registered_eq := by
      have equation := fits.registered_eq
      simp only [record]
      omega
    replaced_eq := fun other => by simp [chosen] at other }

/-- A newcomer is turned away. -/
theorem reject (fits : counters.Fits policies size closed)
    (chosen : policies.duplicate = .reject) :
    (counters.record .rejected).Fits policies size closed :=
  { fits with rejected_eq := fun other => by simp [chosen] at other }

/-- A registered connection leaves. -/
theorem unregister (fits : counters.Fits policies (size + 1) closed) :
    (counters.record .unregistered).Fits policies size closed :=
  { fits with
    registered_eq := by
      have equation := fits.registered_eq
      simp only [record]
      omega }

/-- A connection is let go for being slow. -/
theorem evict (fits : counters.Fits policies (size + 1) closed)
    (chosen : policies.overflow = .evict) :
    (counters.record .evicted).Fits policies size closed :=
  { fits with
    registered_eq := by
      have equation := fits.registered_eq
      simp only [record]
      omega
    evicted_eq := fun other => by simp [chosen] at other }

/-- A payload is dropped. -/
theorem drop (fits : counters.Fits policies size closed)
    (chosen : policies.overflow = .dropNewest) :
    (counters.record .dropped).Fits policies size closed :=
  { fits with dropped_eq := fun other => by simp [chosen] at other }

/-- A connection is let go because its writer is gone, which is not counted but told. -/
theorem close (fits : counters.Fits policies (size + 1) closed) :
    counters.Fits policies size (closed + 1) :=
  { fits with
    registered_eq := by
      have equation := fits.registered_eq
      omega }

end Counters.Fits

namespace State

variable {policies : Policies} {state : State}

/-- The counters fit the registry and the published events. -/
def Tallied (policies : Policies) (state : State) : Prop :=
  state.counters.Fits policies state.registry.size state.closed

/-- The registry grows by a user who was not in it. -/
theorem size_enter_of_none {handle : Handle} (free : state.registry[handle.user]? = none) :
    (state.enter handle).registry.size = state.registry.size + 1 := by
  have absent : handle.user ∉ state.registry := by simpa using free
  simp [enter, Std.ExtTreeMap.size_insert, absent]

/-- It keeps its size if the user was in it. -/
theorem size_enter_of_some {handle previous : Handle}
    (occupied : state.registry[handle.user]? = some previous) :
    (state.enter handle).registry.size = state.registry.size := by
  have present : handle.user ∈ state.registry := by
    simp [Std.ExtTreeMap.mem_iff_isSome_getElem?, occupied]
  simp [enter, Std.ExtTreeMap.size_insert, present]

/-- It shrinks by a user who was in it. -/
theorem size_leave {user : UserId} {handle : Handle}
    (registered : state.registry[user]? = some handle) :
    state.registry.size = (state.leave user).registry.size + 1 := by
  have present : user ∈ state.registry := by
    simp [Std.ExtTreeMap.mem_iff_isSome_getElem?, registered]
  have nonempty : state.registry.size ≠ 0 :=
    mt Std.ExtTreeMap.eq_empty_iff_size_eq_zero.mpr (Std.ExtTreeMap.ne_empty_of_mem present)
  simp only [leave, Std.ExtTreeMap.size_erase, Std.ExtTreeMap.contains_iff_mem, present, ↓reduceIte]
  omega

namespace Tallied

/-- An event that tells of no missing writer does not matter to the counters. -/
theorem publish (tallied : state.Tallied policies) {event : PresenceEvent}
    (other : event.isClosed = false) : (state.publish event).Tallied policies := by
  rw [Tallied, closed_publish, other]
  exact tallied

/-- The counters fit after a registration. -/
theorem register (tallied : state.Tallied policies) (handle : Handle) :
    (state.register policies.duplicate handle).1.Tallied policies := by
  have outcome := state.register_cases policies.duplicate handle
  generalize state.register policies.duplicate handle = result at outcome
  cases outcome with
  | ignored gone => exact tallied
  | inserted attended free =>
    have counted := Counters.Fits.arrive tallied
    rw [← size_enter_of_none free] at counted
    have entered : ((state.enter handle).record .registered).Tallied policies := counted
    exact entered.publish rfl
  | replaced attended occupied chosen =>
    have counted := Counters.Fits.replace tallied chosen
    rw [← size_enter_of_some occupied] at counted
    have entered : (((state.enter handle).record .registered).record .replaced).Tallied policies :=
      counted
    exact Tallied.publish (Tallied.publish entered rfl) rfl
  | rejected attended occupied chosen =>
    have counted : (state.record .rejected).Tallied policies := Counters.Fits.reject tallied chosen
    exact counted.publish rfl

/-- They fit after a request to unregister. -/
theorem unregister (tallied : state.Tallied policies) (user : UserId)
    (connection : ConnectionId) : (state.unregister user connection).1.Tallied policies := by
  have outcome := state.unregister_cases user connection
  generalize state.unregister user connection = result at outcome
  cases outcome with
  | removed registered same =>
    rw [Tallied, size_leave registered] at tallied
    have left : ((state.leave user).record .unregistered).Tallied policies := tallied.unregister
    exact left.publish rfl
  | stale other => exact { tallied with }

/-- They fit after a delivery. -/
theorem deliver (tallied : state.Tallied policies) (payload : Payload) (user : UserId) :
    (state.deliver policies.overflow payload user).1.Tallied policies := by
  have outcome := state.deliver_cases policies.overflow payload user
  generalize state.deliver policies.overflow payload user = result at outcome
  cases outcome with
  | offline absent => exact { tallied with }
  | delivered registered found attended room => exact { tallied with }
  | evicted registered found attended full chosen =>
    -- The eviction is counted and the connection leaves; neither order matters to the account.
    rw [Tallied, size_leave registered] at tallied
    have left : ((state.leave user).record .evicted).Tallied policies := tallied.evict chosen
    exact left.publish rfl
  | dropped registered found attended full chosen => exact tallied.drop chosen
  | closed registered gone =>
    rw [Tallied, size_leave registered] at tallied
    have left := tallied.close
    rw [Tallied, discard, closed_publish]
    exact left

/-- They fit after any operation. -/
theorem perform (tallied : state.Tallied policies) (operation : Operation) :
    (state.perform policies operation).Tallied policies := by
  rcases state.perform_cases policies operation with ⟨request, rfl, same⟩ | ⟨_, outboxes, same⟩
  · rw [same]
    cases request with
    | register handle => exact tallied.register handle
    | unregister user connection => exact tallied.unregister user connection
    | fanout request =>
      exact fanOut_preserves (Tallied policies) (fun tallied => { tallied with })
        (fun user tallied => tallied.deliver request.payload user) tallied
  · rw [same]
    exact tallied

end Tallied

end State

/-- The counters fit the registry after every run. -/
theorem tallied_after (policies : Policies) (run : List Operation) :
    (State.after policies run).Tallied policies := by
  induction run using List.reverseRecOn with
  | nil => exact ⟨rfl, fun _ => rfl, fun _ => rfl, fun _ => rfl, fun _ => rfl⟩
  | append_singleton past operation ih =>
    rw [after_concat]
    exact ih.perform operation

end Switchboard.Hub
