import Switchboard.Hub.Facade
import Switchboard.Proofs.Config.Fitness
import Switchboard.Proofs.Hub.Run

/-!
# The channels of a hub

A hub makes a queue for each of its lanes, a channel for its events, and an outbox for every
connection. Each of them can be made only up to a size, and none without room. Settings that pass
the check have room for everything, and what is made is exactly what they ask for; but nothing keeps
them from asking for too much. So all channels can be made, now and later, exactly if the settings
stay within the limits, which has to be checked by somebody else (`provision`).
-/

namespace Switchboard

open Hub

namespace Hub

/-- The longest queue that can be made. -/
def maxQueueCapacity : Nat := (UInt64.size - 1) >>> 3

/-- The greatest number of events that a channel can be asked to keep. -/
def maxEventCapacity : Nat := (UInt64.size - 1) >>> 1

/-- The sizes of the lanes. -/
def laneCapacities (hub : Hub) : List Nat :=
  [hub.dispatcher.registering.capacity, hub.dispatcher.unregistering.capacity,
    hub.dispatcher.fanning.capacity]

/-- The size of the outbox that a connection gets. -/
def outboxCapacity? (hub : Hub) (user : UserId) : Option Nat :=
  let (after, handle) := hub.connect user
  after.state.outboxes[handle.connection]?.map (·.capacity)

/-! ## A hub in use -/

/-- What may be done with a hub. -/
inductive Use where
  /-- The dispatcher applies what waits. -/
  | settle
  /-- A connection is made, of the size that the settings give. -/
  | connect (user : UserId)
  /-- A connection is made, of another size. -/
  | create (user : UserId) (capacity : Nat)
  | register (handle : Handle)
  | unregister (user : UserId) (connection : ConnectionId)
  | submit (request : FanoutRequest)
  /-- A maker or a writer uses its end of an outbox. -/
  | operate (operation : Operation)
  | write (lines : List Entry)
  | setReachable (reachable : Bool)
  | kill

/-- The hub after a use. -/
def use (hub : Hub) : Use → Hub
  | .settle => hub.settle
  | .connect user => (hub.connect user).1
  | .create user capacity => (hub.createConnection user capacity).1
  | .register handle => (hub.register handle).1
  | .unregister user connection => (hub.unregister user connection).1
  | .submit request => (hub.submit request).1
  | .operate operation => hub.changeState (·.perform hub.dispatcher.policies operation)
  | .write lines => hub.write lines
  | .setReachable reachable => hub.setReachable reachable
  | .kill => hub.kill

/-- A request does not change the settings. -/
theorem config_enqueue (hub : Hub) (request : Request) :
    (hub.enqueue request).1.config = hub.config := by
  unfold enqueue
  split
  · rfl
  · split <;> rfl

/-- Nor does a registration. -/
theorem config_register (hub : Hub) (handle : Handle) :
    (hub.register handle).1.config = hub.config := by
  have kept := config_enqueue hub (.register handle)
  unfold register
  split
  next after entered =>
    rw [entered] at kept
    exact kept
  next after error refused =>
    rw [refused] at kept
    exact kept

/-- Nor does a fan-out. -/
theorem config_submit (hub : Hub) (request : FanoutRequest) :
    (hub.submit request).1.config = hub.config := by
  unfold submit
  split
  · rfl
  · exact config_enqueue hub (.fanout request)

/-- Nor does any use of a hub. -/
theorem config_use (hub : Hub) (use : Use) : (hub.use use).config = hub.config := by
  cases use with
  | register handle => exact config_register hub handle
  | unregister user connection => exact config_enqueue hub (.unregister user connection)
  | submit request => exact config_submit hub request
  | settle | connect | create | operate | write | setReachable | kill => rfl

/-- The settings of a hub stay what they are. -/
theorem config_foldl_use (hub : Hub) (uses : List Use) :
    (uses.foldl use hub).config = hub.config := by
  induction uses generalizing hub with
  | nil => rfl
  | cons first rest ih => exact (ih (hub.use first)).trans (config_use hub first)

/-- An outbox is made with room for one payload at least. -/
theorem outboxCapacity?_eq (hub : Hub) (user : UserId) :
    hub.outboxCapacity? user = some (max 1 hub.config.outboxCapacity.toNat) := by
  simp [outboxCapacity?, connect, createConnection, changeState, state, State.addOutbox,
    Outbox.create]

/-- Lanes are made with room for one request at least. -/
theorem laneCapacities_create (config : HubConfig) :
    (create config).laneCapacities =
      [max 1 config.registerQueue.toNat, max 1 config.unregisterQueue.toNat,
        max 1 config.fanoutQueue.toNat] := rfl

/-! ## What can be made -/

/-- Everything that a hub with these settings makes can be made, at the start and at any time. -/
structure Equips (config : HubConfig) : Prop where
  lanes : ∀ capacity ∈ (create config).laneCapacities,
    1 ≤ capacity ∧ capacity ≤ maxQueueCapacity
  events : 1 ≤ (create config).eventCapacity ∧ (create config).eventCapacity ≤ maxEventCapacity
  outboxes : ∀ (uses : List Use) (user : UserId), ∃ capacity,
    (uses.foldl use (create config)).outboxCapacity? user = some capacity ∧
      1 ≤ capacity ∧ capacity ≤ maxQueueCapacity

/-- What a hub makes of settings that pass the check. -/
structure Provision (config : HubConfig) : Prop where
  lanes : (create config).laneCapacities =
    [config.registerQueue.toNat, config.unregisterQueue.toNat, config.fanoutQueue.toNat]
  events : (create config).eventCapacity = config.presenceChannel.toNat
  outboxes : ∀ (uses : List Use) (user : UserId),
    (uses.foldl use (create config)).outboxCapacity? user = some config.outboxCapacity.toNat
  positive : ∀ size ∈ [config.registerQueue, config.unregisterQueue, config.fanoutQueue,
    config.presenceChannel, config.outboxCapacity], 1 ≤ size.toNat
  /-- Only too large a size keeps something from being made. -/
  equips_iff : Equips config ↔
    (∀ size ∈ [config.registerQueue, config.unregisterQueue, config.fanoutQueue,
      config.outboxCapacity], size.toNat ≤ maxQueueCapacity) ∧
    config.presenceChannel.toNat ≤ maxEventCapacity

/-- What is not zero is at least one. -/
theorem one_le_toNat {size : UInt64} (nonzero : size ≠ 0) : 1 ≤ size.toNat := by
  rw [Nat.one_le_iff_ne_zero]
  exact fun isZero => nonzero (UInt64.toNat_inj.mp isZero)

end Hub

/-- Settings that pass the check get what they ask for, if it can be made at all. -/
theorem Config.provision {config : Config} (valid : config.validate = .ok ()) :
    Provision config.hub := by
  have fit := Config.validate_eq_ok_iff.mp valid
  have register := one_le_toNat fit.registerQueue
  have unregister := one_le_toNat fit.unregisterQueue
  have fanout := one_le_toNat fit.fanoutQueue
  have presence := one_le_toNat fit.presenceChannel
  have outbox := one_le_toNat fit.outboxCapacity
  have lanes : (Hub.create config.hub).laneCapacities =
      [config.hub.registerQueue.toNat, config.hub.unregisterQueue.toNat,
        config.hub.fanoutQueue.toNat] := by
    rw [laneCapacities_create, Nat.max_eq_right register, Nat.max_eq_right unregister,
      Nat.max_eq_right fanout]
  have events : (Hub.create config.hub).eventCapacity = config.hub.presenceChannel.toNat :=
    Nat.max_eq_right presence
  have outboxes (uses : List Use) (user : UserId) :
      (uses.foldl use (Hub.create config.hub)).outboxCapacity? user =
        some config.hub.outboxCapacity.toNat := by
    rw [outboxCapacity?_eq, config_foldl_use]
    exact congrArg some (Nat.max_eq_right outbox)
  have positive : ∀ size ∈ [config.hub.registerQueue, config.hub.unregisterQueue,
      config.hub.fanoutQueue, config.hub.presenceChannel, config.hub.outboxCapacity],
      1 ≤ size.toNat := by
    simp only [List.forall_mem_cons]
    exact ⟨register, unregister, fanout, presence, outbox, by simp⟩
  constructor
  case lanes => exact lanes
  case events => exact events
  case outboxes => exact outboxes
  case positive => exact positive
  case equips_iff =>
    simp only [List.forall_mem_cons]
    constructor
    · intro equips
      have made := equips.lanes
      simp only [lanes, List.forall_mem_cons] at made
      obtain ⟨⟨-, first⟩, ⟨-, second⟩, ⟨-, third⟩, -⟩ := made
      obtain ⟨capacity, is, -, fourth⟩ := equips.outboxes [] 0
      rw [outboxes, Option.some.injEq] at is
      exact ⟨⟨first, second, third, is ▸ fourth, by simp⟩, events ▸ equips.events.2⟩
    · rintro ⟨⟨first, second, third, fourth, -⟩, fifth⟩
      constructor
      case lanes =>
        simp only [lanes, List.forall_mem_cons]
        exact ⟨⟨register, first⟩, ⟨unregister, second⟩, ⟨fanout, third⟩, by simp⟩
      case events => exact events ▸ ⟨presence, fifth⟩
      case outboxes => exact fun uses user => ⟨_, outboxes uses user, outbox, fourth⟩

/-- The settings that come with the program pass the check and get what they ask for. -/
theorem Config.provision_default :
    validate {} = .ok () ∧ Provision ({} : Config).hub :=
  ⟨rfl, Config.provision rfl⟩

/-- Settings that ask for outboxes of one payload more than can be made. -/
def Config.oversized : Config := { hub := { outboxCapacity := maxOutboxCapacity + 1 } }

/-- They pass the check. -/
theorem Config.validate_oversized : oversized.validate = .ok () :=
  validate_eq_ok_iff.mpr (by constructor <;> decide)

/-- Settings that pass the check may ask for outboxes that cannot be made. -/
theorem Config.not_equips_of_validate :
    ¬ ∀ config : Config, config.validate = .ok () → Equips config.hub := by
  intro always
  obtain ⟨capacity, is, -, fits⟩ := (always oversized validate_oversized).outboxes [] 7
  rw [outboxCapacity?_eq, config_foldl_use, Option.some.injEq] at is
  have tooLarge :
      max 1 (create oversized.hub).config.outboxCapacity.toNat = maxQueueCapacity + 1 := by decide
  omega

end Switchboard
