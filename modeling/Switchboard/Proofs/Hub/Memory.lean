import Mathlib.Algebra.BigOperators.Group.List.Basic
import Mathlib.Algebra.Order.BigOperators.Group.List
import Mathlib.Algebra.Order.Ring.Nat
import Mathlib.Data.List.Nodup
import Switchboard.Proofs.Hub.Stream

/-!
# How much a hub holds

Where every connection is given the same room and payloads come from requests alone, an outbox holds
payloads only if its connection is registered or was until the hub let go of it. The writers of those
that it has let go of may take their time, so what bounds the payloads is the number of registered
connections and of those that linger (`load_bounds`), not the number of registered ones
(`not_load_le_registered`).
-/

namespace Switchboard.Hub

/-! ## All outboxes -/

namespace State

/-- The connections that have an outbox, each with its user, and their outboxes. -/
def parties (state : State) : List (Handle × Outbox) :=
  state.outboxes.toList.map fun entry => (⟨entry.1, entry.2.owner⟩, entry.2)

/-- The number of payloads in all outboxes. -/
def load (state : State) : Nat := (state.parties.map fun party => party.2.buffer.length).sum

/-- The number of payloads in the outboxes of registered connections. -/
def registeredLoad (state : State) : Nat :=
  ((state.parties.filter fun party => state.Registers party.1).map fun party =>
    party.2.buffer.length).sum

/-- The connections that are not registered and whose outboxes still hold payloads. -/
def lingering (state : State) : List Handle :=
  ((state.parties.filter fun party => ¬ state.Registers party.1).filter fun party =>
    party.2.buffer ≠ []).map Prod.fst

variable {past : List Operation} {state : State}

/-- A party is a connection with its outbox. -/
theorem mem_parties {party : Handle × Outbox} :
    party ∈ state.parties ↔
      state.outboxes[party.1.connection]? = some party.2 ∧ party.2.owner = party.1.user := by
  obtain ⟨⟨connection, user⟩, outbox⟩ := party
  simp only [parties, List.mem_map, Std.ExtTreeMap.mem_toList_iff_getElem?_eq_some, Prod.exists]
  constructor
  · rintro ⟨_, _, found, same⟩
    cases same
    exact ⟨found, rfl⟩
  · rintro ⟨found, rfl⟩
    exact ⟨connection, outbox, found, rfl⟩

/-- Each connection has one outbox. -/
theorem nodup_parties (state : State) :
    (state.parties.map fun party => party.1.connection).Nodup := by
  rw [parties, List.map_map]
  exact (Std.ExtTreeMap.map_fst_toList_eq_keys (t := state.outboxes)).symm ▸
    Std.ExtTreeMap.nodup_keys

/-- A user has at most one registered connection. -/
theorem length_registered_le (state : State) :
    (state.parties.filter fun party => state.Registers party.1).length ≤ state.registry.size := by
  have users : ((state.parties.filter fun party => state.Registers party.1).map
      fun party => party.1.user).Nodup := by
    have connections : ((state.parties.filter fun party => state.Registers party.1).map
        fun party => party.1.connection).Nodup :=
      state.nodup_parties.sublist (List.filter_sublist.map _)
    refine (List.nodup_map_iff_inj_on ?_).mpr fun first firstHere second secondHere same => ?_
    · exact connections.of_map _
    · have firstRegistered : state.Registers first.1 := by
        simpa using (List.mem_filter.mp firstHere).2
      have secondRegistered : state.Registers second.1 := by
        simpa using (List.mem_filter.mp secondHere).2
      rw [Registers, same] at firstRegistered
      have handles : first.1 = second.1 :=
        Option.some.inj (firstRegistered.symm.trans secondRegistered)
      exact List.inj_on_of_nodup_map connections firstHere secondHere
        (congrArg Handle.connection handles)
  have included : ((state.parties.filter fun party => state.Registers party.1).map
      fun party => party.1.user) ⊆ state.registry.keys := by
    intro user member
    obtain ⟨party, here, rfl⟩ := List.mem_map.mp member
    have registered : state.Registers party.1 := by simpa using (List.mem_filter.mp here).2
    rw [Std.ExtTreeMap.mem_keys, Std.ExtTreeMap.mem_iff_isSome_getElem?, registered]
    rfl
  have fewer := (List.subperm_of_subset users included).length_le
  rwa [List.length_map, Std.ExtTreeMap.length_keys] at fewer

/-- A connection lingers if it is not registered and its outbox holds payloads. -/
theorem mem_lingering {handle : Handle} :
    handle ∈ state.lingering ↔ ¬ state.Registers handle ∧ ∃ outbox,
      state.outboxes[handle.connection]? = some outbox ∧ outbox.owner = handle.user ∧
        outbox.buffer ≠ [] := by
  simp only [lingering, List.mem_map, List.mem_filter, decide_eq_true_eq, mem_parties, Prod.exists]
  constructor
  · rintro ⟨handle, outbox, ⟨⟨⟨found, owned⟩, absent⟩, holds⟩, rfl⟩
    exact ⟨absent, outbox, found, owned, holds⟩
  · rintro ⟨absent, outbox, found, owned, holds⟩
    exact ⟨handle, outbox, ⟨⟨⟨found, owned⟩, absent⟩, holds⟩, rfl⟩

/-- No connection lingers twice. -/
theorem nodup_lingering (state : State) : state.lingering.Nodup := by
  have connections : (state.lingering.map Handle.connection).Nodup := by
    rw [lingering, List.map_map]
    exact state.nodup_parties.sublist
      ((List.filter_sublist.trans List.filter_sublist).map
        fun party : Handle × Outbox => party.1.connection)
  exact connections.of_map

/-- A sum of lengths that are all within a room. -/
theorem sum_lengths_le {parties : List (Handle × Outbox)} {room : Nat}
    (each : ∀ party ∈ parties, party.2.buffer.length ≤ room) :
    (parties.map fun party => party.2.buffer.length).sum ≤ parties.length * room := by
  have bounded := List.sum_le_card_nsmul (parties.map fun party => party.2.buffer.length) room
    fun length member => by
      obtain ⟨party, here, rfl⟩ := List.mem_map.mp member
      exact each party here
  simpa using bounded

/-- What is not in the outboxes of registered connections is in those of lingering ones. -/
theorem load_le {room : Nat}
    (each : ∀ party ∈ state.parties, party.2.buffer.length ≤ room) :
    state.load ≤ state.registeredLoad + state.lingering.length * room := by
  have parted := List.sum_map_filter_add_sum_map_filter_not
    (fun party : Handle × Outbox => state.Registers party.1)
    (fun party => party.2.buffer.length) state.parties
  have others : ((state.parties.filter fun party => ¬ state.Registers party.1).map
      fun party => party.2.buffer.length).sum ≤ state.lingering.length * room := by
    have filled := List.sum_map_filter_add_sum_map_filter_not
      (fun party : Handle × Outbox => party.2.buffer ≠ []) (fun party => party.2.buffer.length)
      (state.parties.filter fun party => ¬ state.Registers party.1)
    have empty : (((state.parties.filter fun party => ¬ state.Registers party.1).filter
        fun party => ¬ party.2.buffer ≠ []).map fun party => party.2.buffer.length).sum = 0 := by
      refine List.sum_eq_zero fun length member => ?_
      obtain ⟨party, here, rfl⟩ := List.mem_map.mp member
      simpa using (List.mem_filter.mp here).2
    rw [← filled, empty, Nat.add_zero, lingering, List.length_map]
    refine sum_lengths_le fun party member => each party ?_
    exact List.mem_of_mem_filter (List.mem_of_mem_filter member)
  rw [load, ← parted, registeredLoad]
  exact Nat.add_le_add_left others _

end State

/-! ## Runs where connections have the same room -/

/-- An operation of a hub where connections have the same room and makers push nothing. -/
def Operation.Plain (capacity : Nat) : Operation → Prop
  | .connect _ room => room = capacity
  | .push _ _ => False
  | _ => True

instance (capacity : Nat) (operation : Operation) : Decidable (operation.Plain capacity) :=
  match operation with
  | .connect _ room => inferInstanceAs (Decidable (room = capacity))
  | .push _ _ => inferInstanceAs (Decidable False)
  | .close _ | .apply _ | .receive _ | .abandon _ => inferInstanceAs (Decidable True)

variable {policies : Policies} {capacity : Nat} {run : List Operation}

/-- No outbox holds more than it has room for. -/
theorem length_buffer_le (policies : Policies) (lawful : Lawful run)
    (plain : ∀ operation ∈ run, operation.Plain capacity) {connection : ConnectionId}
    {outbox : Outbox} (found : (State.after policies run).outboxes[connection]? = some outbox) :
    outbox.buffer.length ≤ max 1 capacity := by
  have suits := (sound_after policies lawful).suits found
  obtain ⟨operation, member, makes⟩ := List.mem_filterMap.mp suits.made
  cases operation with
  | connect handle room =>
    obtain rfl := Option.some.inj makes
    have same : room = capacity := plain _ member
    have fits := suits.fits
    rwa [suits.capacity_eq member, same] at fits
  | _ => cases makes

/-- What an outbox holds has come from requests that have found its connection registered. -/
theorem exists_registers_of_buffered (policies : Policies) (lawful : Lawful run)
    (plain : ∀ operation ∈ run, operation.Plain capacity) {handle : Handle}
    (isMade : handle ∈ made run)
    (holds : (State.after policies run).buffered handle.connection ≠ []) :
    ∃ before, before <+: run ∧ (State.after policies before).Registers handle := by
  have balance := conservation policies lawful (lawful.sole isMade)
  have entered : (trail policies run).flatMap
      (fun entry => pushed handle entry ++ fanned handle entry) ≠ [] := by
    rw [balance]
    simp [holds]
  obtain ⟨entry, member, brings⟩ : ∃ entry ∈ trail policies run,
      pushed handle entry ++ fanned handle entry ≠ [] := by
    simpa only [ne_eq, List.flatMap_eq_nil_iff, not_forall, exists_prop] using entered
  obtain ⟨before, operation, later, rfl, rfl⟩ := @exists_of_mem_trailFrom policies [] run _ member
  refine ⟨before, List.prefix_append _ _, ?_⟩
  by_contra absent
  have notFanned : fanned handle (State.after policies before, operation) = [] :=
    fanned_eq_nil_of_not_registers absent
  have notPushed : pushed handle (State.after policies before, operation) = [] := by
    cases operation with
    | push other payload => exact (plain (.push other payload) (by simp)).elim
    | _ => rfl
  exact brings (by rw [List.nil_append, notPushed, notFanned]; rfl)

/-- What the outboxes hold after a run where connections have the same room. -/
structure Bounded (policies : Policies) (capacity : Nat) (run : List Operation) : Prop where
  registered : (State.after policies run).registeredLoad ≤
    (State.after policies run).registry.size * max 1 capacity
  all : (State.after policies run).load ≤
    ((State.after policies run).registry.size + (State.after policies run).lingering.length) *
      max 1 capacity
  distinct : (State.after policies run).lingering.Nodup
  let_go : ∀ {handle : Handle}, handle ∈ (State.after policies run).lingering →
    ¬ (State.after policies run).Registers handle ∧
      ∃ before, before <+: run ∧ (State.after policies before).Registers handle

/-- Registered connections and those that the hub has let go of while their outboxes were not empty
hold no more payloads than there is room for. -/
theorem load_bounds (policies : Policies) (lawful : Lawful run)
    (plain : ∀ operation ∈ run, operation.Plain capacity) : Bounded policies capacity run := by
  have each : ∀ party ∈ (State.after policies run).parties,
      party.2.buffer.length ≤ max 1 capacity := fun party member =>
    length_buffer_le policies lawful plain (State.mem_parties.mp member).1
  have registered : (State.after policies run).registeredLoad ≤
      (State.after policies run).registry.size * max 1 capacity :=
    calc (State.after policies run).registeredLoad
        ≤ ((State.after policies run).parties.filter fun party =>
            (State.after policies run).Registers party.1).length * max 1 capacity :=
          State.sum_lengths_le fun party member => each party (List.mem_of_mem_filter member)
      _ ≤ (State.after policies run).registry.size * max 1 capacity :=
          Nat.mul_le_mul_right _ (State.length_registered_le _)
  constructor
  case registered => exact registered
  case all =>
    rw [Nat.add_mul]
    exact (State.load_le each).trans (Nat.add_le_add_right registered _)
  case distinct => exact State.nodup_lingering _
  case let_go =>
    intro handle member
    obtain ⟨absent, outbox, found, owned, holds⟩ := State.mem_lingering.mp member
    have isMade := ((sound_after policies lawful).suits found).made
    have named : (⟨handle.connection, outbox.owner⟩ : Handle) = handle := by rw [owned]
    rw [named] at isMade
    rw [← State.buffered_of_found found] at holds
    exact ⟨absent, exists_registers_of_buffered policies lawful plain isMade holds⟩

/-- A connection is sent a payload and unregistered before its writer has taken it. -/
def departed : List Operation :=
  [.connect ⟨⟨0⟩, 1⟩ 4, .apply (.register ⟨⟨0⟩, 1⟩),
    .apply (.fanout (.to [1] "x".toUTF8)), .apply (.unregister 1 ⟨0⟩)]

/-- In such a run the bounds hold. -/
theorem load_bounds_departed :
    Lawful departed ∧ (∀ operation ∈ departed, operation.Plain 4) ∧
      Bounded ⟨.evict, .replace⟩ 4 departed := by
  have lawful : Lawful departed := lawful_of_follows (by decide)
  have plain : ∀ operation ∈ departed, operation.Plain 4 := by decide
  exact ⟨lawful, plain, load_bounds ⟨.evict, .replace⟩ lawful plain⟩

/-- A connection that is no longer registered may hold a payload when nobody is registered. -/
theorem not_load_le_registered :
    ¬ ∀ (policies : Policies) (capacity : Nat) (run : List Operation),
      Lawful run → (∀ operation ∈ run, operation.Plain capacity) →
        (∀ connection, .abandon connection ∉ run) →
          (State.after policies run).load ≤
            (State.after policies run).registry.size * max 1 capacity := by
  intro always
  have nothing := always ⟨.evict, .replace⟩ 4 departed (lawful_of_follows (by decide)) (by decide)
    (by simp [departed])
  have one : (State.after ⟨.evict, .replace⟩ departed).load = 1 := by decide +kernel
  have nobody : (State.after ⟨.evict, .replace⟩ departed).registry.size = 0 := by decide +kernel
  rw [one, nobody] at nothing
  exact absurd nothing (by decide)

end Switchboard.Hub
