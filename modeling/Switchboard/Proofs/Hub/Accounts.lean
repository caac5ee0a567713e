import Mathlib.Algebra.BigOperators.Group.List.Basic
import Mathlib.Algebra.Ring.Nat
import Mathlib.Data.List.Nodup
import Switchboard.Proofs.Hub.Stream
import Switchboard.Proofs.Hub.Tally

/-!
# The counters account for everything

A payload that is counted as delivered is one that a fan-out has put into an outbox
(`delivered_after`), and from there it goes to the writer, stays, or is lost with the writer.
`accounts` puts this together with what the other counters say.
-/

namespace Switchboard.Hub

variable {policies : Policies} {past : List Operation} {state : State}

/-! ## Payloads that are delivered -/

/-- Handles are made one by one. -/
theorem Lawful.nodup_made {run : List Operation} (lawful : Lawful run) : (made run).Nodup := by
  induction lawful with
  | start => exact List.nodup_nil
  | @step past operation lawful follows ih =>
    rw [made_concat]
    cases operation with
    | connect handle capacity =>
      refine List.nodup_append.mpr ⟨ih, List.nodup_singleton handle, ?_⟩
      intro earlier isMade other now same
      obtain rfl := List.mem_singleton.mp now
      exact follows earlier isMade (congrArg Handle.connection same)
    | _ => simpa [Operation.made?] using ih

/-- The number of payloads that wait for the writers of connections. -/
def State.waiting (state : State) (handles : List Handle) : Nat :=
  (handles.map fun handle => (state.buffered handle.connection).length).sum

/-- A payload that is put into an outbox waits there, and nowhere else. -/
theorem waiting_append (lawful : Lawful past) {holder : Handle} (isMade : holder ∈ made past)
    {outbox : Outbox} (found : state.outboxes[holder.connection]? = some outbox)
    (payload : Payload) :
    (state.changeOutbox holder.connection (·.append payload)).waiting (made past) =
      state.waiting (made past) + 1 := by
  have single (handle : Handle) (handleMade : handle ∈ made past) :
      ((state.changeOutbox holder.connection (·.append payload)).buffered
          handle.connection).length =
        (state.buffered handle.connection).length + if handle = holder then 1 else 0 := by
    by_cases same : handle = holder
    · subst same
      have appended : (state.changeOutbox handle.connection (·.append payload)).outboxes[
          handle.connection]? = some (outbox.append payload) := by
        rw [State.getElem?_changeOutbox, if_pos rfl, found, Option.map_some]
      rw [State.buffered_of_found appended, State.buffered_of_found found, if_pos rfl]
      exact List.length_append
    · have elsewhere : holder.connection ≠ handle.connection := fun shared =>
        same (lawful.made_unique handleMade isMade shared.symm)
      rw [State.buffered_changeOutbox fun _ shared => absurd shared elsewhere, if_neg same,
        Nat.add_zero]
  have once : ((made past).map fun handle => if handle = holder then 1 else 0).sum = 1 := by
    rw [List.sum_map_eq_nsmul_single holder _ fun other different _ => if_neg different,
      List.count_eq_one_of_mem lawful.nodup_made isMade, if_pos rfl, one_nsmul]
  rw [State.waiting, List.map_congr_left single, List.sum_map_add, once, State.waiting]

/-- Letting go of a connection leaves what waits in outboxes. -/
theorem waiting_discard (user : UserId) (connection : ConnectionId) (reason : OfflineReason)
    (handles : List Handle) :
    (state.discard user connection reason).waiting handles = state.waiting handles := by
  have single (handle : Handle) :
      (state.discard user connection reason).buffered handle.connection =
        state.buffered handle.connection := state.buffered_release connection handle.connection
  simp only [State.waiting, single]

/-- A delivery adds to what waits what it counts as delivered. -/
theorem delivered_deliver (sound : Sound past none state) (lawful : Lawful past)
    (policy : OverflowPolicy) (payload : Payload) (user : UserId) :
    (state.deliver policy payload user).1.counters.delivered + state.waiting (made past) =
      state.counters.delivered + (state.deliver policy payload user).1.waiting (made past) := by
  have outcome := state.deliver_cases policy payload user
  generalize state.deliver policy payload user = result at outcome
  cases outcome with
  | offline absent => rfl
  | @delivered handle outbox registered found attended room =>
    have isMade := lawful.made_of_spent (mem_spent_of_register (sound.given registered))
    have appended := waiting_append lawful isMade found payload
    change state.counters.delivered + 1 + state.waiting (made past) =
      state.counters.delivered +
        (state.changeOutbox handle.connection (·.append payload)).waiting (made past)
    omega
  | evicted registered found attended full chosen =>
    rw [waiting_discard]
    rfl
  | dropped registered found attended full chosen => rfl
  | closed registered gone =>
    rw [waiting_discard]
    rfl

/-- A fan-out counts as delivered what it puts into outboxes. -/
theorem delivered_fanOut (sound : Sound past none state) (lawful : Lawful past)
    (policy : OverflowPolicy) (request : FanoutRequest) :
    (state.fanOut policy request).1.counters.delivered =
      state.counters.delivered +
        ((made past).map fun handle =>
          (fanned handle (state, .apply (.fanout request))).length).sum := by
  have balanced : Sound past none (state.fanOut policy request).1 ∧
      (state.fanOut policy request).1.counters.delivered + state.waiting (made past) =
        state.counters.delivered + (state.fanOut policy request).1.waiting (made past) :=
    State.fanOut_preserves
      (fun current => Sound past none current ∧
        current.counters.delivered + state.waiting (made past) =
          state.counters.delivered + current.waiting (made past))
      (fun both => ⟨both.1.record .fanout, both.2⟩)
      (fun user both => by
        have step := delivered_deliver both.1 lawful policy request.payload user
        exact ⟨both.1.deliver lawful policy request.payload user, by omega⟩)
      ⟨sound, rfl⟩
  -- The counter and what waits grow by the same, and what waits grows by what is put in.
  have grown : (state.fanOut policy request).1.waiting (made past) =
      state.waiting (made past) + ((made past).map fun handle =>
        (fanned handle (state, .apply (.fanout request))).length).sum := by
    rw [State.waiting, State.waiting, ← List.sum_map_add]
    refine congrArg List.sum (List.map_congr_left fun handle isMade => ?_)
    rw [buffered_fanOut sound lawful (lawful.sole isMade) policy request, List.length_append]
  have equation := balanced.2
  omega

/-- An operation counts as delivered what it adds to outboxes by a fan-out. -/
theorem delivered_perform (sound : Sound past none state) (lawful : Lawful past)
    (policies : Policies) (operation : Operation) :
    (state.perform policies operation).counters.delivered =
      state.counters.delivered +
        ((made past).map fun handle => (fanned handle (state, operation)).length).sum := by
  have aside (none : ∀ handle, fanned handle (state, operation) = [])
      (same : (state.perform policies operation).counters.delivered = state.counters.delivered) :
      (state.perform policies operation).counters.delivered =
        state.counters.delivered +
          ((made past).map fun handle => (fanned handle (state, operation)).length).sum := by
    simp [none, same]
  rcases state.perform_cases policies operation with ⟨request, rfl, same⟩ | ⟨idle, outboxes, same⟩
  · cases request with
    | register handle =>
      refine aside (fun _ => rfl) ?_
      rw [same]
      have outcome := state.register_cases policies.duplicate handle
      simp only [State.apply]
      generalize state.register policies.duplicate handle = result at outcome
      cases outcome with
      | ignored | inserted | replaced | rejected => rfl
    | unregister user connection =>
      refine aside (fun _ => rfl) ?_
      rw [same]
      have outcome := state.unregister_cases user connection
      simp only [State.apply]
      generalize state.unregister user connection = result at outcome
      cases outcome with
      | removed | stale => rfl
    | fanout request => exact delivered_fanOut sound lawful policies.overflow request
  · refine aside (fun handle => ?_) (by rw [same])
    cases operation with
    | apply request => cases idle
    | _ => rfl

/-- The handle of a connection that is made is new. -/
theorem not_mem_spent_of_made {operation : Operation} {handle : Handle}
    (lawful : Lawful (past ++ [operation])) (makes : operation.made? = some handle) :
    handle ∉ spent (past ++ [operation]) := by
  cases operation with
  | connect other capacity =>
    obtain rfl := Option.some.inj makes
    have fresh : ∀ earlier ∈ made past, earlier.connection ≠ other.connection := lawful.follows
    rw [spent_concat]
    simp only [Operation.spent?, Option.toList_none, List.append_nil]
    exact fun given => fresh other (lawful.of_append.made_of_spent given) rfl
  | _ => cases makes

/-- What is counted as delivered is what fan-outs have put into outboxes. -/
theorem delivered_after (policies : Policies) {run : List Operation} (lawful : Lawful run) :
    (State.after policies run).counters.delivered =
      ((made run).map fun handle =>
        ((trail policies run).flatMap (fanned handle)).length).sum := by
  induction lawful with
  | start => rfl
  | @step past operation lawful follows ih =>
    have sound := sound_after policies lawful
    have lawfulNow := lawful.step follows
    -- Nothing has been put into the outbox of a connection that is only made now.
    have newcomers : (operation.made?.toList.map fun handle =>
        ((trail policies (past ++ [operation])).flatMap (fanned handle)).length).sum = 0 := by
      cases makes : operation.made? with
      | none => rfl
      | some handle =>
        have nothing : (trail policies (past ++ [operation])).flatMap (fanned handle) = [] :=
          List.flatMap_eq_nil_iff.mpr fun entry =>
            fanned_before policies lawfulNow (not_mem_spent_of_made lawfulNow makes)
        rw [Option.toList_some, List.map_singleton, nothing]
        rfl
    rw [made_concat, List.map_append, List.sum_append, newcomers, Nat.add_zero, after_concat,
      delivered_perform sound lawful, ih, ← List.sum_map_add]
    simp only [trail_concat, List.flatMap_append, List.flatMap_singleton, List.length_append]

/-! ## Where payloads are -/

/-- Who has put a payload into an outbox. -/
inductive Origin where
  | maker
  | fanout
deriving DecidableEq

/-- Payloads that were put into an outbox, by what has become of them. -/
structure Parcels where
  received : List (Origin × Payload)
  lost : List (Origin × Payload)
  waiting : List (Origin × Payload)

/-- Everything that was put into a connection's outbox, and who has put it there. -/
def entered (policies : Policies) (run : List Operation) (handle : Handle) :
    List (Origin × Payload) :=
  (trail policies run).flatMap fun entry =>
    (pushed handle entry).map (.maker, ·) ++ (fanned handle entry).map (.fanout, ·)

/-- The number of payloads that fan-outs have put in. -/
def fromFanouts (payloads : List (Origin × Payload)) : Nat :=
  payloads.countP fun payload => payload.1 = .fanout

/-- The payloads that were put into a connection's outbox are those that its writer has received,
those that were lost with the writer and those that are still there, in this order. -/
structure Parcels.Fit (policies : Policies) (run : List Operation) (handle : Handle)
    (parcels : Parcels) : Prop where
  all : entered policies run handle = parcels.received ++ (parcels.lost ++ parcels.waiting)
  received_eq : parcels.received.map Prod.snd = Hub.received policies run handle.connection
  lost_eq : parcels.lost.map Prod.snd = Hub.lost policies run handle.connection
  waiting_eq :
    parcels.waiting.map Prod.snd = (State.after policies run).buffered handle.connection

/-- The payloads for a connection can be parted into received, waiting and lost ones. -/
theorem exists_parcels (policies : Policies) {run : List Operation} (lawful : Lawful run)
    {handle : Handle} (isMade : handle ∈ made run) :
    ∃ parcels : Parcels, parcels.Fit policies run handle := by
  have payloads : (entered policies run handle).map Prod.snd =
      received policies run handle.connection ++ (lost policies run handle.connection ++
        (State.after policies run).buffered handle.connection) := by
    rw [← conservation policies lawful (lawful.sole isMade), entered, List.map_flatMap]
    simp [Function.comp_def]
  obtain ⟨first, rest, all, received_eq, others⟩ := List.map_eq_append_iff.mp payloads
  obtain ⟨second, third, rfl, lost_eq, waiting_eq⟩ := List.map_eq_append_iff.mp others
  exact ⟨⟨first, second, third⟩, all, received_eq, lost_eq, waiting_eq⟩

/-- Of what has entered an outbox, as much is from fan-outs as they have added. -/
theorem fromFanouts_entered (policies : Policies) (run : List Operation) (handle : Handle) :
    fromFanouts (entered policies run handle) =
      ((trail policies run).flatMap (fanned handle)).length := by
  have single (entry : State × Operation) :
      ((pushed handle entry).map (Origin.maker, ·) ++
          (fanned handle entry).map (Origin.fanout, ·)).countP
          (fun payload => payload.1 = .fanout) = (fanned handle entry).length := by
    simp [List.countP_append, List.countP_map, Function.comp_def]
  rw [fromFanouts, entered, List.countP_flatMap, List.length_flatMap]
  exact congrArg List.sum (List.map_congr_left fun entry _ => single entry)

/-- What fan-outs have added has been received, waits or is lost. -/
theorem Parcels.Fit.fromFanouts_eq {policies : Policies} {run : List Operation} {handle : Handle}
    {parcels : Parcels} (fit : parcels.Fit policies run handle) :
    ((trail policies run).flatMap (fanned handle)).length =
      fromFanouts parcels.received + fromFanouts parcels.waiting + fromFanouts parcels.lost := by
  rw [← fromFanouts_entered, fit.all]
  simp only [fromFanouts, List.countP_append]
  omega

/-! ## The accounts -/

/-- What the counters say, and the presence events, of what has happened. -/
structure Accounts (policies : Policies) (run : List Operation) (state : State) : Prop where
  size_eq :
    state.counters.registered =
      state.registry.size + state.counters.replaced + state.counters.unregistered +
        state.counters.evicted + state.closed
  recipients_eq :
    (run.map fun operation => operation.brings .recipient).sum =
      state.counters.delivered + state.counters.skippedOffline + state.counters.dropped +
        state.counters.evicted + state.closed
  fanouts_eq :
    (run.map fun operation => operation.brings .fanout).sum = state.counters.fanoutRequests
  removals_eq :
    (run.map fun operation => operation.brings .removal).sum =
      state.counters.unregistered + state.counters.staleUnregisters
  registrations_eq :
    (run.map fun operation => operation.brings .registration).sum =
      state.counters.registered + state.counters.rejected + (trail policies run).countP comesLate
  delivered_eq : ∃ parcels : Handle → Parcels,
    (∀ handle ∈ made run, (parcels handle).Fit policies run handle) ∧
      state.counters.delivered =
        ((made run).map fun handle => fromFanouts (parcels handle).received).sum +
          ((made run).map fun handle => fromFanouts (parcels handle).waiting).sum +
          ((made run).map fun handle => fromFanouts (parcels handle).lost).sum
  dropped_eq : policies.overflow = .evict → state.counters.dropped = 0
  evicted_eq : policies.overflow = .dropNewest → state.counters.evicted = 0
  rejected_eq : policies.duplicate = .replace → state.counters.rejected = 0
  replaced_eq : policies.duplicate = .reject → state.counters.replaced = 0
  words_eq : (∀ count ∈ state.counters.counts, count.2 < 2 ^ 64) →
    (state.counters.snapshot.map fun count => (count.1, count.2.toNat)) = state.counters.counts

/-- The counters account for every connection, every request, every recipient and every payload. -/
theorem accounts (policies : Policies) {run : List Operation} (lawful : Lawful run) :
    Accounts policies run (State.after policies run) := by
  have tallied := tallied_after policies run
  have handled := handled_after policies run
  constructor
  case size_eq => exact tallied.registered_eq
  case recipients_eq => exact handled .recipient
  case fanouts_eq => exact handled .fanout
  case removals_eq => exact handled .removal
  case registrations_eq => exact handled .registration
  case delivered_eq =>
    have each (handle : Handle) :
        ∃ parcels : Parcels, handle ∈ made run → parcels.Fit policies run handle := by
      by_cases isMade : handle ∈ made run
      · obtain ⟨parcels, fit⟩ := exists_parcels policies lawful isMade
        exact ⟨parcels, fun _ => fit⟩
      · exact ⟨⟨[], [], []⟩, fun is => absurd is isMade⟩
    choose parcels fits using each
    refine ⟨parcels, fits, ?_⟩
    rw [delivered_after policies lawful, ← List.sum_map_add, ← List.sum_map_add]
    refine congrArg List.sum (List.map_congr_left fun handle isMade => ?_)
    exact (fits handle isMade).fromFanouts_eq
  case dropped_eq => exact tallied.dropped_eq
  case evicted_eq => exact tallied.evicted_eq
  case rejected_eq => exact tallied.rejected_eq
  case replaced_eq => exact tallied.replaced_eq
  case words_eq => exact Counters.snapshot_exact _

/-- Connections that are replaced, slow, without a writer and gone before they register. -/
def bustle : List Operation :=
  [.connect ⟨⟨0⟩, 7⟩ 1, .push ⟨⟨0⟩, 7⟩ ⟨#[1]⟩, .connect ⟨⟨1⟩, 7⟩ 1, .connect ⟨⟨2⟩, 8⟩ 4,
    .connect ⟨⟨3⟩, 9⟩ 4, .apply (.register ⟨⟨0⟩, 7⟩), .apply (.register ⟨⟨1⟩, 7⟩),
    .apply (.register ⟨⟨2⟩, 8⟩), .abandon ⟨3⟩, .apply (.register ⟨⟨3⟩, 9⟩), .receive ⟨0⟩,
    .apply (.fanout (.to [7, 8, 9] ⟨#[2]⟩)), .apply (.unregister 7 ⟨0⟩), .abandon ⟨2⟩,
    .apply (.fanout (.to [7, 8] ⟨#[3]⟩))]

/-- In such a run the counters add up. -/
theorem accounts_bustle :
    Lawful bustle ∧ Accounts {} bustle (State.after {} bustle) ∧
      (State.after {} bustle).counters =
        { registered := 3, replaced := 1, staleUnregisters := 1, fanoutRequests := 2,
          delivered := 2, skippedOffline := 1, evicted := 1 } ∧
      (State.after {} bustle).closed = 1 := by
  have lawful : Lawful bustle := lawful_of_follows (by decide)
  exact ⟨lawful, accounts {} lawful, by decide +kernel, by decide +kernel⟩

end Switchboard.Hub
