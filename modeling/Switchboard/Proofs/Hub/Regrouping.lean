import Mathlib.Data.List.Basic
import Switchboard.Proofs.Hub.Recipients
import Switchboard.Proofs.Hub.Slice

/-!
# Recipients in any order and in any groups

A payload goes to a set of users. One request for all of them, one for each in any order, and one
that names them otherwise lead to the same registry, presence view, outboxes and counts, and they
publish the same events; in the order in which the users first occur, they publish them in the same
order (`regrouping`). A delivery concerns its user's slice alone, so what deliveries to distinct
users do is known slice by slice; the slices are all that a hub holds but for the counters
(`agree_of_slice_eq`), and counting does not depend on the order.
-/

namespace Switchboard.Hub

/-! ## Counting -/

/-- The occurrence that a delivery counts as. That there is no writer is told by an event only. -/
def Delivery.counted? : Delivery → Option Occurrence
  | .offline => some .skippedOffline
  | .delivered => some .delivered
  | .evicted => some .evicted
  | .dropped => some .dropped
  | .closed => none

/-- Counts occurrences one after the other. -/
def Counters.recordAll (counters : Counters) (occurrences : List Occurrence) : Counters :=
  occurrences.foldl Counters.record counters

/-- Two counts may be made in either order. -/
theorem Counters.record_comm (counters : Counters) (first second : Occurrence) :
    (counters.record first).record second = (counters.record second).record first := by
  cases first <;> cases second <;> rfl

/-- So may any number of counts. -/
theorem Counters.recordAll_perm (counters : Counters) {first second : List Occurrence}
    (perm : first.Perm second) : counters.recordAll first = counters.recordAll second :=
  perm.foldl_eq' (fun _ _ _ _ counters => counters.record_comm _ _) counters

/-- The counters but for the number of requests. -/
def Counters.withoutFanouts (counters : Counters) : Counters :=
  { counters with fanoutRequests := 0 }

namespace State

variable {past : List Operation} {state : State}

/-- Counts a number of requests. -/
def countFanouts (state : State) (count : Nat) : State :=
  { state with
    counters := { state.counters with fanoutRequests := state.counters.fanoutRequests + count } }

/-- Deliveries of a payload to users, one after the other. -/
def deliveries (policy : OverflowPolicy) (payload : Payload) (state : State)
    (users : List UserId) : State :=
  users.foldl (fun state user => (state.deliver policy payload user).1) state

/-- A delivery counts what came of it, and nothing else. -/
theorem counters_deliver (policy : OverflowPolicy) (payload : Payload) (user : UserId) :
    (state.deliver policy payload user).1.counters =
      state.counters.recordAll (state.deliver policy payload user).2.counted?.toList := by
  have outcome := state.deliver_cases policy payload user
  generalize state.deliver policy payload user = result at outcome
  cases outcome <;> rfl

/-- No small change depends on how many requests have been counted. -/
theorem change_countFanouts (state : State) (count : Nat) (change : Change) :
    (state.countFanouts count).change change = (state.change change).countFanouts count := by
  cases change with
  | count occurrence =>
    cases occurrence with
    | fanout =>
      simp only [State.change, record, countFanouts, Counters.record, Nat.add_right_comm]
    | _ => rfl
  | _ => rfl

/-- Nor does any sequence of them. -/
theorem foldl_change_countFanouts (state : State) (count : Nat) (changes : List Change) :
    changes.foldl change (state.countFanouts count) =
      (changes.foldl change state).countFanouts count := by
  induction changes generalizing state with
  | nil => rfl
  | cons change rest ih => rw [List.foldl_cons, List.foldl_cons, change_countFanouts, ih]

/-- The number of requests so far does not matter to a delivery. -/
theorem deliver_countFanouts (policy : OverflowPolicy) (payload : Payload) (state : State)
    (count : Nat) (user : UserId) :
    ((state.countFanouts count).deliver policy payload user).1 =
      (state.deliver policy payload user).1.countFanouts count :=
  -- What a delivery decides does not depend on the counters.
  foldl_change_countFanouts state count (state.deliveryChanges policy payload user)

/-- Nor do deliveries. -/
theorem deliveries_countFanouts (policy : OverflowPolicy) (payload : Payload) (state : State)
    (count : Nat) (users : List UserId) :
    (state.countFanouts count).deliveries policy payload users =
      (state.deliveries policy payload users).countFanouts count := by
  induction users generalizing state with
  | nil => rfl
  | cons user rest ih =>
    simp only [deliveries, List.foldl_cons, deliver_countFanouts] at ih ⊢
    exact ih _

/-! ## Requests as deliveries -/

/-- The state after a payload has been sent to users with one request. -/
def send (policies : Policies) (kind : Option String) (payload : Payload) (state : State)
    (users : List UserId) : State :=
  (state.apply policies (.fanout { FanoutRequest.to users payload with kind })).1

/-- The state after a payload has been sent to users with a request for each. -/
def sendSingly (policies : Policies) (kind : Option String) (payload : Payload) (state : State)
    (users : List UserId) : State :=
  users.foldl (fun state user => state.send policies kind payload [user]) state

variable {policies : Policies} {kind : Option String} {payload : Payload}

/-- One request for all users delivers to each once and counts once. -/
theorem send_eq (state : State) (users : List UserId) :
    state.send policies kind payload users =
      (state.deliveries policies.overflow payload (distinct users)).countFanouts 1 :=
  (fanOut_eq_foldl policies.overflow state _).trans
    (deliveries_countFanouts policies.overflow payload state 1 (distinct users))

/-- A request for each user counts as often. -/
theorem sendSingly_eq (state : State) (users : List UserId) :
    state.sendSingly policies kind payload users =
      (state.deliveries policies.overflow payload users).countFanouts users.length := by
  induction users generalizing state with
  | nil => rfl
  | cons user rest ih =>
    have first : state.send policies kind payload [user] =
        ((state.deliver policies.overflow payload user).1).countFanouts 1 := by
      rw [send_eq, distinct_singleton]
      rfl
    change (state.send policies kind payload [user]).sendSingly policies kind payload rest = _
    rw [ih, first, deliveries_countFanouts]
    simp only [countFanouts, List.length_cons, deliveries, List.foldl_cons, Nat.add_assoc,
      Nat.add_comm]

/-! ## States that agree -/

/-- Two states hold the same but for the number of requests and the order of events. -/
structure Agree (one other : State) : Prop where
  registry : other.registry = one.registry
  online : other.online = one.online
  outboxes : other.outboxes = one.outboxes
  counters : other.counters.withoutFanouts = one.counters.withoutFanouts
  published : other.published.Perm one.published

/-- The events are those about each user. -/
theorem published_perm {one other : State}
    (same : ∀ user, (other.slice user).events = (one.slice user).events) :
    other.published.Perm one.published := by
  refine List.perm_iff_count.mpr fun event => ?_
  have about (published : List PresenceEvent) : published.count event =
      (published.filter fun other => other.user = event.user).count event :=
    (List.count_filter (by simp)).symm
  rw [about, about one.published]
  exact congrArg (List.count event) (same event.user)

/-- The outboxes are those of each user. -/
theorem outboxes_eq {one other : State}
    (same : ∀ user, (other.slice user).outboxes = (one.slice user).outboxes) :
    other.outboxes = one.outboxes := by
  have included {one other : State}
      (same : ∀ user, (other.slice user).outboxes = (one.slice user).outboxes)
      {connection : ConnectionId} {outbox : Outbox}
      (found : one.outboxes[connection]? = some outbox) :
      other.outboxes[connection]? = some outbox := by
    have owned := congrFun (same outbox.owner) connection
    simp only [slice, found, Option.filter_some, decide_true, ↓reduceIte] at owned
    exact (Option.filter_eq_some_iff.mp owned).1
  apply Std.ExtTreeMap.ext_getElem?
  intro connection
  cases found : one.outboxes[connection]? with
  | some outbox => exact included same found
  | none =>
    refine Option.eq_none_iff_forall_ne_some.mpr fun outbox present => ?_
    rw [included (fun user => (same user).symm) present] at found
    cases found

/-- A state is known by its slices and its counters. -/
theorem agree_of_slice_eq {one other : State} (same : ∀ user, other.slice user = one.slice user)
    (counters : other.counters.withoutFanouts = one.counters.withoutFanouts) :
    one.Agree other where
  registry := Std.ExtTreeMap.ext_getElem? fun user => congrArg Slice.registered (same user)
  online := Std.ExtTreeSet.ext_mem fun user => by
    have online := congrArg Slice.online (same user)
    rw [← Std.ExtTreeSet.contains_iff_mem, ← Std.ExtTreeSet.contains_iff_mem]
    exact Bool.eq_iff_iff.mp online
  outboxes := outboxes_eq fun user => congrArg Slice.outboxes (same user)
  counters := counters
  published := published_perm fun user => congrArg Slice.events (same user)

/-! ## The order of deliveries -/

/-- Deliveries to distinct users are counted by what each user's slice makes of one. -/
theorem counters_deliveries (sound : Sound past none state) (lawful : Lawful past)
    (policy : OverflowPolicy) (payload : Payload) {users : List UserId} (nodup : users.Nodup) :
    (state.deliveries policy payload users).counters =
      state.counters.recordAll (users.flatMap fun user =>
        ((state.slice user).deliver policy payload user).2.counted?.toList) := by
  induction users generalizing state with
  | nil => rfl
  | cons first rest ih =>
    obtain ⟨absent, nodup⟩ := List.nodup_cons.mp nodup
    have after := sound.deliver lawful policy payload first
    have others (user : UserId) (member : user ∈ rest) :
        (state.deliver policy payload first).1.slice user = state.slice user :=
      slice_deliver_of_ne sound lawful policy payload fun same => absent (same ▸ member)
    have outcome : (state.deliver policy payload first).2 =
        ((state.slice first).deliver policy payload first).2 :=
      congrArg Prod.snd (slice_deliver sound lawful policy payload first)
    change ((state.deliver policy payload first).1.deliveries policy payload rest).counters = _
    rw [ih after nodup, counters_deliver, outcome, List.flatMap_cons]
    simp only [Counters.recordAll, List.foldl_append]
    refine congrArg (List.foldl Counters.record _) (List.flatMap_congr fun user member => ?_)
    rw [others user member]

/-- Distinct users are delivered to in any order. -/
theorem agree_deliveries (sound : Sound past none state) (lawful : Lawful past)
    (policy : OverflowPolicy) (payload : Payload) {users others : List UserId}
    (nodup : users.Nodup) (perm : others.Perm users) (count further : Nat) :
    ((state.deliveries policy payload users).countFanouts count).Agree
      ((state.deliveries policy payload others).countFanouts further) := by
  refine agree_of_slice_eq (fun user => ?_) ?_
  · have one := slice_deliveries sound lawful policy payload nodup user
    have other := slice_deliveries sound lawful policy payload (perm.nodup_iff.mpr nodup) user
    simp only [perm.mem_iff, ← one] at other
    exact other
  · change ((state.deliveries policy payload others).counters).withoutFanouts =
      ((state.deliveries policy payload users).counters).withoutFanouts
    rw [counters_deliveries sound lawful policy payload nodup,
      counters_deliveries sound lawful policy payload (perm.nodup_iff.mpr nodup),
      Counters.recordAll_perm _ (perm.flatMap_right _)]

end State

/-! ## Requests for the same users -/

/-- Neither the order of recipients nor their spread over requests matters but for the order of the
events, and for that only the order in which the users first occur. -/
structure Regroups (policies : Policies) (kind : Option String) (payload : Payload) (state : State)
    (users : List UserId) : Prop where
  singly : ∀ order : List UserId, order.Nodup → (∀ user, user ∈ order ↔ user ∈ users) →
    (state.send policies kind payload users).Agree (state.sendSingly policies kind payload order)
  together : ∀ others : List UserId, (∀ user, user ∈ others ↔ user ∈ users) →
    (state.send policies kind payload users).Agree (state.send policies kind payload others)
  singly_in_order : ∀ order : List UserId, FirstOccurrences users order →
    (state.sendSingly policies kind payload order).published =
      (state.send policies kind payload users).published
  together_in_order : ∀ others : List UserId, (∀ user, user ∈ others ↔ user ∈ users) →
    (∀ first ∈ users, ∀ second ∈ users, users.idxOf first < users.idxOf second →
      others.idxOf first < others.idxOf second) →
    (state.send policies kind payload others).published =
      (state.send policies kind payload users).published

/-- In every state that a hub can be in, what is sent to users depends on who they are. -/
theorem regrouping (policies : Policies) {run : List Operation} (lawful : Lawful run)
    (kind : Option String) (payload : Payload) (users : List UserId) :
    Regroups policies kind payload (State.after policies run) users := by
  have sound := sound_after policies lawful
  have occurrences := firstOccurrences_distinct users
  have reordered {order : List UserId} (nodup : order.Nodup)
      (same : ∀ user, user ∈ order ↔ user ∈ users) : order.Perm (distinct users) :=
    (List.perm_ext_iff_of_nodup nodup occurrences.nodup).mpr fun user => by
      rw [same, occurrences.mem_iff]
  constructor
  case singly =>
    intro order nodup same
    rw [State.send_eq, State.sendSingly_eq]
    exact State.agree_deliveries sound lawful policies.overflow payload occurrences.nodup
      (reordered nodup same) 1 order.length
  case together =>
    intro others same
    rw [State.send_eq, State.send_eq]
    refine State.agree_deliveries sound lawful policies.overflow payload occurrences.nodup
      (reordered (nodup_distinct others) fun user => ?_) 1 1
    rw [mem_distinct, same]
  case singly_in_order =>
    intro order first
    rw [State.send_eq, State.sendSingly_eq,
      occurrences.unique first (fun _ => Iff.rfl) fun _ _ _ _ earlier => earlier]
    rfl
  case together_in_order =>
    intro others same agree
    rw [State.send_eq, State.send_eq,
      occurrences.unique (firstOccurrences_distinct others) same agree]

/-- One user has room, the outbox of another is full, and the writer of a third is gone. -/
def assembly : List Operation :=
  [.connect ⟨⟨0⟩, 7⟩ 2, .connect ⟨⟨1⟩, 8⟩ 1, .connect ⟨⟨2⟩, 9⟩ 1,
    .apply (.register ⟨⟨0⟩, 7⟩), .apply (.register ⟨⟨1⟩, 8⟩), .apply (.register ⟨⟨2⟩, 9⟩),
    .apply (.fanout (.to [8] ⟨#[1]⟩)), .abandon ⟨2⟩]

/-- Singly and backwards the same comes of it as together, but the events of the two who leave are
published the other way round. -/
theorem regrouping_assembly :
    Lawful assembly ∧
      ((State.after {} assembly).send {} none ⟨#[2]⟩ [8, 7, 8, 9]).Agree
        ((State.after {} assembly).sendSingly {} none ⟨#[2]⟩ [9, 7, 8]) ∧
      ((State.after {} assembly).send {} none ⟨#[2]⟩ [8, 7, 8, 9]).published.drop 3 =
        [.offline 8 ⟨1⟩ .evicted, .offline 9 ⟨2⟩ .closed] ∧
      ((State.after {} assembly).sendSingly {} none ⟨#[2]⟩ [9, 7, 8]).published.drop 3 =
        [.offline 9 ⟨2⟩ .closed, .offline 8 ⟨1⟩ .evicted] := by
  have lawful : Lawful assembly := lawful_of_follows (by decide)
  have regroups := regrouping {} lawful none ⟨#[2]⟩ [8, 7, 8, 9]
  have same (user : UserId) : user ∈ [9, 7, 8] ↔ user ∈ [8, 7, 8, 9] := by
    simp only [List.mem_cons, List.not_mem_nil, or_false]
    tauto
  exact ⟨lawful, regroups.singly [9, 7, 8] (by decide) same, by decide +kernel, by decide +kernel⟩

end Switchboard.Hub
