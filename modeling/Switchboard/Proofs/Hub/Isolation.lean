import Switchboard.Proofs.Hub.Concern
import Switchboard.Proofs.Hub.Flow

/-!
# Users are isolated from each other

A hub does to one user's slice what a hub that serves nobody else would do. An operation that
concerns the user acts on the slice as a function of that slice (`slice_perform_of_concerns`), and
any other operation leaves it alone (`slice_perform_of_not_concerns`). So a run and what concerns
the user of it lead to the same slice, and the user's writers see the same things in both
(`isolation`).
-/

namespace Switchboard.Hub

/-! ## What a hub does for one user -/

/-- The outbox with one more payload, if it takes one. -/
def Outbox.offered (outbox : Outbox) (payload : Payload) : Outbox :=
  if outbox.attended = true ∧ outbox.buffer.length < outbox.capacity then outbox.append payload
  else outbox

/-- An outbox keeps its owner when something is offered to it. -/
theorem Outbox.owner_offered (outbox : Outbox) (payload : Payload) :
    (outbox.offered payload).owner = outbox.owner := by
  unfold offered
  split <;> rfl

/-- It keeps its owner when its writer looks. -/
theorem Outbox.owner_receive (outbox : Outbox) : outbox.receive.2.owner = outbox.owner := by
  unfold receive
  split <;> rfl

namespace Slice

/-- The slice with a new outbox. -/
def addOutbox (slice : Slice) (connection : ConnectionId) (outbox : Outbox) : Slice :=
  { slice with
    outboxes := fun other => if connection = other then some outbox else slice.outboxes other }

/-- The slice after a further event. -/
def publish (slice : Slice) (event : PresenceEvent) : Slice :=
  { slice with events := slice.events ++ [event] }

/-- The slice with a registered connection. -/
def enter (slice : Slice) (handle : Handle) : Slice :=
  { slice with registered := some handle }

/-- Whether one of the user's connections has a writer. -/
def attended (slice : Slice) (connection : ConnectionId) : Bool :=
  (slice.outboxes connection).any Outbox.attended

/-- A registration, as it acts on the slice of the handle's user. -/
def register (policy : DuplicatePolicy) (slice : Slice) (handle : Handle) : Slice :=
  if !slice.attended handle.connection then slice.changeOutbox handle.connection Outbox.release
  else
    match slice.registered, policy with
    | none, _ =>
      { slice.enter handle with online := true }.publish (.online handle.user handle.connection)
    | some previous, .replace =>
      (((slice.enter handle).changeOutbox previous.connection Outbox.release).publish
        (.offline handle.user previous.connection .replaced)).publish
          (.online handle.user handle.connection)
    | some _, .reject =>
      (slice.changeOutbox handle.connection Outbox.release).publish
        (.offline handle.user handle.connection .rejected)

/-- A request to unregister, as it acts on the user's slice. -/
def unregister (slice : Slice) (user : UserId) (connection : ConnectionId) : Slice :=
  match slice.registered with
  | some current =>
    if current.connection = connection then slice.discard user connection .disconnected else slice
  | none => slice

/-- An operation that concerns a user, as it acts on the user's slice. -/
def perform (policies : Policies) (user : UserId) (slice : Slice) : Operation → Slice
  | .connect handle capacity => slice.addOutbox handle.connection (.create handle.user capacity)
  | .push handle payload => slice.changeOutbox handle.connection (·.offered payload)
  | .close handle => slice.changeOutbox handle.connection Outbox.release
  | .apply (.register handle) => slice.register policies.duplicate handle
  | .apply (.unregister _ connection) => slice.unregister user connection
  | .apply (.fanout request) => (slice.deliver policies.overflow request.payload user).1
  | .receive connection => slice.changeOutbox connection fun outbox => outbox.receive.2
  | .abandon connection => slice.changeOutbox connection Outbox.abandon

end Slice

/-! ## Slices after single changes -/

variable {policies : Policies} {past : List Operation} {user : UserId}

namespace State

variable {state : State}

/-- An event shows in the slice of its user. -/
theorem slice_publish (state : State) (event : PresenceEvent) (user : UserId) :
    (state.publish event).slice user =
      if event.user = user then (state.slice user).publish event else state.slice user := by
  split
  next about => refine Slice.ext rfl rfl rfl ?_; simp [slice, publish, Slice.publish, about]
  next foreign => refine Slice.ext rfl rfl rfl ?_; simp [slice, publish, foreign]

/-- A handle shows in the slice of its user. -/
theorem slice_enter (state : State) (handle : Handle) (user : UserId) :
    (state.enter handle).slice user =
      if handle.user = user then (state.slice user).enter handle else state.slice user := by
  split
  next own => refine Slice.ext ?_ rfl rfl rfl; simp [slice, enter, Slice.enter, own]
  next foreign =>
    refine Slice.ext ?_ rfl rfl rfl
    simp [slice, enter, Std.ExtTreeMap.getElem?_insert, foreign]

/-- Being reachable shows in the slice of that user. -/
theorem slice_markOnline (state : State) (other user : UserId) :
    (state.markOnline other).slice user =
      if other = user then { state.slice user with online := true } else state.slice user := by
  split
  next same => refine Slice.ext rfl ?_ rfl rfl; simp [slice, markOnline, same]
  next different => refine Slice.ext rfl ?_ rfl rfl; simp [slice, markOnline, different]

/-- Letting go of a handle that has been made concerns its user alone. -/
theorem slice_release_of_made (sound : Sound past none state) (lawful : Lawful past)
    {handle : Handle} (isMade : handle ∈ made past) (different : handle.user ≠ user) :
    (state.release handle.connection).slice user = state.slice user :=
  slice_changeOutbox_of_ne Outbox.release (fun _ => rfl) fun outbox found => by
    rw [sound.owner_eq lawful isMade found]
    exact different

/-- A push changes the outbox alone. -/
theorem perform_push (policies : Policies) (state : State) (handle : Handle) (payload : Payload) :
    state.perform policies (.push handle payload) =
      state.changeOutbox handle.connection (·.offered payload) := by
  have outcome := state.push_cases handle.connection payload
  simp only [perform]
  generalize state.push handle.connection payload = result at outcome
  cases outcome with
  | @queued outbox found attended room =>
    have taken : outbox.offered payload = outbox.append payload := if_pos ⟨attended, room⟩
    simp only [changeOutbox_eq_insert found, taken]
  | full found attended full =>
    refine (changeOutbox_eq_self fun outbox present => ?_).symm
    obtain rfl := Option.some.inj (found.symm.trans present)
    exact if_neg fun takes => Nat.not_lt.mpr full takes.2
  | closed gone =>
    refine (changeOutbox_eq_self fun outbox present => if_neg fun takes => ?_).symm
    rw [State.attended, present] at gone
    exact Bool.noConfusion (takes.1.symm.trans gone)

/-! ## Requests -/

/-- What a registration changes is the slice of the handle's user. -/
theorem slice_register_of_ne (sound : Sound past none state) (lawful : Lawful past)
    {handle : Handle} (isMade : handle ∈ made past) (different : handle.user ≠ user)
    (policy : DuplicatePolicy) :
    (state.register policy handle).1.slice user = state.slice user := by
  have outcome := state.register_cases policy handle
  generalize state.register policy handle = result at outcome
  cases outcome with
  | ignored gone => exact slice_release_of_made sound lawful isMade different
  | inserted attended free =>
    simp only [slice_publish, PresenceEvent.user, slice_markOnline, slice_record, slice_enter,
      different, ↓reduceIte]
  | @replaced previous attended occupied chosen =>
    have released : ((state.enter handle).release previous.connection).slice user =
        (state.enter handle).slice user :=
      slice_changeOutbox_of_ne Outbox.release (fun _ => rfl) fun outbox found => by
        rw [owner_of_registered sound lawful occupied found]
        exact different
    simp only [slice_publish, PresenceEvent.user, slice_record, released, slice_enter,
      different, ↓reduceIte]
  | rejected attended occupied chosen =>
    simp only [slice_publish, PresenceEvent.user, slice_record, different, ↓reduceIte]
    exact slice_release_of_made sound lawful isMade different

/-- A handle that is let go shows where its outbox is. -/
theorem slice_release (state : State) (connection : ConnectionId) (user : UserId) :
    (state.release connection).slice user =
      (state.slice user).changeOutbox connection Outbox.release :=
  state.slice_changeOutbox connection Outbox.release (fun _ => rfl) user

/-- A registration acts on the slice of the handle's user as a function of that slice. -/
theorem slice_register_self (sound : Sound past none state) (lawful : Lawful past)
    {handle : Handle} (isMade : handle ∈ made past) (policy : DuplicatePolicy) :
    (state.register policy handle).1.slice handle.user =
      (state.slice handle.user).register policy handle := by
  have attends : (state.slice handle.user).attended handle.connection =
      state.attended handle.connection := by
    rw [Slice.attended, slice_outboxes sound (lawful.sole isMade), State.attended]
    cases state.outboxes[handle.connection]? <;> rfl
  have registered : (state.slice handle.user).registered = state.registry[handle.user]? := rfl
  have outcome := state.register_cases policy handle
  generalize state.register policy handle = result at outcome
  unfold Slice.register
  rw [attends, registered]
  cases outcome with
  | ignored gone =>
    rw [gone]
    exact state.slice_release _ _
  | inserted attended free =>
    rw [attended, free]
    simp only [slice_publish, PresenceEvent.user, slice_markOnline, slice_record, slice_enter,
      ↓reduceIte]
    rfl
  | @replaced previous attended occupied chosen =>
    rw [attended, occupied, chosen]
    simp only [slice_publish, PresenceEvent.user, slice_record, slice_release, slice_enter,
      ↓reduceIte]
    rfl
  | rejected attended occupied chosen =>
    rw [attended, occupied, chosen]
    simp only [slice_publish, PresenceEvent.user, slice_record, slice_release, ↓reduceIte]
    rfl

/-- A request to unregister changes the slice of the user that it names. -/
theorem slice_unregister_of_ne (sound : Sound past none state) (lawful : Lawful past)
    {other : UserId} (different : other ≠ user) (connection : ConnectionId) :
    (state.unregister other connection).1.slice user = state.slice user := by
  have outcome := state.unregister_cases other connection
  generalize state.unregister other connection = result at outcome
  cases outcome with
  | removed registered same =>
    subst same
    exact slice_discard_of_ne different
      (fun outbox present => owner_of_registered sound lawful registered present) .disconnected
  | stale mismatch => rfl

/-- A request to unregister acts on the slice of the user that it names as a function of that
slice. -/
theorem slice_unregister_self (state : State) (user : UserId) (connection : ConnectionId) :
    (state.unregister user connection).1.slice user =
      (state.slice user).unregister user connection := by
  have registeredEq : (state.slice user).registered = state.registry[user]? := rfl
  have outcome := state.unregister_cases user connection
  generalize state.unregister user connection = result at outcome
  unfold Slice.unregister
  rw [registeredEq]
  cases outcome with
  | removed registered same =>
    rw [registered]
    simp only [same, ↓reduceIte]
    exact state.slice_discard_self user connection .disconnected
  | stale mismatch =>
    cases registered : state.registry[user]? with
    | none => rfl
    | some current => simp only [mismatch current registered, ↓reduceIte, slice_record]

/-! ## Operations -/

/-- A new outbox of another user's connection changes nothing for this one. -/
theorem slice_addOutbox_of_ne {connection : ConnectionId} {outbox : Outbox}
    (fresh : state.outboxes[connection]? = none) (different : outbox.owner ≠ user) :
    (state.addOutbox connection outbox).slice user = state.slice user := by
  refine Slice.ext rfl rfl (funext fun other => ?_) rfl
  simp only [slice, addOutbox, Std.ExtTreeMap.getElem?_insert, Std.compare_eq_iff_eq]
  split
  next same =>
    subst same
    simp [fresh, Option.filter, different]
  next => rfl

/-- A new outbox shows in the slice of its owner. -/
theorem slice_addOutbox_self (state : State) (connection : ConnectionId) (outbox : Outbox) :
    (state.addOutbox connection outbox).slice outbox.owner =
      (state.slice outbox.owner).addOutbox connection outbox := by
  refine Slice.ext rfl rfl (funext fun other => ?_) rfl
  simp only [slice, addOutbox, Slice.addOutbox, Std.ExtTreeMap.getElem?_insert,
    Std.compare_eq_iff_eq]
  split
  next same => simp [Option.filter]
  next => rfl

/-- An operation that does not concern a user leaves the user's slice alone. -/
theorem slice_perform_of_not_concerns (sound : Sound past none state) (lawful : Lawful past)
    {handles : List Handle} (known : ∀ handle ∈ made past, handle ∈ handles)
    {operation : Operation} (follows : operation.Follows past)
    (foreign : ¬ operation.Concerns handles user) :
    (state.perform policies operation).slice user = state.slice user := by
  -- An outbox that is not known to be the user's belongs to somebody else.
  have elsewhere {connection : ConnectionId} (unknown : ⟨connection, user⟩ ∉ handles)
      (outbox : Outbox) (found : state.outboxes[connection]? = some outbox) :
      outbox.owner ≠ user := fun own => by
    have isMade := (sound.suits found).made
    rw [own] at isMade
    exact unknown (known _ isMade)
  cases operation with
  | connect handle capacity =>
    refine slice_addOutbox_of_ne ?_ foreign
    cases found : state.outboxes[handle.connection]? with
    | none => rfl
    | some outbox => exact absurd rfl (follows ⟨_, outbox.owner⟩ (sound.suits found).made)
  | push handle payload =>
    rw [perform_push]
    exact slice_changeOutbox_of_ne (·.offered payload) (·.owner_offered payload) fun outbox found =>
      by rw [sound.owner_eq lawful follows.1 found]; exact foreign
  | close handle => exact slice_release_of_made sound lawful follows.1 foreign
  | apply request =>
    cases request with
    | register handle =>
      exact slice_register_of_ne sound lawful follows.1 foreign policies.duplicate
    | unregister other connection => exact slice_unregister_of_ne sound lawful foreign connection
    | fanout request =>
      exact (slice_fanOut sound lawful policies.overflow request user).trans (if_neg foreign)
  | receive connection =>
    exact slice_changeOutbox_of_ne _ Outbox.owner_receive (elsewhere foreign)
  | abandon connection =>
    exact slice_changeOutbox_of_ne Outbox.abandon (fun _ => rfl) (elsewhere foreign)

/-- An operation that concerns a user acts on the user's slice as a function of that slice. -/
theorem slice_perform_of_concerns (sound : Sound past none state) (lawful : Lawful past)
    {handles : List Handle} {operation : Operation} (follows : operation.Follows past)
    (about : operation.Concerns handles user) :
    (state.perform policies operation).slice user =
      (state.slice user).perform policies user (operation.onlyFor user) := by
  cases operation with
  | connect handle capacity =>
    obtain rfl : handle.user = user := about
    exact state.slice_addOutbox_self handle.connection (.create handle.user capacity)
  | push handle payload =>
    rw [perform_push]
    exact state.slice_changeOutbox _ (·.offered payload) (·.owner_offered payload) user
  | close handle => exact state.slice_release handle.connection user
  | apply request =>
    cases request with
    | register handle =>
      obtain rfl : handle.user = user := about
      exact slice_register_self sound lawful follows.1 policies.duplicate
    | unregister other connection =>
      obtain rfl : other = user := about
      exact state.slice_unregister_self other connection
    | fanout request =>
      exact (slice_fanOut sound lawful policies.overflow request user).trans (if_pos about)
  | receive connection => exact state.slice_changeOutbox _ _ Outbox.owner_receive user
  | abandon connection => exact state.slice_changeOutbox _ Outbox.abandon (fun _ => rfl) user

end State

/-! ## Runs -/

variable {handles : List Handle} {run : List Operation}

/-- What concerns a user alone decides what becomes of the user's slice. -/
theorem slice_after (lawful : Lawful (past ++ run))
    (known : ∀ handle ∈ made (past ++ run), handle ∈ handles) (user : UserId) :
    (State.after policies (past ++ run)).slice user =
      (concerns handles user run).foldl (Slice.perform policies user)
        ((State.after policies past).slice user) := by
  induction run using List.reverseRecOn with
  | nil => rw [List.append_nil]; rfl
  | append_singleton before operation ih =>
    rw [← List.append_assoc] at lawful known ⊢
    have knownBefore (handle : Handle) (isMade : handle ∈ made (past ++ before)) :
        handle ∈ handles := known handle (mem_made_append _ isMade)
    have sound := sound_after policies lawful.of_append
    rw [after_concat]
    by_cases about : operation.Concerns handles user
    · rw [State.slice_perform_of_concerns sound lawful.of_append lawful.follows about,
        concerns_concat_of_concerns about, List.foldl_append, ih lawful.of_append knownBefore]
      rfl
    · rw [State.slice_perform_of_not_concerns sound lawful.of_append knownBefore lawful.follows
        about, concerns_concat_of_not about, ih lawful.of_append knownBefore]

/-- What a writer sees is decided by the slice of the connection's user. -/
theorem seen_eq_of_slice_eq {first second : List Operation} {state other : State} {handle : Handle}
    (sound : Sound first none state) (sole : Sole first handle)
    (otherSound : Sound second none other) (otherSole : Sole second handle)
    (same : other.slice handle.user = state.slice handle.user) (operation : Operation) :
    seen handle.connection (other, operation.onlyFor handle.user) =
      seen handle.connection (state, operation) := by
  have outboxes := congrFun (congrArg Slice.outboxes same) handle.connection
  rw [slice_outboxes sound sole, slice_outboxes otherSound otherSole] at outboxes
  cases operation with
  | receive connection => simp only [Operation.onlyFor, seen, outboxes]
  | apply request => cases request <;> rfl
  | _ => rfl

/-- What concerns a user concerns the user. -/
theorem concerns_concerns (handles : List Handle) (user : UserId) (run : List Operation) :
    concerns handles user (concerns handles user run) = concerns handles user run := by
  have about (operation : Operation) (about : operation.Concerns handles user) :
      (operation.onlyFor user).Concerns handles user ∧
        (operation.onlyFor user).onlyFor user = operation.onlyFor user := by
    cases operation with
    | apply request =>
      cases request with
      | fanout request => exact ⟨List.mem_singleton_self user, rfl⟩
      | _ => exact ⟨about, rfl⟩
    | _ => exact ⟨about, rfl⟩
  induction run using List.reverseRecOn with
  | nil => rfl
  | append_singleton before operation ih =>
    by_cases isAbout : operation.Concerns handles user
    · obtain ⟨again, same⟩ := about operation isAbout
      rw [concerns_concat_of_concerns isAbout, concerns_concat_of_concerns again, ih, same]
    · rw [concerns_concat_of_not isAbout, ih]

/-- A run and what concerns a user of it lead to the same slice. -/
theorem slice_concerns (lawful : Lawful (past ++ run))
    (alone : Lawful (past ++ concerns handles user run))
    (known : ∀ handle ∈ made (past ++ run), handle ∈ handles) :
    (State.after policies (past ++ concerns handles user run)).slice user =
      (State.after policies (past ++ run)).slice user := by
  rw [slice_after alone (fun handle isMade => known handle (mem_made_of_concerns isMade)) user,
    concerns_concerns, slice_after lawful known user]

/-- A run and what concerns a user of it are the same to the user's writers. -/
theorem seen_concerns (handle : Handle) (lawful : Lawful (past ++ run))
    (alone : Lawful (past ++ concerns handles handle.user run))
    (known : ∀ handle ∈ made (past ++ run), handle ∈ handles)
    (sole : Sole (past ++ run) handle) (isKnown : handle ∈ handles) :
    (trailFrom policies (State.after policies past)
        (concerns handles handle.user run)).filterMap (seen handle.connection) =
      (trailFrom policies (State.after policies past) run).filterMap (seen handle.connection) := by
  induction run using List.reverseRecOn with
  | nil => rfl
  | append_singleton before operation ih =>
    rw [← List.append_assoc] at lawful known sole
    have knownBefore (other : Handle) (isMade : other ∈ made (past ++ before)) :
        other ∈ handles := known other (mem_made_append _ isMade)
    have soleBefore : Sole (past ++ before) handle := sole.of_append
    rw [trailFrom_append, List.filterMap_append, ← after_append]
    by_cases about : operation.Concerns handles handle.user
    · rw [concerns_concat_of_concerns about, ← List.append_assoc] at alone
      have same : (State.after policies (past ++ concerns handles handle.user before)).slice
          handle.user = (State.after policies (past ++ before)).slice handle.user :=
        slice_concerns lawful.of_append alone.of_append knownBefore
      have soleAlone : Sole (past ++ concerns handles handle.user before) handle :=
        fun other isMade => soleBefore other (mem_made_of_concerns isMade)
      rw [concerns_concat_of_concerns about, trailFrom_append, List.filterMap_append,
        ← after_append, ih lawful.of_append alone.of_append knownBefore soleBefore]
      simp only [trailFrom, List.filterMap_cons, List.filterMap_nil,
        seen_eq_of_slice_eq (sound_after policies lawful.of_append) soleBefore
          (sound_after policies alone.of_append) soleAlone same operation]
    · rw [concerns_concat_of_not about] at alone ⊢
      have other : operation ≠ .receive handle.connection := by
        rintro rfl
        exact about isKnown
      have unseen : seen handle.connection (State.after policies (past ++ before), operation) =
          none := seen_eq_none other
      rw [ih lawful.of_append alone knownBefore soleBefore]
      simp only [trailFrom, List.filterMap_cons, List.filterMap_nil, unseen, List.append_nil]

/-- A run and what concerns a user of it are the same to the user: they lead to the same slice, and
the user's writers see the same on the way. -/
theorem isolation (policies : Policies) (lawful : Lawful (past ++ run)) (user : UserId) :
    Lawful (past ++ concerns (made (past ++ run)) user run) ∧
      (State.after policies (past ++ concerns (made (past ++ run)) user run)).slice user =
        (State.after policies (past ++ run)).slice user ∧
      ∀ connection, ⟨connection, user⟩ ∈ made (past ++ run) →
        (trailFrom policies (State.after policies past)
            (concerns (made (past ++ run)) user run)).filterMap (seen connection) =
          (trailFrom policies (State.after policies past) run).filterMap (seen connection) := by
  have alone := lawful_concerns lawful user
  refine ⟨alone, slice_concerns lawful alone fun _ isMade => isMade, fun connection isMade => ?_⟩
  exact seen_concerns ⟨connection, user⟩ lawful alone (fun _ isMade => isMade)
    (lawful.sole isMade) isMade

/-- Two connections of different users. -/
def neighbours : List Operation := [.connect ⟨⟨0⟩, 7⟩ 4, .connect ⟨⟨1⟩, 8⟩ 1]

/-- The second is slow and is evicted in the middle of a fan-out to both, and its user tries to
unregister the first. -/
def nuisance : List Operation :=
  [.apply (.register ⟨⟨0⟩, 7⟩), .apply (.register ⟨⟨1⟩, 8⟩),
    .apply (.fanout (.to [8, 7] ⟨#[1]⟩)), .apply (.fanout (.to [8, 7] ⟨#[2]⟩)),
    .apply (.unregister 8 ⟨0⟩), .receive ⟨0⟩, .receive ⟨1⟩, .abandon ⟨1⟩]

/-- What is left of that for the user of the first. -/
def undisturbed : List Operation :=
  [.apply (.register ⟨⟨0⟩, 7⟩), .apply (.fanout (.to [7] ⟨#[1]⟩)),
    .apply (.fanout (.to [7] ⟨#[2]⟩)), .receive ⟨0⟩]

/-- A nuisance of other users leaves the user's slice as it is, and what the writer sees. -/
theorem isolation_nuisance :
    Lawful (neighbours ++ nuisance) ∧
      concerns (made (neighbours ++ nuisance)) 7 nuisance = undisturbed ∧
      (State.after {} (neighbours ++ undisturbed)).slice 7 =
        (State.after {} (neighbours ++ nuisance)).slice 7 ∧
      (trailFrom {} (State.after {} neighbours) undisturbed).filterMap (seen ⟨0⟩) =
        [.payload ⟨#[1]⟩] := by
  have lawful : Lawful (neighbours ++ nuisance) := lawful_of_follows (by decide)
  have reduced : concerns (made (neighbours ++ nuisance)) 7 nuisance = undisturbed := by decide
  obtain ⟨_, same, sees⟩ := isolation {} lawful 7
  rw [reduced] at same sees
  refine ⟨lawful, reduced, same, (sees ⟨0⟩ (by decide)).trans ?_⟩
  decide +kernel

end Switchboard.Hub
