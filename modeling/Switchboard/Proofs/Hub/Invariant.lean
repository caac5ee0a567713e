import Mathlib.Data.List.Induction
import Switchboard.Proofs.Hub.Requests

/-!
# The invariant of a hub's state

`Sound` says how the registry and the outboxes fit the operations so far: a registered handle is
that of its user and has been given away, an outbox has the owner, the room and the ends that the
operations give it, and the hub's end is there exactly for a connection that is registered. Inside a
handler a handle may be on its way from one place to another, so the invariant allows for one.
`Shown` says that the presence view is the registry's key set. Both hold after every lawful run
(`sound_after`, `shown_after`).
-/

namespace Switchboard.Hub

/-- An outbox as the operations so far leave it, whoever holds its handle. -/
structure Outbox.Suits (past : List Operation) (connection : ConnectionId) (outbox : Outbox) :
    Prop where
  made : (⟨connection, outbox.owner⟩ : Handle) ∈ made past
  attended_iff : outbox.attended = true ↔ Operation.abandon connection ∉ past
  unattended : outbox.attended = false → outbox.buffer = []
  fits : outbox.buffer.length ≤ outbox.capacity
  capacity_eq : ∀ {capacity : Nat},
    Operation.connect ⟨connection, outbox.owner⟩ capacity ∈ past → outbox.capacity = max 1 capacity

/-- The state of registry and outboxes after operations, while a handle may be on its way. -/
structure Sound (past : List Operation) (moving : Option Handle) (state : State) : Prop where
  user_eq : ∀ {user : UserId} {handle : Handle}, state.registry[user]? = some handle →
    handle.user = user
  given : ∀ {user : UserId} {handle : Handle}, state.registry[user]? = some handle →
    Operation.apply (.register handle) ∈ past
  moving_free : ∀ {handle : Handle}, moving = some handle →
    handle ∈ spent past ∧ state.registry[handle.user]? ≠ some handle
  outbox_of_made : ∀ {handle : Handle}, handle ∈ made past →
    ∃ outbox, state.outboxes[handle.connection]? = some outbox ∧ outbox.owner = handle.user
  suits : ∀ {connection : ConnectionId} {outbox : Outbox},
    state.outboxes[connection]? = some outbox → outbox.Suits past connection
  held_iff : ∀ {connection : ConnectionId} {outbox : Outbox},
    state.outboxes[connection]? = some outbox →
      (outbox.held = true ↔ InHand past ⟨connection, outbox.owner⟩ ∨
        state.registry[outbox.owner]? = some ⟨connection, outbox.owner⟩ ∨
        moving = some ⟨connection, outbox.owner⟩)

/-- The presence view is the registry's key set. -/
def State.Shown (state : State) : Prop := ∀ user, user ∈ state.online ↔ user ∈ state.registry

/-- An operation that makes no connection and ends no writer leaves outboxes as they should be. -/
theorem Outbox.Suits.extend {past : List Operation} {connection : ConnectionId} {outbox : Outbox}
    (suits : outbox.Suits past connection) {operation : Operation}
    (makes : operation.made? = none) (ends : ∀ connection, operation ≠ .abandon connection) :
    outbox.Suits (past ++ [operation]) connection where
  made := by simpa [makes] using suits.made
  attended_iff := by
    rw [suits.attended_iff]
    simp [(ends connection).symm]
  unattended := suits.unattended
  fits := suits.fits
  capacity_eq := fun {capacity} member => by
    rcases List.mem_append.mp member with earlier | now
    · exact suits.capacity_eq earlier
    · rw [List.mem_singleton] at now
      simp [← now, Operation.made?] at makes

/-! ## What preserves the invariant -/

namespace Sound

variable {past : List Operation} {moving : Option Handle} {state : State}

/-- Counters, presence view and events are not concerned. -/
theorem congr {other : State} (sound : Sound past moving state)
    (registry : other.registry = state.registry) (outboxes : other.outboxes = state.outboxes) :
    Sound past moving other where
  user_eq := by rw [registry]; exact sound.user_eq
  given := by rw [registry]; exact sound.given
  moving_free := by rw [registry]; exact sound.moving_free
  outbox_of_made := by rw [outboxes]; exact sound.outbox_of_made
  suits := by rw [outboxes]; exact sound.suits
  held_iff := by rw [outboxes, registry]; exact sound.held_iff

/-- What is counted does not matter to the invariant. -/
theorem record (sound : Sound past moving state) (occurrence : Occurrence) :
    Sound past moving (state.record occurrence) :=
  sound.congr rfl rfl

/-- Nor does what is published. -/
theorem publish (sound : Sound past moving state) (event : PresenceEvent) :
    Sound past moving (state.publish event) :=
  sound.congr rfl rfl

/-- Nor does who is shown as reachable. -/
theorem markOnline (sound : Sound past moving state) (user : UserId) :
    Sound past moving (state.markOnline user) :=
  sound.congr rfl rfl

/-- Nor does who is shown as unreachable. -/
theorem markOffline (sound : Sound past moving state) (user : UserId) :
    Sound past moving (state.markOffline user) :=
  sound.congr rfl rfl

/-- A handle that was given away has been made. -/
theorem made_of_moving (sound : Sound past moving state) (lawful : Lawful past) {handle : Handle}
    (isMoving : moving = some handle) : handle ∈ made past :=
  lawful.made_of_spent (sound.moving_free isMoving).1

/-- The outbox of a handle that has been made is that of its user. -/
theorem owner_eq (sound : Sound past moving state) (lawful : Lawful past) {handle : Handle}
    {outbox : Outbox} (isMade : handle ∈ made past)
    (found : state.outboxes[handle.connection]? = some outbox) : outbox.owner = handle.user := by
  have same := lawful.made_unique (sound.suits found).made isMade rfl
  exact congrArg Handle.user same

/-- An operation that makes or spends no handle and ends no writer leaves the invariant alone. -/
theorem idle (sound : Sound past moving state) {operation : Operation}
    (makes : operation.made? = none) (spends : operation.spent? = none)
    (ends : ∀ connection, operation ≠ .abandon connection) :
    Sound (past ++ [operation]) moving state := by
  have sameMade : made (past ++ [operation]) = made past := by simp [makes]
  have sameSpent : spent (past ++ [operation]) = spent past := by simp [spends]
  have handles (handle : Handle) : InHand (past ++ [operation]) handle ↔ InHand past handle := by
    rw [InHand, InHand, sameMade, sameSpent]
  exact
    { user_eq := sound.user_eq
      given := fun registered => List.mem_append_left _ (sound.given registered)
      moving_free := by rw [sameSpent]; exact sound.moving_free
      outbox_of_made := by rw [sameMade]; exact sound.outbox_of_made
      suits := fun found => (sound.suits found).extend makes ends
      held_iff := fun {connection outbox} found => by
        rw [handles]; exact sound.held_iff found }

/-- A handle leaves its maker. -/
theorem spend (sound : Sound past none state) {operation : Operation} {handle : Handle}
    (makes : operation.made? = none) (spends : operation.spent? = some handle)
    (ends : ∀ connection, operation ≠ .abandon connection) (inHand : InHand past handle) :
    Sound (past ++ [operation]) (some handle) state := by
  have sameMade : made (past ++ [operation]) = made past := by simp [makes]
  have nowSpent : spent (past ++ [operation]) = spent past ++ [handle] := by simp [spends]
  exact
    { user_eq := sound.user_eq
      given := fun registered => List.mem_append_left _ (sound.given registered)
      moving_free := fun {moved} isMoving => by
        obtain rfl := Option.some.inj isMoving
        refine ⟨by simp [nowSpent], fun registered => inHand.2 ?_⟩
        exact mem_spent_of_register (sound.given registered)
      outbox_of_made := by rw [sameMade]; exact sound.outbox_of_made
      suits := fun found => (sound.suits found).extend makes ends
      held_iff := fun {connection outbox} found => by
        have before := sound.held_iff found
        simp only [reduceCtorEq, or_false] at before
        rw [before, InHand, InHand, sameMade, nowSpent, Option.some.injEq]
        by_cases same : handle = ⟨connection, outbox.owner⟩
        · subst same
          simp [inHand.1, inHand.2]
        · simp [same, Ne.symm same] }

/-- Changing an outbox takes away no outbox and changes no owner. -/
theorem outbox_of_made_changeOutbox (sound : Sound past moving state) {connection : ConnectionId}
    (change : Outbox → Outbox) (owner : ∀ outbox, (change outbox).owner = outbox.owner)
    {handle : Handle} (isMade : handle ∈ made past) :
    ∃ outbox, (state.changeOutbox connection change).outboxes[handle.connection]? = some outbox ∧
      outbox.owner = handle.user := by
  obtain ⟨outbox, found, owned⟩ := sound.outbox_of_made isMade
  rw [State.getElem?_changeOutbox, found]
  split
  · exact ⟨change outbox, rfl, by rw [owner, owned]⟩
  · exact ⟨outbox, rfl, owned⟩

/-- An outbox is changed at the writer's end, or gets a payload that it has room for. -/
theorem changeOutbox (sound : Sound past moving state) {connection : ConnectionId}
    {change : Outbox → Outbox} (owner : ∀ outbox, (change outbox).owner = outbox.owner)
    (held : ∀ outbox, (change outbox).held = outbox.held)
    (suits : ∀ {outbox}, state.outboxes[connection]? = some outbox →
      (change outbox).Suits past connection) :
    Sound past moving (state.changeOutbox connection change) where
  user_eq := sound.user_eq
  given := sound.given
  moving_free := sound.moving_free
  outbox_of_made := sound.outbox_of_made_changeOutbox change owner
  suits := fun {other outbox} found => by
    rcases State.changeOutbox_cases found with ⟨before, rfl, present, rfl⟩ | ⟨_, present⟩
    · exact suits present
    · exact sound.suits present
  held_iff := fun {other outbox} found => by
    rcases State.changeOutbox_cases found with ⟨before, rfl, present, rfl⟩ | ⟨_, present⟩
    · rw [held, owner]
      exact sound.held_iff present
    · exact sound.held_iff present

/-- A payload enters an outbox that has a writer and room. -/
theorem append (sound : Sound past moving state) {connection : ConnectionId} {payload : Payload}
    {outbox : Outbox} (found : state.outboxes[connection]? = some outbox)
    (attended : outbox.attended = true) (room : outbox.buffer.length < outbox.capacity) :
    Sound past moving (state.changeOutbox connection (·.append payload)) := by
  refine sound.changeOutbox (fun _ => rfl) (fun _ => rfl) fun {before} present => ?_
  obtain rfl := Option.some.inj (found.symm.trans present)
  have suits := sound.suits found
  exact
    { suits with
      unattended := fun gone => by simp [Outbox.append, attended] at gone
      fits := by
        simp only [Outbox.append, List.length_append, List.length_singleton]
        omega }

/-- The writer takes a payload, if there is one. -/
theorem receive (sound : Sound past moving state) (connection : ConnectionId) :
    Sound past moving (state.changeOutbox connection fun outbox => outbox.receive.2) := by
  have fields (outbox : Outbox) :
      outbox.receive.2 = { outbox with buffer := outbox.buffer.drop 1 } := by
    cases outbox with
    | mk owner capacity buffer held attended => cases buffer <;> rfl
  simp only [fields]
  refine sound.changeOutbox (fun _ => rfl) (fun _ => rfl) fun {outbox} present => ?_
  have suits := sound.suits present
  exact
    { suits with
      unattended := fun gone => by simp [suits.unattended gone]
      fits := by
        have fits := suits.fits
        simp only [List.length_drop]
        omega }

/-- A handle takes the place of its user's registered one, which is then on its way. -/
theorem enter {handle : Handle} (sound : Sound past (some handle) state)
    (given : Operation.apply (.register handle) ∈ past) :
    Sound past state.registry[handle.user]? (state.enter handle) := by
  have lookup (user : UserId) : (state.enter handle).registry[user]? =
      if handle.user = user then some handle else state.registry[user]? := by
    simp [State.enter, Std.ExtTreeMap.getElem?_insert]
  obtain ⟨_, free⟩ := sound.moving_free rfl
  refine
    { user_eq := fun {user other} registered => ?_
      given := fun {user other} registered => ?_
      moving_free := fun {previous} displaced => ?_
      outbox_of_made := sound.outbox_of_made
      suits := sound.suits
      held_iff := fun {connection outbox} found => ?_ }
  · rw [lookup] at registered
    split at registered
    next same => rw [← Option.some.inj registered, same]
    next => exact sound.user_eq registered
  · rw [lookup] at registered
    split at registered
    next => exact Option.some.inj registered ▸ given
    next => exact sound.given registered
  · refine ⟨mem_spent_of_register (sound.given displaced), ?_⟩
    rw [lookup, sound.user_eq displaced, if_pos rfl]
    exact fun same => free (displaced.trans same.symm)
  · rw [sound.held_iff found, lookup, Option.some.injEq]
    by_cases same : handle.user = outbox.owner
    · rw [if_pos same, Option.some.injEq, same]
      exact or_congr_right or_comm
    · have elsewhere : handle ≠ ⟨connection, outbox.owner⟩ := fun equal =>
        same (congrArg Handle.user equal)
      have notDisplaced : state.registry[handle.user]? ≠ some ⟨connection, outbox.owner⟩ :=
        fun displaced => same (sound.user_eq displaced).symm
      rw [if_neg same]
      simp only [elsewhere, notDisplaced]

/-- A registered handle leaves the registry, and is then on its way. -/
theorem leave (sound : Sound past none state) (user : UserId) :
    Sound past state.registry[user]? (state.leave user) := by
  have lookup (other : UserId) : (state.leave user).registry[other]? =
      if user = other then none else state.registry[other]? := by
    simp [State.leave, Std.ExtTreeMap.getElem?_erase]
  refine
    { user_eq := fun {other handle} registered => ?_
      given := fun {other handle} registered => ?_
      moving_free := fun {handle} displaced => ?_
      outbox_of_made := sound.outbox_of_made
      suits := sound.suits
      held_iff := fun {connection outbox} found => ?_ }
  · rw [lookup] at registered
    exact sound.user_eq (Option.ite_none_left_eq_some.mp registered).2
  · rw [lookup] at registered
    exact sound.given (Option.ite_none_left_eq_some.mp registered).2
  · refine ⟨mem_spent_of_register (sound.given displaced), ?_⟩
    rw [lookup, sound.user_eq displaced, if_pos rfl]
    simp
  · rw [sound.held_iff found, lookup]
    by_cases same : user = outbox.owner
    · simp [same]
    · have notDisplaced : state.registry[user]? ≠ some ⟨connection, outbox.owner⟩ :=
        fun displaced => same (sound.user_eq displaced).symm
      simp [same, notDisplaced]

/-- A handle on its way is let go of. -/
theorem release {handle : Handle} (sound : Sound past (some handle) state)
    (lawful : Lawful past) : Sound past none (state.release handle.connection) where
  user_eq := sound.user_eq
  given := sound.given
  moving_free := fun nothing => by cases nothing
  outbox_of_made := sound.outbox_of_made_changeOutbox Outbox.release fun _ => rfl
  suits := fun {other outbox} found => by
    rcases State.changeOutbox_cases found with ⟨before, rfl, present, rfl⟩ | ⟨_, present⟩
    · exact { sound.suits present with }
    · exact sound.suits present
  held_iff := fun {other outbox} found => by
    have isMade := sound.made_of_moving lawful rfl
    obtain ⟨gone, free⟩ := sound.moving_free rfl
    rcases State.changeOutbox_cases found with ⟨before, rfl, present, rfl⟩ | ⟨different, present⟩
    · have notRegistered :
          (state.release handle.connection).registry[handle.user]? ≠ some handle := free
      simp [Outbox.release, InHand, sound.owner_eq lawful isMade present, gone, notRegistered]
    · have elsewhere : handle ≠ ⟨other, outbox.owner⟩ := fun equal =>
        different (congrArg Handle.connection equal)
      rw [sound.held_iff present]
      simp [State.release, State.changeOutbox, elsewhere]

/-- A new connection keeps the invariant. -/
theorem connect (sound : Sound past none state) (lawful : Lawful past) {handle : Handle}
    {capacity : Nat} (fresh : ∀ earlier ∈ made past, earlier.connection ≠ handle.connection) :
    Sound (past ++ [.connect handle capacity]) none
      (state.addOutbox handle.connection (.create handle.user capacity)) := by
  have attended : Operation.abandon handle.connection ∉ past := fun gone => by
    obtain ⟨earlier, isMade, same⟩ := List.mem_map.mp (lawful.made_of_abandon gone)
    exact fresh earlier isMade same
  have unspent : handle ∉ spent past := fun gone =>
    fresh handle (lawful.made_of_spent gone) rfl
  have lookup (other : ConnectionId) :
      (state.addOutbox handle.connection (.create handle.user capacity)).outboxes[other]? =
        if handle.connection = other then some (.create handle.user capacity)
        else state.outboxes[other]? := by
    simp [State.addOutbox, Std.ExtTreeMap.getElem?_insert]
  have nowMade : made (past ++ [.connect handle capacity]) = made past ++ [handle] := by
    simp [Operation.made?]
  have sameSpent : spent (past ++ [.connect handle capacity]) = spent past := by
    simp [Operation.spent?]
  have neverMade (capacity : Nat) : Operation.connect handle capacity ∉ past := fun member =>
    fresh handle (List.mem_filterMap.mpr ⟨_, member, rfl⟩) rfl
  refine
    { user_eq := sound.user_eq
      given := fun registered => List.mem_append_left _ (sound.given registered)
      moving_free := fun nothing => by cases nothing
      outbox_of_made := fun {other} otherMade => ?_
      suits := fun {other outbox} found => ?_
      held_iff := fun {other outbox} found => ?_ }
  · rw [nowMade, List.mem_append, List.mem_singleton] at otherMade
    rw [lookup]
    rcases otherMade with earlier | rfl
    · rw [if_neg (fresh other earlier).symm]
      exact sound.outbox_of_made earlier
    · exact ⟨_, if_pos rfl, rfl⟩
  · rw [lookup] at found
    split at found
    next same =>
      obtain rfl := Option.some.inj found
      subst same
      exact
        { made := by simp [nowMade, Outbox.create]
          attended_iff := by simp [Outbox.create, attended]
          unattended := fun gone => by simp [Outbox.create] at gone
          fits := by simp [Outbox.create]
          capacity_eq := fun {other} member => by
            rcases List.mem_append.mp member with earlier | now
            · exact absurd earlier (neverMade other)
            · obtain ⟨_, rfl⟩ := Operation.connect.inj (List.mem_singleton.mp now)
              rfl }
    next different =>
      have suits := sound.suits found
      exact
        { made := by rw [nowMade]; exact List.mem_append_left _ suits.made
          attended_iff := by simp [suits.attended_iff]
          unattended := suits.unattended
          fits := suits.fits
          capacity_eq := fun {other} member => by
            rcases List.mem_append.mp member with earlier | now
            · exact suits.capacity_eq earlier
            · obtain ⟨same, _⟩ := Operation.connect.inj (List.mem_singleton.mp now)
              exact absurd (congrArg Handle.connection same).symm different }
  · rw [InHand, nowMade, sameSpent]
    rw [lookup] at found
    split at found
    next same =>
      obtain rfl := Option.some.inj found
      subst same
      simp [Outbox.create, unspent]
    next different =>
      have elsewhere : (⟨other, outbox.owner⟩ : Handle) ≠ handle := fun equal =>
        different (congrArg Handle.connection equal).symm
      rw [sound.held_iff found, InHand]
      simp [elsewhere, State.addOutbox]

/-- So does a writer that goes. -/
theorem abandon (sound : Sound past none state) (connection : ConnectionId) :
    Sound (past ++ [.abandon connection]) none
      (state.changeOutbox connection Outbox.abandon) := by
  have sameMade : made (past ++ [.abandon connection]) = made past := by simp [Operation.made?]
  have sameSpent : spent (past ++ [.abandon connection]) = spent past := by
    simp [Operation.spent?]
  have capacity_eq {other : ConnectionId} {outbox : Outbox} (suits : outbox.Suits past other)
      {capacity : Nat} (member : Operation.connect ⟨other, outbox.owner⟩ capacity ∈
        past ++ [.abandon connection]) : outbox.capacity = max 1 capacity := by
    simp only [List.mem_append, List.mem_singleton, reduceCtorEq, or_false] at member
    exact suits.capacity_eq member
  refine
    { user_eq := sound.user_eq
      given := fun registered => List.mem_append_left _ (sound.given registered)
      moving_free := fun nothing => by cases nothing
      outbox_of_made := by
        rw [sameMade]
        exact sound.outbox_of_made_changeOutbox Outbox.abandon fun _ => rfl
      suits := fun {other outbox} found => ?_
      held_iff := fun {other outbox} found => ?_ }
  · rcases State.changeOutbox_cases found with ⟨before, rfl, present, rfl⟩ | ⟨different, present⟩
    · have suits := sound.suits present
      exact
        { made := by rw [sameMade]; exact suits.made
          attended_iff := by simp [Outbox.abandon]
          unattended := fun _ => rfl
          fits := Nat.zero_le _
          capacity_eq := capacity_eq suits }
    · have suits := sound.suits present
      exact
        { made := by rw [sameMade]; exact suits.made
          attended_iff := by simp [suits.attended_iff, Ne.symm different]
          unattended := suits.unattended
          fits := suits.fits
          capacity_eq := capacity_eq suits }
  · rw [InHand, sameMade, sameSpent]
    rcases State.changeOutbox_cases found with ⟨before, rfl, present, rfl⟩ | ⟨_, present⟩
    · have held := sound.held_iff present
      exact held
    · exact sound.held_iff present

/-- Every handler keeps the invariant: a registered connection is let go of. -/
theorem discard (sound : Sound past none state) (lawful : Lawful past) {user : UserId}
    {handle : Handle} (registered : state.registry[user]? = some handle) (reason : OfflineReason) :
    Sound past none (state.discard user handle.connection reason) := by
  have left := sound.leave user
  rw [registered] at left
  exact ((left.release lawful).markOffline user).publish _

/-- So does a delivery. -/
theorem deliver (sound : Sound past none state) (lawful : Lawful past) (policy : OverflowPolicy)
    (payload : Payload) (user : UserId) :
    Sound past none (state.deliver policy payload user).1 := by
  have outcome := state.deliver_cases policy payload user
  generalize state.deliver policy payload user = result at outcome
  cases outcome with
  | offline absent => exact sound.record _
  | delivered registered found attended room => exact (sound.append found attended room).record _
  | evicted registered found attended full chosen =>
    exact (sound.record _).discard lawful registered _
  | dropped registered found attended full chosen => exact sound.record _
  | closed registered gone => exact sound.discard lawful registered _

/-- So does a fan-out. -/
theorem fanOut (sound : Sound past none state) (lawful : Lawful past) (policy : OverflowPolicy)
    (request : FanoutRequest) : Sound past none (state.fanOut policy request).1 :=
  State.fanOut_preserves (Sound past none) (fun sound => sound.record _)
    (fun user sound => sound.deliver lawful policy request.payload user) sound

/-- So does a request to unregister. -/
theorem unregister (sound : Sound past none state) (lawful : Lawful past) (user : UserId)
    (connection : ConnectionId) : Sound past none (state.unregister user connection).1 := by
  have outcome := state.unregister_cases user connection
  generalize state.unregister user connection = result at outcome
  cases outcome with
  | removed registered same =>
    subst same
    have left := sound.leave user
    rw [registered] at left
    exact (((left.release lawful).record _).markOffline user).publish _
  | stale other => exact sound.record _

/-- `past` ends with the request, so the handle is on its way when the handler starts. -/
theorem register {handle : Handle} (sound : Sound past (some handle) state) (lawful : Lawful past)
    (given : Operation.apply (.register handle) ∈ past) (policy : DuplicatePolicy) :
    Sound past none (state.register policy handle).1 := by
  have outcome := state.register_cases policy handle
  generalize state.register policy handle = result at outcome
  have entered := sound.enter given
  cases outcome with
  | ignored gone => exact sound.release lawful
  | inserted attended free =>
    rw [free] at entered
    exact ((entered.record _).markOnline _).publish _
  | replaced attended occupied chosen =>
    -- Now the previous handle is the one on its way.
    rw [occupied] at entered
    exact ((((entered.release lawful).record _).record _).publish _).publish _
  | rejected attended occupied chosen =>
    exact ((sound.release lawful).record _).publish _

/-- So does every operation that may follow. -/
theorem perform (sound : Sound past none state) (policies : Policies) {operation : Operation}
    (lawful : Lawful past) (follows : operation.Follows past) :
    Sound (past ++ [operation]) none (state.perform policies operation) := by
  have lawfulNow := lawful.step follows
  cases operation with
  | connect handle capacity => exact sound.connect lawful follows
  | push handle payload =>
    have kept : Sound (past ++ [.push handle payload]) none state := sound.idle rfl rfl (by simp)
    have outcome := state.push_cases handle.connection payload
    simp only [State.perform]
    generalize state.push handle.connection payload = result at outcome
    cases outcome with
    | queued found attended room => exact kept.append found attended room
    | full found attended full => exact kept
    | closed gone => exact kept
  | close handle =>
    have spent : Sound (past ++ [.close handle]) (some handle) state :=
      sound.spend rfl rfl (by simp) follows
    exact spent.release lawfulNow
  | apply request =>
    cases request with
    | register handle =>
      have spent : Sound (past ++ [.apply (.register handle)]) (some handle) state :=
        sound.spend rfl rfl (by simp) follows
      exact spent.register lawfulNow (by simp) policies.duplicate
    | unregister user connection =>
      have kept : Sound (past ++ [.apply (.unregister user connection)]) none state :=
        sound.idle rfl rfl (by simp)
      exact kept.unregister lawfulNow user connection
    | fanout request =>
      have kept : Sound (past ++ [.apply (.fanout request)]) none state :=
        sound.idle rfl rfl (by simp)
      exact kept.fanOut lawfulNow policies.overflow request
  | receive connection =>
    have kept : Sound (past ++ [.receive connection]) none state := sound.idle rfl rfl (by simp)
    exact kept.receive connection
  | abandon connection => exact sound.abandon connection

/-- The invariant holds of an empty hub. -/
theorem start : Sound [] none {} where
  user_eq := fun registered => by simp at registered
  given := fun registered => by simp at registered
  moving_free := fun nothing => by cases nothing
  outbox_of_made := fun isMade => by simp [made] at isMade
  suits := fun found => by simp at found
  held_iff := fun found => by simp at found

end Sound

/-- It holds after every lawful run. -/
theorem sound_after (policies : Policies) {run : List Operation} (lawful : Lawful run) :
    Sound run none (State.after policies run) := by
  induction lawful with
  | start => exact Sound.start
  | step lawful follows ih =>
    rw [after_concat]
    exact ih.perform policies lawful follows

/-! ## The presence view -/

namespace State.Shown

variable {state : State}

/-- Somebody who is registered and marked is shown. -/
theorem enter (shown : state.Shown) (handle : Handle) :
    ((state.enter handle).markOnline handle.user).Shown := fun user => by
  have before := shown user
  simp only [State.enter, State.markOnline, Std.ExtTreeSet.mem_insert, Std.ExtTreeMap.mem_insert]
  rw [before]

/-- Somebody whose connection is replaced is still shown. -/
theorem replace (shown : state.Shown) {handle previous : Handle}
    (occupied : state.registry[handle.user]? = some previous) :
    (state.enter handle).Shown := fun user => by
  have before := shown user
  simp only [State.enter, Std.ExtTreeMap.mem_insert, Std.compare_eq_iff_eq]
  rw [before]
  refine ⟨Or.inr, fun present => present.elim (fun same => ?_) id⟩
  subst same
  exact Std.ExtTreeMap.mem_iff_isSome_getElem?.mpr (by rw [occupied]; rfl)

/-- Somebody who has left and is unmarked is not shown. -/
theorem leave (shown : state.Shown) (user : UserId) :
    ((state.leave user).markOffline user).Shown := fun other => by
  have before := shown other
  simp only [State.leave, State.markOffline, Std.ExtTreeSet.mem_erase, Std.ExtTreeMap.mem_erase]
  rw [before]

/-- The view is up to date after a delivery. -/
theorem deliver (shown : state.Shown) (policy : OverflowPolicy) (payload : Payload)
    (user : UserId) : (state.deliver policy payload user).1.Shown := by
  have outcome := state.deliver_cases policy payload user
  generalize state.deliver policy payload user = result at outcome
  cases outcome with
  | offline absent => exact shown
  | delivered registered found attended room => exact shown
  | evicted registered found attended full chosen => exact shown.leave user
  | dropped registered found attended full chosen => exact shown
  | closed registered gone => exact shown.leave user

/-- It is up to date after a request. -/
theorem apply (shown : state.Shown) (policies : Policies) (request : Request) :
    (state.apply policies request).1.Shown := by
  cases request with
  | register handle =>
    have outcome := state.register_cases policies.duplicate handle
    simp only [State.apply]
    generalize state.register policies.duplicate handle = result at outcome
    cases outcome with
    | ignored gone => exact shown
    | inserted attended free => exact shown.enter handle
    | replaced attended occupied chosen => exact shown.replace occupied
    | rejected attended occupied chosen => exact shown
  | unregister user connection =>
    have outcome := state.unregister_cases user connection
    simp only [State.apply]
    generalize state.unregister user connection = result at outcome
    cases outcome with
    | removed registered same => exact shown.leave user
    | stale other => exact shown
  | fanout request =>
    exact State.fanOut_preserves State.Shown (fun shown => shown)
      (fun user shown => shown.deliver policies.overflow request.payload user) shown

/-- It is up to date after every operation. -/
theorem perform (shown : state.Shown) (policies : Policies) (operation : Operation) :
    (state.perform policies operation).Shown := by
  rcases state.perform_cases policies operation with ⟨request, _, same⟩ | ⟨_, outboxes, same⟩
  · rw [same]
    exact shown.apply policies request
  · rw [same]
    exact shown

end State.Shown

/-- The view is up to date after every run. -/
theorem shown_after (policies : Policies) (run : List Operation) :
    (State.after policies run).Shown := by
  induction run using List.reverseRecOn with
  | nil => intro user; simp
  | append_singleton past operation ih =>
    rw [after_concat]
    exact ih.perform policies operation

end Switchboard.Hub
