import Switchboard.Proofs.Hub.Membership

/-!
# What flows through an outbox

What one operation puts into a connection's outbox, and what it takes out: a push or a delivery that
is accepted puts a payload in, a writer takes payloads out, and a writer that goes takes everything
with it. Nothing else changes what is buffered (`buffered_perform`), so over a whole run everything
that was put in has been received, was lost with the writer, or is still there, in order
(`conservation`).
-/

namespace Switchboard.Hub

/-- No other handle has this handle's connection. -/
def Sole (past : List Operation) (handle : Handle) : Prop :=
  ∀ other ∈ made past, other.connection = handle.connection → other = handle

/-- The payloads that wait in a connection's outbox, the oldest first. -/
def State.buffered (state : State) (connection : ConnectionId) : List Payload :=
  ((state.outboxes[connection]?).map Outbox.buffer).getD []

/-- A connection's outbox has a writer and room for a further payload. -/
def State.accepts (state : State) (connection : ConnectionId) : Bool :=
  (state.outboxes[connection]?).any fun outbox =>
    outbox.attended && outbox.buffer.length < outbox.capacity

/-! ## What goes in and what comes out -/

/-- What the writer of a connection sees when it takes something. -/
def seen (connection : ConnectionId) : State × Operation → Option Reception
  | (state, .receive other) =>
    if other = connection then (state.outboxes[connection]?).map fun outbox => outbox.receive.1
    else none
  | _ => none

/-- The payload that a writer sees. -/
def Reception.payload? : Reception → Option Payload
  | .payload content => some content
  | _ => none

/-- The payload that the writer of a connection takes. -/
def taken (connection : ConnectionId) (entry : State × Operation) : List Payload :=
  ((seen connection entry).bind Reception.payload?).toList

/-- What is buffered for the writer of a connection when it goes. -/
def forfeited (connection : ConnectionId) : State × Operation → List Payload
  | (state, .abandon other) => if other = connection then state.buffered connection else []
  | _ => []

/-- The payload that a handle's maker pushes, unless the push fails. -/
def pushed (handle : Handle) : State × Operation → List Payload
  | (state, .push other payload) =>
    if other = handle then
      match state.push handle.connection payload with
      | .ok _ => [payload]
      | .error _ => []
    else []
  | _ => []

/-- The payload that a fan-out puts into the outbox of a handle's connection. -/
def fanned (handle : Handle) : State × Operation → List Payload
  | (state, .apply (.fanout request)) =>
    if handle.user ∈ request.recipients ∧ state.Registers handle ∧
        state.accepts handle.connection = true then [request.payload]
    else []
  | _ => []

/-! ## A fan-out and one connection -/

/-- What a fan-out does to one connection. -/
inductive Reached (policy : OverflowPolicy) (request : FanoutRequest) (handle : Handle)
    (before after : State) : Prop where
  | aside (absent : handle.user ∉ request.recipients ∨ ¬ before.Registers handle)
      (outbox : after.outboxes[handle.connection]? = before.outboxes[handle.connection]?)
      (registers : after.Registers handle ↔ before.Registers handle)
  | queued {outbox : Outbox} (named : handle.user ∈ request.recipients)
      (registers : before.Registers handle)
      (found : before.outboxes[handle.connection]? = some outbox)
      (attended : outbox.attended = true) (room : outbox.buffer.length < outbox.capacity)
      (appended : after.outboxes[handle.connection]? = some (outbox.append request.payload))
      (kept : after.Registers handle)
  | dropped {outbox : Outbox} (named : handle.user ∈ request.recipients)
      (registers : before.Registers handle)
      (found : before.outboxes[handle.connection]? = some outbox)
      (attended : outbox.attended = true) (full : outbox.capacity ≤ outbox.buffer.length)
      (chosen : policy = .dropNewest)
      (same : after.outboxes[handle.connection]? = some outbox) (kept : after.Registers handle)
  | removed {outbox : Outbox} (named : handle.user ∈ request.recipients)
      (registers : before.Registers handle)
      (found : before.outboxes[handle.connection]? = some outbox)
      (refused : outbox.attended = false ∨ outbox.capacity ≤ outbox.buffer.length)
      (released : after.outboxes[handle.connection]? = some outbox.release)
      (gone : ¬ after.Registers handle)

variable {past : List Operation} {state : State} {handle : Handle}

/-- A handle that is the sole one of its connection was so before. -/
theorem Sole.of_append {later : List Operation} (sole : Sole (past ++ later) handle) :
    Sole past handle := by
  intro other isMade same
  exact sole other (mem_made_append later isMade) same

/-- In a lawful run each handle that is made is the sole one. -/
theorem Lawful.sole {run : List Operation} (lawful : Lawful run) (isMade : handle ∈ made run) :
    Sole run handle :=
  fun _ otherMade same => lawful.made_unique otherMade isMade same

/-- The outbox of a connection is in the slice of its user. -/
theorem slice_outboxes (sound : Sound past none state) (sole : Sole past handle) :
    (state.slice handle.user).outboxes handle.connection =
      state.outboxes[handle.connection]? := by
  simp only [State.slice]
  cases found : state.outboxes[handle.connection]? with
  | none => rfl
  | some outbox =>
    have same := sole _ (sound.suits found).made rfl
    have owned : outbox.owner = handle.user := congrArg Handle.user same
    simp [Option.filter, owned]

/-- A delivery leaves the outboxes alone that are not the registered connection's. -/
theorem Slice.outboxes_deliver_of_ne {slice : Slice} {holder : Handle}
    (holds : slice.registered = some holder) {connection : ConnectionId}
    (elsewhere : holder.connection ≠ connection) {policy : OverflowPolicy} {payload : Payload}
    {user : UserId} :
    (slice.deliver policy payload user).1.outboxes connection = slice.outboxes connection := by
  have changed (change : Outbox → Outbox) :
      (slice.changeOutbox holder.connection change).outboxes connection =
        slice.outboxes connection := if_neg elsewhere
  cases found : slice.outboxes holder.connection with
  | none =>
    simp only [deliver, holds, found]
    exact changed _
  | some outbox =>
    simp only [deliver, holds, found]
    by_cases attended : outbox.attended = true
    · by_cases room : outbox.buffer.length < outbox.capacity
      · simp only [attended, room, ↓reduceIte]
        exact changed _
      · simp only [attended, room, ↓reduceIte]
        cases policy with
        | evict => exact changed _
        | dropNewest => rfl
    · simp only [attended, Bool.false_eq_true, ↓reduceIte]
      exact changed _

/-- A fan-out queues its payload at a connection, lets go of one of the two, or passes it by. -/
theorem reached_fanOut (sound : Sound past none state) (lawful : Lawful past)
    (sole : Sole past handle) (policy : OverflowPolicy) (request : FanoutRequest) :
    Reached policy request handle state (state.fanOut policy request).1 := by
  have sliced := State.slice_fanOut sound lawful policy request handle.user
  have outboxes := congrFun (congrArg Slice.outboxes sliced) handle.connection
  rw [slice_outboxes (sound.fanOut lawful policy request) sole] at outboxes
  have registered : (state.fanOut policy request).1.registry[handle.user]? = _ :=
    congrArg Slice.registered sliced
  have before := slice_outboxes sound sole
  by_cases named : handle.user ∈ request.recipients
  · rw [if_pos named] at outboxes registered
    cases current : state.registry[handle.user]? with
    | none =>
      have nobody : (state.slice handle.user).registered = none := current
      have absent : ¬ state.Registers handle := by simp [State.Registers, current]
      simp only [Slice.deliver, nobody] at outboxes registered
      refine .aside (.inr absent) (outboxes.trans before) (iff_of_false ?_ absent)
      simp [State.Registers, registered]
    | some holder =>
      have holds : (state.slice handle.user).registered = some holder := current
      have holderMade := lawful.made_of_spent (mem_spent_of_register (sound.given current))
      by_cases same : holder = handle
      · subst same
        obtain ⟨outbox, found, owned⟩ := sound.outbox_of_made holderMade
        have registers : state.Registers holder := current
        rw [found] at before
        simp only [Slice.deliver, holds, before] at outboxes registered
        by_cases attended : outbox.attended = true
        · by_cases room : outbox.buffer.length < outbox.capacity
          · simp only [attended, room, ↓reduceIte, Slice.changeOutbox, before] at outboxes registered
            exact .queued named registers found attended room outboxes (registered.trans holds)
          · cases policy with
            | evict =>
              simp only [attended, room, ↓reduceIte, Slice.discard, Slice.changeOutbox, before]
                at outboxes registered
              refine .removed named registers found (.inr (by omega)) outboxes ?_
              simp [State.Registers, registered]
            | dropNewest =>
              simp only [attended, room, ↓reduceIte, before] at outboxes registered
              exact .dropped named registers found attended (by omega) rfl outboxes
                (registered.trans holds)
        · simp only [attended, Bool.false_eq_true, ↓reduceIte, Slice.discard, Slice.changeOutbox,
            before] at outboxes registered
          refine .removed named registers found (.inl (by simpa using attended)) outboxes ?_
          simp [State.Registers, registered]
      · have elsewhere : holder.connection ≠ handle.connection := fun shared =>
          same (sole holder holderMade shared)
        have absent : ¬ state.Registers handle := by simp [State.Registers, current, same]
        refine .aside (.inr absent) ?_ (iff_of_false ?_ absent)
        · rw [outboxes, Slice.outboxes_deliver_of_ne holds elsewhere, before]
        · exact fun registers => absent (State.registers_fanOut registers)
  · rw [if_neg named] at outboxes registered
    refine .aside (.inl named) (outboxes.trans before) ?_
    rw [State.Registers, State.Registers, registered]
    rfl

/-! ## One operation -/

/-- The payload that a writer sees is the first of what is buffered. -/
theorem Outbox.buffer_receive (outbox : Outbox) :
    outbox.buffer = outbox.receive.1.payload?.toList ++ outbox.receive.2.buffer := by
  cases outbox with
  | mk owner capacity buffer held attended =>
    cases buffer with
    | nil => cases held <;> rfl
    | cons first rest => rfl

namespace State

/-- What is buffered is what the outbox holds. -/
theorem buffered_of_found {connection : ConnectionId} {outbox : Outbox}
    (found : state.outboxes[connection]? = some outbox) :
    state.buffered connection = outbox.buffer := by
  simp [buffered, found]

/-- An outbox with a writer and room accepts. -/
theorem accepts_of_room {connection : ConnectionId} {outbox : Outbox}
    (found : state.outboxes[connection]? = some outbox) (attended : outbox.attended = true)
    (room : outbox.buffer.length < outbox.capacity) : state.accepts connection = true := by
  simp [accepts, found, attended, room]

/-- One that lacks either does not. -/
theorem accepts_eq_false {connection : ConnectionId} {outbox : Outbox}
    (found : state.outboxes[connection]? = some outbox)
    (refused : outbox.attended = false ∨ outbox.capacity ≤ outbox.buffer.length) :
    state.accepts connection = false := by
  rcases refused with unattended | full
  · simp [accepts, found, unattended]
  · simp [accepts, found, full]

/-- Changing an outbox, but not its buffer, or another outbox changes nothing that is buffered. -/
theorem buffered_changeOutbox {connection other : ConnectionId} {change : Outbox → Outbox}
    (kept : ∀ outbox, connection = other → (change outbox).buffer = outbox.buffer) :
    (state.changeOutbox connection change).buffered other = state.buffered other := by
  rw [buffered, buffered, getElem?_changeOutbox]
  split
  next same => cases state.outboxes[other]? <;> simp [kept _ same]
  next => rfl

/-- Letting go of a handle leaves what is buffered. -/
theorem buffered_release (connection other : ConnectionId) :
    (state.release connection).buffered other = state.buffered other :=
  buffered_changeOutbox fun _ _ => rfl

/-- So does a registration. -/
theorem buffered_register (policy : DuplicatePolicy) (newcomer : Handle)
    (connection : ConnectionId) :
    (state.register policy newcomer).1.buffered connection = state.buffered connection := by
  have outcome := state.register_cases policy newcomer
  generalize state.register policy newcomer = result at outcome
  cases outcome with
  | ignored gone => exact buffered_release _ _
  | inserted attended free => rfl
  | replaced attended occupied chosen => exact (state.enter newcomer).buffered_release _ _
  | rejected attended occupied chosen => exact buffered_release _ _

/-- So does a request to unregister. -/
theorem buffered_unregister (user : UserId) (leaving connection : ConnectionId) :
    (state.unregister user leaving).1.buffered connection = state.buffered connection := by
  have outcome := state.unregister_cases user leaving
  generalize state.unregister user leaving = result at outcome
  cases outcome with
  | removed registered same => exact (state.leave user).buffered_release _ _
  | stale other => rfl

end State

/-- What a fan-out adds to what is buffered is what it puts in. -/
theorem buffered_fanOut (sound : Sound past none state) (lawful : Lawful past)
    (sole : Sole past handle) (policy : OverflowPolicy) (request : FanoutRequest) :
    (state.fanOut policy request).1.buffered handle.connection =
      state.buffered handle.connection ++ fanned handle (state, .apply (.fanout request)) := by
  have reached := reached_fanOut sound lawful sole policy request
  generalize (state.fanOut policy request).1 = after at reached
  cases reached with
  | aside absent outbox registers =>
    have nothing : fanned handle (state, .apply (.fanout request)) = [] :=
      if_neg fun both => absent.elim (· both.1) (· both.2.1)
    rw [nothing, List.append_nil, State.buffered, outbox]
    rfl
  | queued named registers found attended room appended kept =>
    have accepts := State.accepts_of_room found attended room
    have one : fanned handle (state, .apply (.fanout request)) = [request.payload] :=
      if_pos ⟨named, registers, accepts⟩
    rw [one, State.buffered_of_found appended, State.buffered_of_found found]
    rfl
  | dropped named registers found attended full chosen same kept =>
    have refuses := State.accepts_eq_false found (.inr full)
    have nothing : fanned handle (state, .apply (.fanout request)) = [] :=
      if_neg fun all => by simp [refuses] at all
    rw [nothing, List.append_nil, State.buffered_of_found same, State.buffered_of_found found]
  | @removed outbox named registers found refused released gone =>
    have refuses := State.accepts_eq_false found refused
    have nothing : fanned handle (state, .apply (.fanout request)) = [] :=
      if_neg fun all => by simp [refuses] at all
    rw [nothing, List.append_nil, State.buffered_of_found released,
      State.buffered_of_found found]
    rfl

/-- What is buffered and what an operation puts in is what it takes out and what is buffered
then. -/
theorem buffered_perform (sound : Sound past none state) (policies : Policies)
    (lawful : Lawful past) {operation : Operation} (follows : operation.Follows past)
    (sole : Sole (past ++ [operation]) handle) :
    state.buffered handle.connection ++
        (pushed handle (state, operation) ++ fanned handle (state, operation)) =
      taken handle.connection (state, operation) ++
        (forfeited handle.connection (state, operation) ++
          (state.perform policies operation).buffered handle.connection) := by
  cases operation with
  | connect other capacity =>
    suffices empty : state.buffered handle.connection =
        (state.addOutbox other.connection (.create other.user capacity)).buffered
          handle.connection by
      simpa [pushed, fanned, taken, seen, forfeited, State.perform] using empty
    by_cases same : other.connection = handle.connection
    · -- A connection is made once, so it had no outbox before.
      have unmade : state.outboxes[handle.connection]? = none := by
        cases found : state.outboxes[handle.connection]? with
        | none => rfl
        | some outbox =>
          have isMade := (sound.suits found).made
          exact absurd same.symm (follows ⟨handle.connection, outbox.owner⟩ isMade)
      simp [State.buffered, State.addOutbox, unmade, same, Outbox.create]
    · simp [State.buffered, State.addOutbox, Std.ExtTreeMap.getElem?_insert, same]
  | push other payload =>
    simp only [fanned, taken, seen, forfeited, State.perform, pushed, List.append_nil,
      Option.bind_none, Option.toList_none, List.nil_append]
    have outcome := state.push_cases other.connection payload
    by_cases same : other = handle
    · subst same
      rw [if_pos rfl]
      generalize state.push other.connection payload = result at outcome
      cases outcome with
      | @queued outbox found attended room =>
        have appended : (state.changeOutbox other.connection (·.append payload)).outboxes[
            other.connection]? = some (outbox.append payload) := by
          rw [State.getElem?_changeOutbox, if_pos rfl, found, Option.map_some]
        rw [State.buffered_of_found found, State.buffered_of_found appended]
        rfl
      | full found attended full => simp
      | closed gone => simp
    · have elsewhere : other.connection ≠ handle.connection := fun shared =>
        same (sole.of_append other follows.1 shared)
      rw [if_neg same, List.append_nil]
      generalize state.push other.connection payload = result at outcome
      cases outcome with
      | queued found attended room =>
        exact (State.buffered_changeOutbox fun _ shared => absurd shared elsewhere).symm
      | full found attended full => rfl
      | closed gone => rfl
  | close other =>
    simpa [pushed, fanned, taken, seen, forfeited, State.perform] using
      (state.buffered_release other.connection handle.connection).symm
  | apply request =>
    cases request with
    | register other =>
      simpa [pushed, fanned, taken, seen, forfeited, State.perform, State.apply] using
        (state.buffered_register policies.duplicate other handle.connection).symm
    | unregister user connection =>
      simpa [pushed, fanned, taken, seen, forfeited, State.perform, State.apply] using
        (state.buffered_unregister user connection handle.connection).symm
    | fanout request =>
      have added := buffered_fanOut sound lawful sole.of_append policies.overflow request
      simpa [pushed, taken, seen, forfeited, State.perform, State.apply] using added.symm
  | receive other =>
    simp only [pushed, fanned, forfeited, State.perform, List.append_nil, List.nil_append, taken,
      seen]
    by_cases same : other = handle.connection
    · subst same
      rw [if_pos rfl, State.buffered, State.buffered, State.getElem?_changeOutbox, if_pos rfl]
      cases state.outboxes[handle.connection]? with
      | none => rfl
      | some outbox =>
        simp only [Option.map_some, Option.getD_some, Option.bind_some]
        exact outbox.buffer_receive
    · rw [if_neg same, State.buffered_changeOutbox fun _ shared => absurd shared same]
      rfl
  | abandon other =>
    simp only [pushed, fanned, taken, seen, State.perform, List.append_nil, Option.bind_none,
      Option.toList_none, List.nil_append, forfeited]
    by_cases same : other = handle.connection
    · subst same
      have emptied : (state.changeOutbox handle.connection Outbox.abandon).buffered
          handle.connection = [] := by
        rw [State.buffered, State.getElem?_changeOutbox, if_pos rfl]
        cases state.outboxes[handle.connection]? <;> rfl
      rw [if_pos rfl, emptied, List.append_nil]
    · rw [if_neg same, State.buffered_changeOutbox fun _ shared => absurd shared same,
        List.nil_append]

/-! ## A whole run -/

/-- What the writer of a connection has received. -/
def received (policies : Policies) (run : List Operation) (connection : ConnectionId) :
    List Payload :=
  (trail policies run).flatMap (taken connection)

/-- What was buffered for the writer of a connection when it went. -/
def lost (policies : Policies) (run : List Operation) (connection : ConnectionId) :
    List Payload :=
  (trail policies run).flatMap (forfeited connection)

/-- Nothing is forfeited unless the writer goes. -/
theorem forfeited_eq_nil {connection : ConnectionId} {entry : State × Operation}
    (stays : entry.2 ≠ .abandon connection) : forfeited connection entry = [] := by
  obtain ⟨state, operation⟩ := entry
  cases operation with
  | abandon other => exact if_neg fun same => stays (congrArg Operation.abandon same)
  | _ => rfl

/-- Nothing is seen unless the writer looks. -/
theorem seen_eq_none {connection : ConnectionId} {entry : State × Operation}
    (other : entry.2 ≠ .receive connection) : seen connection entry = none := by
  obtain ⟨state, operation⟩ := entry
  cases operation with
  | receive another => exact if_neg fun same => other (congrArg Operation.receive same)
  | _ => rfl

/-- Nor is anything taken. -/
theorem taken_eq_nil {connection : ConnectionId} {entry : State × Operation}
    (other : entry.2 ≠ .receive connection) : taken connection entry = [] := by
  rw [taken, seen_eq_none other]
  rfl

/-- Nothing is lost in a run in which the writer stays. -/
theorem lost_eq_nil (policies : Policies) {run : List Operation} {connection : ConnectionId}
    (stays : .abandon connection ∉ run) : lost policies run connection = [] := by
  induction run using List.reverseRecOn with
  | nil => rfl
  | append_singleton past operation ih =>
    rw [List.mem_append, not_or, List.mem_singleton] at stays
    have earlier : (trail policies past).flatMap (forfeited connection) = [] := ih stays.1
    rw [lost, trail_concat, List.flatMap_append, earlier, List.nil_append,
      List.flatMap_singleton]
    exact forfeited_eq_nil fun same => stays.2 same.symm

/-- Nothing is received in a run in which the writer never looks. -/
theorem received_eq_nil (policies : Policies) {run : List Operation} {connection : ConnectionId}
    (unused : .receive connection ∉ run) : received policies run connection = [] := by
  refine List.flatMap_eq_nil_iff.mpr fun entry member => taken_eq_nil fun same => unused ?_
  have isMember := List.mem_map_of_mem (f := Prod.snd) member
  rwa [trail, map_snd_trailFrom, same] at isMember

/-- Nothing is buffered for a writer that has gone. -/
theorem buffered_eq_nil_of_abandon (policies : Policies) {run : List Operation}
    (lawful : Lawful run) {connection : ConnectionId} (gone : .abandon connection ∈ run) :
    (State.after policies run).buffered connection = [] := by
  cases found : (State.after policies run).outboxes[connection]? with
  | none => simp [State.buffered, found]
  | some outbox =>
    have suits := (sound_after policies lawful).suits found
    have unattended : outbox.attended = false :=
      Bool.eq_false_iff.mpr fun attended => suits.attended_iff.mp attended gone
    rw [State.buffered_of_found found, suits.unattended unattended]

/-- Everything that was put into an outbox has been received, was lost with the writer, or is still
there, in order. -/
theorem conservation (policies : Policies) {run : List Operation} (lawful : Lawful run)
    (sole : Sole run handle) :
    (trail policies run).flatMap (fun entry => pushed handle entry ++ fanned handle entry) =
      received policies run handle.connection ++
        (lost policies run handle.connection ++
          (State.after policies run).buffered handle.connection) := by
  induction lawful with
  | start => rfl
  | @step past operation lawful follows ih =>
    have sound := sound_after policies lawful
    have before := ih sole.of_append
    have now := buffered_perform sound policies lawful follows sole
    simp only [received, lost, trail_concat, List.flatMap_append, List.flatMap_singleton,
      after_concat] at before ⊢
    rw [before, List.append_assoc, List.append_assoc, now]
    by_cases ends : .abandon handle.connection ∈ past
    · -- A writer that has gone takes nothing, and does not go again.
      have takes : taken handle.connection (State.after policies past, operation) = [] :=
        taken_eq_nil fun same => by
          simp only at same
          subst same
          exact follows.2 ends
      have loses : forfeited handle.connection (State.after policies past, operation) = [] :=
        forfeited_eq_nil fun same => by
          simp only at same
          subst same
          exact follows.2 ends
      simp only [takes, loses, List.nil_append, List.append_nil]
    · have kept := lost_eq_nil policies ends
      simp only [lost] at kept
      simp only [kept, List.nil_append, List.append_assoc]

end Switchboard.Hub
