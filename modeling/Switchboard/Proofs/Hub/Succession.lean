import Switchboard.Proofs.Hub.Flow

/-!
# Who is registered

Who is registered for a user is decided by what has happened so far. A connection comes with a
registration that is applied while its writer is there, and it leaves with a request to unregister
just this connection or with a fan-out to the user that finds its outbox unattended or, under the
evicting policy, full. The replacing policy prefers the connection that came last, the rejecting one
the connection that came first since the user had none (`registers_iff_holds`). `succession` puts
this together with what it means for requests that come too late.
-/

namespace Switchboard.Hub

/-! ## Coming and leaving -/

/-- The connection of a user that comes with an operation. -/
def arrival? (user : UserId) : State × Operation → Option Handle
  | (state, .apply (.register handle)) =>
    if handle.user = user ∧ state.attended handle.connection = true then some handle else none
  | _ => none

/-- A connection's outbox has no room. -/
def State.isFull (state : State) (connection : ConnectionId) : Bool :=
  (state.outboxes[connection]?).any fun outbox => outbox.capacity ≤ outbox.buffer.length

/-- The operation makes a connection leave, if it is registered. -/
def Leaves (policy : OverflowPolicy) (handle : Handle) : State × Operation → Prop
  | (_, .apply (.unregister user connection)) => user = handle.user ∧ connection = handle.connection
  | (state, .apply (.fanout request)) =>
    handle.user ∈ request.recipients ∧
      (state.attended handle.connection = false ∨
        policy = .evict ∧ state.isFull handle.connection = true)
  | _ => False

/-- A connection comes with an operation and is let in. -/
def Admitted (policy : DuplicatePolicy) (handle : Handle) (entry : State × Operation) : Prop :=
  arrival? handle.user entry = some handle ∧
    (policy = .reject → entry.1.registry[handle.user]? = none)

/-- A connection that is registered stays so with an operation. -/
def Stays (policies : Policies) (handle : Handle) (entry : State × Operation) : Prop :=
  ¬ Leaves policies.overflow handle entry ∧
    (policies.duplicate = .replace → arrival? handle.user entry = none)

/-- Who arrives asks to be registered and has a writer. -/
theorem eq_register_of_arrival? {user : UserId} {entry : State × Operation} {handle : Handle}
    (comes : arrival? user entry = some handle) :
    entry.2 = .apply (.register handle) ∧ handle.user = user ∧
      entry.1.attended handle.connection = true := by
  obtain ⟨state, operation⟩ := entry
  cases operation with
  | apply request =>
    cases request with
    | register other =>
      obtain ⟨both, same⟩ := Option.ite_none_right_eq_some.mp comes
      obtain rfl := Option.some.inj same
      exact ⟨rfl, both⟩
    | _ => cases comes
  | _ => cases comes

/-! ## One operation -/

variable {policies : Policies} {past : List Operation} {state : State}

/-- After somebody has entered, that handle is registered, and those of other users. -/
theorem registers_enter_iff {handle other : Handle} :
    (state.enter other).Registers handle ↔
      other = handle ∨ other.user ≠ handle.user ∧ state.Registers handle := by
  simp only [State.Registers, State.enter, Std.ExtTreeMap.getElem?_insert, Std.compare_eq_iff_eq]
  by_cases same : other.user = handle.user
  · simp [same]
  · have different : other ≠ handle := fun equal => same (congrArg Handle.user equal)
    simp [same, different]

/-- After somebody has left, the handles of other users are registered. -/
theorem registers_leave_iff {handle : Handle} {user : UserId} :
    (state.leave user).Registers handle ↔ user ≠ handle.user ∧ state.Registers handle := by
  simp only [State.Registers, State.leave, Std.ExtTreeMap.getElem?_erase, Std.compare_eq_iff_eq,
    Option.ite_none_left_eq_some, ne_eq]

/-- A registration lets a connection in, or leaves the one that is there. -/
theorem registers_register_iff (policies : Policies) (other handle : Handle) :
    (state.register policies.duplicate other).1.Registers handle ↔
      Admitted policies.duplicate handle (state, .apply (.register other)) ∨
        state.Registers handle ∧ Stays policies handle (state, .apply (.register other)) := by
  have remains : ¬ Leaves policies.overflow handle (state, .apply (.register other)) := id
  have comes : arrival? handle.user (state, .apply (.register other)) =
      if other.user = handle.user ∧ state.attended other.connection = true then some other
      else none := rfl
  have outcome := state.register_cases policies.duplicate other
  generalize state.register policies.duplicate other = result at outcome
  cases outcome with
  | ignored gone =>
    change state.Registers handle ↔ _
    simp [Admitted, Stays, comes, remains, gone]
  | inserted attended free =>
    change (state.enter other).Registers handle ↔ _
    rw [registers_enter_iff]
    by_cases same : other.user = handle.user
    · have vacant : state.registry[handle.user]? = none := same ▸ free
      simp [Admitted, Stays, comes, remains, attended, same, vacant, State.Registers]
    · have different : other ≠ handle := fun equal => same (congrArg Handle.user equal)
      simp [Admitted, Stays, comes, remains, same, different]
  | replaced attended occupied chosen =>
    change (state.enter other).Registers handle ↔ _
    rw [registers_enter_iff]
    by_cases same : other.user = handle.user
    · simp [Admitted, Stays, comes, attended, same, chosen]
    · have different : other ≠ handle := fun equal => same (congrArg Handle.user equal)
      simp [Admitted, Stays, comes, remains, same, different]
  | @rejected previous attended occupied chosen =>
    change state.Registers handle ↔ _
    by_cases same : other.user = handle.user
    · have taken : state.registry[handle.user]? ≠ none := by simp [← same, occupied]
      simp [Admitted, Stays, remains, chosen, taken]
    · simp [Admitted, Stays, comes, remains, same]

/-- A request to unregister makes the connection leave that it names, and no other. -/
theorem registers_unregister_iff (user : UserId) (connection : ConnectionId)
    (policy : OverflowPolicy) (handle : Handle) :
    (state.unregister user connection).1.Registers handle ↔
      state.Registers handle ∧
        ¬ Leaves policy handle (state, .apply (.unregister user connection)) := by
  have names : Leaves policy handle (state, .apply (.unregister user connection)) ↔
      user = handle.user ∧ connection = handle.connection := Iff.rfl
  have outcome := state.unregister_cases user connection
  generalize state.unregister user connection = result at outcome
  cases outcome with
  | @removed current registered same =>
    change (state.leave user).Registers handle ↔ _
    rw [registers_leave_iff, names, and_comm]
    refine and_congr_right fun registers => not_congr ⟨fun own => ?_, And.left⟩
    subst own
    obtain rfl := Option.some.inj (registered.symm.trans registers)
    exact ⟨rfl, same.symm⟩
  | stale mismatch =>
    change state.Registers handle ↔ _
    refine (and_iff_left_of_imp fun registers named => ?_).symm
    obtain ⟨own, same⟩ := names.mp named
    subst own
    exact mismatch handle registers same.symm

/-- A fan-out makes the recipients leave whose outboxes do not take the payload, as the policy
says. -/
theorem registers_fanOut_iff (sound : Sound past none state) (lawful : Lawful past)
    (policy : OverflowPolicy) (request : FanoutRequest) (handle : Handle) :
    (state.fanOut policy request).1.Registers handle ↔
      state.Registers handle ∧ ¬ Leaves policy handle (state, .apply (.fanout request)) := by
  have leaves : Leaves policy handle (state, .apply (.fanout request)) ↔
      handle.user ∈ request.recipients ∧ (state.attended handle.connection = false ∨
        policy = .evict ∧ state.isFull handle.connection = true) := Iff.rfl
  by_cases registers : state.Registers handle
  · have isMade := lawful.made_of_spent (mem_spent_of_register (sound.given registers))
    obtain ⟨outbox, found, _⟩ := sound.outbox_of_made isMade
    have holds : (state.slice handle.user).registered = some handle := registers
    have inSlice : (state.slice handle.user).outboxes handle.connection = some outbox :=
      (slice_outboxes sound (lawful.sole isMade)).trans found
    have sliced : (state.fanOut policy request).1.registry[handle.user]? = _ :=
      congrArg Slice.registered (State.slice_fanOut sound lawful policy request handle.user)
    rw [leaves, and_iff_right registers, State.Registers, sliced]
    simp only [State.attended, State.isFull, found, Option.any_some, decide_eq_true_eq]
    by_cases named : handle.user ∈ request.recipients
    · simp only [named, ↓reduceIte, Slice.deliver, holds, inSlice, true_and]
      cases attended : outbox.attended with
      | false => simp [Slice.discard]
      | true =>
        by_cases room : outbox.buffer.length < outbox.capacity
        · simp [room, Slice.changeOutbox, holds, Nat.not_le.mpr room]
        · cases policy <;> simp [room, Slice.discard, holds, Nat.not_lt.mp room]
    · simp [named, holds]
  · exact iff_of_false (fun after => registers (State.registers_fanOut after))
      fun both => registers both.1

/-- A connection is registered after an operation if it is let in with it, or was registered before
and stays. -/
theorem registers_perform_iff (sound : Sound past none state) (lawful : Lawful past)
    (policies : Policies) (operation : Operation) (handle : Handle) :
    (state.perform policies operation).Registers handle ↔
      Admitted policies.duplicate handle (state, operation) ∨
        state.Registers handle ∧ Stays policies handle (state, operation) := by
  have aside (nobody : arrival? handle.user (state, operation) = none) :
      (Admitted policies.duplicate handle (state, operation) ∨
          state.Registers handle ∧ Stays policies handle (state, operation)) ↔
        state.Registers handle ∧ ¬ Leaves policies.overflow handle (state, operation) := by
    simp [Admitted, Stays, nobody]
  cases operation with
  | apply request =>
    cases request with
    | register other => exact registers_register_iff policies other handle
    | unregister user connection =>
      exact (registers_unregister_iff user connection policies.overflow handle).trans
        (aside rfl).symm
    | fanout request =>
      exact (registers_fanOut_iff sound lawful policies.overflow request handle).trans
        (aside rfl).symm
  | push other payload =>
    rcases state.perform_cases policies (.push other payload) with ⟨_, is, _⟩ | ⟨_, outboxes, same⟩
    · cases is
    · rw [same, aside rfl]
      exact (and_iff_left id).symm
  | _ => exact ((aside rfl).trans (and_iff_left id)).symm

/-! ## A whole run -/

/-- No connection comes for a user with operations that follow others. -/
def NobodyComes (policies : Policies) (user : UserId) (past later : List Operation) : Prop :=
  ∀ entry ∈ trailFrom policies (State.after policies past) later, arrival? user entry = none

/-- Operations that follow others do not make a connection leave. -/
def NeverLeaves (policies : Policies) (handle : Handle) (past later : List Operation) : Prop :=
  ∀ entry ∈ trailFrom policies (State.after policies past) later,
    ¬ Leaves policies.overflow handle entry

/-- A connection was let in during a run, and has stayed since. -/
def Holds (policies : Policies) (run : List Operation) (handle : Handle) : Prop :=
  ∃ before later, run = before ++ .apply (.register handle) :: later ∧
    Admitted policies.duplicate handle (State.after policies before, .apply (.register handle)) ∧
    ∀ entry ∈ trailFrom policies
        (State.after policies (before ++ [.apply (.register handle)])) later,
      Stays policies handle entry

/-- What holds of further operations, with the states that they find, holds of all but the last and
of the last. -/
theorem forall_mem_trailFrom_concat {later : List Operation} {operation : Operation}
    {holds : State × Operation → Prop} :
    (∀ entry ∈ trailFrom policies (State.after policies past) (later ++ [operation]),
        holds entry) ↔
      (∀ entry ∈ trailFrom policies (State.after policies past) later, holds entry) ∧
        holds (State.after policies (past ++ later), operation) := by
  rw [trailFrom_append, ← after_append]
  simp [trailFrom, or_imp, forall_and]

/-- The registered connections are those that were let in and have stayed since. -/
theorem registers_iff_holds (policies : Policies) {run : List Operation} (lawful : Lawful run)
    (handle : Handle) :
    (State.after policies run).Registers handle ↔ Holds policies run handle := by
  induction run using List.reverseRecOn with
  | nil => exact iff_of_false (by simp [State.Registers]) fun ⟨_, _, split, _⟩ => by simp at split
  | append_singleton past operation ih =>
    have step := registers_perform_iff (sound_after policies lawful.of_append) lawful.of_append
      policies operation handle
    rw [after_concat, step, ih lawful.of_append]
    -- What let the connection in is the last operation or one before it.
    constructor
    · rintro (admitted | ⟨⟨before, later, rfl, admitted, stays⟩, staysNow⟩)
      · obtain rfl : operation = .apply (.register handle) :=
          (eq_register_of_arrival? admitted.1).1
        exact ⟨past, [], rfl, admitted, fun entry member => by cases member⟩
      · refine ⟨before, later ++ [operation], by simp, admitted, ?_⟩
        refine forall_mem_trailFrom_concat.mpr ⟨stays, ?_⟩
        rwa [List.append_assoc]
    · rintro ⟨before, later, split, admitted, stays⟩
      rcases List.eq_nil_or_concat later with rfl | ⟨during, last, rfl⟩
      · obtain ⟨rfl, same⟩ := List.append_inj' split rfl
        rw [List.singleton_inj.mp same]
        exact .inl admitted
      · rw [List.concat_eq_append, ← List.cons_append, ← List.append_assoc] at split
        obtain ⟨rfl, same⟩ := List.append_inj' split rfl
        rw [List.singleton_inj.mp same]
        rw [List.concat_eq_append] at stays
        obtain ⟨earlier, now⟩ := forall_mem_trailFrom_concat.mp stays
        rw [List.append_assoc] at now
        exact .inr ⟨⟨before, during, rfl, admitted, earlier⟩, now⟩

/-- While nobody comes for a user, a connection is registered if it was before and has not left. -/
theorem registers_append_iff {handle : Handle} {later : List Operation}
    (lawful : Lawful (past ++ later)) (nobody : NobodyComes policies handle.user past later) :
    (State.after policies (past ++ later)).Registers handle ↔
      (State.after policies past).Registers handle ∧ NeverLeaves policies handle past later := by
  induction later using List.reverseRecOn with
  | nil => simp [NeverLeaves, trailFrom]
  | append_singleton during operation ih =>
    rw [← List.append_assoc] at lawful
    obtain ⟨earlier, now⟩ := forall_mem_trailFrom_concat.mp nobody
    have step := registers_perform_iff (sound_after policies lawful.of_append) lawful.of_append
      policies operation handle
    have refused : ¬ Admitted policies.duplicate handle
        (State.after policies (past ++ during), operation) := fun admitted => by
      rw [Admitted, now] at admitted
      cases admitted.1
    have stays : Stays policies handle (State.after policies (past ++ during), operation) ↔
        ¬ Leaves policies.overflow handle (State.after policies (past ++ during), operation) :=
      and_iff_left fun _ => now
    rw [← List.append_assoc, after_concat, step, ih lawful.of_append earlier, stays,
      or_iff_right refused, and_assoc, NeverLeaves, NeverLeaves, forall_mem_trailFrom_concat]

/-- While nobody comes for a user, the user's connection stays the same until it leaves, and then
there is none. -/
theorem registry_append {user : UserId} {later : List Operation}
    (lawful : Lawful (past ++ later)) (nobody : NobodyComes policies user past later)
    {other : Handle}
    (registered : (State.after policies (past ++ later)).registry[user]? = some other) :
    (State.after policies past).registry[user]? = some other ∧
      NeverLeaves policies other past later := by
  obtain rfl := (sound_after policies lawful).user_eq registered
  exact (registers_append_iff lawful nobody).mp registered

/-- Nobody takes the place of a connection as it leaves. -/
theorem vacant_of_leaves {handle : Handle} {operation : Operation}
    (lawful : Lawful (past ++ [operation]))
    (registers : (State.after policies past).Registers handle)
    (leaves : Leaves policies.overflow handle (State.after policies past, operation)) :
    (State.after policies (past ++ [operation])).registry[handle.user]? = none := by
  have nobody : NobodyComes policies handle.user past [operation] := by
    intro entry member
    obtain rfl := List.mem_singleton.mp member
    refine Option.eq_none_iff_forall_ne_some.mpr fun other comes => ?_
    obtain rfl := (eq_register_of_arrival? comes).1
    exact leaves
  refine Option.eq_none_iff_forall_ne_some.mpr fun other registered => ?_
  obtain ⟨earlier, stays⟩ := registry_append lawful nobody registered
  obtain rfl := Option.some.inj (registers.symm.trans earlier)
  exact stays _ (List.mem_singleton_self _) leaves

/-! ## The succession -/

/-- How the registered connections follow from what has happened, and what comes too late. -/
structure Succession (policies : Policies) (run : List Operation) : Prop where
  own_user : ∀ {user : UserId} {handle : Handle},
    (State.after policies run).registry[user]? = some handle → handle.user = user
  nobody : ∀ {user : UserId} {before later : List Operation}, run = before ++ later →
    (State.after policies before).registry[user]? = none →
      NobodyComes policies user before later → (State.after policies run).registry[user]? = none
  latest : policies.duplicate = .replace → ∀ {handle : Handle} {before later : List Operation},
    run = before ++ .apply (.register handle) :: later →
      (State.after policies before).attended handle.connection = true →
        NobodyComes policies handle.user (before ++ [.apply (.register handle)]) later →
          (NeverLeaves policies handle (before ++ [.apply (.register handle)]) later →
              (State.after policies run).registry[handle.user]? = some handle) ∧
            (¬ NeverLeaves policies handle (before ++ [.apply (.register handle)]) later →
              (State.after policies run).registry[handle.user]? = none)
  earliest : policies.duplicate = .reject → ∀ {handle : Handle},
    (State.after policies run).registry[handle.user]? = some handle ↔
      ∃ before later, run = before ++ .apply (.register handle) :: later ∧
        (State.after policies before).registry[handle.user]? = none ∧
        (State.after policies before).attended handle.connection = true ∧
        NeverLeaves policies handle (before ++ [.apply (.register handle)]) later
  since : ∀ {handle : Handle} {before later : List Operation},
    run = before ++ .apply (.register handle) :: later →
      (State.after policies run).registry[handle.user]? = some handle →
        ∀ first, first <+: later →
          (State.after policies (before ++ .apply (.register handle) :: first)).registry[
            handle.user]? = some handle
  left : ∀ {handle : Handle} {before later : List Operation} {operation : Operation},
    run = before ++ operation :: later →
      (State.after policies before).registry[handle.user]? = some handle →
        Leaves policies.overflow handle (State.after policies before, operation) →
          (State.after policies (before ++ [operation])).registry[handle.user]? = none
  gone : ∀ {handle : Handle} {before during later : List Operation},
    run = before ++ during ++ later →
      (State.after policies before).registry[handle.user]? = some handle →
        (State.after policies (before ++ during)).registry[handle.user]? ≠ some handle →
          (State.after policies run).registry[handle.user]? ≠ some handle
  stale : ∀ (user : UserId) (connection : ConnectionId),
    (∀ current, (State.after policies run).registry[user]? = some current →
        current.connection ≠ connection) →
      (State.after policies run).perform policies (.apply (.unregister user connection)) =
        (State.after policies run).record .staleUnregister
  foreign : ∀ {handle : Handle}, handle ∈ made run → ∀ user, user ≠ handle.user →
    (State.after policies run).perform policies (.apply (.unregister user handle.connection)) =
      (State.after policies run).record .staleUnregister
  ignored : ∀ handle : Handle, (State.after policies run).attended handle.connection = false →
    (State.after policies run).perform policies (.apply (.register handle)) =
        (State.after policies run).release handle.connection ∧
      ∀ connection, (State.after policies run).attended connection = true →
        ((State.after policies run).release handle.connection).outboxes[connection]? =
          (State.after policies run).outboxes[connection]?

/-- A request to unregister a connection that is not the current one is counted, and that is all. -/
theorem perform_unregister_of_ne {user : UserId} {connection : ConnectionId}
    (other : ∀ current, state.registry[user]? = some current → current.connection ≠ connection) :
    state.perform policies (.apply (.unregister user connection)) =
      state.record .staleUnregister := by
  have outcome := state.unregister_cases user connection
  simp only [State.perform, State.apply]
  generalize state.unregister user connection = result at outcome
  cases outcome with
  | removed registered same => exact absurd same (other _ registered)
  | stale other => rfl

/-- The registration of a connection whose writer is gone lets go of its outbox, and that is all. -/
theorem perform_register_of_not_attended {handle : Handle}
    (gone : state.attended handle.connection = false) :
    state.perform policies (.apply (.register handle)) = state.release handle.connection := by
  have outcome := state.register_cases policies.duplicate handle
  simp only [State.perform, State.apply]
  generalize state.register policies.duplicate handle = result at outcome
  cases outcome with
  | ignored => rfl
  | inserted attended | replaced attended | rejected attended => simp [gone] at attended

/-- Who is registered is decided by what has happened so far. -/
theorem succession (policies : Policies) {run : List Operation} (lawful : Lawful run) :
    Succession policies run := by
  have sound := sound_after policies lawful
  constructor
  case own_user => exact sound.user_eq
  case nobody =>
    rintro user before later rfl vacant quiet
    refine Option.eq_none_iff_forall_ne_some.mpr fun handle registered => ?_
    have earlier := (registry_append lawful quiet registered).1
    rw [vacant] at earlier
    cases earlier
  case latest =>
    rintro replaces handle before later rfl attended quiet
    have split : before ++ .apply (.register handle) :: later =
        before ++ [.apply (.register handle)] ++ later := by simp
    rw [split] at lawful ⊢
    have entered : (State.after policies (before ++ [.apply (.register handle)])).Registers
        handle := by
      have prior := lawful.of_append.of_append
      rw [after_concat, registers_perform_iff (sound_after policies prior) prior]
      exact .inl ⟨if_pos ⟨rfl, attended⟩, by simp [replaces]⟩
    refine ⟨fun stays => (registers_append_iff lawful quiet).mpr ⟨entered, stays⟩, fun leaves => ?_⟩
    refine Option.eq_none_iff_forall_ne_some.mpr fun other registered => leaves ?_
    obtain ⟨earlier, stays⟩ := registry_append lawful quiet registered
    obtain rfl := Option.some.inj (entered.symm.trans earlier)
    exact stays
  case earliest =>
    intro rejects handle
    refine (registers_iff_holds policies lawful handle).trans ?_
    simp only [Holds, Admitted, Stays, rejects, NeverLeaves, arrival?, reduceCtorEq, false_implies,
      and_true, true_implies, true_and, Option.ite_none_right_eq_some, and_assoc]
    refine exists_congr fun before => exists_congr fun later => and_congr_right fun split => ?_
    tauto
  case since =>
    rintro handle before later rfl registers first ⟨rest, rfl⟩
    have split : before ++ .apply (.register handle) :: (first ++ rest) =
        before ++ .apply (.register handle) :: first ++ rest := by simp
    rw [split] at lawful registers
    by_contra absent
    exact never_returns lawful (mem_spent_of_register (by simp)) absent registers
  case left =>
    rintro handle before later operation rfl registers leaves
    exact vacant_of_leaves lawful.of_append_cons registers leaves
  case gone =>
    rintro handle before during later rfl registers absent
    have given := (sound_after policies lawful.of_append.of_append).given registers
    exact never_returns lawful (mem_spent_append during (mem_spent_of_register given)) absent
  case stale => exact fun user connection other => perform_unregister_of_ne other
  case foreign =>
    intro handle isMade user different
    refine perform_unregister_of_ne fun current registered same => different ?_
    have currentMade := lawful.made_of_spent (mem_spent_of_register (sound.given registered))
    rw [← sound.user_eq registered, lawful.made_unique currentMade isMade same]
  case ignored =>
    intro handle gone
    refine ⟨perform_register_of_not_attended gone, fun connection attended => ?_⟩
    rw [State.release, State.getElem?_changeOutbox, if_neg]
    rintro rfl
    simp [gone] at attended

/-- A connection is replaced and asks to be unregistered too late, a third one is gone before its
registration is applied, and then the second one is slow. -/
def handover : List Operation :=
  [.connect ⟨⟨0⟩, 7⟩ 1, .connect ⟨⟨1⟩, 7⟩ 1, .connect ⟨⟨2⟩, 7⟩ 1, .apply (.register ⟨⟨0⟩, 7⟩),
    .apply (.register ⟨⟨1⟩, 7⟩), .apply (.unregister 7 ⟨0⟩), .abandon ⟨2⟩,
    .apply (.register ⟨⟨2⟩, 7⟩), .apply (.fanout (.to [7] ⟨#[1]⟩)),
    .apply (.fanout (.to [7, 8] ⟨#[2]⟩))]

/-- In such a run the newcomer takes over, and then goes. -/
theorem succession_handover :
    Lawful handover ∧ Succession {} handover ∧
      (State.after {} (handover.take 9)).registry[(7 : UserId)]? = some ⟨⟨1⟩, 7⟩ ∧
      (State.after {} handover).registry[(7 : UserId)]? = none := by
  have lawful : Lawful handover := lawful_of_follows (by decide)
  exact ⟨lawful, succession {} lawful, by decide +kernel, by decide +kernel⟩

end Switchboard.Hub
