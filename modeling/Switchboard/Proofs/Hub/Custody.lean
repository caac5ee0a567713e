import Switchboard.Proofs.Hub.Requests

/-!
# Ends of outboxes that the hub has in its keeping

The hub's end of an outbox is a handle that is registered or waits to be. A handle that leaves the
registry is let go of, so every end that the hub has been given is either in its keeping or closed
(`Kept.perform`), and closed for good once nothing waits any more and the registry has ended
(`not_holds_releaseAll`). This does not depend on how the registry came about.
-/

namespace Switchboard.Hub

namespace State

/-- The hub's end of a connection's outbox is still there. -/
def Holds (state : State) (connection : ConnectionId) : Prop :=
  ∃ outbox, state.outboxes[connection]? = some outbox ∧ outbox.held = true

/-- Somebody's registered handle is that of a connection. -/
def HasRegistered (state : State) (connection : ConnectionId) : Prop :=
  ∃ (user : UserId) (handle : Handle),
    state.registry[user]? = some handle ∧ handle.connection = connection

/-- If the hub's end of a connection's outbox is still there, it is registered or will be. -/
def Kept (pending : List Request) (connection : ConnectionId) (state : State) : Prop :=
  state.Holds connection → state.HasRegistered connection ∨
    ∃ handle : Handle, Request.register handle ∈ pending ∧ handle.connection = connection

variable {state : State} {connection other : ConnectionId}

/-! ## Small changes -/

/-- A change that does not restore an end leaves those that are gone. -/
theorem holds_of_holds_changeOutbox {change : Outbox → Outbox}
    (kept : ∀ outbox, (change outbox).held = true → outbox.held = true)
    (holds : (state.changeOutbox other change).Holds connection) : state.Holds connection := by
  obtain ⟨outbox, found, held⟩ := holds
  rcases changeOutbox_cases found with ⟨before, rfl, present, rfl⟩ | ⟨_, present⟩
  · exact ⟨before, present, kept before held⟩
  · exact ⟨outbox, present, held⟩

/-- A handle that is still held was held before and is not the one let go. -/
theorem holds_release (holds : (state.release other).Holds connection) :
    state.Holds connection ∧ other ≠ connection := by
  refine ⟨holds_of_holds_changeOutbox (fun _ held => by cases held) holds, ?_⟩
  rintro rfl
  obtain ⟨outbox, found, held⟩ := holds
  rcases changeOutbox_cases found with ⟨before, _, _, rfl⟩ | ⟨different, _⟩
  · cases held
  · exact different rfl

/-- Whoever enters takes the place of nobody but the one who had it. -/
theorem hasRegistered_enter (handle : Handle) (registered : state.HasRegistered connection) :
    (state.enter handle).HasRegistered connection ∨
      ∃ previous, state.registry[handle.user]? = some previous ∧
        previous.connection = connection := by
  obtain ⟨user, current, present, same⟩ := registered
  by_cases own : handle.user = user
  · subst own
    exact .inr ⟨current, present, same⟩
  · refine .inl ⟨user, current, ?_, same⟩
    simpa [enter, Std.ExtTreeMap.getElem?_insert, own] using present

/-- A handle that enters is registered. -/
theorem hasRegistered_enter_self (state : State) (handle : Handle) :
    (state.enter handle).HasRegistered handle.connection :=
  ⟨handle.user, handle, by simp [enter], rfl⟩

/-- Only the one who leaves is gone. -/
theorem hasRegistered_leave {user : UserId} {current : Handle}
    (present : state.registry[user]? = some current) (stays : current.connection ≠ connection)
    (registered : state.HasRegistered connection) :
    (state.leave user).HasRegistered connection := by
  obtain ⟨someone, handle, found, same⟩ := registered
  refine ⟨someone, handle, ?_, same⟩
  have different : user ≠ someone := by
    rintro rfl
    obtain rfl := Option.some.inj (present.symm.trans found)
    exact stays same
  simpa [leave, Std.ExtTreeMap.getElem?_erase, different] using found

/-! ## What keeps the ends -/

namespace Kept

variable {pending : List Request}

/-- Whoever leaves the registry is let go of. -/
theorem discard (kept : state.Kept pending connection) {user : UserId} {current : Handle}
    (present : state.registry[user]? = some current) :
    ((state.leave user).release current.connection).Kept pending connection := by
  intro holds
  obtain ⟨holds, stays⟩ := holds_release holds
  exact (kept holds).imp_left (hasRegistered_leave present stays)

/-- No end comes back by a change that restores none. -/
theorem changeOutbox (kept : state.Kept pending connection) (other : ConnectionId)
    (change : Outbox → Outbox)
    (ends : ∀ outbox, (change outbox).held = true → outbox.held = true) :
    (state.changeOutbox other change).Kept pending connection :=
  fun holds => kept (holds_of_holds_changeOutbox ends holds)

/-- Who is still held after a delivery is still registered, or waits to be. -/
theorem deliver (kept : state.Kept pending connection) (policy : OverflowPolicy)
    (payload : Payload) (user : UserId) :
    (state.deliver policy payload user).1.Kept pending connection := by
  have outcome := state.deliver_cases policy payload user
  generalize state.deliver policy payload user = result at outcome
  cases outcome with
  | offline absent => exact kept
  | @delivered handle outbox registered found attended room =>
    exact kept.changeOutbox handle.connection (·.append payload) fun _ held => held
  | evicted registered found attended full chosen => exact kept.discard registered
  | dropped registered found attended full chosen => exact kept
  | closed registered gone => exact kept.discard registered

/-- A handle that waited to be registered is registered or let go of. -/
theorem register {handle : Handle} (kept : state.Kept (.register handle :: pending) connection)
    (policy : DuplicatePolicy) : (state.register policy handle).1.Kept pending connection := by
  have settled (holds : state.Holds connection) : handle.connection = connection ∨
      (state.HasRegistered connection ∨
        ∃ handle : Handle, Request.register handle ∈ pending ∧ handle.connection = connection) := by
    rcases kept holds with registered | ⟨waiting, member, same⟩
    · exact .inr (.inl registered)
    · rcases List.mem_cons.mp member with now | later
      · exact .inl (Request.register.inj now ▸ same)
      · exact .inr (.inr ⟨waiting, later, same⟩)
  have refused : (state.release handle.connection).Kept pending connection := by
    intro holds
    obtain ⟨holds, different⟩ := holds_release holds
    exact (settled holds).resolve_left different
  have outcome := state.register_cases policy handle
  generalize state.register policy handle = result at outcome
  cases outcome with
  | ignored gone => exact refused
  | rejected attended occupied chosen => exact refused
  | inserted attended free =>
    intro holds
    rcases settled holds with rfl | registered | waiting
    · exact .inl (state.hasRegistered_enter_self handle)
    · refine .inl ((hasRegistered_enter handle registered).resolve_right ?_)
      rintro ⟨previous, present, -⟩
      cases free.symm.trans present
    · exact .inr waiting
  | @replaced previous attended occupied chosen =>
    intro holds
    obtain ⟨holds, stays⟩ := holds_release holds
    rcases settled holds with rfl | registered | waiting
    · exact .inl (state.hasRegistered_enter_self handle)
    · refine .inl ((hasRegistered_enter handle registered).resolve_right ?_)
      rintro ⟨other, present, same⟩
      obtain rfl := Option.some.inj (occupied.symm.trans present)
      exact stays same
    · exact .inr waiting

/-- The same holds after a request to unregister. -/
theorem unregister (kept : state.Kept pending connection) (user : UserId)
    (leaving : ConnectionId) : (state.unregister user leaving).1.Kept pending connection := by
  have outcome := state.unregister_cases user leaving
  generalize state.unregister user leaving = result at outcome
  cases outcome with
  | removed registered same => exact same ▸ kept.discard registered
  | stale other => exact kept

/-- Whatever happens to a hub, what it has in its keeping stays there until it is closed. -/
theorem perform {operation : Operation}
    (kept : state.Kept (operation.request?.toList ++ pending) connection) (policies : Policies)
    (fresh : ∀ handle, operation.made? = some handle → handle.connection ≠ connection) :
    (state.perform policies operation).Kept pending connection := by
  cases operation with
  | connect handle capacity =>
    rintro ⟨outbox, found, held⟩
    have present : state.outboxes[connection]? = some outbox := by
      simpa [State.perform, addOutbox, Std.ExtTreeMap.getElem?_insert, fresh handle rfl] using found
    exact kept ⟨outbox, present, held⟩
  | push handle payload =>
    have outcome := state.push_cases handle.connection payload
    simp only [State.perform]
    generalize state.push handle.connection payload = result at outcome
    cases outcome with
    | queued found attended room =>
      exact kept.changeOutbox handle.connection (·.append payload) fun _ held => held
    | full found attended full => exact kept
    | closed gone => exact kept
  | close handle => exact kept.changeOutbox _ Outbox.release fun _ held => by cases held
  | apply request =>
    cases request with
    | register handle => exact kept.register _
    | unregister user leaving =>
      have initially : state.Kept pending connection := fun before => by
        simpa [Operation.request?] using kept before
      exact initially.unregister user leaving
    | fanout request =>
      have initially : state.Kept pending connection := fun before => by
        simpa [Operation.request?] using kept before
      exact fanOut_preserves (Kept pending connection) (fun before => before)
        (fun user before => before.deliver _ _ user) initially
  | receive other =>
    refine kept.changeOutbox other (fun outbox => outbox.receive.2) fun outbox held => ?_
    unfold Outbox.receive at held
    split at held <;> exact held
  | abandon other => exact kept.changeOutbox other Outbox.abandon fun _ held => held

/-- What a hub has in its keeping over any time is in its keeping afterwards, or closed. -/
theorem foldl_perform {operations : List Operation} (policies : Policies)
    (kept : state.Kept (operations.filterMap Operation.request? ++ pending) connection)
    (fresh : ∀ handle ∈ made operations, handle.connection ≠ connection) :
    (operations.foldl (State.perform policies) state).Kept pending connection := by
  induction operations generalizing state with
  | nil => exact kept
  | cons operation rest ih =>
    refine ih (perform ?_ policies fun handle isMade => fresh handle ?_) fun handle member =>
      fresh handle ?_
    · cases request : operation.request? with
      | none => rwa [List.filterMap_cons_none request] at kept
      | some one => rwa [List.filterMap_cons_some request] at kept
    · exact List.mem_filterMap.mpr ⟨operation, List.mem_cons_self, isMade⟩
    · obtain ⟨later, present, isMade⟩ := List.mem_filterMap.mp member
      exact List.mem_filterMap.mpr ⟨later, List.mem_cons_of_mem _ present, isMade⟩

end Kept

/-! ## The end of the registry -/

/-- A handle that is still held is none of those let go. -/
theorem holds_foldl_release (state : State) {entries : List (UserId × Handle)}
    (holds : (entries.foldl (fun state entry => state.release entry.2.connection) state).Holds
      connection) :
    state.Holds connection ∧ ∀ entry ∈ entries, entry.2.connection ≠ connection := by
  induction entries generalizing state with
  | nil => exact ⟨holds, nofun⟩
  | cons entry rest ih =>
    obtain ⟨before, others⟩ := ih _ holds
    obtain ⟨before, different⟩ := holds_release before
    exact ⟨before, List.forall_mem_cons.mpr ⟨different, others⟩⟩

/-- Once the registry has ended, the hub has nothing in its keeping but what waits. -/
theorem not_holds_releaseAll (kept : state.Kept [] connection) :
    ¬ state.releaseAll.Holds connection := by
  intro holds
  obtain ⟨before, others⟩ := holds_foldl_release state holds
  rcases kept before with ⟨user, handle, present, same⟩ | ⟨handle, member, -⟩
  · exact others (user, handle) (Std.ExtTreeMap.mem_toList_iff_getElem?_eq_some.mpr present) same
  · cases member

end State

end Switchboard.Hub
