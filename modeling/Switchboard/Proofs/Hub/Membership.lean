import Switchboard.Proofs.Hub.Slice

/-!
# Who is registered

A connection enters the registry only when its own registration is applied (`registers_perform`).
Since its handle is then spent, a connection that has left never returns (`never_returns`).
-/

namespace Switchboard.Hub

/-- A handle is the registered one of its user. -/
def State.Registers (state : State) (handle : Handle) : Prop :=
  state.registry[handle.user]? = some handle

instance (state : State) (handle : Handle) : Decidable (state.Registers handle) :=
  inferInstanceAs (Decidable (_ = _))

namespace State

variable {state : State} {handle : Handle}

/-- Who is registered after somebody has entered was so before or is the one. -/
theorem registers_enter {other : Handle} (registers : (state.enter other).Registers handle) :
    state.Registers handle ∨ other = handle := by
  simp only [Registers, enter, Std.ExtTreeMap.getElem?_insert] at registers
  split at registers
  next => exact .inr (Option.some.inj registers)
  next => exact .inl registers

/-- Who is registered after somebody has left was so before. -/
theorem registers_leave {user : UserId} (registers : (state.leave user).Registers handle) :
    state.Registers handle := by
  simp only [Registers, leave, Std.ExtTreeMap.getElem?_erase] at registers
  exact (Option.ite_none_left_eq_some.mp registers).2

/-- Who is registered after a delivery was so before. -/
theorem registers_deliver {policy : OverflowPolicy} {payload : Payload} {user : UserId}
    (registers : (state.deliver policy payload user).1.Registers handle) :
    state.Registers handle := by
  have outcome := state.deliver_cases policy payload user
  generalize state.deliver policy payload user = result at outcome registers
  cases outcome with
  | offline absent => exact registers
  | delivered registered found attended room => exact registers
  | evicted registered found attended full chosen => exact registers_leave registers
  | dropped registered found attended full chosen => exact registers
  | closed registered gone => exact registers_leave registers

/-- Who is registered after a fan-out was so before. -/
theorem registers_fanOut {policy : OverflowPolicy} {request : FanoutRequest}
    (registers : (state.fanOut policy request).1.Registers handle) : state.Registers handle := by
  revert registers
  exact fanOut_preserves (fun after => after.Registers handle → state.Registers handle)
    (fun before registers => before registers)
    (fun user before registers => before (registers_deliver registers)) id

/-- Nothing but its own registration brings a connection into the registry. -/
theorem registers_perform {policies : Policies} {operation : Operation}
    (registers : (state.perform policies operation).Registers handle) :
    state.Registers handle ∨ operation = .apply (.register handle) := by
  rcases state.perform_cases policies operation with ⟨request, rfl, same⟩ | ⟨_, outboxes, same⟩
  · rw [same] at registers
    cases request with
    | register other =>
      have outcome := state.register_cases policies.duplicate other
      simp only [apply] at registers
      generalize state.register policies.duplicate other = result at outcome registers
      have entered : (state.enter other).Registers handle →
          state.Registers handle ∨ Operation.apply (.register other) = .apply (.register handle) :=
        fun registers => (registers_enter registers).imp id fun same => by rw [same]
      cases outcome with
      | ignored gone => exact .inl registers
      | inserted attended free => exact entered registers
      | replaced attended occupied chosen => exact entered registers
      | rejected attended occupied chosen => exact .inl registers
    | unregister user connection =>
      have outcome := state.unregister_cases user connection
      simp only [apply] at registers
      generalize state.unregister user connection = result at outcome registers
      cases outcome with
      | removed registered same => exact .inl (registers_leave registers)
      | stale other => exact .inl registers
    | fanout request => exact .inl (registers_fanOut registers)
  · rw [same] at registers
    exact .inl registers

end State

/-- A connection whose handle is spent and that is not registered never is again. -/
theorem never_returns {policies : Policies} {handle : Handle} {past later : List Operation}
    (lawful : Lawful (past ++ later)) (gone : handle ∈ spent past)
    (absent : ¬ (State.after policies past).Registers handle) :
    ¬ (State.after policies (past ++ later)).Registers handle := by
  induction later using List.reverseRecOn with
  | nil => rwa [List.append_nil]
  | append_singleton before operation ih =>
    rw [← List.append_assoc] at lawful ⊢
    rw [after_concat]
    intro registers
    rcases State.registers_perform registers with earlier | now
    · exact ih lawful.of_append earlier
    · subst now
      have inHand : InHand (past ++ before) handle := lawful.follows
      exact inHand.2 (mem_spent_append before gone)

/-- A connection whose registration has not been applied is not registered. -/
theorem not_registers_of_not_mem {policies : Policies} {handle : Handle} {run : List Operation}
    (lawful : Lawful run) (absent : Operation.apply (.register handle) ∉ run) :
    ¬ (State.after policies run).Registers handle :=
  fun registers => absent ((sound_after policies lawful).given registers)

end Switchboard.Hub
