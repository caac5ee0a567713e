import Switchboard.Proofs.Hub.Succession

/-!
# What a live connection meets when it registers

After the registration of a connection whose writer is there, its user has a connection, but not
necessarily one with a writer: the rejecting policy keeps the connection that is there, and it does
not ask whether that one still has its writer (`not_isLive_of_register`). It is the only way to miss
(`admission`). A connection that is kept without a writer lasts until a payload for its user finds
nobody.
-/

namespace Switchboard.Hub

/-- A user has a connection whose writer is there. -/
def State.isLive (state : State) (user : UserId) : Bool :=
  (state.registry[user]?).any fun holder => state.attended holder.connection

namespace State

variable {state : State} {handle : Handle}

/-- A user is live if the registered connection has its writer. -/
theorem isLive_of_registered {user : UserId} {holder : Handle}
    (registered : state.registry[user]? = some holder) :
    state.isLive user = state.attended holder.connection := by
  rw [isLive, registered, Option.any_some]

/-- Who lets go of the hub's end of an outbox does not ask for the writer's. -/
theorem attended_release (connection other : ConnectionId) :
    (state.release connection).attended other = state.attended other := by
  simp only [attended, release, getElem?_changeOutbox]
  by_cases same : connection = other
  · cases found : state.outboxes[other]? <;> simp [same, Outbox.release]
  · simp [same]

/-- A registration neither makes nor ends a writer. -/
theorem attended_register (policy : DuplicatePolicy) (handle : Handle)
    (connection : ConnectionId) :
    (state.register policy handle).1.attended connection = state.attended connection := by
  have outcome := state.register_cases policy handle
  generalize state.register policy handle = result at outcome
  cases outcome with
  | ignored gone => exact attended_release _ _
  | inserted attended free => rfl
  | replaced attended occupied chosen => exact (state.enter handle).attended_release _ _
  | rejected attended occupied chosen => exact attended_release _ _

/-- Under the replacing policy a connection whose writer is there takes the user's place. -/
theorem registry_register_replace (attended : state.attended handle.connection = true) :
    (state.register .replace handle).1.registry[handle.user]? = some handle := by
  have entered : (state.enter handle).registry[handle.user]? = some handle := by simp [enter]
  have outcome := state.register_cases .replace handle
  generalize state.register .replace handle = result at outcome
  cases outcome with
  | ignored gone => simp [gone] at attended
  | inserted _ free => exact entered
  | replaced _ occupied _ => exact entered
  | rejected _ occupied chosen => cases chosen

/-- Under the rejecting policy it does so if nobody is there. -/
theorem registry_register_reject (attended : state.attended handle.connection = true) :
    (state.register .reject handle).1.registry[handle.user]? =
      some ((state.registry[handle.user]?).getD handle) := by
  have outcome := state.register_cases .reject handle
  generalize state.register .reject handle = result at outcome
  cases outcome with
  | ignored gone => simp [gone] at attended
  | inserted _ free =>
    have entered : (state.enter handle).registry[handle.user]? = some handle := by simp [enter]
    rw [free]
    exact entered
  | replaced _ occupied chosen => cases chosen
  | rejected _ occupied _ =>
    rw [occupied]
    exact occupied

end State

variable {policies : Policies} {past : List Operation} {handle : Handle}

/-! ## Payloads for the connection that is there -/

/-- A payload for a user whose connection has a writer and room is queued for that writer. -/
theorem buffered_fanout_of_attended (lawful : Lawful past) {holder : Handle}
    (registered : (State.after policies past).Registers holder)
    (attended : (State.after policies past).attended holder.connection = true)
    (room : (State.after policies past).isFull holder.connection = false)
    {request : FanoutRequest} (named : holder.user ∈ request.recipients) :
    (State.after policies (past ++ [.apply (.fanout request)])).buffered holder.connection =
      (State.after policies past).buffered holder.connection ++ [request.payload] := by
  have sound := sound_after policies lawful
  have isMade := lawful.made_of_spent (mem_spent_of_register (sound.given registered))
  obtain ⟨outbox, found, _⟩ := sound.outbox_of_made isMade
  simp only [State.attended, found] at attended
  simp only [State.isFull, found, Option.any_some, decide_eq_false_iff_not, Nat.not_le] at room
  have accepts := State.accepts_of_room found attended room
  rw [after_concat]
  refine (buffered_fanOut sound lawful (lawful.sole isMade) policies.overflow request).trans ?_
  rw [fanned, if_pos ⟨named, registered, accepts⟩]

/-! ## Admission -/

/-- What the registration of a connection means for its user. -/
structure Admits (policies : Policies) (handle : Handle) (past now : List Operation) : Prop where
  occupied : ∃ holder, (State.after policies now).registry[handle.user]? = some holder
  last_wins : policies.duplicate = .replace →
    (State.after policies now).registry[handle.user]? = some handle
  isLive_iff : (State.after policies now).isLive handle.user = true ↔
    (policies.duplicate = .reject → ∀ previous,
      (State.after policies past).registry[handle.user]? = some previous →
        (State.after policies past).attended previous.connection = true)
  queued : ∀ {holder : Handle},
    (State.after policies now).registry[handle.user]? = some holder →
      (State.after policies now).isLive handle.user = true →
        (State.after policies now).isFull holder.connection = false →
          ∀ {request : FanoutRequest}, handle.user ∈ request.recipients →
            (State.after policies (now ++ [.apply (.fanout request)])).buffered holder.connection =
              (State.after policies now).buffered holder.connection ++ [request.payload]
  nobody : (State.after policies now).isLive handle.user = false →
    ∀ {request : FanoutRequest}, handle.user ∈ request.recipients →
      (State.after policies (now ++ [.apply (.fanout request)])).registry[handle.user]? = none

/-- A user whose connection registers while its writer is there has a connection then, but nobody
who reads if the rejecting policy has kept one that has lost its writer. -/
theorem admission (policies : Policies) (lawful : Lawful (past ++ [.apply (.register handle)]))
    (attended : (State.after policies past).attended handle.connection = true) :
    Admits policies handle past (past ++ [.apply (.register handle)]) := by
  have now : State.after policies (past ++ [.apply (.register handle)]) =
      ((State.after policies past).register policies.duplicate handle).1 := after_concat _ _ _
  have writers := (State.after policies past).attended_register policies.duplicate handle
  simp only [← now] at writers
  have replaced (chosen : policies.duplicate = .replace) :
      (State.after policies (past ++ [.apply (.register handle)])).registry[handle.user]? =
        some handle := by
    rw [now, chosen]
    exact State.registry_register_replace attended
  have rejected (chosen : policies.duplicate = .reject) :
      (State.after policies (past ++ [.apply (.register handle)])).registry[handle.user]? =
        some (((State.after policies past).registry[handle.user]?).getD handle) := by
    rw [now, chosen]
    exact State.registry_register_reject attended
  have own {user : UserId} {holder : Handle}
      (registered : (State.after policies (past ++ [.apply (.register handle)])).registry[user]? =
        some holder) : holder.user = user := (sound_after policies lawful).user_eq registered
  constructor
  case occupied =>
    cases chosen : policies.duplicate with
    | replace => exact ⟨_, replaced chosen⟩
    | reject => exact ⟨_, rejected chosen⟩
  case last_wins => exact replaced
  case isLive_iff =>
    cases chosen : policies.duplicate with
    | replace =>
      rw [State.isLive_of_registered (replaced chosen), writers]
      exact iff_of_true attended nofun
    | reject =>
      rw [State.isLive_of_registered (rejected chosen), writers]
      cases (State.after policies past).registry[handle.user]? with
      | none => exact iff_of_true attended nofun
      | some previous => simp
  case queued =>
    intro holder registered live room request named
    rw [State.isLive_of_registered registered] at live
    have same := own registered
    rw [← same] at registered named
    exact buffered_fanout_of_attended lawful registered live room named
  case nobody =>
    intro nobody request named
    have follows : Lawful (past ++ [.apply (.register handle)] ++ [.apply (.fanout request)]) :=
      lawful.step trivial
    refine Option.eq_none_iff_forall_ne_some.mpr fun holder registered => ?_
    obtain ⟨earlier, stays⟩ := registry_append follows
      (fun _ member => by obtain rfl := List.mem_singleton.mp member; rfl) registered
    rw [State.isLive_of_registered earlier] at nobody
    rw [← own earlier] at named
    exact stays _ (List.mem_singleton_self _) ⟨named, .inl nobody⟩

/-- The writer of a user's connection goes, and the user makes another connection. -/
def deserted : List Operation :=
  [.connect ⟨⟨0⟩, 7⟩ 4, .apply (.register ⟨⟨0⟩, 7⟩), .abandon ⟨0⟩, .connect ⟨⟨1⟩, 7⟩ 4]

theorem admission_deserted :
    Lawful (deserted ++ [.apply (.register ⟨⟨1⟩, 7⟩)]) ∧
      (State.after ⟨.evict, .reject⟩ deserted).attended ⟨1⟩ = true ∧
      Admits ⟨.evict, .reject⟩ ⟨⟨1⟩, 7⟩ deserted (deserted ++ [.apply (.register ⟨⟨1⟩, 7⟩)]) := by
  have lawful : Lawful (deserted ++ [.apply (.register ⟨⟨1⟩, 7⟩)]) :=
    lawful_of_follows (by decide)
  have attended : (State.after ⟨.evict, .reject⟩ deserted).attended ⟨1⟩ = true := by
    decide +kernel
  exact ⟨lawful, attended, admission ⟨.evict, .reject⟩ lawful attended⟩

/-- A connection whose writer is there can be turned away for one whose writer is gone. -/
theorem not_isLive_of_register :
    ¬ ∀ (policies : Policies) (past : List Operation) (handle : Handle),
      Lawful (past ++ [.apply (.register handle)]) →
        (State.after policies past).attended handle.connection = true →
          (State.after policies (past ++ [.apply (.register handle)])).isLive handle.user =
            true := by
  intro always
  have live := always ⟨.evict, .reject⟩ deserted ⟨⟨1⟩, 7⟩ (lawful_of_follows (by decide))
    (by decide +kernel)
  have notLive : (State.after ⟨.evict, .reject⟩ (deserted ++ [.apply (.register ⟨⟨1⟩, 7⟩)])).isLive
      7 = false := by decide +kernel
  exact Bool.false_ne_true (notLive.symm.trans live)

end Switchboard.Hub
