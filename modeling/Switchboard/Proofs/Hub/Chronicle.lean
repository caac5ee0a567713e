import Mathlib.Logic.Function.Basic
import Switchboard.Proofs.Hub.Membership

/-!
# The events and the registry

What is published about a user, but for connections that were turned away, tells of one connection
after the other, each with its end, and at last of the one that is registered. A connection that was
turned away is told of once. `Chronicle` says so of a state, and holds after every lawful run
(`chronicle_after`).
-/

namespace Switchboard.Hub

/-- An event tells of a connection that was turned away. -/
def PresenceEvent.isRejection : PresenceEvent → Bool
  | .offline _ _ .rejected => true
  | _ => false

/-- The events about a user, but for connections that were turned away. -/
def lifeEvents (user : UserId) (events : List PresenceEvent) : List PresenceEvent :=
  events.filter fun event => event.user = user && !event.isRejection

/-- The events of connections that came and went one after the other, and of one that is there. -/
def lifeline (user : UserId) (ended : List (ConnectionId × OfflineReason))
    (current : Option ConnectionId) : List PresenceEvent :=
  ended.flatMap (fun stay => [.online user stay.1, .offline user stay.1 stay.2]) ++
    (current.map (PresenceEvent.online user)).toList

/-- The connection that is registered for a user. -/
def State.current (state : State) (user : UserId) : Option ConnectionId :=
  (state.registry[user]?).map Handle.connection

/-- Events fit the connections that are registered then, and the operations so far. -/
structure Chronicle (past : List Operation) (current : UserId → Option ConnectionId)
    (events : List PresenceEvent) : Prop where
  given : ∀ event ∈ events, Operation.apply (.register ⟨event.connection, event.user⟩) ∈ past
  alone : events.Pairwise fun first second =>
    first.connection = second.connection → first.isRejection = false ∧ second.isRejection = false
  admitted : ∀ {user : UserId} {connection : ConnectionId}, current user = some connection →
    ∀ event ∈ events, event.connection = connection → event.isRejection = false
  lives : ∀ user, ∃ ended, lifeEvents user events = lifeline user ended (current user) ∧
    (ended.map Prod.fst ++ (current user).toList).Nodup

/-! ## One event more -/

/-- One event more is one of a user's life if it is about the user and tells of no rejection. -/
theorem lifeEvents_concat (user : UserId) (events : List PresenceEvent) (event : PresenceEvent) :
    lifeEvents user (events ++ [event]) =
      lifeEvents user events ++
        if event.user = user ∧ event.isRejection = false then [event] else [] := by
  rw [lifeEvents, List.filter_append, ← lifeEvents]
  by_cases about : event.user = user <;> cases rejects : event.isRejection <;>
    simp [about, rejects]

/-- A lifeline goes on with the arrival of a connection. -/
theorem lifeline_arrive (user : UserId) (ended : List (ConnectionId × OfflineReason))
    (connection : ConnectionId) :
    lifeline user ended none ++ [.online user connection] =
      lifeline user ended (some connection) := by
  simp [lifeline]

/-- It goes on with the end of the one that is there. -/
theorem lifeline_depart (user : UserId) (ended : List (ConnectionId × OfflineReason))
    (connection : ConnectionId) (reason : OfflineReason) :
    lifeline user ended (some connection) ++ [.offline user connection reason] =
      lifeline user (ended ++ [(connection, reason)]) none := by
  simp [lifeline]

/-- Every connection in a lifeline is told of when it comes. -/
theorem online_mem_lifeline {user : UserId} {ended : List (ConnectionId × OfflineReason)}
    {current : Option ConnectionId} {connection : ConnectionId}
    (member : connection ∈ ended.map Prod.fst ++ current.toList) :
    .online user connection ∈ lifeline user ended current := by
  rcases List.mem_append.mp member with past | present
  · obtain ⟨stay, isMember, rfl⟩ := List.mem_map.mp past
    exact List.mem_append_left _ (List.mem_flatMap.mpr ⟨stay, isMember, by simp⟩)
  · obtain rfl := Option.mem_toList.mp present
    exact List.mem_append_right _ (by simp)

/-- The events of a life are among those that are published. -/
theorem mem_of_mem_lifeEvents {user : UserId} {events : List PresenceEvent} {event : PresenceEvent}
    (member : event ∈ lifeEvents user events) : event ∈ events :=
  (List.mem_filter.mp member).1

namespace Chronicle

variable {past : List Operation} {current : UserId → Option ConnectionId}
  {events : List PresenceEvent} {user : UserId} {connection : ConnectionId}

/-- An operation that publishes nothing keeps the chronicle. -/
theorem extend (chronicle : Chronicle past current events) (operation : Operation) :
    Chronicle (past ++ [operation]) current events :=
  { chronicle with given := fun event member =>
      List.mem_append_left _ (chronicle.given event member) }

/-- What is registered has been told of. -/
theorem online_mem (chronicle : Chronicle past current events)
    (present : current user = some connection) : .online user connection ∈ events := by
  obtain ⟨ended, told, distinct⟩ := chronicle.lives user
  have isMember : .online user connection ∈ lifeEvents user events := by
    rw [told, present]
    exact online_mem_lifeline (by simp)
  exact mem_of_mem_lifeEvents isMember

/-- An event of a connection that no event tells of fits in with the others. -/
theorem alone_concat (chronicle : Chronicle past current events) {event : PresenceEvent}
    (fresh : ∀ earlier ∈ events, earlier.connection ≠ event.connection) :
    (events ++ [event]).Pairwise fun first second => first.connection = second.connection →
      first.isRejection = false ∧ second.isRejection = false := by
  refine List.pairwise_append.mpr ⟨chronicle.alone, List.pairwise_singleton _ _, ?_⟩
  intro earlier member last isLast same
  rw [List.mem_singleton.mp isLast] at same
  exact absurd same (fresh earlier member)

/-- Events of connections whose handles have been given away, and one more such event. -/
theorem given_concat (chronicle : Chronicle past current events) {event : PresenceEvent}
    (given : Operation.apply (.register ⟨event.connection, event.user⟩) ∈ past) :
    ∀ one ∈ events ++ [event], Operation.apply (.register ⟨one.connection, one.user⟩) ∈ past := by
  intro one member
  rcases List.mem_append.mp member with earlier | now
  · exact chronicle.given one earlier
  · rw [List.mem_singleton.mp now]
    exact given

/-- A connection comes, for a user who has none. -/
theorem arrive (chronicle : Chronicle past current events) (nobody : current user = none)
    (given : Operation.apply (.register ⟨connection, user⟩) ∈ past)
    (fresh : ∀ event ∈ events, event.connection ≠ connection) :
    Chronicle past (Function.update current user (some connection))
      (events ++ [.online user connection]) := by
  constructor
  case given => exact chronicle.given_concat given
  case alone => exact chronicle.alone_concat fresh
  case admitted =>
    intro other another present event member same
    rcases List.mem_append.mp member with earlier | now
    · by_cases about : other = user
      · subst about
        rw [Function.update_self] at present
        rw [← Option.some.inj present] at same
        exact absurd same (fresh event earlier)
      · rw [Function.update_of_ne about] at present
        exact chronicle.admitted present event earlier same
    · rw [List.mem_singleton.mp now]
      rfl
  case lives =>
    intro other
    obtain ⟨ended, told, distinct⟩ := chronicle.lives other
    rw [lifeEvents_concat]
    by_cases about : other = user
    · subst about
      rw [nobody] at told distinct
      rw [Option.toList_none, List.append_nil] at distinct
      rw [Function.update_self, if_pos ⟨rfl, rfl⟩, told]
      refine ⟨ended, lifeline_arrive other ended connection, ?_⟩
      refine List.nodup_append.mpr ⟨distinct, List.pairwise_singleton _ _, ?_⟩
      intro earlier member last isLast same
      have isMember : .online other earlier ∈ lifeEvents other events := by
        rw [told]
        exact online_mem_lifeline (List.mem_append_left _ member)
      rw [List.mem_singleton.mp isLast] at same
      exact fresh _ (mem_of_mem_lifeEvents isMember) same
    · rw [Function.update_of_ne about, if_neg fun both => about both.1.symm, List.append_nil]
      exact ⟨ended, told, distinct⟩

/-- So does the end of a connection that is there. -/
theorem depart (chronicle : Chronicle past current events)
    (present : current user = some connection) {reason : OfflineReason}
    (accepted : (PresenceEvent.offline user connection reason).isRejection = false) :
    Chronicle past (Function.update current user none)
      (events ++ [.offline user connection reason]) := by
  have comes := chronicle.online_mem present
  constructor
  case given => exact chronicle.given_concat (chronicle.given (.online user connection) comes)
  case alone =>
    refine List.pairwise_append.mpr ⟨chronicle.alone, List.pairwise_singleton _ _, ?_⟩
    intro event member last isLast same
    rw [List.mem_singleton.mp isLast] at same ⊢
    exact ⟨chronicle.admitted present event member same, accepted⟩
  case admitted =>
    intro other another still event member same
    rcases List.mem_append.mp member with earlier | now
    · by_cases about : other = user
      · subst about
        rw [Function.update_self] at still
        cases still
      · rw [Function.update_of_ne about] at still
        exact chronicle.admitted still event earlier same
    · rw [List.mem_singleton.mp now]
      exact accepted
  case lives =>
    intro other
    obtain ⟨ended, told, distinct⟩ := chronicle.lives other
    rw [lifeEvents_concat]
    by_cases about : other = user
    · subst about
      rw [present] at told distinct
      rw [Function.update_self, if_pos ⟨rfl, accepted⟩, told]
      refine ⟨ended ++ [(connection, reason)], lifeline_depart other ended connection reason, ?_⟩
      simpa using distinct
    · rw [Function.update_of_ne about, if_neg fun both => about both.1.symm, List.append_nil]
      exact ⟨ended, told, distinct⟩

/-- So does the rejection of a connection that no event has told of. -/
theorem turnAway (chronicle : Chronicle past current events)
    (given : Operation.apply (.register ⟨connection, user⟩) ∈ past)
    (fresh : ∀ event ∈ events, event.connection ≠ connection) :
    Chronicle past current (events ++ [.offline user connection .rejected]) := by
  constructor
  case given => exact chronicle.given_concat given
  case alone => exact chronicle.alone_concat fresh
  case admitted =>
    intro other another present event member same
    rcases List.mem_append.mp member with earlier | now
    · exact chronicle.admitted present event earlier same
    · rw [List.mem_singleton.mp now] at same
      exact absurd same.symm (fresh _ (chronicle.online_mem present))
  case lives =>
    intro other
    rw [lifeEvents_concat, if_neg fun both => Bool.noConfusion both.2, List.append_nil]
    exact chronicle.lives other

end Chronicle

/-! ## Handlers -/

namespace State

variable {past : List Operation} {state : State}

/-- A handle that enters is the current one of its user. -/
theorem current_enter (state : State) (handle : Handle) :
    (state.enter handle).current =
      Function.update state.current handle.user (some handle.connection) := by
  funext user
  by_cases same : user = handle.user
  · subst same
    simp [current, enter]
  · simp [current, enter, Std.ExtTreeMap.getElem?_insert, Function.update_of_ne same, Ne.symm same]

/-- A user who leaves has none. -/
theorem current_leave (state : State) (user : UserId) :
    (state.leave user).current = Function.update state.current user none := by
  funext other
  by_cases same : other = user
  · subst same
    simp [current, leave]
  · simp [current, leave, Std.ExtTreeMap.getElem?_erase, Function.update_of_ne same, Ne.symm same]

/-- The current connection is the registered one. -/
theorem current_of_registered {user : UserId} {handle : Handle}
    (registered : state.registry[user]? = some handle) :
    state.current user = some handle.connection := by
  rw [current, registered]
  rfl

/-- The events fit the registry. -/
def Chronicled (past : List Operation) (state : State) : Prop :=
  Chronicle past state.current state.published

/-- A registered connection that goes is told of as what it is. -/
theorem Chronicled.leave (chronicled : state.Chronicled past) {user : UserId}
    {connection : ConnectionId} (present : state.current user = some connection)
    {reason : OfflineReason}
    (accepted : (PresenceEvent.offline user connection reason).isRejection = false) :
    ((state.leave user).publish (.offline user connection reason)).Chronicled past := by
  have departed := Chronicle.depart chronicled present accepted
  rw [← current_leave] at departed
  exact departed

/-- A delivery keeps the chronicle. -/
theorem Chronicled.deliver (chronicled : state.Chronicled past) (policy : OverflowPolicy)
    (payload : Payload) (user : UserId) :
    (state.deliver policy payload user).1.Chronicled past := by
  have outcome := state.deliver_cases policy payload user
  generalize state.deliver policy payload user = result at outcome
  cases outcome with
  | offline absent => exact chronicled
  | delivered registered found attended room => exact chronicled
  | evicted registered found attended full chosen =>
    exact chronicled.leave (current_of_registered registered) rfl
  | dropped registered found attended full chosen => exact chronicled
  | closed registered gone => exact chronicled.leave (current_of_registered registered) rfl

/-- So does a request to unregister. -/
theorem Chronicled.unregister (chronicled : state.Chronicled past) (user : UserId)
    (connection : ConnectionId) : (state.unregister user connection).1.Chronicled past := by
  have outcome := state.unregister_cases user connection
  generalize state.unregister user connection = result at outcome
  cases outcome with
  | removed registered same =>
    subst same
    exact chronicled.leave (current_of_registered registered) rfl
  | stale other => exact chronicled

/-- `past` ends with the request, and no event tells of the connection yet. -/
theorem Chronicled.register (chronicled : state.Chronicled past) {handle : Handle}
    (given : Operation.apply (.register handle) ∈ past)
    (fresh : ∀ event ∈ state.published, event.connection ≠ handle.connection)
    (policy : DuplicatePolicy) : (state.register policy handle).1.Chronicled past := by
  have outcome := state.register_cases policy handle
  generalize state.register policy handle = result at outcome
  cases outcome with
  | ignored gone => exact chronicled
  | inserted attended free =>
    have nobody : state.current handle.user = none := by rw [current, free]; rfl
    have arrived := Chronicle.arrive chronicled nobody given fresh
    rw [← current_enter] at arrived
    exact arrived
  | @replaced previous attended occupied chosen =>
    have present := current_of_registered occupied
    -- Between the two events the user has no connection.
    have departed := Chronicle.depart chronicled present
      (show (PresenceEvent.offline handle.user previous.connection .replaced).isRejection = false
        from rfl)
    have nobody : Function.update state.current handle.user none handle.user = none :=
      Function.update_self _ _ _
    have arrived := departed.arrive nobody given fun event member => by
      rcases List.mem_append.mp member with earlier | now
      · exact fresh event earlier
      · rw [List.mem_singleton.mp now]
        exact fresh (.online handle.user previous.connection)
          (Chronicle.online_mem chronicled present)
    rw [Function.update_idem, ← current_enter] at arrived
    exact arrived
  | rejected attended occupied chosen => exact Chronicle.turnAway chronicled given fresh

/-- So does every operation that may follow. -/
theorem Chronicled.perform (chronicled : state.Chronicled past) (policies : Policies)
    {operation : Operation} (lawful : Lawful past) (follows : operation.Follows past) :
    (state.perform policies operation).Chronicled (past ++ [operation]) := by
  have extended : state.Chronicled (past ++ [operation]) := Chronicle.extend chronicled operation
  rcases state.perform_cases policies operation with ⟨request, rfl, same⟩ | ⟨_, outboxes, same⟩
  · rw [same]
    cases request with
    | register handle =>
      refine extended.register (by simp) ?_ policies.duplicate
      intro event member
      -- An event tells only of connections whose handles have been given away.
      have gone := mem_spent_of_register (chronicled.given event member)
      exact lawful.connection_ne_of_spent follows gone
    | unregister user connection => exact extended.unregister user connection
    | fanout request =>
      exact fanOut_preserves (Chronicled (past ++ [.apply (.fanout request)]))
        (fun chronicled => chronicled)
        (fun user chronicled => chronicled.deliver policies.overflow request.payload user) extended
  · rw [same]
    exact extended

end State

/-- The events of every lawful run are a chronicle. -/
theorem chronicle_after (policies : Policies) {run : List Operation} (lawful : Lawful run) :
    (State.after policies run).Chronicled run := by
  induction lawful with
  | start =>
    refine ⟨?_, List.Pairwise.nil, ?_, fun user => ⟨[], ?_, ?_⟩⟩
    · simp
    · simp
    · simp [lifeEvents, lifeline, State.current]
    · simp [State.current]
  | step lawful follows ih =>
    rw [after_concat]
    exact ih.perform policies lawful follows

end Switchboard.Hub
