import Mathlib.Data.List.Defs
import Switchboard.Hub.Facade
import Switchboard.Proofs.Hub.Stream

/-!
# Registry, presence view and outboxes agree

After every lawful run the registry, the presence view and the hub's ends of the outboxes tell the
same story (`agreement`): the view lists the registry's users, and an outbox whose handle was given
away is open exactly if its connection is registered. The writer of one that is not sees what is
buffered and then the end (`seen_of_closed`).
-/

namespace Switchboard.Hub

variable {policies : Policies} {handle : Handle} {past : List Operation}

/-! ## Open outboxes -/

/-- The hub's end of an outbox whose handle was given away is there exactly if the connection is
registered. -/
theorem held_iff_registers (lawful : Lawful past)
    (given : handle ∈ spent past) {outbox : Outbox}
    (found : (State.after policies past).outboxes[handle.connection]? = some outbox) :
    outbox.held = true ↔ (State.after policies past).Registers handle := by
  have sound := sound_after policies lawful
  have owned := sound.owner_eq lawful (lawful.made_of_spent given) found
  have held := sound.held_iff found
  rw [owned] at held
  rw [held]
  constructor
  · rintro (⟨_, unspent⟩ | registers | moving)
    · exact absurd given unspent
    · exact registers
    · cases moving
  · exact fun registers => .inr (.inl registers)

/-! ## The end of a stream -/

/-- A writer that has gone receives nothing more. -/
theorem not_receive_of_abandon {connection : ConnectionId} {later : List Operation}
    (lawful : Lawful (past ++ later)) (gone : .abandon connection ∈ past) :
    .receive connection ∉ later := by
  intro receives
  obtain ⟨first, last, rfl⟩ := List.append_of_mem receives
  rw [← List.append_assoc] at lawful
  exact lawful.of_append_cons.follows.2 (List.mem_append_left _ gone)

/-- What one operation does to an outbox that the hub has let go of, if the writer does not go. -/
theorem buffered_of_closed {operation : Operation} (lawful : Lawful (past ++ [operation]))
    (given : handle ∈ spent past) (absent : ¬ (State.after policies past).Registers handle)
    (stays : operation ≠ .abandon handle.connection) :
    (State.after policies past).buffered handle.connection =
      taken handle.connection (State.after policies past, operation) ++
        (State.after policies (past ++ [operation])).buffered handle.connection := by
  have isMade := lawful.of_append.made_of_spent given
  have balance := buffered_perform (sound_after policies lawful.of_append) policies
    lawful.of_append lawful.follows (lawful.sole (mem_made_append _ isMade))
  have pushes : pushed handle (State.after policies past, operation) = [] :=
    pushed_eq_nil_of_spent lawful given
  have fans : fanned handle (State.after policies past, operation) = [] :=
    fanned_eq_nil_of_not_registers absent
  have forfeits : forfeited handle.connection (State.after policies past, operation) = [] :=
    forfeited_eq_nil stays
  rwa [pushes, fans, forfeits, List.append_nil, List.append_nil, List.nil_append,
    ← after_concat] at balance

/-- What the writer of an outbox that the hub has let go of sees next: the first payload that is
buffered, and the end if there is none. -/
theorem seen_receive_of_closed (lawful : Lawful (past ++ [.receive handle.connection]))
    (given : handle ∈ spent past) (absent : ¬ (State.after policies past).Registers handle) :
    (∃ payload, seen handle.connection
          (State.after policies past, .receive handle.connection) = some (.payload payload) ∧
        (State.after policies past).buffered handle.connection =
          payload :: (State.after policies (past ++ [.receive handle.connection])).buffered
            handle.connection) ∨
      seen handle.connection
          (State.after policies past, .receive handle.connection) = some .closed ∧
        (State.after policies past).buffered handle.connection = [] ∧
        (State.after policies (past ++ [.receive handle.connection])).buffered
          handle.connection = [] := by
  have isMade := lawful.of_append.made_of_spent given
  obtain ⟨outbox, found, owned⟩ :=
    (sound_after policies lawful.of_append).outbox_of_made isMade
  have closed : outbox.held = false := Bool.eq_false_iff.mpr fun held =>
    absent ((held_iff_registers lawful.of_append given found).mp held)
  have sees : seen handle.connection
      (State.after policies past, .receive handle.connection) = some outbox.receive.1 := by
    rw [seen, if_pos rfl, found, Option.map_some]
  have balance := buffered_of_closed lawful given absent (by simp)
  rw [taken, sees] at balance
  have content : (State.after policies past).buffered handle.connection = outbox.buffer :=
    State.buffered_of_found found
  cases waiting : outbox.buffer with
  | nil =>
    have ends : outbox.receive.1 = .closed := by simp [Outbox.receive, waiting, closed]
    rw [ends] at sees balance
    rw [content, waiting] at balance
    exact .inr ⟨sees, content.trans waiting, balance.symm⟩
  | cons first others =>
    have next : outbox.receive.1 = .payload first := by simp [Outbox.receive, waiting]
    rw [next] at sees balance
    exact .inl ⟨first, sees, balance⟩

/-- Once the hub has let go of an outbox, its writer sees what is buffered and then the end, as
often as it asks. -/
theorem seen_of_closed {later : List Operation} (lawful : Lawful (past ++ later))
    (given : handle ∈ spent past) (absent : ¬ (State.after policies past).Registers handle) :
    (trailFrom policies (State.after policies past) later).filterMap (seen handle.connection) =
      (((State.after policies past).buffered handle.connection).map .payload).takeD
        (later.count (.receive handle.connection)) .closed := by
  induction later generalizing past with
  | nil => rfl
  | cons operation rest ih =>
    have split : past ++ operation :: rest = past ++ [operation] ++ rest := by simp
    have lawfulNow := lawful.of_append_cons
    rw [split] at lawful
    have absentNow := never_returns lawfulNow given absent
    have after := ih lawful (mem_spent_append [operation] given) absentNow
    rw [trailFrom, ← after_concat]
    by_cases receives : operation = .receive handle.connection
    · subst receives
      rw [List.count_cons_self]
      rcases seen_receive_of_closed lawfulNow given absent with
        ⟨payload, sees, content⟩ | ⟨sees, empty, drained⟩
      · rw [List.filterMap_cons_some sees, after, content]
        rfl
      · rw [List.filterMap_cons_some sees, after, empty, drained]
        rfl
    · rw [List.filterMap_cons_none (seen_eq_none receives), List.count_cons_of_ne receives, after]
      by_cases leaves : operation = .abandon handle.connection
      · -- What is buffered is lost, but nobody will ask for it.
        subst leaves
        have never : Operation.receive handle.connection ∉ rest :=
          not_receive_of_abandon lawful (by simp)
        rw [List.count_eq_zero.mpr never, List.takeD_zero, List.takeD_zero]
      · have balance := buffered_of_closed lawfulNow given absent leaves
        rw [taken_eq_nil receives, List.nil_append] at balance
        rw [balance]

/-! ## The agreement -/

/-- What a hub answers, its registry and its outboxes fit together, and the operations so far. -/
structure Agrees (policies : Policies) (past : List Operation) (hub : Hub) : Prop where
  own_user : ∀ {user : UserId} {handle : Handle}, hub.state.registry[user]? = some handle →
    handle.user = user
  one_user : ∀ {first second : UserId} {firstHandle secondHandle : Handle},
    hub.state.registry[first]? = some firstHandle →
      hub.state.registry[second]? = some secondHandle →
        firstHandle.connection = secondHandle.connection → first = second
  isOnline_iff : ∀ user, hub.isOnline user = true ↔ user ∈ hub.state.registry
  listOnline_ascending : hub.listOnline.Pairwise (· < ·)
  mem_listOnline_iff : ∀ user, user ∈ hub.listOnline ↔ user ∈ hub.state.registry
  count_eq : hub.count = hub.listOnline.length
  open_iff : ∀ {handle : Handle}, .apply (.register handle) ∈ past →
    ∃ outbox, hub.state.outboxes[handle.connection]? = some outbox ∧
      (outbox.held = true ↔ hub.state.Registers handle)
  ends : ∀ {handle : Handle}, .apply (.register handle) ∈ past → ¬ hub.state.Registers handle →
    ∀ {later : List Operation}, Lawful (past ++ later) →
      (trailFrom policies hub.state later).filterMap (seen handle.connection) =
        ((hub.state.buffered handle.connection).map .payload).takeD
          (later.count (.receive handle.connection)) .closed

/-- A hub agrees with itself and with the operations that have led to its state. -/
theorem agreement (lawful : Lawful past) {hub : Hub}
    (reached : hub.state = State.after policies past) : Agrees policies past hub := by
  have sound := sound_after policies lawful
  have shown := shown_after policies past
  rw [← reached] at sound shown
  have isMade {user : UserId} {handle : Handle}
      (registered : hub.state.registry[user]? = some handle) : handle ∈ made past :=
    lawful.made_of_spent (mem_spent_of_register (sound.given registered))
  constructor
  case own_user => exact sound.user_eq
  case one_user =>
    intro first second firstHandle secondHandle firstRegistered secondRegistered shared
    have same := lawful.made_unique (isMade firstRegistered) (isMade secondRegistered) shared
    rw [← sound.user_eq firstRegistered, same, sound.user_eq secondRegistered]
  case isOnline_iff =>
    intro user
    rw [Hub.isOnline, Std.ExtTreeSet.contains_iff_mem]
    exact shown user
  case listOnline_ascending =>
    exact Std.ExtTreeSet.ordered_toList.imp fun ordered => Std.compare_eq_lt.mp ordered
  case mem_listOnline_iff =>
    intro user
    rw [Hub.listOnline, Std.ExtTreeSet.mem_toList]
    exact shown user
  case count_eq => exact Std.ExtTreeSet.length_toList.symm
  case open_iff =>
    intro handle given
    have gone := mem_spent_of_register given
    obtain ⟨outbox, found, owned⟩ := sound.outbox_of_made (lawful.made_of_spent gone)
    refine ⟨outbox, found, ?_⟩
    rw [reached] at found ⊢
    exact held_iff_registers lawful gone found
  case ends =>
    intro handle given absent later lawfulLater
    rw [reached] at absent ⊢
    exact seen_of_closed lawfulLater (mem_spent_of_register given) absent

/-- A hub in which one connection of a user has replaced another, which has something buffered. -/
def crossover : List Operation :=
  [.connect ⟨⟨0⟩, 7⟩ 4, .connect ⟨⟨1⟩, 7⟩ 4, .apply (.register ⟨⟨0⟩, 7⟩),
    .apply (.fanout (.to [7] ⟨#[1]⟩)), .apply (.register ⟨⟨1⟩, 7⟩)]

/-- After such a run everything agrees. -/
theorem agreement_crossover :
    Lawful crossover ∧
      Agrees {} crossover ((Hub.create {}).changeState fun _ => State.after {} crossover) := by
  have lawful : Lawful crossover := lawful_of_follows (by decide)
  exact ⟨lawful, agreement lawful rfl⟩

end Switchboard.Hub
