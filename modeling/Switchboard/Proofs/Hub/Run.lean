import Switchboard.Hub.Handlers

/-!
# Runs of a hub's state

A hub's state changes when its dispatcher applies a request, when the maker of a connection uses a
handle that it has not given away, and when a writer uses its end of an outbox. A run is a list of
such operations, the oldest first, that begins with an empty hub. It is lawful if no two connections
have the same identity, if a handle is used only by the maker who still has it, and if a writer that
has gone does nothing more.
-/

namespace Switchboard.Hub

/-- What can happen to the state of a hub. -/
inductive Operation where
  /-- A connection is made, with room for a number of payloads. -/
  | connect (handle : Handle) (capacity : Nat)
  /-- Its maker pushes a payload. -/
  | push (handle : Handle) (payload : Payload)
  /-- Its maker lets go of the handle. -/
  | close (handle : Handle)
  /-- The dispatcher applies a request. A handle that is to be registered goes with it. -/
  | apply (request : Request)
  /-- The writer takes what its outbox holds for it. -/
  | receive (connection : ConnectionId)
  /-- The writer goes. -/
  | abandon (connection : ConnectionId)
deriving DecidableEq

/-- The state after an operation. A push that fails changes nothing. -/
def State.perform (policies : Policies) (state : State) : Operation → State
  | .connect handle capacity => state.addOutbox handle.connection (.create handle.user capacity)
  | .push handle payload =>
    match state.push handle.connection payload with
    | .ok pushed => pushed
    | .error _ => state
  | .close handle => state.release handle.connection
  | .apply request => (state.apply policies request).1
  | .receive connection => state.changeOutbox connection fun outbox => outbox.receive.2
  | .abandon connection => state.changeOutbox connection Outbox.abandon

/-- The state after operations that begin with an empty hub. -/
def State.after (policies : Policies) (run : List Operation) : State :=
  run.foldl (State.perform policies) {}

/-- Operations from a state on, each with the state that it finds. -/
def trailFrom (policies : Policies) : State → List Operation → List (State × Operation)
  | _, [] => []
  | state, operation :: rest =>
    (state, operation) :: trailFrom policies (state.perform policies operation) rest

/-- The operations of a run, each with the state that it finds. -/
def trail (policies : Policies) (run : List Operation) : List (State × Operation) :=
  trailFrom policies {} run

/-- The handle that an operation makes. -/
def Operation.made? : Operation → Option Handle
  | .connect handle _ => some handle
  | _ => none

/-- The handle that an operation takes from its maker. -/
def Operation.spent? : Operation → Option Handle
  | .close handle => some handle
  | .apply (.register handle) => some handle
  | _ => none

/-- The request that an operation applies. -/
def Operation.request? : Operation → Option Request
  | .apply request => some request
  | _ => none

/-- An operation that has a request applies it. -/
theorem Operation.request?_eq_some {operation : Operation} {request : Request} :
    operation.request? = some request ↔ operation = .apply request := by
  cases operation <;> simp [Operation.request?]

/-- The requests that have been applied. -/
theorem mem_filterMap_request? {past : List Operation} {request : Request} :
    request ∈ past.filterMap Operation.request? ↔ .apply request ∈ past := by
  simp [List.mem_filterMap, Operation.request?_eq_some]

/-- A request more is applied behind the others. -/
theorem filterMap_request?_append (past : List Operation) (request : Option Request) :
    (past ++ request.toList.map Operation.apply).filterMap Operation.request? =
      past.filterMap Operation.request? ++ request.toList := by
  rw [List.filterMap_append]
  cases request <;> rfl

/-- The handles that have been made. -/
def made (past : List Operation) : List Handle := past.filterMap Operation.made?

/-- The handles that their makers no longer have. -/
def spent (past : List Operation) : List Handle := past.filterMap Operation.spent?

/-- A handle that its maker has. -/
def InHand (past : List Operation) (handle : Handle) : Prop :=
  handle ∈ made past ∧ handle ∉ spent past

/-- An operation that can follow others. -/
def Operation.Follows (past : List Operation) : Operation → Prop
  | .connect handle _ => ∀ earlier ∈ made past, earlier.connection ≠ handle.connection
  | .push handle _ => InHand past handle
  | .close handle => InHand past handle
  | .apply (.register handle) => InHand past handle
  | .apply (.unregister _ _) => True
  | .apply (.fanout _) => True
  | .receive connection => connection ∈ (made past).map Handle.connection ∧ .abandon connection ∉ past
  | .abandon connection => connection ∈ (made past).map Handle.connection ∧ .abandon connection ∉ past

/-- A run that can happen. -/
inductive Lawful : List Operation → Prop where
  | start : Lawful []
  | step {past : List Operation} {operation : Operation} :
      Lawful past → operation.Follows past → Lawful (past ++ [operation])

instance (past : List Operation) (handle : Handle) : Decidable (InHand past handle) :=
  inferInstanceAs (Decidable (_ ∧ _))

instance (past : List Operation) (operation : Operation) : Decidable (operation.Follows past) :=
  match operation with
  | .connect handle _ =>
    inferInstanceAs (Decidable (∀ earlier ∈ made past, earlier.connection ≠ handle.connection))
  | .push handle _ | .close handle | .apply (.register handle) =>
    inferInstanceAs (Decidable (InHand past handle))
  | .apply (.unregister _ _) | .apply (.fanout _) => inferInstanceAs (Decidable True)
  | .receive connection | .abandon connection =>
    inferInstanceAs (Decidable (connection ∈ (made past).map Handle.connection ∧
      .abandon connection ∉ past))

/-! ## States and trails along a run -/

@[simp] theorem after_nil (policies : Policies) : State.after policies [] = {} := rfl

/-- A run goes on by one operation. -/
@[simp] theorem after_concat (policies : Policies) (past : List Operation) (operation : Operation) :
    State.after policies (past ++ [operation]) =
      (State.after policies past).perform policies operation := by
  simp [State.after]

/-- A run goes on by several. -/
theorem after_append (policies : Policies) (first second : List Operation) :
    State.after policies (first ++ second) =
      second.foldl (State.perform policies) (State.after policies first) :=
  List.foldl_append

/-- The trail of a run goes on where the run does. -/
theorem trailFrom_append (policies : Policies) (state : State) (first second : List Operation) :
    trailFrom policies state (first ++ second) =
      trailFrom policies state first ++
        trailFrom policies (first.foldl (State.perform policies) state) second := by
  induction first generalizing state with
  | nil => rfl
  | cons operation rest ih => simp [trailFrom, ih]

/-- The same from an empty hub on. -/
theorem trail_append (policies : Policies) (first second : List Operation) :
    trail policies (first ++ second) =
      trail policies first ++ trailFrom policies (State.after policies first) second :=
  trailFrom_append policies {} first second

/-- A further operation finds the state that the run has led to. -/
@[simp] theorem trail_concat (policies : Policies) (past : List Operation)
    (operation : Operation) :
    trail policies (past ++ [operation]) =
      trail policies past ++ [(State.after policies past, operation)] :=
  trail_append policies past [operation]

/-- The operations of a trail are those of the run. -/
theorem map_snd_trailFrom (policies : Policies) (state : State) (operations : List Operation) :
    (trailFrom policies state operations).map Prod.snd = operations := by
  induction operations generalizing state with
  | nil => rfl
  | cons operation rest ih => rw [trailFrom, List.map_cons, ih]

/-- Each operation finds the state that those before it have led to. -/
theorem exists_of_mem_trailFrom {policies : Policies} {past operations : List Operation}
    {entry : State × Operation}
    (member : entry ∈ trailFrom policies (State.after policies past) operations) :
    ∃ first operation last, operations = first ++ operation :: last ∧
      entry = (State.after policies (past ++ first), operation) := by
  induction operations generalizing past with
  | nil => cases member
  | cons operation rest ih =>
    rw [trailFrom, ← after_concat] at member
    rcases List.mem_cons.mp member with rfl | later
    · exact ⟨[], operation, rest, rfl, by rw [List.append_nil]⟩
    · obtain ⟨first, another, last, rfl, rfl⟩ := ih later
      exact ⟨operation :: first, another, last, rfl, by simp⟩

/-- A run is lawful if each operation can follow those before it. -/
theorem lawful_of_follows {run : List Operation}
    (each : ∀ index : Fin run.length, run[index].Follows (run.take index)) : Lawful run := by
  have prefixes (count : Nat) (bounded : count ≤ run.length) : Lawful (run.take count) := by
    induction count with
    | zero => exact .start
    | succ count ih =>
      rw [List.take_succ_eq_append_getElem bounded]
      exact .step (ih (Nat.le_of_lt bounded)) (each ⟨count, bounded⟩)
  rw [← List.take_length (l := run)]
  exact prefixes run.length (Nat.le_refl _)

/-! ## Who has a handle -/

/-- What has been made stays made. -/
theorem mem_made_append {past : List Operation} {handle : Handle} (later : List Operation)
    (isMade : handle ∈ made past) : handle ∈ made (past ++ later) := by
  rw [made, List.filterMap_append]
  exact List.mem_append_left _ isMade

/-- What has been spent stays spent. -/
theorem mem_spent_append {past : List Operation} {handle : Handle} (later : List Operation)
    (given : handle ∈ spent past) : handle ∈ spent (past ++ later) := by
  rw [spent, List.filterMap_append]
  exact List.mem_append_left _ given

/-- An operation makes at most one handle more. -/
@[simp] theorem made_concat (past : List Operation) (operation : Operation) :
    made (past ++ [operation]) = made past ++ operation.made?.toList := by
  cases operation <;> simp [made, Operation.made?]

/-- It spends at most one handle more. -/
@[simp] theorem spent_concat (past : List Operation) (operation : Operation) :
    spent (past ++ [operation]) = spent past ++ operation.spent?.toList := by
  cases operation with
  | apply request => cases request <;> simp [spent, Operation.spent?]
  | _ => simp [spent, Operation.spent?]

/-- A handle is spent by being closed or registered. -/
theorem mem_spent_iff {past : List Operation} {handle : Handle} :
    handle ∈ spent past ↔
      Operation.close handle ∈ past ∨ Operation.apply (.register handle) ∈ past := by
  constructor
  · intro gone
    obtain ⟨operation, member, spends⟩ := List.mem_filterMap.mp gone
    cases operation with
    | close other => exact .inl (Option.some.inj spends ▸ member)
    | apply request =>
      cases request with
      | register other => exact .inr (Option.some.inj spends ▸ member)
      | _ => cases spends
    | _ => cases spends
  · rintro (closed | registered)
    · exact List.mem_filterMap.mpr ⟨_, closed, rfl⟩
    · exact List.mem_filterMap.mpr ⟨_, registered, rfl⟩

/-- A handle that is to be registered is spent. -/
theorem mem_spent_of_register {past : List Operation} {handle : Handle}
    (registered : Operation.apply (.register handle) ∈ past) : handle ∈ spent past :=
  mem_spent_iff.mpr (.inr registered)

namespace Lawful

/-- Everything that happens before something in a lawful run is lawful. -/
theorem of_append {first second : List Operation} (lawful : Lawful (first ++ second)) :
    Lawful first := by
  generalize equal : first ++ second = run at lawful
  induction lawful generalizing second with
  | start => rw [(List.append_eq_nil_iff.mp equal).1]; exact .start
  | step past follows ih =>
    rcases List.eq_nil_or_concat second with rfl | ⟨rest, last, rfl⟩
    · rw [List.append_nil] at equal
      exact equal ▸ .step past follows
    · rw [List.concat_eq_append, ← List.append_assoc] at equal
      exact ih (List.append_inj' equal rfl).1

/-- A lawful run is lawful up to each of its operations. -/
theorem of_append_cons {before later : List Operation} {operation : Operation}
    (lawful : Lawful (before ++ operation :: later)) : Lawful (before ++ [operation]) := by
  have split : before ++ operation :: later = (before ++ [operation]) ++ later := by simp
  rw [split] at lawful
  exact lawful.of_append

/-- What happens in a lawful run can follow what has happened before. -/
theorem follows {before later : List Operation} {operation : Operation}
    (lawful : Lawful (before ++ operation :: later)) : operation.Follows before := by
  have prior := lawful.of_append_cons
  generalize equal : before ++ [operation] = run at prior
  cases prior with
  | start => simp at equal
  | step past follows =>
    obtain ⟨rfl, same⟩ := List.append_inj' equal rfl
    exact (List.singleton_inj.mp same) ▸ follows

/-- Two handles of one connection are the same. -/
theorem made_unique {run : List Operation} (lawful : Lawful run) {first second : Handle}
    (firstMade : first ∈ made run) (secondMade : second ∈ made run)
    (same : first.connection = second.connection) : first = second := by
  induction lawful with
  | start => simp [made] at firstMade
  | @step past operation _ follows ih =>
    rw [made_concat, List.mem_append] at firstMade secondMade
    cases operation with
    | connect handle capacity =>
      simp only [Operation.made?, Option.toList_some, List.mem_singleton] at firstMade secondMade
      rcases firstMade with firstMade | rfl <;> rcases secondMade with secondMade | rfl
      · exact ih firstMade secondMade
      · exact absurd same (follows _ firstMade)
      · exact absurd same.symm (follows _ secondMade)
      · rfl
    | _ =>
      simp only [Operation.made?, Option.toList_none, List.not_mem_nil, or_false] at firstMade secondMade
      exact ih firstMade secondMade

/-- A handle that is spent has been made. -/
theorem made_of_spent {run : List Operation} (lawful : Lawful run) {handle : Handle}
    (gone : handle ∈ spent run) : handle ∈ made run := by
  induction lawful with
  | start => simp [spent] at gone
  | @step past operation _ follows ih =>
    rw [spent_concat, List.mem_append] at gone
    rw [made_concat, List.mem_append]
    left
    rcases gone with gone | now
    · exact ih gone
    · cases operation with
      | close other =>
        obtain rfl : handle = other := by simpa [Operation.spent?] using now
        exact follows.1
      | apply request =>
        cases request with
        | register other =>
          obtain rfl : handle = other := by simpa [Operation.spent?] using now
          exact follows.1
        | _ => simp [Operation.spent?] at now
      | _ => simp [Operation.spent?] at now

/-- A handle that its maker has is not that of a connection whose handle is spent. -/
theorem connection_ne_of_spent {run : List Operation} (lawful : Lawful run)
    {handle other : Handle} (inHand : InHand run handle) (gone : other ∈ spent run) :
    other.connection ≠ handle.connection := by
  intro same
  have equal := lawful.made_unique (lawful.made_of_spent gone) inHand.1 same
  rw [equal] at gone
  exact inHand.2 gone

/-- A writer that has gone is that of a connection that has been made. -/
theorem made_of_abandon {run : List Operation} (lawful : Lawful run) {connection : ConnectionId}
    (gone : Operation.abandon connection ∈ run) :
    connection ∈ (made run).map Handle.connection := by
  obtain ⟨before, later, rfl⟩ := List.append_of_mem gone
  obtain ⟨handle, isMade, same⟩ := List.mem_map.mp lawful.follows.1
  exact List.mem_map.mpr ⟨handle, mem_made_append _ isMade, same⟩

end Lawful

end Switchboard.Hub
