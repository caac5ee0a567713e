import Mathlib.Data.List.Induction
import Switchboard.Proofs.Hub.Run

/-!
# What concerns a user

Of the operations of a run, those that concern a user are the ones on the handles and outboxes of
the user's connections, the requests to register or unregister a connection as the user's, and the
fan-outs to the user, with the user as the only recipient. Taken by themselves they are a run that
can happen (`lawful_concerns`).
-/

namespace Switchboard.Hub

/-- The request for one user alone. -/
def FanoutRequest.only (request : FanoutRequest) (user : UserId) : FanoutRequest :=
  { request with recipients := [user], nodup := List.pairwise_singleton _ user }

/-- An operation concerns a user, where `handles` tells whose the connections are. -/
def Operation.Concerns (handles : List Handle) (user : UserId) : Operation → Prop
  | .connect handle _ | .push handle _ | .close handle => handle.user = user
  | .apply (.register handle) => handle.user = user
  | .apply (.unregister other _) => other = user
  | .apply (.fanout request) => user ∈ request.recipients
  | .receive connection | .abandon connection => ⟨connection, user⟩ ∈ handles

/-- The operation without the other recipients. -/
def Operation.onlyFor (user : UserId) : Operation → Operation
  | .apply (.fanout request) => .apply (.fanout (request.only user))
  | operation => operation

instance (handles : List Handle) (user : UserId) (operation : Operation) :
    Decidable (operation.Concerns handles user) :=
  match operation with
  | .connect handle _ | .push handle _ | .close handle | .apply (.register handle) =>
    inferInstanceAs (Decidable (handle.user = user))
  | .apply (.unregister other _) => inferInstanceAs (Decidable (other = user))
  | .apply (.fanout request) => inferInstanceAs (Decidable (user ∈ request.recipients))
  | .receive connection | .abandon connection =>
    inferInstanceAs (Decidable (⟨connection, user⟩ ∈ handles))

/-- What concerns a user of the operations of a run. -/
def concerns (handles : List Handle) (user : UserId) (run : List Operation) : List Operation :=
  (run.filter fun operation => operation.Concerns handles user).map (Operation.onlyFor user)

variable {handles : List Handle} {user : UserId} {past run : List Operation}

/-- An operation that concerns the user stays, but for what it does to others. -/
theorem concerns_concat_of_concerns {operation : Operation}
    (about : operation.Concerns handles user) :
    concerns handles user (run ++ [operation]) =
      concerns handles user run ++ [operation.onlyFor user] := by
  simp [concerns, about]

/-- One that does not is left out. -/
theorem concerns_concat_of_not {operation : Operation}
    (foreign : ¬ operation.Concerns handles user) :
    concerns handles user (run ++ [operation]) = concerns handles user run := by
  simp [concerns, foreign]

/-! ## The user's handles -/

/-- What concerns a user makes the handles of that user. -/
theorem made_concerns (run : List Operation) :
    made (concerns handles user run) = (made run).filter fun handle => handle.user = user := by
  induction run using List.reverseRecOn with
  | nil => rfl
  | append_singleton before operation ih =>
    rw [made_concat, List.filter_append, ← ih]
    by_cases about : operation.Concerns handles user
    · rw [concerns_concat_of_concerns about, made_concat]
      cases operation with
      | connect handle capacity =>
        have own : handle.user = user := about
        simp [Operation.onlyFor, Operation.made?, own]
      | apply request => cases request <;> rfl
      | _ => rfl
    · rw [concerns_concat_of_not about]
      cases operation with
      | connect handle capacity =>
        have foreign : handle.user ≠ user := about
        simp [Operation.made?, foreign]
      | _ => simp [Operation.made?]

/-- What concerns a user spends the handles of that user. -/
theorem spent_concerns (run : List Operation) :
    spent (concerns handles user run) = (spent run).filter fun handle => handle.user = user := by
  induction run using List.reverseRecOn with
  | nil => rfl
  | append_singleton before operation ih =>
    rw [spent_concat, List.filter_append, ← ih]
    have kept {handle : Handle} (spends : operation.spent? = some handle) :
        operation.Concerns handles user ↔ handle.user = user := by
      cases operation with
      | close other => rw [← Option.some.inj spends]; rfl
      | apply request =>
        cases request with
        | register other => rw [← Option.some.inj spends]; rfl
        | _ => cases spends
      | _ => cases spends
    have same : (operation.onlyFor user).spent? = operation.spent? := by
      cases operation with
      | apply request => cases request <;> rfl
      | _ => rfl
    by_cases about : operation.Concerns handles user
    · rw [concerns_concat_of_concerns about, spent_concat, same]
      cases spends : operation.spent? with
      | none => rfl
      | some handle => simp [(kept spends).mp about]
    · rw [concerns_concat_of_not about]
      cases spends : operation.spent? with
      | none => simp
      | some handle => simp [mt (kept spends).mpr about]

/-- The handles made in it are those made before and the user's own. -/
theorem mem_made_concerns {handle : Handle} :
    handle ∈ made (past ++ concerns handles user run) ↔
      handle ∈ made past ∨ handle ∈ made run ∧ handle.user = user := by
  rw [made, List.filterMap_append, List.mem_append, ← made, ← made, made_concerns, List.mem_filter,
    decide_eq_true_eq]

/-- So it is with the handles spent. -/
theorem mem_spent_concerns {handle : Handle} :
    handle ∈ spent (past ++ concerns handles user run) ↔
      handle ∈ spent past ∨ handle ∈ spent run ∧ handle.user = user := by
  rw [spent, List.filterMap_append, List.mem_append, ← spent, ← spent, spent_concerns,
    List.mem_filter, decide_eq_true_eq]

/-- Nothing is made that was not made before. -/
theorem mem_made_of_concerns {handle : Handle}
    (isMade : handle ∈ made (past ++ concerns handles user run)) : handle ∈ made (past ++ run) := by
  rw [made, List.filterMap_append, List.mem_append]
  exact (mem_made_concerns.mp isMade).imp_right And.left

/-- A handle of the user stays in its maker's hand. -/
theorem inHand_concerns {handle : Handle} (own : handle.user = user)
    (inHand : InHand (past ++ run) handle) : InHand (past ++ concerns handles user run) handle := by
  obtain ⟨isMade, unspent⟩ := inHand
  rw [made, List.filterMap_append, List.mem_append] at isMade
  rw [spent, List.filterMap_append, List.mem_append] at unspent
  refine ⟨mem_made_concerns.mpr (isMade.imp_right fun later => ⟨later, own⟩), fun gone => ?_⟩
  exact unspent ((mem_spent_concerns.mp gone).imp_right And.left)

/-- What concerns a user ends no other writers. -/
theorem mem_of_abandon_mem_concerns {connection : ConnectionId}
    (ends : .abandon connection ∈ concerns handles user run) : .abandon connection ∈ run := by
  obtain ⟨operation, member, reduced⟩ := List.mem_map.mp ends
  have same : operation = .abandon connection := by
    cases operation with
    | apply request => cases request <;> cases reduced
    | _ => exact reduced
  exact same ▸ (List.mem_filter.mp member).1

/-- The writer of one of the user's connections is there if only what concerns the user happens. -/
theorem attends_concerns {connection : ConnectionId}
    (unique : ∀ handle ∈ made (past ++ run), handle.connection = connection →
      handle = ⟨connection, user⟩)
    (isMade : connection ∈ (made (past ++ run)).map Handle.connection)
    (stays : .abandon connection ∉ past ++ run) :
    connection ∈ (made (past ++ concerns handles user run)).map Handle.connection ∧
      .abandon connection ∉ past ++ concerns handles user run := by
  constructor
  · obtain ⟨handle, member, same⟩ := List.mem_map.mp isMade
    obtain rfl := unique handle member same
    rw [made, List.filterMap_append, List.mem_append] at member
    have kept := member.imp_right fun later => And.intro later (Eq.refl user)
    exact List.mem_map.mpr ⟨_, mem_made_concerns.mpr kept, rfl⟩
  · intro gone
    rcases List.mem_append.mp gone with earlier | later
    · exact stays (List.mem_append_left _ earlier)
    · exact stays (List.mem_append_right _ (mem_of_abandon_mem_concerns later))

/-! ## The user's run -/

/-- What concerns a user of an operation can follow what concerns the user of those before it. -/
theorem follows_onlyFor {operation : Operation}
    (unique : ∀ connection, ⟨connection, user⟩ ∈ handles → ∀ handle ∈ made (past ++ run),
      handle.connection = connection → handle = ⟨connection, user⟩)
    (about : operation.Concerns handles user) (follows : operation.Follows (past ++ run)) :
    (operation.onlyFor user).Follows (past ++ concerns handles user run) := by
  cases operation with
  | connect handle capacity =>
    exact fun earlier isMade => follows earlier (mem_made_of_concerns isMade)
  | push handle payload => exact inHand_concerns about follows
  | close handle => exact inHand_concerns about follows
  | apply request =>
    cases request with
    | register handle => exact inHand_concerns about follows
    | unregister other connection => trivial
    | fanout request => trivial
  | receive connection => exact attends_concerns (unique connection about) follows.1 follows.2
  | abandon connection => exact attends_concerns (unique connection about) follows.1 follows.2

/-- What concerns a user can happen by itself. -/
theorem lawful_concerns (lawful : Lawful (past ++ run)) (user : UserId) :
    Lawful (past ++ concerns (made (past ++ run)) user run) := by
  generalize known : made (past ++ run) = handles
  -- The run is followed from its start; `handles` stays that of all of it.
  suffices prefixes : ∀ first later, run = first ++ later →
      Lawful (past ++ concerns handles user first) from prefixes run [] (by simp)
  intro first
  induction first using List.reverseRecOn with
  | nil => intro later split; simpa [concerns] using lawful.of_append
  | append_singleton before operation ih =>
    intro later split
    rw [List.append_assoc] at split
    have earlier := ih _ split
    have whole : past ++ run = past ++ before ++ operation :: later := by simp [split]
    by_cases about : operation.Concerns handles user
    · rw [concerns_concat_of_concerns about, ← List.append_assoc]
      refine .step earlier (follows_onlyFor ?_ about (whole ▸ lawful).follows)
      intro connection isMade handle member same
      rw [← known] at isMade
      refine lawful.made_unique ?_ isMade same
      rw [whole]
      exact mem_made_append _ member
    · rwa [concerns_concat_of_not about]

end Switchboard.Hub
