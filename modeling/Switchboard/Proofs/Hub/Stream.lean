import Mathlib.Data.List.Basic
import Switchboard.Proofs.Hub.Flow

/-!
# What one connection receives

A connection that is admitted is registered for a while and then never again
(`exists_tenure`). What its writer has received, followed by what waits for it, is what was pushed
before its registration and then the payloads of the fan-outs to its user that were applied while it
was registered and found room; under the evicting policy that is all of them
(`stream_of_admitted`).
-/

namespace Switchboard.Hub

variable {policies : Policies} {handle : Handle}

/-- The payload of a request for a user. -/
def Operation.payloadFor? (user : UserId) : Operation → Option Payload
  | .apply (.fanout request) => if user ∈ request.recipients then some request.payload else none
  | _ => none

/-- The payload of a request for a user, if fewer than `room` payloads are buffered for one of the
user's connections. -/
def fitting (handle : Handle) (room : Nat) (entry : State × Operation) : Option Payload :=
  if (entry.1.buffered handle.connection).length < room then entry.2.payloadFor? handle.user
  else none

/-- What a writer has not received: what is still buffered, or was buffered when it went. -/
def unreceived (policies : Policies) (run : List Operation) (connection : ConnectionId) :
    List Payload :=
  if .abandon connection ∈ run then lost policies run connection
  else (State.after policies run).buffered connection

/-- After operations, a connection is registered throughout others, and no more as soon as anything
of the rest has happened. -/
structure Tenure (policies : Policies) (handle : Handle) (past during rest : List Operation) :
    Prop where
  registered : ∀ first, first <+: during → (State.after policies (past ++ first)).Registers handle
  gone : ∀ first, first <+: rest → first ≠ [] →
    ¬ (State.after policies (past ++ during ++ first)).Registers handle

/-! ## How long a connection is registered -/

/-- A registered connection stays for a while and does not come back after that. -/
theorem exists_tenure {past later : List Operation} (lawful : Lawful (past ++ later))
    (given : handle ∈ spent past) (registers : (State.after policies past).Registers handle) :
    ∃ during rest, later = during ++ rest ∧ Tenure policies handle past during rest := by
  -- The run is followed from its end: `rest` stays empty until the connection has gone.
  induction later using List.reverseRecOn with
  | nil =>
    refine ⟨[], [], rfl, fun first isPrefix => ?_, fun first isPrefix nonempty => ?_⟩
    · rwa [List.prefix_nil.mp isPrefix, List.append_nil]
    · exact absurd (List.prefix_nil.mp isPrefix) nonempty
  | append_singleton before operation ih =>
    rw [← List.append_assoc] at lawful
    obtain ⟨during, rest, rfl, tenure⟩ := ih lawful.of_append
    by_cases left : rest = []
    · subst left
      by_cases stays : (State.after policies (past ++ (during ++ [operation]))).Registers handle
      · refine ⟨during ++ [operation], [], by simp, fun first isPrefix => ?_,
          fun first isPrefix nonempty => ?_⟩
        · rcases List.prefix_concat_iff.mp isPrefix with rfl | earlier
          · exact stays
          · exact tenure.registered first earlier
        · exact absurd (List.prefix_nil.mp isPrefix) nonempty
      · refine ⟨during, [operation], by simp, tenure.registered,
          fun first isPrefix nonempty => ?_⟩
        have isPrefix : first <+: [] ++ [operation] := isPrefix
        rcases List.prefix_concat_iff.mp isPrefix with rfl | earlier
        · rw [List.append_assoc]
          exact stays
        · exact absurd (List.prefix_nil.mp earlier) nonempty
    · refine ⟨during, rest ++ [operation], by simp, tenure.registered,
        fun first isPrefix nonempty => ?_⟩
      rcases List.prefix_concat_iff.mp isPrefix with rfl | earlier
      · have absent := tenure.gone rest (List.prefix_refl rest) left
        have spentBefore := mem_spent_append rest (mem_spent_append during given)
        rw [← List.append_assoc]
        refine never_returns ?_ spentBefore absent
        simpa [List.append_assoc] using lawful
      · exact tenure.gone first earlier nonempty

/-! ## Single operations -/

variable {past : List Operation} {operation : Operation}

/-- A fan-out puts nothing into an outbox whose connection is not registered. -/
theorem fanned_eq_nil_of_not_registers {entry : State × Operation}
    (absent : ¬ entry.1.Registers handle) : fanned handle entry = [] := by
  obtain ⟨state, operation⟩ := entry
  cases operation with
  | apply request =>
    cases request with
    | fanout request => exact if_neg fun all => absent all.2.1
    | _ => rfl
  | _ => rfl

/-- The request that removes a connection puts nothing into its outbox. -/
theorem fanned_eq_nil_of_leaves (lawful : Lawful (past ++ [operation]))
    (isMade : handle ∈ made past)
    (gone : ¬ (State.after policies (past ++ [operation])).Registers handle) :
    fanned handle (State.after policies past, operation) = [] := by
  rw [after_concat] at gone
  have sound := sound_after policies lawful.of_append
  have sole := lawful.of_append.sole isMade
  cases operation with
  | apply request =>
    cases request with
    | fanout request =>
      refine if_neg fun ⟨named, registers, accepts⟩ => ?_
      have reached := reached_fanOut sound lawful.of_append sole policies.overflow request
      simp only [State.perform, State.apply] at gone
      cases reached with
      | aside absent outbox same => exact gone (same.mpr registers)
      | queued named registers found attended room appended kept => exact gone kept
      | dropped named registers found attended full chosen same kept => exact gone kept
      | removed named registers found refused released left =>
        rw [State.accepts_eq_false found refused] at accepts
        cases accepts
    | _ => rfl
  | _ => rfl

/-- A fan-out that leaves a connection registered puts its payload into the outbox exactly if there
is room, and under the evicting policy there is. -/
theorem fanned_eq_fitting (lawful : Lawful (past ++ [operation])) {capacity : Nat}
    (connected : .connect handle capacity ∈ past)
    (registers : (State.after policies past).Registers handle)
    (kept : (State.after policies (past ++ [operation])).Registers handle) :
    fanned handle (State.after policies past, operation) =
        (fitting handle (max 1 capacity) (State.after policies past, operation)).toList ∧
      (policies.overflow = .evict →
        fitting handle (max 1 capacity) (State.after policies past, operation) =
          operation.payloadFor? handle.user) := by
  rw [after_concat] at kept
  have sound := sound_after policies lawful.of_append
  have isMade : handle ∈ made past := List.mem_filterMap.mpr ⟨_, connected, rfl⟩
  have sole := lawful.of_append.sole isMade
  cases operation with
  | apply request =>
    cases request with
    | fanout request =>
      have reached := reached_fanOut sound lawful.of_append sole policies.overflow request
      simp only [State.perform, State.apply] at kept
      have roomy {outbox : Outbox}
          (found : (State.after policies past).outboxes[handle.connection]? = some outbox) :
          outbox.capacity = max 1 capacity := by
        have owned := sound.owner_eq lawful.of_append isMade found
        have suits := sound.suits found
        exact suits.capacity_eq (by rw [owned]; exact connected)
      cases reached with
      | aside absent outbox same =>
        have unnamed : handle.user ∉ request.recipients :=
          absent.resolve_right fun other => other registers
        simp [fanned, fitting, Operation.payloadFor?, unnamed]
      | queued named registers found attended room appended kept =>
        have accepts := State.accepts_of_room found attended room
        have fits : (State.after policies past).buffered handle.connection = _ :=
          State.buffered_of_found found
        rw [roomy found] at room
        simp [fanned, fitting, Operation.payloadFor?, named, registers, accepts, fits, room]
      | dropped named registers found attended full chosen same kept =>
        have refuses := State.accepts_eq_false found (.inr full)
        have fits : (State.after policies past).buffered handle.connection = _ :=
          State.buffered_of_found found
        rw [roomy found, ← Nat.not_lt] at full
        simp [fanned, fitting, refuses, fits, full, chosen]
      | removed named registers found refused released gone => exact absurd kept gone
    | _ => simp [fanned, fitting, Operation.payloadFor?]
  | _ => simp [fanned, fitting, Operation.payloadFor?]

/-- Nobody pushes to a handle that its maker no longer has. -/
theorem pushed_eq_nil_of_spent {state : State} {operation : Operation}
    (lawful : Lawful (past ++ [operation])) (given : handle ∈ spent past) :
    pushed handle (state, operation) = [] := by
  cases operation with
  | push another payload =>
    refine if_neg fun same => ?_
    subst same
    have inHand : InHand past another := lawful.follows
    exact inHand.2 given
  | _ => rfl

/-! ## Parts of a run -/

/-- Before its registration, a fan-out puts nothing into a connection's outbox. -/
theorem fanned_before (policies : Policies) {before : List Operation} (lawful : Lawful before)
    (unspent : handle ∉ spent before) {entry : State × Operation}
    (member : entry ∈ trail policies before) : fanned handle entry = [] := by
  rw [trail, ← after_nil policies] at member
  obtain ⟨first, operation, last, rfl, rfl⟩ := exists_of_mem_trailFrom member
  have absent : Operation.apply (.register handle) ∉ first := fun given =>
    unspent (mem_spent_append _ (mem_spent_of_register given))
  exact fanned_eq_nil_of_not_registers (not_registers_of_not_mem lawful.of_append absent)

/-- Before its registration, only its maker puts payloads into a connection's outbox. -/
theorem queued_before (policies : Policies) {before : List Operation} (lawful : Lawful before)
    (unspent : handle ∉ spent before) :
    (trail policies before).flatMap (fun entry => pushed handle entry ++ fanned handle entry) =
      (trail policies before).flatMap (pushed handle) := by
  refine List.flatMap_congr fun entry member => ?_
  rw [fanned_before policies lawful unspent member, List.append_nil]

/-- While it is registered, the fan-outs that find room put payloads into a connection's outbox. -/
theorem queued_during {during rest : List Operation} (lawful : Lawful (past ++ (during ++ rest)))
    {capacity : Nat} (connected : .connect handle capacity ∈ past) (given : handle ∈ spent past)
    (tenure : Tenure policies handle past during rest) :
    (trailFrom policies (State.after policies past) during).flatMap
          (fun entry => pushed handle entry ++ fanned handle entry) =
        (trailFrom policies (State.after policies past) during).filterMap
          (fitting handle (max 1 capacity)) ∧
      (policies.overflow = .evict →
        (trailFrom policies (State.after policies past) during).filterMap
            (fitting handle (max 1 capacity)) =
          during.filterMap (Operation.payloadFor? handle.user)) := by
  have single (entry : State × Operation)
      (member : entry ∈ trailFrom policies (State.after policies past) during) :
      pushed handle entry ++ fanned handle entry =
          (fitting handle (max 1 capacity) entry).toList ∧
        (policies.overflow = .evict →
          fitting handle (max 1 capacity) entry = entry.2.payloadFor? handle.user) := by
    obtain ⟨first, operation, last, rfl, rfl⟩ := exists_of_mem_trailFrom member
    have split : past ++ (first ++ operation :: last ++ rest) =
        past ++ first ++ operation :: (last ++ rest) := by simp
    rw [split] at lawful
    rw [pushed_eq_nil_of_spent lawful.of_append_cons (mem_spent_append first given),
      List.nil_append]
    refine fanned_eq_fitting lawful.of_append_cons (List.mem_append_left _ connected) ?_ ?_
    · exact tenure.registered first (List.prefix_append first _)
    · rw [List.append_assoc]
      exact tenure.registered (first ++ [operation]) ⟨last, by simp⟩
  constructor
  · rw [List.filterMap_eq_flatMap_toList]
    exact List.flatMap_congr fun entry member => (single entry member).1
  · intro evicts
    conv_rhs => rw [← map_snd_trailFrom policies (State.after policies past) during]
    rw [List.filterMap_map]
    exact List.filterMap_congr fun entry member => (single entry member).2 evicts

/-- Once it has left, and in leaving, nothing is put into a connection's outbox. -/
theorem queued_rest {during rest : List Operation} (lawful : Lawful (past ++ (during ++ rest)))
    (isMade : handle ∈ made past) (given : handle ∈ spent past)
    (tenure : Tenure policies handle past during rest) :
    (trailFrom policies (State.after policies (past ++ during)) rest).flatMap
        (fun entry => pushed handle entry ++ fanned handle entry) = [] := by
  rw [List.flatMap_eq_nil_iff]
  intro entry member
  obtain ⟨first, operation, last, rfl, rfl⟩ := exists_of_mem_trailFrom member
  have split : past ++ (during ++ (first ++ operation :: last)) =
      past ++ during ++ first ++ operation :: last := by simp
  rw [split] at lawful
  have spentNow := mem_spent_append first (mem_spent_append during given)
  rw [pushed_eq_nil_of_spent lawful.of_append_cons spentNow, List.nil_append]
  refine fanned_eq_nil_of_leaves lawful.of_append_cons ?_ ?_
  · exact mem_made_append first (mem_made_append during isMade)
  · rw [List.append_assoc]
    exact tenure.gone (first ++ [operation]) ⟨last, by simp⟩ (by simp)

/-! ## The stream -/

/-- What fits is some of what was meant for the user, in order. -/
theorem filterMap_fitting_sublist (handle : Handle) (room : Nat) (state : State)
    (operations : List Operation) :
    ((trailFrom policies state operations).filterMap (fitting handle room)).Sublist
      (operations.filterMap (Operation.payloadFor? handle.user)) := by
  have selected := (List.filter_sublist (l := trailFrom policies state operations)
    (p := fun entry => (entry.1.buffered handle.connection).length < room)).filterMap
      fun entry => entry.2.payloadFor? handle.user
  simp only [List.filterMap_filter, decide_eq_true_eq] at selected
  conv_rhs => rw [← map_snd_trailFrom policies state operations]
  rw [List.filterMap_map]
  exact selected

/-- What was lost with the writer and what is still buffered: at most one of the two is something. -/
theorem lost_append_buffered {run : List Operation} (lawful : Lawful run)
    (connection : ConnectionId) :
    lost policies run connection ++ (State.after policies run).buffered connection =
      unreceived policies run connection := by
  rw [unreceived]
  by_cases ends : .abandon connection ∈ run
  · have empty : (State.after policies run).buffered connection = [] := by
      cases found : (State.after policies run).outboxes[connection]? with
      | none => simp [State.buffered, found]
      | some outbox =>
        have suits := (sound_after policies lawful).suits found
        rw [State.buffered_of_found found]
        refine suits.unattended (Bool.eq_false_iff.mpr fun attended => ?_)
        exact suits.attended_iff.mp attended ends
    rw [if_pos ends, empty, List.append_nil]
  · rw [if_neg ends, lost_eq_nil policies ends, List.nil_append]

/-- No more payloads are ever buffered than the connection is made with room for. -/
theorem length_buffered_le {first rest : List Operation} (lawful : Lawful (first ++ rest))
    {capacity : Nat} (connected : .connect handle capacity ∈ first ++ rest) :
    ((State.after policies first).buffered handle.connection).length ≤ max 1 capacity := by
  cases found : (State.after policies first).outboxes[handle.connection]? with
  | none => simp [State.buffered, found]
  | some outbox =>
    have suits := (sound_after policies lawful.of_append).suits found
    have isMade : handle ∈ made (first ++ rest) := List.mem_filterMap.mpr ⟨_, connected, rfl⟩
    have same := lawful.sole isMade _ (mem_made_append rest suits.made) rfl
    -- The outbox here and the one at the end of the run are made by the same operation.
    obtain ⟨another, isMember, makes⟩ := List.mem_filterMap.mp suits.made
    cases another with
    | connect other room =>
      obtain rfl : other = _ := Option.some.inj makes
      have roomHere := suits.capacity_eq isMember
      obtain ⟨last, present, owned⟩ := (sound_after policies lawful).outbox_of_made isMade
      have suitsLast := (sound_after policies lawful).suits present
      rw [same] at isMember
      have roomThen : last.capacity = max 1 room :=
        suitsLast.capacity_eq (by rw [owned]; exact List.mem_append_left _ isMember)
      have roomLast : last.capacity = max 1 capacity :=
        suitsLast.capacity_eq (by rw [owned]; exact connected)
      rw [State.buffered_of_found found, ← roomLast, roomThen, ← roomHere]
      exact suits.fits
    | _ => simp [Operation.made?] at makes

/-- What the writer of an admitted connection has received, followed by what it has not, is what was
pushed before the registration and then the payloads of those fan-outs to its user that were applied
while it was registered and that found room. Under the evicting policy that is all of them. -/
theorem stream_of_admitted {before later : List Operation} {capacity : Nat}
    (lawful : Lawful (before ++ .apply (.register handle) :: later))
    (connected : .connect handle capacity ∈ before)
    (admitted : (State.after policies (before ++ [.apply (.register handle)])).Registers handle) :
    ∃ during rest delivered,
      later = during ++ rest ∧
      Tenure policies handle (before ++ [.apply (.register handle)]) during rest ∧
      received policies (before ++ .apply (.register handle) :: later) handle.connection ++
          unreceived policies (before ++ .apply (.register handle) :: later) handle.connection =
        (trail policies before).flatMap (pushed handle) ++ delivered ∧
      delivered.Sublist (during.filterMap (Operation.payloadFor? handle.user)) ∧
      delivered =
        (trailFrom policies (State.after policies (before ++ [.apply (.register handle)]))
          during).filterMap (fitting handle (max 1 capacity)) ∧
      (policies.overflow = .evict →
        delivered = during.filterMap (Operation.payloadFor? handle.user)) ∧
      ∀ first, first <+: before ++ .apply (.register handle) :: later →
        ((State.after policies first).buffered handle.connection).length ≤ max 1 capacity := by
  have isMade : handle ∈ made before := List.mem_filterMap.mpr ⟨_, connected, rfl⟩
  have inHand : InHand before handle := lawful.follows
  have given : handle ∈ spent (before ++ [.apply (.register handle)]) :=
    mem_spent_of_register (by simp)
  have split : before ++ .apply (.register handle) :: later =
      before ++ [.apply (.register handle)] ++ later := by simp
  have conserved := conservation policies lawful (lawful.sole (mem_made_append _ isMade))
  rw [lost_append_buffered lawful] at conserved
  have bounded (first : List Operation)
      (isPrefix : first <+: before ++ .apply (.register handle) :: later) :
      ((State.after policies first).buffered handle.connection).length ≤ max 1 capacity := by
    obtain ⟨rest, whole⟩ := isPrefix
    rw [← whole] at lawful
    refine length_buffered_le lawful ?_
    rw [whole]
    exact List.mem_append_left _ connected
  rw [split] at lawful
  obtain ⟨during, rest, rfl, tenure⟩ := exists_tenure lawful given admitted
  have first := queued_before policies lawful.of_append.of_append inHand.2
  obtain ⟨second, gapless⟩ :=
    queued_during lawful (List.mem_append_left _ connected) given tenure
  have third := queued_rest lawful (mem_made_append _ isMade) given tenure
  have registering : pushed handle
      (State.after policies before, .apply (.register handle)) ++ fanned handle
      (State.after policies before, .apply (.register handle)) = [] := rfl
  refine ⟨during, rest, _, rfl, tenure, ?_, ?_, rfl, gapless, bounded⟩
  · rw [← conserved, split, trail_append, trail_concat, trailFrom_append, ← after_append,
      List.flatMap_append, List.flatMap_append, List.flatMap_append, first, second, third,
      List.flatMap_singleton, registering, List.append_nil, List.append_nil]
  · exact filterMap_fitting_sublist handle _ _ during

/-- A connection with room for one payload, which is full when it registers. -/
def crowded : List Operation := [.connect ⟨⟨0⟩, 7⟩ 0, .push ⟨⟨0⟩, 7⟩ ⟨#[1]⟩]

/-- What happens then: of two payloads the second finds room. -/
def relieved : List Operation :=
  [.apply (.fanout (.to [7] ⟨#[2]⟩)), .receive ⟨0⟩,
    .apply (.fanout (.to [7] ⟨#[3]⟩)), .apply (.unregister 7 ⟨0⟩)]

theorem stream_of_admitted_crowded :
    (Lawful (crowded ++ .apply (.register ⟨⟨0⟩, 7⟩) :: relieved) ∧
      .connect ⟨⟨0⟩, 7⟩ 0 ∈ crowded ∧
      (State.after ⟨.dropNewest, .replace⟩
        (crowded ++ [.apply (.register ⟨⟨0⟩, 7⟩)])).Registers ⟨⟨0⟩, 7⟩) ∧
    ∃ (during rest : List Operation) (delivered : List Payload),
      relieved = during ++ rest ∧
      Tenure ⟨.dropNewest, .replace⟩ ⟨⟨0⟩, 7⟩ (crowded ++ [.apply (.register ⟨⟨0⟩, 7⟩)]) during
        rest ∧
      [⟨#[1]⟩] ++ delivered = [⟨#[1]⟩, ⟨#[3]⟩] := by
  have lawful : Lawful (crowded ++ .apply (.register ⟨⟨0⟩, 7⟩) :: relieved) :=
    lawful_of_follows (by decide)
  have connected : .connect ⟨⟨0⟩, 7⟩ 0 ∈ crowded := by decide
  have admitted : (State.after ⟨.dropNewest, .replace⟩
      (crowded ++ [.apply (.register ⟨⟨0⟩, 7⟩)])).Registers ⟨⟨0⟩, 7⟩ := by decide +kernel
  obtain ⟨during, rest, delivered, split, tenure, stream, _⟩ :=
    stream_of_admitted lawful connected admitted
  have firstPushed : (trail ⟨.dropNewest, .replace⟩ crowded).flatMap (pushed ⟨⟨0⟩, 7⟩) =
      [⟨#[1]⟩] := by decide +kernel
  refine ⟨⟨lawful, connected, admitted⟩, during, rest, delivered, split, tenure, ?_⟩
  have pushedOnce : [⟨#[1]⟩] ++ delivered = _ := firstPushed ▸ stream.symm
  rw [pushedOnce]
  decide +kernel

end Switchboard.Hub
