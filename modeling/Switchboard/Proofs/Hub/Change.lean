import Switchboard.Proofs.Hub.Requests

/-!
# The moments of publishing

A request is applied by small changes, one after the other (`State.apply_eq_foldl`), some of which
publish an event. So the states in which events are published can be named (`announcements`): each
event is published in the state that the changes before it have led to.
-/

namespace Switchboard.Hub

/-- Applying a request makes its changes one after the other. -/
theorem State.apply_eq_foldl (policies : Policies) (state : State) (request : Request) :
    (state.apply policies request).1 = (state.changes policies request).foldl change state := by
  cases request <;> rfl

/-- The events that changes publish, each with the state that it is published in. -/
def announcements : State → List Change → List (State × PresenceEvent)
  | _, [] => []
  | state, .publish event :: rest => (state, event) :: announcements (state.publish event) rest
  | state, change :: rest => announcements (state.change change) rest

/-- Further changes announce what they publish from where the first have led. -/
theorem announcements_append (state : State) (first second : List Change) :
    announcements state (first ++ second) =
      announcements state first ++ announcements (first.foldl State.change state) second := by
  induction first generalizing state with
  | nil => rfl
  | cons change rest ih =>
    rw [List.cons_append, List.foldl_cons]
    cases change with
    | publish event => exact congrArg _ (ih (state.publish event))
    | _ => exact ih _

/-- Everything that changes publish is announced, and nothing else. -/
theorem published_foldl (state : State) (changes : List Change) :
    (changes.foldl State.change state).published =
      state.published ++ (announcements state changes).map Prod.snd := by
  induction changes generalizing state with
  | nil => simp [announcements]
  | cons change rest ih =>
    rw [List.foldl_cons, ih]
    cases change with
    | publish event => exact List.append_assoc state.published [event] _
    | _ => rfl

/-- Each event is published in a state in which those before it have been published. -/
def InOrder (published : List PresenceEvent) : List (State × PresenceEvent) → Prop
  | [] => True
  | (state, event) :: rest => state.published = published ∧ InOrder (published ++ [event]) rest

/-- Events are in order if the first ones are and the others follow them. -/
theorem inOrder_append {published : List PresenceEvent}
    {first second : List (State × PresenceEvent)} :
    InOrder published (first ++ second) ↔
      InOrder published first ∧ InOrder (published ++ first.map Prod.snd) second := by
  induction first generalizing published with
  | nil => simp [InOrder]
  | cons moment rest ih =>
    obtain ⟨state, event⟩ := moment
    simp only [List.cons_append, InOrder, ih, List.map_cons, List.append_assoc, List.nil_append,
      and_assoc]

/-- Changes announce their events in order. -/
theorem inOrder_announcements (state : State) (changes : List Change) :
    InOrder state.published (announcements state changes) := by
  induction changes generalizing state with
  | nil => trivial
  | cons change rest ih =>
    have later := ih (state.change change)
    cases change with
    | publish event => exact ⟨rfl, later⟩
    | _ => exact later

end Switchboard.Hub
