import Switchboard.Hub.Facade
import Switchboard.Proofs.Hub.Change
import Switchboard.Proofs.Hub.Chronicle

/-!
# The presence events are a faithful log

Whenever an event is published, the presence view is the registry's key set already, and a
connection is turned away only for the sake of another one that is registered. Between two requests
the view is what the events so far amount to (`told_after`), so a subscriber that has lost none of
them can follow it. `presence_log` puts this together with what the events say about each user.
-/

namespace Switchboard.Hub

/-! ## Following the events -/

/-- A view of who is reachable, after one event more. A connection that was turned away does not
count. -/
def noted (view : PresenceView) : PresenceEvent → PresenceView
  | .online user _ => view.insert user
  | .offline _ _ .rejected => view
  | .offline user _ _ => view.erase user

/-- A view of who is reachable, after further events. -/
def replay (view : PresenceView) (events : List PresenceEvent) : PresenceView :=
  events.foldl noted view

/-- Events are followed one by one. -/
theorem replay_concat (view : PresenceView) (events : List PresenceEvent) (event : PresenceEvent) :
    replay view (events ++ [event]) = noted (replay view events) event := by
  rw [replay, List.foldl_append]
  rfl

/-- The view is what the events amount to. -/
def State.Told (state : State) : Prop := state.online = replay ∅ state.published

namespace State.Told

variable {state : State}

/-- The view follows somebody who leaves. -/
theorem leave (told : state.Told) (user : UserId) (connection : ConnectionId)
    {reason : OfflineReason} (accepted : reason ≠ .rejected) :
    ((state.markOffline user).publish (.offline user connection reason)).Told := by
  have same : noted (replay ∅ state.published) (.offline user connection reason) =
      (replay ∅ state.published).erase user := by
    cases reason <;> first | rfl | exact absurd rfl accepted
  simp only [State.Told, State.publish, State.markOffline, replay_concat] at told ⊢
  rw [same, ← told]

/-- It follows a delivery. -/
theorem deliver (told : state.Told) (policy : OverflowPolicy) (payload : Payload)
    (user : UserId) : (state.deliver policy payload user).1.Told := by
  have outcome := state.deliver_cases policy payload user
  generalize state.deliver policy payload user = result at outcome
  cases outcome with
  | offline absent => exact told
  | delivered registered found attended room => exact told
  | @evicted handle outbox registered found attended full chosen =>
    exact told.leave user handle.connection (by decide)
  | dropped registered found attended full chosen => exact told
  | @closed handle registered gone => exact told.leave user handle.connection (by decide)

/-- It follows a registration; somebody whose connection is replaced leaves and comes back. -/
theorem register (told : state.Told) (shown : state.Shown) (policy : DuplicatePolicy)
    (handle : Handle) : (state.register policy handle).1.Told := by
  have outcome := state.register_cases policy handle
  generalize state.register policy handle = result at outcome
  cases outcome with
  | ignored gone => exact told
  | inserted attended free =>
    have view : state.online.insert handle.user = _ := congrArg (·.insert handle.user) told
    simp only [State.Told, State.publish, State.markOnline, replay_concat]
    exact view
  | @replaced previous attended occupied chosen =>
    have present : handle.user ∈ state.online := by
      rw [shown handle.user, Std.ExtTreeMap.mem_iff_isSome_getElem?, occupied]
      rfl
    have restored : (state.online.erase handle.user).insert handle.user = state.online := by
      apply Std.ExtTreeSet.ext_mem
      intro user
      rw [Std.ExtTreeSet.mem_insert, Std.ExtTreeSet.mem_erase, Std.compare_eq_iff_eq]
      by_cases same : handle.user = user
      · subst same
        simp [present]
      · simp [same]
    simp only [State.Told, State.publish, replay_concat]
    change state.online = ((replay ∅ state.published).erase handle.user).insert handle.user
    rw [State.Told] at told
    rw [← told, restored]
  | rejected attended occupied chosen =>
    simp only [State.Told, State.publish, replay_concat]
    exact told

/-- It follows every operation. -/
theorem perform (told : state.Told) (shown : state.Shown) (policies : Policies)
    (operation : Operation) : (state.perform policies operation).Told := by
  rcases state.perform_cases policies operation with ⟨request, _, same⟩ | ⟨_, outboxes, same⟩
  · rw [same]
    cases request with
    | register handle => exact told.register shown policies.duplicate handle
    | unregister user connection =>
      have outcome := state.unregister_cases user connection
      simp only [State.apply]
      generalize state.unregister user connection = result at outcome
      cases outcome with
      | removed registered same => exact told.leave user connection (by decide)
      | stale other => exact told
    | fanout request =>
      exact State.fanOut_preserves State.Told (fun told => told)
        (fun user told => told.deliver policies.overflow request.payload user) told
  · rw [same]
    exact told

end State.Told

/-- After every run the view is what the events amount to. -/
theorem told_after (policies : Policies) (run : List Operation) :
    (State.after policies run).Told := by
  induction run using List.reverseRecOn with
  | nil => rfl
  | append_singleton past operation ih =>
    rw [after_concat]
    exact ih.perform (shown_after policies past) policies operation

/-! ## The moments of publishing -/

/-- An event is published at the right moment: the view is up to date, and a connection is turned
away while another one is registered for its user. -/
structure Timely (moment : State × PresenceEvent) : Prop where
  shown : moment.1.Shown
  occupied : ∀ {user : UserId} {connection : ConnectionId},
    moment.2 = .offline user connection .rejected →
      ∃ other, moment.1.registry[user]? = some other ∧ other.connection ≠ connection

/-- The events of a run, each with the state that it is published in. -/
def announced (policies : Policies) (run : List Operation) : List (State × PresenceEvent) :=
  (trail policies run).flatMap fun entry =>
    match entry with
    | (state, .apply request) => announcements state (state.changes policies request)
    | _ => []

section

variable {state : State}

/-- An event that tells of no rejection only needs the view to be up to date. -/
theorem Timely.of_shown {event : PresenceEvent} (shown : state.Shown)
    (accepted : event.isRejection = false) : Timely (state, event) where
  shown := shown
  occupied := by
    intro user connection rejected
    rw [show event = .offline user connection .rejected from rejected] at accepted
    cases accepted

/-- Letting go of a connection publishes at the right moment. -/
theorem timely_discard (shown : state.Shown) (user : UserId) (connection : ConnectionId)
    {reason : OfflineReason}
    (accepted : (PresenceEvent.offline user connection reason).isRejection = false) :
    ∀ moment ∈ announcements state (State.discardChanges user connection reason),
      Timely moment := by
  intro moment member
  obtain rfl := List.mem_singleton.mp member
  exact .of_shown (shown.leave user) accepted

/-- So does a delivery. -/
theorem timely_delivery (shown : state.Shown) (policy : OverflowPolicy) (payload : Payload)
    (user : UserId) :
    ∀ moment ∈ announcements state (state.deliveryChanges policy payload user),
      Timely moment := by
  have outcome := state.deliver_cases policy payload user
  have listed {handle : Handle} (registered : state.registry[user]? = some handle) :
      state.deliveryChanges policy payload user =
        State.deliverChanges payload user handle.connection (state.deliver policy payload user).2 :=
    State.deliveryChanges_of_registered registered
  generalize state.deliver policy payload user = result at outcome listed
  intro moment member
  cases outcome with
  | offline absent => rw [State.deliveryChanges_of_absent absent] at member; cases member
  | delivered registered found attended room => rw [listed registered] at member; cases member
  | @evicted handle outbox registered found attended full chosen =>
    rw [listed registered] at member
    have counted : (state.record .evicted).Shown := shown
    exact timely_discard counted user handle.connection rfl moment member
  | dropped registered found attended full chosen => rw [listed registered] at member; cases member
  | @closed handle registered gone =>
    rw [listed registered] at member
    exact timely_discard shown user handle.connection rfl moment member

/-- So do deliveries, one after the other. -/
theorem timely_deliveries (shown : state.Shown) (policy : OverflowPolicy) (payload : Payload)
    (users : List UserId) :
    ∀ moment ∈ announcements state (State.deliveriesChanges policy payload state users),
      Timely moment := by
  induction users generalizing state with
  | nil => intro moment member; cases member
  | cons user rest ih =>
    intro moment member
    rw [State.deliveriesChanges, announcements_append] at member
    rcases List.mem_append.mp member with now | later
    · exact timely_delivery shown policy payload user moment now
    · exact ih (shown.deliver policy payload user) moment later

/-- A registration publishes at the right moments, if its connection is not registered. -/
theorem timely_register (shown : state.Shown) (policy : DuplicatePolicy) {handle : Handle}
    (fresh : ∀ {previous : Handle}, state.registry[handle.user]? = some previous →
      previous.connection ≠ handle.connection) :
    ∀ moment ∈ announcements state
        (State.registerChanges handle (state.register policy handle).2), Timely moment := by
  have outcome := state.register_cases policy handle
  generalize state.register policy handle = result at outcome
  intro moment member
  cases outcome with
  | ignored gone => cases member
  | inserted attended free =>
    obtain rfl := List.mem_singleton.mp member
    exact .of_shown (shown.enter handle) rfl
  | replaced attended occupied chosen =>
    rcases List.mem_cons.mp member with rfl | last
    · exact .of_shown (shown.replace occupied) rfl
    · obtain rfl := List.mem_singleton.mp last
      exact .of_shown (shown.replace occupied) rfl
  | @rejected previous attended occupied chosen =>
    obtain rfl := List.mem_singleton.mp member
    refine ⟨shown, ?_⟩
    intro user connection rejected
    obtain ⟨rfl, rfl, _⟩ := PresenceEvent.offline.inj rejected
    exact ⟨previous, occupied, fresh occupied⟩

/-- So does a request to unregister. -/
theorem timely_unregister (shown : state.Shown) (user : UserId) (connection : ConnectionId) :
    ∀ moment ∈ announcements state
        (State.unregisterChanges user connection (state.unregister user connection).2),
      Timely moment := by
  have outcome := state.unregister_cases user connection
  generalize state.unregister user connection = result at outcome
  intro moment member
  cases outcome with
  | removed registered same =>
    obtain rfl := List.mem_singleton.mp member
    exact .of_shown (shown.leave user) rfl
  | stale other => cases member

end

/-- Every event of a run is published at the right moment. -/
theorem timely_of_announced {policies : Policies} {run : List Operation} (lawful : Lawful run) :
    ∀ moment ∈ announced policies run, Timely moment := by
  intro moment member
  obtain ⟨entry, isEntry, member⟩ := List.mem_flatMap.mp member
  rw [trail, ← after_nil policies] at isEntry
  obtain ⟨past, operation, later, rfl, rfl⟩ := exists_of_mem_trailFrom isEntry
  rw [List.nil_append] at member
  have shown := shown_after policies past
  cases operation with
  | apply request =>
    cases request with
    | register handle =>
      have inHand : InHand past handle := lawful.follows
      refine timely_register shown policies.duplicate ?_ moment member
      intro previous registered
      have given := (sound_after policies lawful.of_append).given registered
      exact lawful.of_append.connection_ne_of_spent inHand (mem_spent_of_register given)
    | unregister user connection => exact timely_unregister shown user connection moment member
    | fanout request =>
      have counted : ((State.after policies past).record .fanout).Shown := shown
      exact timely_deliveries counted policies.overflow request.payload request.recipients moment
        member
  | _ => cases member

/-- What a run announces is what it has published. -/
theorem map_announced (policies : Policies) (run : List Operation) :
    (announced policies run).map Prod.snd = (State.after policies run).published := by
  induction run using List.reverseRecOn with
  | nil => rfl
  | append_singleton past operation ih =>
    rw [announced, trail_concat, List.flatMap_append, List.flatMap_singleton, List.map_append,
      ← announced, ih, after_concat]
    rcases (State.after policies past).perform_cases policies operation with
      ⟨request, rfl, same⟩ | ⟨foreign, outboxes, same⟩
    · rw [same, State.apply_eq_foldl, published_foldl]
    · rw [same]
      cases operation with
      | apply request => cases foreign
      | _ => exact List.append_nil _

/-- Events are announced in the order in which they are published. -/
theorem inOrder_announced (policies : Policies) (run : List Operation) :
    InOrder [] (announced policies run) := by
  induction run using List.reverseRecOn with
  | nil => trivial
  | append_singleton past operation ih =>
    rw [announced, trail_concat, List.flatMap_append, List.flatMap_singleton, ← announced]
    refine inOrder_append.mpr ⟨ih, ?_⟩
    rw [List.nil_append, map_announced]
    cases operation with
    | apply request => exact inOrder_announcements _ _
    | _ => trivial

/-! ## The log -/

/-- A lifeline ends with the arrival of the connection that is there. -/
theorem getLast?_lifeline (user : UserId) (ended : List (ConnectionId × OfflineReason))
    (current : Option ConnectionId) (connection : ConnectionId) :
    (lifeline user ended current).getLast? = some (.online user connection) ↔
      current = some connection := by
  cases current with
  | some present =>
    rw [← lifeline_arrive, List.getLast?_append]
    simp
  | none =>
    refine iff_of_false ?_ (by simp)
    rcases List.eq_nil_or_concat ended with rfl | ⟨earlier, last, rfl⟩
    · simp [lifeline]
    · rw [List.concat_eq_append, ← lifeline_depart, List.getLast?_append]
      simp

/-- A handle is the registered one if its connection is the current one of its user. -/
theorem registers_iff_current {past : List Operation} {state : State}
    (sound : Sound past none state) (handle : Handle) :
    state.Registers handle ↔ state.current handle.user = some handle.connection := by
  constructor
  · exact State.current_of_registered
  · intro present
    obtain ⟨other, registered, same⟩ := Option.map_eq_some_iff.mp present
    have owned := sound.user_eq registered
    have equal : other = handle := by
      cases other
      cases handle
      simp_all
    rwa [equal] at registered

/-- Events are only added. -/
theorem published_append (policies : Policies) (first rest : List Operation) :
    ∃ events, (State.after policies (first ++ rest)).published =
      (State.after policies first).published ++ events := by
  rw [← map_announced, ← map_announced, announced, trail_append, List.flatMap_append,
    List.map_append]
  exact ⟨_, rfl⟩

/-- A subscriber that has lost nothing reads all events since its subscription. -/
theorem eq_drop_of_read {subscription : Subscription} {kept : Nat}
    {published events : List PresenceEvent} {ended : Bool}
    (reads : (subscription.read kept published ended).1 =
      events.map .event ++ if ended then [.ended] else []) :
    events = published.drop subscription.next := by
  simp only [Subscription.read] at reads
  have equal := List.append_cancel_right reads
  by_cases lags : 0 < published.length - subscription.next - kept
  · rw [if_pos lags] at equal
    have member : Notice.lagged (published.length - subscription.next - kept) ∈
        events.map .event := by
      rw [← equal]
      exact List.mem_append_left _ List.mem_cons_self
    obtain ⟨event, _, different⟩ := List.mem_map.mp member
    cases different
  · have none : published.length - subscription.next - kept = 0 := by omega
    rw [if_neg lags, none, List.nil_append, Nat.add_zero] at equal
    exact ((List.map_inj_right fun _ _ same => Notice.event.inj same).mp equal).symm

/-- The events of a run tell truly what becomes of the registry. -/
structure FaithfulLog (policies : Policies) (run : List Operation) : Prop where
  alternates : ∀ user, ∃ ended,
    lifeEvents user (State.after policies run).published =
        lifeline user ended ((State.after policies run).current user) ∧
      (ended.map Prod.fst ++ ((State.after policies run).current user).toList).Nodup
  registers_iff : ∀ handle : Handle, (State.after policies run).Registers handle ↔
    (lifeEvents handle.user (State.after policies run).published).getLast? =
      some (.online handle.user handle.connection)
  rejected_alone : ∀ {before later : List PresenceEvent} {user : UserId}
      {connection : ConnectionId},
    (State.after policies run).published =
        before ++ .offline user connection .rejected :: later →
      ∀ event ∈ before ++ later, event.connection ≠ connection
  changes_eq : ∀ (state : State) (request : Request), (state.apply policies request).1 =
    (state.changes policies request).foldl State.change state
  announced_eq : (announced policies run).map Prod.snd = (State.after policies run).published
  in_order : InOrder [] (announced policies run)
  timely : ∀ moment ∈ announced policies run, Timely moment
  replayed : ∀ {first rest : List Operation} {earlier later : Hub} {ended : Bool}
      {events : List PresenceEvent},
    run = first ++ rest → earlier.state = State.after policies first →
      later.state = State.after policies run →
      (later.readEvents earlier.subscribe ended).1 =
          events.map .event ++ (if ended then [.ended] else []) →
        replay earlier.state.online events = later.state.online

/-- The presence events of a run are a faithful log of the registry. -/
theorem presence_log (policies : Policies) {run : List Operation} (lawful : Lawful run) :
    FaithfulLog policies run := by
  have chronicle := chronicle_after policies lawful
  constructor
  case alternates => exact chronicle.lives
  case registers_iff =>
    intro handle
    obtain ⟨ended, told, distinct⟩ := chronicle.lives handle.user
    rw [told, getLast?_lifeline]
    exact registers_iff_current (sound_after policies lawful) handle
  case rejected_alone =>
    intro before later user connection split event member same
    have alone := chronicle.alone
    rw [split] at alone
    obtain ⟨_, afterwards, across⟩ := List.pairwise_append.mp alone
    rcases List.mem_append.mp member with earlier | last
    · have both := across event earlier _ List.mem_cons_self same
      exact Bool.noConfusion both.2
    · have both := (List.pairwise_cons.mp afterwards).1 event last same.symm
      exact Bool.noConfusion both.1
  case changes_eq => exact State.apply_eq_foldl policies
  case announced_eq => exact map_announced policies run
  case in_order => exact inOrder_announced policies run
  case timely => exact timely_of_announced lawful
  case replayed =>
    intro first rest earlier later ended events split earlierState laterState reads
    have all := eq_drop_of_read reads
    obtain ⟨added, published⟩ := published_append policies first rest
    rw [← split] at published
    have next : (Hub.subscribe earlier).next = (State.after policies first).published.length := by
      rw [Hub.subscribe, earlierState]
    have since : events = added := by
      rw [all, next, laterState, published, List.drop_left]
    -- The replay of all events passes through the view at the subscription.
    have toldEarlier : (State.after policies first).online = _ := told_after policies first
    have toldLater : (State.after policies run).online = _ := told_after policies run
    rw [since, earlierState, laterState, toldLater, published, toldEarlier, replay, replay, replay,
      List.foldl_append]

/-- A connection of a user is turned away, and then the one that is there goes. -/
def refusal : List Operation :=
  [.connect ⟨⟨0⟩, 7⟩ 4, .connect ⟨⟨1⟩, 7⟩ 4, .apply (.register ⟨⟨0⟩, 7⟩),
    .apply (.register ⟨⟨1⟩, 7⟩), .apply (.unregister 7 ⟨0⟩)]

/-- Such a run is lawful, and its events are a faithful log. -/
theorem presence_log_refusal : Lawful refusal ∧ FaithfulLog ⟨.evict, .reject⟩ refusal := by
  have lawful : Lawful refusal := lawful_of_follows (by decide)
  exact ⟨lawful, presence_log ⟨.evict, .reject⟩ lawful⟩

end Switchboard.Hub
