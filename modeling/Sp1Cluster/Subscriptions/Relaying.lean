import Sp1Cluster.Subscriptions.Service
import Sp1Cluster.Coordinator.Notices

/-!
# What is delivered to subscribers

A section hands its notices to the registry: every notice for a registered
subscriber becomes one message on the channel the subscriber has at that
moment, and a message that is sent directly goes to the channel that was read
before. Nothing else of the coordinator changes.

The second part follows the coordinator's own state through a run: every event
is one call of the coordinator or none, so what holds of all states that calls
reach holds here.
-/

set_option autoImplicit false

namespace Sp1Cluster

/-- The task a message is about. -/
def SubMessage.taskId : SubMessage → String
  | .taskResult taskId _ => taskId
  | .unknownTask _ taskId => taskId

namespace Coordinator

variable {P : Type} {first second third coordinator : Coordinator P}

/-- A message that carries out a notice, on the channel the subscriber has. -/
structure Reports (coordinator : Coordinator P) (notice : Notice) (delivery : Delivery) : Prop where
  channel : (coordinator.subscribers.lookup notice.subId).map (·.tx) = some delivery.channel
  subId : delivery.subId = notice.subId
  message : delivery.message = .taskResult notice.taskId notice.status
  readAt : delivery.readAt = coordinator.time

/-- A message sent directly. -/
def direct (readAt : ℕ) (sent : String × Channel × SubMessage) : Delivery :=
  ⟨sent.1, sent.2.1, sent.2.2, readAt⟩

/-- Carrying out notices and direct messages. -/
structure Relays (readAt : ℕ) (told : List Notice) (sent : List (String × Channel × SubMessage))
    (before after : Coordinator P) : Prop where
  state : after.state = before.state
  creating : after.creating = before.creating
  subscribing : after.subscribing = before.subscribing
  notifying : after.notifying = before.notifying
  time : after.time = before.time
  channels : ∀ subId, (after.subscribers.lookup subId).map (·.tx) =
    (before.subscribers.lookup subId).map (·.tx)
  deliveries : ∃ recent, after.deliveries = before.deliveries ++ recent ∧
    ∀ delivery, delivery ∈ recent ↔
      (∃ notice ∈ told, before.Reports notice delivery) ∨
      (∃ message ∈ sent, delivery = direct readAt message)

namespace Relays

variable {readAt : ℕ} {told told' : List Notice} {sent sent' : List (String × Channel × SubMessage)}

theorem refl (readAt : ℕ) (coordinator : Coordinator P) :
    Relays readAt [] [] coordinator coordinator :=
  ⟨rfl, rfl, rfl, rfl, rfl, fun _ => rfl, [], by simp⟩

theorem trans (earlier : Relays readAt told sent first second)
    (later : Relays readAt told' sent' second third) :
    Relays readAt (told ++ told') (sent ++ sent') first third where
  state := later.state.trans earlier.state
  creating := later.creating.trans earlier.creating
  subscribing := later.subscribing.trans earlier.subscribing
  notifying := later.notifying.trans earlier.notifying
  time := later.time.trans earlier.time
  channels subId := (later.channels subId).trans (earlier.channels subId)
  deliveries := by
    have reports : ∀ notice delivery, second.Reports notice delivery ↔
        first.Reports notice delivery := by
      intro notice delivery
      constructor
      · rintro ⟨channel, subId, message, readAt⟩
        exact ⟨(earlier.channels _).symm.trans channel, subId, message, readAt.trans earlier.time⟩
      · rintro ⟨channel, subId, message, readAt⟩
        exact ⟨(earlier.channels _).trans channel, subId, message, readAt.trans earlier.time.symm⟩
    obtain ⟨recent, appended, recentIff⟩ := earlier.deliveries
    obtain ⟨recent', appended', recentIff'⟩ := later.deliveries
    refine ⟨recent ++ recent', by rw [appended', appended, List.append_assoc], ?_⟩
    intro delivery
    simp only [List.mem_append, recentIff, recentIff', reports]
    constructor
    · rintro ((⟨notice, member, report⟩ | ⟨message, member, same⟩) |
        ⟨notice, member, report⟩ | ⟨message, member, same⟩)
      · exact .inl ⟨notice, .inl member, report⟩
      · exact .inr ⟨message, .inl member, same⟩
      · exact .inl ⟨notice, .inr member, report⟩
      · exact .inr ⟨message, .inr member, same⟩
    · rintro (⟨notice, member | member, report⟩ | ⟨message, member | member, same⟩)
      · exact .inl (.inl ⟨notice, member, report⟩)
      · exact .inr (.inl ⟨notice, member, report⟩)
      · exact .inl (.inr ⟨message, member, same⟩)
      · exact .inr (.inr ⟨message, member, same⟩)

theorem forall_delivered {property : Delivery → Prop}
    (relays : Relays readAt told sent first second)
    (earlier : ∀ delivery ∈ first.deliveries, property delivery)
    (reports : ∀ notice ∈ told, ∀ delivery, first.Reports notice delivery → property delivery)
    (directly : ∀ message ∈ sent, property (direct readAt message)) :
    ∀ delivery ∈ second.deliveries, property delivery := by
  obtain ⟨recent, appended, recentIff⟩ := relays.deliveries
  intro delivery delivered
  rw [appended, List.mem_append] at delivered
  rcases delivered with before | new
  · exact earlier delivery before
  · rcases (recentIff delivery).mp new with ⟨notice, member, report⟩ | ⟨message, member, rfl⟩
    · exact reports notice member delivery report
    · exact directly message member

end Relays

theorem relays_notifySubscriber (readAt : ℕ) (proofId taskId : String) (status : TaskStatus)
    (coordinator : Coordinator P) (subId : String) :
    Relays readAt [⟨subId, proofId, taskId, status⟩] [] coordinator
      (notifySubscriber taskId status coordinator subId) := by
  unfold notifySubscriber
  split
  · next missing =>
    refine ⟨rfl, rfl, rfl, rfl, rfl, fun _ => rfl, [], (List.append_nil _).symm, ?_⟩
    intro delivery
    refine ⟨fun member => (List.not_mem_nil member).elim, ?_⟩
    rintro (⟨notice, member, report⟩ | ⟨message, member, -⟩)
    · rw [List.mem_singleton.mp member] at report
      have registered := report.channel
      rw [missing] at registered
      cases registered
    · cases member
  · next sub registered =>
    refine ⟨rfl, rfl, rfl, rfl, rfl, ?_, _, rfl, ?_⟩
    · intro other
      dsimp only
      rw [Table.lookup_insert_eq]
      split
      · next same => rw [same, registered]; rfl
      · rfl
    · intro delivery
      simp only [List.mem_singleton, exists_eq_left, List.not_mem_nil, false_and,
        exists_false, or_false]
      constructor
      · rintro rfl
        exact ⟨by rw [registered]; rfl, rfl, rfl, rfl⟩
      · rintro ⟨channel, same, message, read⟩
        rw [registered] at channel
        cases delivery
        simp_all

theorem relays_perform (readAt : ℕ) (coordinator : Coordinator P) (effect : Effect) :
    Relays readAt (Listener.notices.hear effect) (Listener.sends.hear effect) coordinator
      (perform readAt coordinator effect) := by
  cases effect with
  | notifySubscribers subscribers proofId taskId status =>
    induction subscribers generalizing coordinator with
    | nil => exact .refl readAt coordinator
    | cons subId rest ih =>
      exact (relays_notifySubscriber readAt proofId taskId status coordinator subId).trans (ih _)
  | toSubscriber subId channel message =>
    refine ⟨rfl, rfl, rfl, rfl, rfl, fun _ => rfl, _, rfl, ?_⟩
    intro delivery
    simp [Listener.notices, Listener.sends, direct]
  | _ => exact .refl readAt coordinator

theorem relays_effects (readAt : ℕ) (effects : List Effect) (coordinator : Coordinator P) :
    Relays readAt (Listener.notices.all effects) (Listener.sends.all effects) coordinator
      (effects.foldl (perform readAt) coordinator) := by
  induction effects generalizing coordinator with
  | nil => exact .refl readAt coordinator
  | cons effect rest ih => exact (relays_perform readAt coordinator effect).trans (ih _)

/-! ## The coordinator's own state -/

/-- The call of the coordinator that an event makes, if it makes one. The
section of a subscription reads neither the clock nor anything else. -/
def asks (coordinator : Coordinator P) : ServiceEvent → Option Event
  | .call event => if event.call.subscribes then none else some event
  | .subscribe index =>
    (coordinator.subscribing[index]?).map fun request =>
      ⟨.plain 0 "", .addSubscriptions request.subId request.proofId request.channel
        request.taskIds⟩
  | _ => none

theorem state_notifySubscriber (taskId : String) (status : TaskStatus) (subId : String) :
    (notifySubscriber taskId status coordinator subId).state = coordinator.state :=
  (relays_notifySubscriber 0 "" taskId status coordinator subId).state

theorem state_step [AssignmentPolicy P] (build : Build) (event : ServiceEvent) :
    (coordinator.step build event).state =
      match coordinator.asks event with
      | none => coordinator.state
      | some asked => coordinator.state.step build asked := by
  change (coordinator.apply build event).state = _
  cases event with
  | call event =>
    simp only [apply, call, asks]
    split
    · rfl
    · exact (relays_effects ..).state
  | createSubscriber subId proofId channel now =>
    simp only [apply, createSubscriber, asks]
    split <;> rfl
  | insertSubscriber index =>
    simp only [apply, insertSubscriber, asks]
    split <;> rfl
  | addSubscriptions subId taskIds now =>
    simp only [apply, addSubscriptions, asks]
    split <;> rfl
  | subscribe index =>
    simp only [apply, subscribe, asks]
    cases coordinator.subscribing[index]? with
    | none => rfl
    | some request => exact (relays_effects ..).state
  | notify index position =>
    simp only [apply, notify, asks]
    split
    · rfl
    · split
      · rfl
      · exact state_notifySubscriber ..
  | cleanupDeadSubscriber subId now =>
    simp only [apply, cleanupDeadSubscriber, asks]
    split
    · rfl
    · split <;> rfl

/-- The identifiers drawn by the calls of the coordinator are those drawn by the
events. -/
theorem drawn_asks (event : ServiceEvent) :
    (coordinator.asks event).bind Event.drawn = event.drawn := by
  cases event with
  | call event =>
    simp only [asks, ServiceEvent.drawn]
    split
    · next subscribes =>
      obtain ⟨env, call⟩ := event
      cases call <;> simp_all [Call.subscribes, Event.drawn, Call.drawsTaskId]
    · rfl
  | subscribe index =>
    simp only [asks, ServiceEvent.drawn]
    cases coordinator.subscribing[index]? <;> rfl
  | _ => rfl

theorem fresh_asked {past : List ServiceEvent} {calls : List Event} {event : ServiceEvent}
    {asked : Event}
    (drawn : calls.filterMap Event.drawn = past.filterMap ServiceEvent.drawn)
    (fresh : ServiceEvent.FreshIds (past ++ [event])) (asks : coordinator.asks event = some asked) :
    Event.FreshIds (calls ++ [asked]) ∧
      (calls ++ [asked]).filterMap Event.drawn =
        (past ++ [event]).filterMap ServiceEvent.drawn := by
  have here := coordinator.drawn_asks event
  rw [asks, Option.bind_some] at here
  have drawnToo : (calls ++ [asked]).filterMap Event.drawn =
      (past ++ [event]).filterMap ServiceEvent.drawn := by
    simp [List.filterMap_append, List.filterMap_cons, drawn, here]
  refine ⟨?_, drawnToo⟩
  unfold Event.FreshIds
  rw [drawnToo]
  exact fresh

end Coordinator

namespace ServiceEvent

theorem FreshIds.of_append {past : List ServiceEvent} {future : List ServiceEvent}
    (fresh : FreshIds (past ++ future)) : FreshIds past := by
  unfold FreshIds at fresh
  rw [List.filterMap_append] at fresh
  exact (List.nodup_append.mp fresh).1

end ServiceEvent

namespace Coordinator

variable {P : Type} [LawfulPolicy P] {build : Build}

/-! ## The three events that send -/

/-- A call tells what it has heard to say under the lock, leaves the rest for
later and sends nothing directly. -/
abbrev RelaysCall (build : Build) (event : Event) (coordinator : Coordinator P) :
    Coordinator P → Prop :=
  Relays coordinator.time
    ((coordinator.state.clearOutbox.exec build event.env event.call).state.heard .notices) []
    { coordinator with
      state := (coordinator.state.clearOutbox.exec build event.env event.call).state
      notifying := coordinator.notifying ++
        (coordinator.state.clearOutbox.exec build event.env event.call).after.filterMap
          Effect.notification }

/-- The section of a subscription sends its answers directly and tells nothing. -/
abbrev RelaysSubscribe {P : Type} (index : ℕ) (request : Subscription)
    (coordinator : Coordinator P) : Coordinator P → Prop :=
  Relays request.readAt []
    ((coordinator.state.clearOutbox.addSubscriptions request.subId request.proofId
      request.channel request.taskIds).heard .sends)
    { coordinator with
      state := coordinator.state.clearOutbox.addSubscriptions request.subId request.proofId
        request.channel request.taskIds
      subscribing := coordinator.subscribing.eraseIdx index }

/-- A turn of a notification tells one of its subscribers. -/
abbrev RelaysNotify {P : Type} (index position : ℕ) (notification : Notification) (subId : String)
    (coordinator : Coordinator P) : Coordinator P → Prop :=
  Relays coordinator.time
    [⟨subId, notification.proofId, notification.taskId, notification.status⟩] []
    { coordinator with
      notifying := coordinator.notifying.set index
        { notification with subscribers := notification.subscribers.eraseIdx position } }

theorem relays_call (build : Build) {event : Event}
    (unsubscribing : event.call.subscribes = false) (coordinator : Coordinator P) :
    RelaysCall build event coordinator (coordinator.call build event) := by
  have direct : (coordinator.state.clearOutbox.exec build event.env event.call).state.heard
      .sends = [] := by
    refine CoordinatorState.heard_exec_of_deaf .sends event.env ?_
    intro next effect sends
    cases effect with
    | toSubscriber => exact absurd (unsubscribing.symm.trans sends) Bool.false_ne_true
    | _ => rfl
  unfold RelaysCall call
  rw [if_neg (by simp [unsubscribing]), ← direct]
  exact relays_effects ..

omit [LawfulPolicy P] in
theorem relays_subscribe {coordinator : Coordinator P} {index : ℕ} {request : Subscription}
    (running : coordinator.subscribing[index]? = some request) :
    RelaysSubscribe index request coordinator (coordinator.subscribe index) := by
  have untold : (coordinator.state.clearOutbox.addSubscriptions request.subId request.proofId
      request.channel request.taskIds).heard .notices = [] := by
    unfold CoordinatorState.addSubscriptions
    split
    · refine List.foldlRecOn
        (motive := fun next : CoordinatorState P => next.heard .notices = []) _ _ rfl ?_
      intro next silent taskId _
      rw [CoordinatorState.heard_subscribeTask fun _ _ _ => rfl, silent]
    · rw [CoordinatorState.heard_emitAll]
      simp [Listener.all, Listener.notices]
      rfl
  unfold RelaysSubscribe subscribe
  rw [running, ← untold]
  exact relays_effects ..

/-- What an event does: it changes the registry or nothing, or it is a call, the
section of a subscription or one turn of a notification. -/
inductive Turn (build : Build) (coordinator after : Coordinator P) : ServiceEvent → Prop
  | registry {event : ServiceEvent} (state : after.state = coordinator.state)
      (notifying : after.notifying = coordinator.notifying)
      (deliveries : after.deliveries = coordinator.deliveries) : Turn build coordinator after event
  | call {event : Event} (unsubscribing : event.call.subscribes = false)
      (relays : RelaysCall build event coordinator after) :
      Turn build coordinator after (.call event)
  | subscribe {index : ℕ} {request : Subscription}
      (running : coordinator.subscribing[index]? = some request)
      (relays : RelaysSubscribe index request coordinator after) :
      Turn build coordinator after (.subscribe index)
  | notify {index position : ℕ} {notification : Notification} {subId : String}
      (running : coordinator.notifying[index]? = some notification)
      (next : notification.subscribers[position]? = some subId)
      (relays : RelaysNotify index position notification subId coordinator after) :
      Turn build coordinator after (.notify index position)

theorem turn_apply (build : Build) (coordinator : Coordinator P) (event : ServiceEvent) :
    Turn build coordinator (coordinator.apply build event) event := by
  cases event with
  | call event =>
    cases subscribes : event.call.subscribes with
    | false => exact .call subscribes (relays_call build subscribes coordinator)
    | true =>
      have unchanged : coordinator.apply build (.call event) = coordinator := if_pos subscribes
      rw [unchanged]
      exact .registry rfl rfl rfl
  | subscribe index =>
    cases running : coordinator.subscribing[index]? with
    | none =>
      simp only [apply, Coordinator.subscribe, running]
      exact .registry rfl rfl rfl
    | some request => exact .subscribe running (relays_subscribe running)
  | notify index position =>
    cases running : coordinator.notifying[index]? with
    | none =>
      simp only [apply, Coordinator.notify, running]
      exact .registry rfl rfl rfl
    | some notification =>
      cases next : notification.subscribers[position]? with
      | none =>
        simp only [apply, Coordinator.notify, running, next]
        exact .registry rfl rfl rfl
      | some subId =>
        refine .notify running next ?_
        simp only [apply, Coordinator.notify, running, next]
        exact relays_notifySubscriber ..
  | createSubscriber subId proofId channel now =>
    simp only [apply, createSubscriber]
    split <;> exact .registry rfl rfl rfl
  | insertSubscriber index =>
    simp only [apply, insertSubscriber]
    split <;> exact .registry rfl rfl rfl
  | addSubscriptions subId taskIds now =>
    simp only [apply, addSubscriptions]
    split <;> exact .registry rfl rfl rfl
  | cleanupDeadSubscriber subId now =>
    simp only [apply, cleanupDeadSubscriber]
    split
    · exact .registry rfl rfl rfl
    · split <;> exact .registry rfl rfl rfl

/-! ## What holds of the state in every run -/

/-- The coordinator's own state has been reached by calls that drew the
identifiers of the events. -/
def Healthy (build : Build) (events : List ServiceEvent) (coordinator : Coordinator P) : Prop :=
  ∃ past transit issued,
    past.filterMap Event.drawn = events.filterMap ServiceEvent.drawn ∧
      coordinator.state.Sane build past transit issued

theorem Healthy.step {past : List ServiceEvent} {coordinator : Coordinator P}
    (healthy : coordinator.Healthy build past) (event : ServiceEvent)
    (fresh : ServiceEvent.FreshIds (past ++ [event])) :
    (coordinator.step build event).Healthy build (past ++ [event]) := by
  have state := coordinator.state_step build event
  cases asks : coordinator.asks event with
  | none =>
    obtain ⟨calls, transit, issued, drawn, sane⟩ := healthy
    have here := coordinator.drawn_asks event
    rw [asks] at here state
    refine ⟨calls, transit, issued, ?_, state ▸ sane⟩
    have undrawn : event.drawn = none := here.symm
    simp [List.filterMap_append, drawn, undrawn]
  | some asked =>
    obtain ⟨calls, transit, issued, drawn, sane⟩ := healthy
    obtain ⟨freshCalls, drawnToo⟩ := fresh_asked drawn fresh asks
    rw [asks] at state
    obtain ⟨transit', issued', sane', -⟩ := sane.step asked freshCalls
    refine ⟨calls ++ [asked], transit', issued', drawnToo, ?_⟩
    rw [state]
    exact sane'

theorem reach_healthy (events : List ServiceEvent) (fresh : ServiceEvent.FreshIds events) :
    (reach P build events).Healthy build events := by
  refine Systems.run_invariant_always (fun past (coordinator : Coordinator P) =>
    ServiceEvent.FreshIds past → coordinator.Healthy build past) ?_ ?_ events fresh
  · exact fun _ => ⟨[], ∅, ∅, rfl, CoordinatorState.sane_new⟩
  · exact fun _ _ event healthy freshNow => (healthy freshNow.of_append).step event freshNow

end Coordinator

end Sp1Cluster
