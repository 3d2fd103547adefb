import Sp1Cluster.Subscriptions.Relaying

/-!
# No subscriber waits for nothing

A subscription that has returned leaves, for every task it names, one of three
things: the subscriber is in the set of an unfinished task, a running
notification still has to tell it, or it has been sent a message about the task.
No event takes the last of the three away as long as the subscriber stays
registered. A second invariant says that every channel a message was sent to was
the subscriber's own when it was read.
-/

set_option autoImplicit false

namespace Sp1Cluster

/-! ## The section of a subscription serves every task it names -/

namespace CoordinatorState

variable {P : Type} {state : CoordinatorState P} {subId proofId taskId : String}
  {channel : Channel} {key : TaskKey}

/-- A subscriber waits for a task or has been answered. -/
def Attended (state : CoordinatorState P) (subId : String) (channel : Channel) (key : TaskKey) :
    Prop :=
  state.Waits subId key ∨
    ∃ message : SubMessage, message.taskId = key.2 ∧ (subId, channel, message) ∈ state.heard .sends

theorem sends_emit (message : SubMessage) :
    (state.emit (.toSubscriber subId channel message)).heard .sends =
      state.heard .sends ++ [(subId, channel, message)] := by
  simp [heard, emit, Listener.all, Listener.sends]

theorem subscribeTask_attends (taskId : String) :
    (subscribeTask subId proofId channel state taskId).Attended subId channel
      (proofId, taskId) := by
  unfold subscribeTask
  split
  · refine .inr ⟨.unknownTask proofId taskId, rfl, ?_⟩
    rw [sends_emit]
    exact List.mem_append_right _ (List.mem_singleton_self _)
  · next task got =>
    have inTable : taskOf state.proofs (proofId, taskId) = some task := got
    obtain ⟨proof, found, stored⟩ := taskOf.exists_of_eq_some inTable
    split
    · refine .inr ⟨.taskResult taskId task.status, rfl, ?_⟩
      rw [sends_emit]
      exact List.mem_append_right _ (List.mem_singleton_self _)
    · next unfinished =>
      refine .inl ⟨_, (taskOf_modifyTask found stored _ _).trans (if_pos rfl), ?_, ?_⟩
      · simp [Task.unfinished, unfinished]
      · exact (KeySet.mem_add _ _ _).mpr (.inl rfl)

theorem Attended.subscribeTask {otherId otherProof : String} {otherChannel : Channel}
    (attended : state.Attended subId channel key) (other : String) :
    (subscribeTask otherId otherProof otherChannel state other).Attended subId channel key := by
  unfold CoordinatorState.subscribeTask
  have emitted : ∀ message, (state.emit (.toSubscriber otherId otherChannel message)).Attended
      subId channel key := by
    intro message
    rcases attended with waits | ⟨answer, about, sent⟩
    · exact .inl waits
    · refine .inr ⟨answer, about, ?_⟩
      rw [sends_emit]
      exact List.mem_append_left _ sent
  split
  · exact emitted _
  · next task got =>
    have inTable : taskOf state.proofs (otherProof, other) = some task := got
    obtain ⟨proof, found, stored⟩ := taskOf.exists_of_eq_some inTable
    split
    · exact emitted _
    · rcases attended with ⟨record, there, unfinished, subscribed⟩ | answered
      · left
        unfold Waits
        rw [taskOf_modifyTask found stored]
        split
        · next same =>
          obtain rfl : task = record :=
            Option.some.inj (inTable.symm.trans (same ▸ there))
          exact ⟨_, rfl, unfinished, (KeySet.mem_add _ _ _).mpr (.inr subscribed)⟩
        · exact ⟨record, there, unfinished, subscribed⟩
      · exact .inr answered

theorem Attended.addSubscriptions {otherId otherProof : String} {otherChannel : Channel}
    (attended : state.Attended subId channel key) (taskIds : List String) :
    (state.addSubscriptions otherId otherProof otherChannel taskIds).Attended subId channel
      key := by
  unfold CoordinatorState.addSubscriptions
  split
  · exact List.foldlRecOn (motive := fun next : CoordinatorState P =>
      next.Attended subId channel key) _ _ attended fun _ attended other _ =>
        attended.subscribeTask other
  · rcases attended with waits | ⟨answer, about, sent⟩
    · exact .inl waits
    · refine .inr ⟨answer, about, ?_⟩
      rw [heard_emitAll]
      exact List.mem_append_left _ sent

/-- **A subscription attends to every task it names.** -/
theorem addSubscriptions_attends {taskIds : List String} (named : taskId ∈ taskIds) :
    (state.addSubscriptions subId proofId channel taskIds).Attended subId channel
      (proofId, taskId) := by
  unfold addSubscriptions
  split
  · obtain ⟨earlier, later, rfl⟩ := List.append_of_mem named
    rw [List.foldl_append, List.foldl_cons]
    exact List.foldlRecOn (motive := fun next : CoordinatorState P =>
      next.Attended subId channel (proofId, taskId)) _ _ (subscribeTask_attends taskId)
      fun _ attended other _ => attended.subscribeTask other
  · refine .inr ⟨.unknownTask proofId taskId, rfl, ?_⟩
    rw [heard_emitAll]
    refine List.mem_append_right _ (List.mem_flatMap.mpr
      ⟨_, List.mem_map.mpr ⟨taskId, named, rfl⟩, List.mem_singleton_self _⟩)

end CoordinatorState

/-! ## What a subscriber is owed -/

namespace Coordinator

variable {P : Type} {coordinator before after : Coordinator P} {subId : String} {key : TaskKey}

/-- A running notification still has to tell a subscriber about a task. -/
def Pending (coordinator : Coordinator P) (subId : String) (key : TaskKey) : Prop :=
  ∃ notification ∈ coordinator.notifying, subId ∈ notification.subscribers ∧
    notification.proofId = key.1 ∧ notification.taskId = key.2

/-- A subscriber has been sent a message about a task, after the first `since`
messages. -/
def Sent (coordinator : Coordinator P) (since : ℕ) (subId taskId : String) : Prop :=
  ∃ delivery ∈ coordinator.deliveries.drop since,
    delivery.subId = subId ∧ delivery.message.taskId = taskId

/-- A subscriber waits for a task, is about to be told or has been told. -/
inductive Owed (coordinator : Coordinator P) (since : ℕ) (subId : String) (key : TaskKey) : Prop
  | waits (waits : coordinator.state.Waits subId key)
  | pending (pending : coordinator.Pending subId key)
  | sent (sent : coordinator.Sent since subId key.2)

section Relayed

variable {readAt since : ℕ} {told : List Notice} {direct : List (String × Channel × SubMessage)}

variable (relays : Relays readAt told direct before after)
include relays

theorem Relays.length_le : before.deliveries.length ≤ after.deliveries.length := by
  obtain ⟨recent, appended, -⟩ := relays.deliveries
  rw [appended, List.length_append]
  exact Nat.le_add_right _ _

theorem Relays.sent {taskId : String} (sent : before.Sent since subId taskId) :
    after.Sent since subId taskId := by
  obtain ⟨recent, appended, -⟩ := relays.deliveries
  obtain ⟨delivery, delivered, about⟩ := sent
  refine ⟨delivery, ?_, about⟩
  rw [appended, List.drop_append]
  exact List.mem_append_left _ delivered

theorem Relays.owed (owed : before.Owed since subId key) : after.Owed since subId key := by
  cases owed with
  | waits waits => exact .waits (relays.state ▸ waits)
  | pending pending =>
    obtain ⟨notification, running, about⟩ := pending
    exact .pending ⟨notification, relays.notifying ▸ running, about⟩
  | sent sent => exact .sent (relays.sent sent)

theorem Relays.sent_of_recent (started : since ≤ before.deliveries.length) {delivery : Delivery}
    (relayed : (∃ notice ∈ told, before.Reports notice delivery) ∨
      (∃ message ∈ direct, delivery = Coordinator.direct readAt message)) :
    after.Sent since delivery.subId delivery.message.taskId := by
  obtain ⟨recent, appended, recentIff⟩ := relays.deliveries
  refine ⟨delivery, ?_, rfl, rfl⟩
  rw [appended, List.drop_append_of_le_length started]
  exact List.mem_append_right _ ((recentIff delivery).mpr relayed)

/-- A subscriber that is registered receives what it is told. -/
theorem Relays.sent_of_told (started : since ≤ before.deliveries.length)
    (registered : subId ∈ before.subscribers) (tells : CoordinatorState.Told told subId key) :
    after.Sent since subId key.2 := by
  obtain ⟨status, notice⟩ := tells
  obtain ⟨sub, found⟩ := Table.exists_lookup registered
  have report : before.Reports ⟨subId, key.1, key.2, status⟩
      ⟨subId, sub.tx, .taskResult key.2 status, before.time⟩ :=
    ⟨by rw [found]; rfl, rfl, rfl, rfl⟩
  exact relays.sent_of_recent started (.inl ⟨_, notice, report⟩)

theorem Relays.sent_of_direct (started : since ≤ before.deliveries.length) {channel : Channel}
    {message : SubMessage} (sends : (subId, channel, message) ∈ direct) :
    after.Sent since subId message.taskId :=
  relays.sent_of_recent started (.inr ⟨_, sends, rfl⟩)

end Relayed

theorem exists_notification {effects : List Effect}
    (told : CoordinatorState.Told (Listener.notices.all effects) subId key) :
    ∃ notification ∈ effects.filterMap Effect.notification, subId ∈ notification.subscribers ∧
      notification.proofId = key.1 ∧ notification.taskId = key.2 := by
  obtain ⟨status, heard⟩ := told
  obtain ⟨effect, member, heardThere⟩ := List.mem_flatMap.mp heard
  cases effect with
  | notifySubscribers subscribers proofId taskId told =>
    obtain ⟨other, subscribed, same⟩ := List.mem_map.mp heardThere
    cases same
    exact ⟨_, List.mem_filterMap.mpr ⟨_, member, rfl⟩, subscribed, rfl, rfl⟩
  | _ => cases heardThere

section Steps

variable [LawfulPolicy P] {build : Build} {past : List ServiceEvent} {since : ℕ}

omit [LawfulPolicy P] in
theorem Owed.of_same (owed : before.Owed since subId key) (state : after.state = before.state)
    (notifying : after.notifying = before.notifying)
    (deliveries : after.deliveries = before.deliveries) : after.Owed since subId key := by
  cases owed with
  | waits waits => exact .waits (state ▸ waits)
  | pending pending =>
    obtain ⟨notification, running, about⟩ := pending
    exact .pending ⟨notification, notifying ▸ running, about⟩
  | sent sent =>
    obtain ⟨delivery, delivered, about⟩ := sent
    exact .sent ⟨delivery, deliveries ▸ delivered, about⟩

theorem length_le_step (build : Build) (coordinator : Coordinator P) (event : ServiceEvent) :
    coordinator.deliveries.length ≤ (coordinator.step build event).deliveries.length := by
  change _ ≤ (coordinator.apply build event).deliveries.length
  cases turn_apply build coordinator event with
  | registry state notifying deliveries => rw [deliveries]
  | call unsubscribing relays => exact relays.length_le
  | subscribe running relays => exact relays.length_le
  | notify running next relays => exact relays.length_le

/-- A call keeps the subscriber waiting, tells it under the lock, or leaves it to
a notification. -/
theorem waits_exec (waits : coordinator.state.Waits subId key) {event : Event}
    (unsubscribing : event.call.subscribes = false) (healthy : coordinator.Healthy build past)
    (fresh : ServiceEvent.FreshIds (past ++ [.call event]))
    (clock : ∀ read, 0 ≤ event.env.clock read) :
    (coordinator.state.clearOutbox.exec build event.env event.call).state.Waits subId key ∨
      CoordinatorState.Told
        ((coordinator.state.clearOutbox.exec build event.env event.call).state.heard .notices)
        subId key ∨
      CoordinatorState.Told (Listener.notices.all
        (coordinator.state.clearOutbox.exec build event.env event.call).after) subId key := by
  have asks : coordinator.asks (.call event) = some event := by
    simp [Coordinator.asks, unsubscribing]
  obtain ⟨calls, transit, issued, drawnBefore, sane⟩ := healthy
  obtain ⟨freshCalls, -⟩ := fresh_asked drawnBefore fresh asks
  have drawn : ∀ taskId, event.drawn = some taskId → taskId ∉ issued :=
    fun taskId drawn member => freshCalls.drawn_fresh drawn (sane.issued_drawn taskId member)
  have waiting : coordinator.state.clearOutbox.Waits subId key := waits
  have sound : (coordinator.state.clearOutbox.board transit issued).Sound build := sane.sound
  have filed : LawfulPolicy.Filed coordinator.state.clearOutbox.policy := sane.filed
  rcases CoordinatorState.exec_wakes filed sound event drawn clock waiting with
    waits | ⟨status, notice⟩
  · exact .inl waits
  · rcases List.mem_append.mp notice with underLock | later
    · exact .inr (.inl ⟨status, underLock⟩)
    · exact .inr (.inr ⟨status, later⟩)

omit [LawfulPolicy P] in
theorem Pending.notify {index position : ℕ} {notification : Notification} {told : String}
    (pending : coordinator.Pending subId key)
    (running : coordinator.notifying[index]? = some notification)
    (next : notification.subscribers[position]? = some told) :
    CoordinatorState.Told
        [⟨told, notification.proofId, notification.taskId, notification.status⟩] subId key ∨
      Pending { coordinator with
        notifying := coordinator.notifying.set index
          { notification with subscribers := notification.subscribers.eraseIdx position } }
        subId key := by
  obtain ⟨other, listed, subscribed, proofId, taskId⟩ := pending
  obtain ⟨place, there⟩ := List.mem_iff_getElem?.mp listed
  by_cases here : index = place
  · obtain rfl : notification = other := Option.some.inj (running.symm.trans (here ▸ there))
    by_cases isTold : subId = told
    · refine .inl ⟨notification.status, ?_⟩
      rw [← proofId, ← taskId, isTold]
      exact List.mem_singleton_self _
    · have inside : index < coordinator.notifying.length :=
        (List.getElem?_eq_some_iff.mp running).1
      refine .inr ⟨_, List.mem_set inside _, ?_, proofId, taskId⟩
      obtain ⟨turn, listed⟩ := List.mem_iff_getElem?.mp subscribed
      refine List.mem_eraseIdx_iff_getElem?.mpr ⟨turn, ?_, listed⟩
      rintro rfl
      exact isTold (Option.some.inj (listed.symm.trans next))
  · refine .inr ⟨other, List.mem_iff_getElem?.mpr ⟨place, ?_⟩, subscribed, proofId, taskId⟩
    rw [List.getElem?_set_ne here]
    exact there

/-- **No event loses what a registered subscriber is owed.** -/
theorem Owed.step (owed : coordinator.Owed since subId key) (event : ServiceEvent)
    (healthy : coordinator.Healthy build past) (fresh : ServiceEvent.FreshIds (past ++ [event]))
    (clock : event.AfterEpoch) (started : since ≤ coordinator.deliveries.length)
    (registered : subId ∈ coordinator.subscribers) :
    (coordinator.step build event).Owed since subId key := by
  suffices applied : (coordinator.apply build event).Owed since subId key from
    applied.of_same rfl rfl rfl
  cases turn_apply build coordinator event with
  | registry state notifying deliveries => exact owed.of_same state notifying deliveries
  | call unsubscribing relays =>
    cases owed with
    | waits waits =>
      rcases waits_exec waits unsubscribing healthy fresh clock with waits | told | later
      · exact relays.owed (.waits waits)
      · exact .sent (relays.sent_of_told started registered told)
      · obtain ⟨notification, left, about⟩ := exists_notification later
        exact relays.owed (.pending ⟨notification, List.mem_append_right _ left, about⟩)
    | pending pending =>
      obtain ⟨notification, running, about⟩ := pending
      exact relays.owed (.pending ⟨notification, List.mem_append_left _ running, about⟩)
    | sent sent => exact .sent (relays.sent sent)
  | @subscribe _ request running relays =>
    cases owed with
    | waits waits =>
      have attended : coordinator.state.clearOutbox.Attended subId request.channel key :=
        .inl waits
      rcases attended.addSubscriptions request.taskIds with waits | ⟨message, about, sent⟩
      · exact relays.owed (.waits waits)
      · exact .sent (about ▸ relays.sent_of_direct started sent)
    | pending pending => exact relays.owed (.pending pending)
    | sent sent => exact .sent (relays.sent sent)
  | notify running next relays =>
    cases owed with
    | waits waits => exact relays.owed (.waits waits)
    | pending pending =>
      rcases pending.notify running next with told | pending
      · exact .sent (relays.sent_of_told started registered told)
      · exact relays.owed (.pending pending)
    | sent sent => exact .sent (relays.sent sent)

/-- What a subscription leaves behind. -/
theorem owed_subscribe {index : ℕ} {request : Subscription}
    (running : coordinator.subscribing[index]? = some request) {taskId : String}
    (named : taskId ∈ request.taskIds) :
    (coordinator.step build (.subscribe index)).Owed coordinator.deliveries.length request.subId
      (request.proofId, taskId) := by
  suffices applied : (coordinator.subscribe index).Owed coordinator.deliveries.length
    request.subId (request.proofId, taskId) from applied.of_same rfl rfl rfl
  have relays := relays_subscribe running
  have attended : (coordinator.state.clearOutbox.addSubscriptions request.subId request.proofId
      request.channel request.taskIds).Attended request.subId request.channel
      (request.proofId, taskId) := CoordinatorState.addSubscriptions_attends named
  rcases attended with waits | ⟨message, about, sent⟩
  · exact relays.owed (.waits waits)
  · have received := relays.sent_of_direct le_rfl sent
    rw [about] at received
    exact .sent received

/-- **What a subscription leaves behind stays** as long as the subscriber is
registered. -/
theorem reach_owed {index : ℕ} {request : Subscription} {future : List ServiceEvent}
    {taskId : String}
    (fresh : ServiceEvent.FreshIds (past ++ .subscribe index :: future))
    (clock : ∀ event ∈ past ++ .subscribe index :: future, event.AfterEpoch)
    (running : (reach P build past).subscribing[index]? = some request)
    (named : taskId ∈ request.taskIds)
    (registered : ∀ between later, future = between ++ later →
      request.subId ∈ (reach P build (past ++ .subscribe index :: between)).subscribers) :
    (reach P build past).deliveries.length ≤
        (reach P build (past ++ .subscribe index :: future)).deliveries.length ∧
      (reach P build (past ++ .subscribe index :: future)).Owed
        (reach P build past).deliveries.length request.subId (request.proofId, taskId) := by
  induction future using List.reverseRecOn with
  | nil =>
    have stepped : reach P build (past ++ [.subscribe index]) =
        (reach P build past).step build (.subscribe index) := Systems.run_snoc _ _ _ _
    rw [stepped]
    exact ⟨length_le_step .., owed_subscribe running named⟩
  | append_singleton between event ih =>
    have regrouped : past ++ .subscribe index :: (between ++ [event]) =
        (past ++ .subscribe index :: between) ++ [event] := by simp
    have stepped : reach P build ((past ++ .subscribe index :: between) ++ [event]) =
        (reach P build (past ++ .subscribe index :: between)).step build event :=
      Systems.run_snoc _ _ _ _
    rw [regrouped] at fresh clock ⊢
    obtain ⟨started, owed⟩ := ih fresh.of_append
      (fun earlier member => clock earlier (List.mem_append_left _ member))
      (fun first later split => registered first (later ++ [event]) (by simp [split]))
    rw [stepped]
    exact ⟨started.trans (length_le_step ..),
      owed.step event (reach_healthy _ fresh.of_append) fresh
        (clock event (List.mem_append_right _ (List.mem_singleton_self _))) started
        (registered between [event] rfl)⟩

end Steps

/-! ## The channels that messages are sent to -/

section Channels

variable [LawfulPolicy P] {build : Build} {past : List ServiceEvent}

/-- A channel was the subscriber's own after so many events. -/
def RegisteredAt (P : Type) [AssignmentPolicy P] (build : Build) (events : List ServiceEvent)
    (subId : String) (channel : Channel) (readAt : ℕ) : Prop :=
  readAt ≤ events.length ∧ (reach P build (events.take readAt)).channelOf subId = some channel

theorem RegisteredAt.snoc {channel : Channel} {readAt : ℕ}
    (registered : RegisteredAt P build past subId channel readAt) (event : ServiceEvent) :
    RegisteredAt P build (past ++ [event]) subId channel readAt := by
  obtain ⟨inside, channel⟩ := registered
  refine ⟨inside.trans (by simp), ?_⟩
  rw [List.take_append_of_le_length inside]
  exact channel

/-- Every channel that a message was sent to, or that a running subscription
holds, was read from the registry. -/
structure Honest (build : Build) (past : List ServiceEvent) (coordinator : Coordinator P) :
    Prop where
  time : coordinator.time = past.length
  delivered : ∀ delivery ∈ coordinator.deliveries,
    RegisteredAt P build past delivery.subId delivery.channel delivery.readAt
  requested : ∀ request ∈ coordinator.subscribing,
    RegisteredAt P build past request.subId request.channel request.readAt

theorem Honest.registeredAt (honest : (reach P build past).Honest build past)
    (event : ServiceEvent) {channel : Channel}
    (registered : (reach P build past).channelOf subId = some channel) :
    RegisteredAt P build (past ++ [event]) subId channel (reach P build past).time := by
  rw [honest.time]
  refine RegisteredAt.snoc ⟨le_rfl, ?_⟩ event
  rw [List.take_length]
  exact registered

theorem Honest.delivered_apply (honest : (reach P build past).Honest build past)
    (event : ServiceEvent) :
    ∀ delivery ∈ ((reach P build past).apply build event).deliveries,
      RegisteredAt P build (past ++ [event]) delivery.subId delivery.channel delivery.readAt := by
  have soFar := fun delivery delivered => (honest.delivered delivery delivered).snoc event
  have reported : ∀ {notice : Notice} {delivery : Delivery},
      (reach P build past).channelOf notice.subId = some delivery.channel →
      delivery.subId = notice.subId → delivery.readAt = (reach P build past).time →
      RegisteredAt P build (past ++ [event]) delivery.subId delivery.channel delivery.readAt := by
    intro notice delivery channel subId readAt
    rw [subId, readAt]
    exact honest.registeredAt event channel
  cases turn_apply build (reach P build past) event with
  | registry state notifying deliveries =>
    rw [deliveries]
    exact soFar
  | call unsubscribing relays =>
    exact relays.forall_delivered soFar
      (fun _ _ _ report => reported report.channel report.subId report.readAt)
      (fun _ member => (List.not_mem_nil member).elim)
  | @subscribe index request running relays =>
    refine relays.forall_delivered soFar (fun _ member => (List.not_mem_nil member).elim) ?_
    intro answer sent
    have requested := (honest.requested request (List.mem_of_getElem? running)).snoc
      (.subscribe index)
    rcases CoordinatorState.sends_addSubscriptions sent with before | answers
    · cases before
    · cases answers <;> exact requested
  | notify running next relays =>
    exact relays.forall_delivered soFar
      (fun _ _ _ report => reported report.channel report.subId report.readAt)
      (fun _ member => (List.not_mem_nil member).elim)

/-- A subscription that starts holds the channel it has just read; no event
changes the one that a running subscription holds. -/
theorem Honest.requested_apply (honest : (reach P build past).Honest build past)
    (event : ServiceEvent) :
    ∀ request ∈ ((reach P build past).apply build event).subscribing,
      RegisteredAt P build (past ++ [event]) request.subId request.channel request.readAt := by
  have soFar := fun request running => (honest.requested request running).snoc event
  cases event with
  | call event =>
    cases subscribes : event.call.subscribes with
    | false =>
      change ∀ request ∈ ((reach P build past).call build event).subscribing, _
      rw [(relays_call build subscribes _).subscribing]
      exact soFar
    | true =>
      have unchanged : (reach P build past).apply build (.call event) = reach P build past :=
        if_pos subscribes
      rw [unchanged]
      exact soFar
  | subscribe index =>
    change ∀ request ∈ ((reach P build past).subscribe index).subscribing, _
    cases running : (reach P build past).subscribing[index]? with
    | none =>
      unfold Coordinator.subscribe
      rw [running]
      exact soFar
    | some request =>
      rw [(relays_subscribe running).subscribing]
      exact fun other member => soFar other (List.mem_of_mem_eraseIdx member)
  | addSubscriptions subId taskIds now =>
    simp only [apply, addSubscriptions]
    split
    · exact soFar
    · next sub found =>
      intro request member
      split at member
      · exact soFar request member
      · rcases List.mem_append.mp member with before | started
        · exact soFar request before
        · obtain rfl := List.mem_singleton.mp started
          refine honest.registeredAt _ ?_
          rw [channelOf, found]
          rfl
  | notify index position =>
    simp only [apply, Coordinator.notify]
    split
    · exact soFar
    · split
      · exact soFar
      · rw [(relays_notifySubscriber 0 "" _ _ _ _).subscribing]
        exact soFar
  | createSubscriber subId proofId channel now =>
    simp only [apply, createSubscriber]
    split <;> exact soFar
  | insertSubscriber index =>
    simp only [apply, insertSubscriber]
    split <;> exact soFar
  | cleanupDeadSubscriber subId now =>
    simp only [apply, cleanupDeadSubscriber]
    split
    · exact soFar
    · split <;> exact soFar

theorem reach_honest (events : List ServiceEvent) :
    (reach P build events).Honest build events := by
  induction events using List.reverseRecOn with
  | nil =>
    exact ⟨rfl, fun _ member => (List.not_mem_nil member).elim,
      fun _ member => (List.not_mem_nil member).elim⟩
  | append_singleton past event ih =>
    have stepped : reach P build (past ++ [event]) = (reach P build past).step build event :=
      Systems.run_snoc _ _ _ _
    rw [stepped]
    refine ⟨?_, ih.delivered_apply event, ih.requested_apply event⟩
    rw [List.length_append, ← ih.time]
    rfl

end Channels

/-! ## Every subscription is answered -/

/-- At every moment after a subscription that has returned, while the subscriber
stays registered: the task is stored and unfinished with the subscriber in its
set, or a running notification still has to tell the subscriber, or the
subscriber has since been sent a message about the task, on a channel that was
its own when the sender read it. -/
def NoLostWakeup (P : Type) [AssignmentPolicy P] (build : Build) (events : List ServiceEvent) :
    Prop :=
  ∀ {past future : List ServiceEvent} {index : ℕ} {request : Subscription} {taskId : String},
    events = past ++ .subscribe index :: future →
    (reach P build past).subscribing[index]? = some request → taskId ∈ request.taskIds →
    (∀ between later, future = between ++ later →
      request.subId ∈ (reach P build (past ++ .subscribe index :: between)).subscribers) →
    (∃ task, (reach P build events).state.getTask request.proofId taskId = some task ∧
        task.status ≠ .succeeded ∧ task.status ≠ .failedFatal ∧
        request.subId ∈ task.subscribers) ∨
      (∃ notification ∈ (reach P build events).notifying,
        request.subId ∈ notification.subscribers ∧ notification.proofId = request.proofId ∧
          notification.taskId = taskId) ∨
      ∃ delivery ∈ (reach P build events).deliveries.drop (reach P build past).deliveries.length,
        delivery.subId = request.subId ∧ delivery.message.taskId = taskId ∧
          (reach P build (events.take delivery.readAt)).channelOf request.subId =
            some delivery.channel

theorem reach_noLostWakeup [LawfulPolicy P] {build : Build} {events : List ServiceEvent}
    (fresh : ServiceEvent.FreshIds events) (clock : ∀ event ∈ events, event.AfterEpoch) :
    NoLostWakeup P build events := by
  rintro past future index request taskId rfl running named registered
  obtain ⟨-, owed⟩ := reach_owed fresh clock running named registered
  cases owed with
  | waits waits =>
    obtain ⟨task, stored, unfinished, subscribed⟩ := waits
    obtain ⟨notSucceeded, notFatal⟩ := (CoordinatorState.unfinished_iff task).mp unfinished
    exact .inl ⟨task, stored, notSucceeded, notFatal, subscribed⟩
  | pending pending => exact .inr (.inl pending)
  | sent sent =>
    obtain ⟨delivery, recent, subId, about⟩ := sent
    refine .inr (.inr ⟨delivery, recent, subId, about, ?_⟩)
    rw [← subId]
    exact ((reach_honest _).delivered delivery (List.mem_of_mem_drop recent)).2

end Coordinator

/-- A subscriber asks for two tasks of a proof and reconnects before the first of
them is completed; the notification is sent last. -/
def reconnected : List ServiceEvent :=
  oneProof.map .call ++
    [.createSubscriber "s" "p" 1 0, .insertSubscriber 0, .addSubscriptions "s" ["t", "u"] 0,
      .subscribe 0, .createSubscriber "s" "p" 2 0,
      .call ((Call.completeTask "w" "p" "t" ⟨0⟩).plain ""), .notify 0 0]

end Sp1Cluster
