import Sp1Cluster.Coordinator.LifeCycle
import Sp1Cluster.Coordinator.Verdicts
import Sp1Cluster.Subscriptions.Relaying

/-!
# Subscribers are not told contradictory outcomes

What has been said about a task, or is about to be said by a running
notification, is one final status, and a task that is still stored has it. The
invariant survives every event except one: a completion that arrives for a task
that has failed fatally. `fail_task` tells the subscribers and leaves them in the
task's set, and `complete_task` takes the set and tells them the opposite; a run
at the end of the module does so.
-/

set_option autoImplicit false

namespace Sp1Cluster

namespace Coordinator

variable {P : Type} {coordinator before after : Coordinator P}

/-- A status of a task that a message carries, or that a running notification is
about to send. -/
inductive Claims (coordinator : Coordinator P) (taskId : String) (status : TaskStatus) : Prop
  | sent {delivery : Delivery} (delivered : delivery ∈ coordinator.deliveries)
      (message : delivery.message = .taskResult taskId status)
  | pending {notification : Notification} {subId : String}
      (running : notification ∈ coordinator.notifying)
      (listed : subId ∈ notification.subscribers) (task : notification.taskId = taskId)
      (verdict : notification.status = status)

/-- What an event says for the first time: the task was stored and unfinished, or
finished with this status, and has it after the event if it is stored then. -/
structure Announces (before after : CoordinatorState P) (taskId : String) (status : TaskStatus) :
    Prop where
  final : status.isFinal = true
  known : ∃ proofId task, taskOf before.proofs (proofId, taskId) = some task ∧
    (task.unfinished = true ∨ task.status = status) ∧
    ∀ {task' : Task}, taskOf after.proofs (proofId, taskId) = some task' → task'.status = status

/-- The statuses an event says for the first time. -/
structure News (before after : Coordinator P) (news : String → TaskStatus → Prop) : Prop where
  new : ∀ {taskId : String} {status : TaskStatus}, after.Claims taskId status →
    before.Claims taskId status ∨ news taskId status
  unique : ∀ {taskId : String} {status status' : TaskStatus}, news taskId status →
    news taskId status' → status = status'
  announces : ∀ {taskId : String} {status : TaskStatus}, news taskId status →
    Announces before.state after.state taskId status

theorem news_of_same (notifying : after.notifying = before.notifying)
    (deliveries : after.deliveries = before.deliveries) : News before after fun _ _ => False where
  new claims := by
    cases claims with
    | sent delivered message => exact .inl (.sent (deliveries ▸ delivered) message)
    | pending running listed task verdict =>
      exact .inl (.pending (notifying ▸ running) listed task verdict)
  unique := False.elim
  announces := False.elim

theorem Relays.claims {readAt : ℕ} {told : List Notice}
    {direct : List (String × Channel × SubMessage)}
    (relays : Relays readAt told direct before after) {taskId : String} {status : TaskStatus}
    (claims : after.Claims taskId status) :
    before.Claims taskId status ∨
      (∃ notice ∈ told, notice.taskId = taskId ∧ notice.status = status) ∨
      ∃ subId channel, (subId, channel, SubMessage.taskResult taskId status) ∈ direct := by
  cases claims with
  | pending running listed task verdict =>
    exact .inl (.pending (relays.notifying ▸ running) listed task verdict)
  | sent delivered message =>
    obtain ⟨recent, appended, recentIff⟩ := relays.deliveries
    rw [appended, List.mem_append] at delivered
    rcases delivered with earlier | new
    · exact .inl (.sent earlier message)
    · rcases (recentIff _).mp new with ⟨notice, member, report⟩ | ⟨sent, member, rfl⟩
      · have carried := report.message.symm.trans message
        injection carried with task verdict
        exact .inr (.inl ⟨notice, member, task, verdict⟩)
      · obtain ⟨subId, channel, carried⟩ := sent
        obtain rfl : carried = .taskResult taskId status := message
        exact .inr (.inr ⟨subId, channel, member⟩)

theorem exists_notice {effects : List Effect} {notification : Notification} {subId : String}
    (left : notification ∈ effects.filterMap Effect.notification)
    (listed : subId ∈ notification.subscribers) :
    ∃ notice ∈ Listener.notices.all effects, notice.taskId = notification.taskId ∧
      notice.status = notification.status := by
  obtain ⟨effect, member, kept⟩ := List.mem_filterMap.mp left
  cases effect with
  | notifySubscribers subscribers proofId taskId status =>
    cases kept
    exact ⟨⟨subId, proofId, taskId, status⟩, List.mem_flatMap.mpr
      ⟨_, member, List.mem_map.mpr ⟨subId, listed, rfl⟩⟩, rfl, rfl⟩
  | _ => cases kept

/-- A completion does not arrive for a task that is stored as failed fatally. -/
def Timely (coordinator : Coordinator P) : ServiceEvent → Prop
  | .call ⟨_, .completeTask _ proofId taskId _⟩ =>
    ∀ task ∈ coordinator.state.getTask proofId taskId, task.status ≠ .failedFatal
  | _ => True

instance (coordinator : Coordinator P) (event : ServiceEvent) :
    Decidable (coordinator.Timely event) := by
  unfold Timely
  split <;> infer_instance

theorem Timely.completed {build : Build} {event : Event}
    (timely : coordinator.Timely (.call event)) :
    ∀ key ∈ (event.call.inputs build).completed, ∀ task,
      taskOf coordinator.state.proofs key = some task → task.status ≠ .failedFatal := by
  obtain ⟨env, call⟩ := event
  cases call with
  | completeTask workerId proofId taskId metadata =>
    rintro key rfl
    exact timely
  | _ => exact fun key reported => (Set.notMem_empty key reported).elim

section Steps

variable [LawfulPolicy P] {build : Build} {past : List ServiceEvent} {calls : List Event}
  {transit : Set TaskKey} {issued : Set String}

/-- The calls that have led to the coordinator's state, with what is known of its
board. -/
structure Stage (build : Build) (past : List ServiceEvent) (coordinator : Coordinator P)
    (calls : List Event) (transit : Set TaskKey) (issued : Set String) : Prop where
  drawn : calls.filterMap Event.drawn = past.filterMap ServiceEvent.drawn
  sane : coordinator.state.Sane build calls transit issued
  tidy : (coordinator.state.board transit issued).Tidy

theorem Stage.step (stage : coordinator.Stage build past calls transit issued)
    {event : ServiceEvent} (fresh : ServiceEvent.FreshIds (past ++ [event]))
    (timely : coordinator.Timely event) :
    ∃ calls' transit' issued',
      (coordinator.step build event).Stage build (past ++ [event]) calls' transit' issued' ∧
      (coordinator.state.board transit issued).Evolves (fun _ => True)
        ((coordinator.step build event).state.board transit' issued') ∧
      ∀ {taskId : String} {status : TaskStatus}, status.isFinal = true →
        (coordinator.state.board transit issued).Verdict Inputs.none taskId status →
        ((coordinator.step build event).state.board transit' issued').Verdict Inputs.none taskId
          status := by
  have state := coordinator.state_step build event
  cases asks : coordinator.asks event with
  | none =>
    have here := coordinator.drawn_asks event
    rw [asks] at here state
    have undrawn : event.drawn = none := here.symm
    refine ⟨calls, transit, issued, ⟨?_, state ▸ stage.sane, state ▸ stage.tidy⟩, ?_, ?_⟩
    · simp [List.filterMap_append, stage.drawn, undrawn]
    · rw [state]
      exact .refl _ _
    · intro taskId status final verdict
      rw [state]
      exact verdict
  | some asked =>
    rw [asks] at state
    obtain ⟨freshCalls, drawn⟩ := fresh_asked stage.drawn fresh asks
    obtain ⟨transit', issued', sane, performs⟩ := stage.sane.step asked freshCalls
    have timelyCall : ∀ key ∈ (asked.call.inputs build).completed, ∀ task,
        taskOf coordinator.state.proofs key = some task → task.status ≠ .failedFatal := by
      cases event with
      | call event =>
        simp only [Coordinator.asks] at asks
        split at asks
        · cases asks
        · cases asks
          exact timely.completed
      | subscribe index =>
        obtain ⟨request, -, rfl⟩ := Option.map_eq_some_iff.mp asks
        exact fun key reported => (Set.notMem_empty key reported).elim
      | _ => cases asks
    refine ⟨calls ++ [asked], transit', issued', ⟨drawn, state ▸ sane, ?_⟩, ?_, ?_⟩
    · rw [state]
      exact performs.tidy stage.sane.sound stage.tidy
    · rw [state]
      exact (performs.evolves stage.sane.sound).mono fun _ _ => trivial
    · intro taskId status final verdict
      rw [state]
      exact performs.verdict stage.sane.sound verdict final timelyCall

/-- What a call says for the first time. -/
theorem news_call {event : Event} {status : TaskStatus} (final : status.isFinal = true)
    (tells : ∀ notice ∈
      (coordinator.state.clearOutbox.exec build event.env event.call).state.heard .notices ++
        Listener.notices.all (coordinator.state.clearOutbox.exec build event.env event.call).after,
      CoordinatorState.Tells coordinator.state
        (coordinator.state.clearOutbox.exec build event.env event.call).state status notice)
    (relays : RelaysCall build event coordinator after) :
    ∃ news, News coordinator after news := by
  refine ⟨fun taskId said => said = status ∧ ∃ notice, CoordinatorState.Tells coordinator.state
    (coordinator.state.clearOutbox.exec build event.env event.call).state status notice ∧
      notice.taskId = taskId, ?_, ?_, ?_⟩
  · intro taskId said claims
    rcases relays.claims claims with earlier | ⟨notice, heard, task, verdict⟩ |
      ⟨subId, channel, direct⟩
    · cases earlier with
      | sent delivered message => exact .inl (.sent delivered message)
      | pending running listed task verdict =>
        rcases List.mem_append.mp running with before | left
        · exact .inl (.pending before listed task verdict)
        · obtain ⟨notice, later, sameTask, sameStatus⟩ := exists_notice left listed
          have told := tells notice (List.mem_append_right _ later)
          refine .inr ⟨?_, notice, told, sameTask.trans task⟩
          rw [← verdict, ← sameStatus, told.verdict]
    · have told := tells notice (List.mem_append_left _ heard)
      exact .inr ⟨verdict.symm.trans told.verdict, notice, told, task⟩
    · cases direct
  · rintro taskId first second ⟨rfl, -⟩ ⟨rfl, -⟩
    rfl
  · rintro taskId said ⟨rfl, notice, told, rfl⟩
    refine ⟨final, ?_⟩
    obtain ⟨task, stored, -, known⟩ := told.known
    refine ⟨notice.proofId, task, stored, known, ?_⟩
    intro task' storedAfter
    rw [relays.state] at storedAfter
    exact told.record storedAfter

omit [LawfulPolicy P] in
/-- What a subscription says for the first time: the final statuses of its
tasks. -/
theorem news_subscribe {index : ℕ} {request : Subscription}
    (relays : RelaysSubscribe index request coordinator after) :
    ∃ news, News coordinator after news := by
  refine ⟨fun taskId status => status.isFinal = true ∧
    (taskOf coordinator.state.proofs (request.proofId, taskId)).map (·.status) = some status,
    ?_, ?_, ?_⟩
  · intro taskId status claims
    rcases relays.claims claims with earlier | ⟨notice, heard, -⟩ | ⟨subId, channel, direct⟩
    · cases earlier with
      | sent delivered message => exact .inl (.sent delivered message)
      | pending running listed task verdict => exact .inl (.pending running listed task verdict)
    · cases heard
    · rcases CoordinatorState.sends_addSubscriptions direct with before | answers
      · cases before
      · cases answers with
        | result stored final => exact .inr ⟨final, stored⟩
  · rintro taskId first second ⟨-, hasFirst⟩ ⟨-, hasSecond⟩
    exact Option.some.inj (hasFirst.symm.trans hasSecond)
  · rintro taskId status ⟨final, stored⟩
    obtain ⟨task, there, rfl⟩ := Option.map_eq_some_iff.mp stored
    refine ⟨final, request.proofId, task, there, .inr rfl, ?_⟩
    intro task' storedAfter
    have statuses : (taskOf after.state.proofs (request.proofId, taskId)).map (·.status) =
        (taskOf coordinator.state.proofs (request.proofId, taskId)).map (·.status) := by
      rw [relays.state]
      exact CoordinatorState.statuses_addSubscriptions request.taskIds _
    rw [storedAfter, there] at statuses
    exact Option.some.inj statuses

omit [LawfulPolicy P] in
theorem news_notify {index position : ℕ} {notification : Notification} {subId : String}
    (running : coordinator.notifying[index]? = some notification)
    (next : notification.subscribers[position]? = some subId)
    (relays : RelaysNotify index position notification subId coordinator after) :
    ∃ news, News coordinator after news := by
  refine ⟨fun _ _ => False, ?_, False.elim, False.elim⟩
  intro taskId status claims
  left
  rcases relays.claims claims with earlier | ⟨notice, heard, task, verdict⟩ |
    ⟨subId, channel, direct⟩
  · cases earlier with
    | sent delivered message => exact .sent delivered message
    | pending there listed task verdict =>
      rcases List.mem_or_eq_of_mem_set there with before | rfl
      · exact .pending before listed task verdict
      · exact .pending (List.mem_of_getElem? running) (List.mem_of_mem_eraseIdx listed) task
          verdict
  · obtain rfl := List.mem_singleton.mp heard
    exact .pending (List.mem_of_getElem? running) (List.mem_of_getElem? next) task verdict
  · cases direct

/-- **What an event says for the first time** is one status for each task. -/
theorem Stage.news (stage : coordinator.Stage build past calls transit issued)
    {event : ServiceEvent} (timely : coordinator.Timely event) :
    ∃ news, News coordinator (coordinator.apply build event) news := by
  cases turn_apply build coordinator event with
  | registry state notifying deliveries => exact ⟨_, news_of_same notifying deliveries⟩
  | @call event unsubscribing relays =>
    have sound : (coordinator.state.clearOutbox.board transit issued).Sound build :=
      stage.sane.sound
    have tidy : (coordinator.state.clearOutbox.board transit issued).Tidy := stage.tidy
    have filed : LawfulPolicy.Filed coordinator.state.clearOutbox.policy := stage.sane.filed
    obtain ⟨status, final, tells⟩ := CoordinatorState.exec_speaksOnce filed sound rfl tidy event
      unsubscribing timely.completed
    refine news_call final ?_ relays
    intro notice member
    obtain ⟨verdict, known, record⟩ := tells notice member
    exact ⟨verdict, known, record⟩
  | subscribe running relays => exact news_subscribe relays
  | notify running next relays => exact news_notify running next relays

/-- What has been said is final, stands in the record of every task that is still
stored, and is not contradicted. -/
structure Agreed (build : Build) (past : List ServiceEvent) (coordinator : Coordinator P) :
    Prop where
  stands : ∃ calls transit issued, coordinator.Stage build past calls transit issued ∧
    ∀ {taskId : String} {status : TaskStatus}, coordinator.Claims taskId status →
      status.isFinal = true ∧
        (coordinator.state.board transit issued).Verdict Inputs.none taskId status
  agree : ∀ {taskId : String} {status status' : TaskStatus}, coordinator.Claims taskId status →
    coordinator.Claims taskId status' → status = status'

theorem Announces.agrees {before after : CoordinatorState P} {taskId : String}
    {status said : TaskStatus} (announces : Announces before after taskId status)
    (final : said.isFinal = true)
    (verdict : (before.board transit issued).Verdict Inputs.none taskId said) : said = status := by
  obtain ⟨proofId, task, stored, known, -⟩ := announces.known
  have same : task.status = said := verdict.record rfl stored
  rcases known with unfinished | already
  · simp [Task.unfinished, same, final] at unfinished
  · exact same.symm.trans already

theorem Announces.verdict {before after : CoordinatorState P} {transit' : Set TaskKey}
    {issued' : Set String} {taskId : String} {status : TaskStatus}
    (announces : Announces before after taskId status)
    (sound : (before.board transit issued).Sound build)
    (tidy : (before.board transit issued).Tidy)
    (evolves : (before.board transit issued).Evolves (fun _ => True)
      (after.board transit' issued')) :
    (after.board transit' issued').Verdict Inputs.none taskId status := by
  obtain ⟨proofId, task, stored, -, record⟩ := announces.known
  have inTable : (before.board transit issued).task (proofId, taskId) = some task := stored
  have known : taskId ∈ (before.board transit issued).issued := sound.task_issued inTable
  refine ⟨evolves.issued known, ?_, fun _ _ reported => (Set.notMem_empty _ reported).elim⟩
  intro key task' sameId storedAfter
  obtain ⟨was, storedBefore, -⟩ := evolves.ages (sameId ▸ known) storedAfter
  obtain rfl : key = (proofId, taskId) := tidy.distinct sameId storedBefore inTable
  exact record storedAfter

theorem Agreed.step (agreed : coordinator.Agreed build past) {event : ServiceEvent}
    (fresh : ServiceEvent.FreshIds (past ++ [event])) (timely : coordinator.Timely event) :
    (coordinator.step build event).Agreed build (past ++ [event]) := by
  obtain ⟨calls, transit, issued, stage, stands⟩ := agreed.stands
  obtain ⟨calls', transit', issued', stage', evolves, keeps⟩ := stage.step fresh timely
  obtain ⟨news, new, unique, announces⟩ : ∃ news, News coordinator
    (coordinator.apply build event) news := stage.news timely
  have split : ∀ {taskId : String} {status : TaskStatus},
      (coordinator.step build event).Claims taskId status →
      coordinator.Claims taskId status ∨ news taskId status := by
    intro taskId status claims
    refine new ?_
    cases claims with
    | sent delivered message => exact .sent delivered message
    | pending running listed task verdict => exact .pending running listed task verdict
  refine ⟨⟨calls', transit', issued', stage', ?_⟩, ?_⟩
  · intro taskId status claims
    rcases split claims with earlier | first
    · obtain ⟨final, verdict⟩ := stands earlier
      exact ⟨final, keeps final verdict⟩
    · exact ⟨(announces first).final,
        (announces first).verdict stage.sane.sound stage.tidy evolves⟩
  · intro taskId status status' claims claims'
    rcases split claims with earlier | first
    · obtain ⟨final, verdict⟩ := stands earlier
      rcases split claims' with earlier' | first'
      · exact agreed.agree earlier earlier'
      · exact (announces first').agrees final verdict
    · rcases split claims' with earlier' | first'
      · obtain ⟨final', verdict'⟩ := stands earlier'
        exact ((announces first).agrees final' verdict').symm
      · exact unique first first'

theorem reach_agreed {events : List ServiceEvent} (fresh : ServiceEvent.FreshIds events)
    (timely : Systems.Along (step (P := P) build) new Timely events) :
    (reach P build events).Agreed build events := by
  refine Systems.run_invariant (fun past coordinator => ServiceEvent.FreshIds past →
    coordinator.Agreed build past) ?_ ?_ timely fresh
  · intro _
    have unsaid : ∀ {taskId : String} {status : TaskStatus},
        ¬ (new : Coordinator P).Claims taskId status := by
      intro taskId status claims
      cases claims with
      | sent delivered message => cases delivered
      | pending running listed task verdict => cases running
    refine ⟨⟨[], ∅, ∅, ⟨rfl, CoordinatorState.sane_new, ?_, ?_⟩,
      fun claims => (unsaid claims).elim⟩, fun claims => (unsaid claims).elim⟩
    · intro first second task task' sameId stored
      cases stored
    · intro key task stored
      cases stored
  · intro past coordinator event ih timelyNow freshNow
    exact (ih freshNow.of_append).step freshNow timelyNow

end Steps

/-- All results that subscribers have been sent for one task carry the same final
status. -/
def OneVerdict (coordinator : Coordinator P) : Prop :=
  ∀ first ∈ coordinator.deliveries, ∀ second ∈ coordinator.deliveries,
    ∀ {taskId : String} {status status' : TaskStatus},
      first.message = .taskResult taskId status → second.message = .taskResult taskId status' →
      status = status' ∧ (status = .succeeded ∨ status = .failedFatal)

theorem Agreed.oneVerdict [LawfulPolicy P] {build : Build} {past : List ServiceEvent}
    (agreed : coordinator.Agreed build past) : coordinator.OneVerdict := by
  intro first delivered second delivered' taskId status status' message message'
  obtain ⟨calls, transit, issued, stage, stands⟩ := agreed.stands
  refine ⟨agreed.agree (.sent delivered message) (.sent delivered' message'), ?_⟩
  obtain ⟨final, -⟩ := stands (.sent delivered message)
  cases status <;> simp_all [TaskStatus.isFinal]

end Coordinator

/-- **Subscribers are told one outcome of each task**, under both policies, in
every state of a run in which no completion arrives for a task that is stored as
failed fatally. -/
theorem one_verdict_per_task (build : Build) (events : List ServiceEvent)
    (fresh : ServiceEvent.FreshIds events) :
    (Systems.Along (Coordinator.step (P := DefaultPolicy) build) .new Coordinator.Timely events →
      (Coordinator.reach DefaultPolicy build events).OneVerdict) ∧
    (Systems.Along (Coordinator.step (P := BalancedPolicy) build) .new Coordinator.Timely events →
      (Coordinator.reach BalancedPolicy build events).OneVerdict) :=
  ⟨fun timely => (Coordinator.reach_agreed fresh timely).oneVerdict,
    fun timely => (Coordinator.reach_agreed fresh timely).oneVerdict⟩

/-- A GPU worker dies, its task goes to another worker, which reports a fatal
failure; a subscriber is told. -/
def fatalFailure : List ServiceEvent :=
  oneShard.map .call ++
    [.createSubscriber "s" "p" 1 0, .insertSubscriber 0, .addSubscriptions "s" ["u"] 0,
      .subscribe 0, .call ((Call.removeDeadWorkers ["g"]).plain ""),
      .call ((Call.register "h" .gpu 24).plain ""),
      .call ((Call.failTask "h" "p" "u" false).plain ""), .notify 0 0]

/-- The run in which the subscriber is told once that the task has failed. -/
theorem one_verdict_per_task_fatalFailure :
    ServiceEvent.FreshIds fatalFailure ∧
      (Coordinator.reach DefaultPolicy .plain fatalFailure).deliveries =
        [⟨"s", 1, .taskResult "u" .failedFatal, 11⟩] ∧
      (Coordinator.reach DefaultPolicy .plain fatalFailure).OneVerdict ∧
      (Coordinator.reach BalancedPolicy .plain fatalFailure).OneVerdict := by
  have fresh : ServiceEvent.FreshIds fatalFailure := by
    unfold ServiceEvent.FreshIds
    decide
  obtain ⟨default, balanced⟩ := one_verdict_per_task .plain fatalFailure fresh
  exact ⟨fresh, by decide, default (by decide), balanced (by decide)⟩

/-- The first worker's report of success arrives after the failure. -/
def lateCompletion : List ServiceEvent :=
  fatalFailure ++ [.call ((Call.completeTask "g" "p" "u" ⟨0⟩).plain ""), .notify 1 0]

/-- The subscriber is told that the task has failed and then that it has
succeeded. -/
theorem late_completion_contradicts :
    ServiceEvent.FreshIds lateCompletion ∧
      (Coordinator.reach DefaultPolicy .plain lateCompletion).deliveries =
        [⟨"s", 1, .taskResult "u" .failedFatal, 11⟩, ⟨"s", 1, .taskResult "u" .succeeded, 13⟩] ∧
      ¬ (Coordinator.reach DefaultPolicy .plain lateCompletion).OneVerdict := by
  have said : (Coordinator.reach DefaultPolicy .plain lateCompletion).deliveries =
      [⟨"s", 1, .taskResult "u" .failedFatal, 11⟩, ⟨"s", 1, .taskResult "u" .succeeded, 13⟩] := by
    decide
  refine ⟨by unfold ServiceEvent.FreshIds; decide, said, ?_⟩
  intro one
  obtain ⟨same, -⟩ := one _ (said ▸ List.mem_cons_self) _
    (said ▸ List.mem_cons_of_mem _ List.mem_cons_self) rfl rfl
  cases same

end Sp1Cluster
