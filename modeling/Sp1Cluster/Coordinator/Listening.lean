import Sp1Cluster.Coordinator.Writes

/-!
# What the sections tell subscribers

A notice is one subscriber to be told the final status of one task. Sections
that only move work around tell nobody anything; a teardown tells the
subscribers of every task of the proof it removes; a completion and a fatal
failure tell the subscribers of their task after the lock is released.
-/

set_option autoImplicit false

namespace Sp1Cluster

/-- A subscriber to be told the status of a task. -/
structure Notice where
  subId : String
  proofId : String
  taskId : String
  status : TaskStatus
deriving DecidableEq, Repr

namespace Notice

def key (notice : Notice) : TaskKey := (notice.proofId, notice.taskId)

end Notice

/-- Whether an effect sends something to subscribers. -/
def Effect.toSubscribers : Effect → Bool
  | .toSubscriber .. | .notifySubscribers .. => true
  | _ => false

/-- What an observer of the messages to subscribers makes of an effect. -/
structure Listener (α : Type) where
  hear : Effect → List α
  deaf : ∀ effect : Effect, effect.toSubscribers = false → hear effect = []

namespace Listener

variable {α : Type}

def all (listener : Listener α) (effects : List Effect) : List α := effects.flatMap listener.hear

@[simp] theorem all_nil (listener : Listener α) : listener.all [] = [] := rfl

@[simp] theorem all_append (listener : Listener α) (first second : List Effect) :
    listener.all (first ++ second) = listener.all first ++ listener.all second := by
  simp [all]

theorem all_eq_nil (listener : Listener α) {effects : List Effect}
    (unheard : ∀ effect ∈ effects, listener.hear effect = []) : listener.all effects = [] :=
  List.flatMap_eq_nil_iff.mpr unheard

theorem all_of_deaf (listener : Listener α) {effects : List Effect}
    (silent : ∀ effect ∈ effects, effect.toSubscribers = false) : listener.all effects = [] :=
  listener.all_eq_nil fun effect member => listener.deaf effect (silent effect member)

theorem all_toWorkers (listener : Listener α) {effects : List Effect}
    (toWorkers : ∀ effect ∈ effects, effect.isToWorker) : listener.all effects = [] := by
  refine listener.all_of_deaf ?_
  intro effect member
  have toWorker := toWorkers effect member
  cases effect <;> simp_all [Effect.isToWorker, Effect.toSubscribers]

/-- Whom a notification tells what. -/
def notices : Listener Notice where
  hear
    | .notifySubscribers subscribers proofId taskId status =>
      subscribers.map fun subId => ⟨subId, proofId, taskId, status⟩
    | _ => []
  deaf effect silent := by cases effect <;> simp_all [Effect.toSubscribers]

/-- What is sent to whom through a channel that was read before. -/
def sends : Listener (String × Channel × SubMessage) where
  hear
    | .toSubscriber subId channel message => [(subId, channel, message)]
    | _ => []
  deaf effect silent := by cases effect <;> simp_all [Effect.toSubscribers]

end Listener

namespace CoordinatorState

def heard {P α : Type} (listener : Listener α) (state : CoordinatorState P) : List α :=
  listener.all state.outbox

section Silent

variable {P α : Type} [AssignmentPolicy P] {build : Build} {state : CoordinatorState P}
  {proofId taskId workerId : String} (listener : Listener α)

omit [AssignmentPolicy P] in
theorem heard_emit {effect : Effect} (silent : effect.toSubscribers = false) :
    (state.emit effect).heard listener = state.heard listener := by
  have nothing : listener.all [effect] = [] := listener.all_of_deaf (by simpa using silent)
  unfold heard emit
  rw [Listener.all_append, nothing, List.append_nil]

omit [AssignmentPolicy P] in
theorem heard_emitAll (effects : List Effect) :
    (state.emitAll effects).heard listener = state.heard listener ++ listener.all effects :=
  listener.all_append ..

@[simp] theorem heard_releaseRemainingAssignments (env : Env) (proof : Proof)
    (skip : Option (String × String)) :
    (state.releaseRemainingAssignments build env proof proofId skip).1.heard listener =
      state.heard listener :=
  releaseRemainingAssignments_rule (Q := fun next => next.heard listener = state.heard listener)
    env proof skip rfl fun _ _ _ _ same => (heard_emit listener rfl).trans same

/-- The tasks of a proof in the order in which a teardown visits them. -/
def visited (env : Env) (proof : Proof) : List Task :=
  (env.shuffle proof.tasks.entries).map fun entry => entry.2

theorem heard_tearDown (env : Env) (notifySender : Bool) (extraData : Option String)
    (skip : Option (String × String)) {proof : Proof}
    (found : state.proofs.lookup proofId = some proof) :
    (state.tearDown build env proofId notifySender extraData skip).heard listener =
      state.heard listener ++
        listener.all ((visited env proof).flatMap (teardownNotice proofId)) := by
  have closing : ∀ tasks : List Task,
      listener.all (tasks.map fun task => Effect.closeTaskChannel task.id) = [] := by
    intro tasks
    refine listener.all_of_deaf ?_
    simp [Effect.toSubscribers]
  unfold tearDown
  rw [found]
  dsimp only
  split
  · rw [heard_emit listener rfl, heard_emitAll, closing, List.append_nil,
      heard_releaseRemainingAssignments, heard_emitAll]
    rfl
  · rw [heard_emitAll, closing, List.append_nil, heard_releaseRemainingAssignments,
      heard_emitAll]
    rfl

theorem heard_tearDown_of_none (env : Env) (notifySender : Bool) (extraData : Option String)
    (skip : Option (String × String)) (absent : state.proofs.lookup proofId = none) :
    (state.tearDown build env proofId notifySender extraData skip).heard listener =
      state.heard listener := by
  unfold tearDown
  rw [absent]
  rfl

/-- Whom the teardown of a proof tells what. -/
theorem mem_teardownNotices {env : Env} {proof : Proof} {notice : Notice} :
    notice ∈ Listener.notices.all ((visited env proof).flatMap (teardownNotice proofId)) ↔
      ∃ taskId task, proof.tasks.lookup taskId = some task ∧ notice.subId ∈ task.subscribers ∧
        notice.proofId = proofId ∧ notice.taskId = task.id ∧ notice.status = .failedFatal := by
  have one : ∀ task : Task, notice ∈ Listener.notices.all (teardownNotice proofId task) ↔
      notice.subId ∈ task.subscribers ∧ notice.proofId = proofId ∧ notice.taskId = task.id ∧
        notice.status = .failedFatal := by
    intro task
    unfold teardownNotice
    split
    · next empty =>
      have nobody : notice.subId ∉ task.subscribers := KeySet.notMem_of_isEmpty empty _
      simp [nobody]
    · simp only [Listener.all, Listener.notices, List.flatMap_cons, List.flatMap_nil,
        List.append_nil,
        List.mem_map, AList.mem_keys]
      constructor
      · rintro ⟨subId, member, rfl⟩
        exact ⟨member, rfl, rfl, rfl⟩
      · rintro ⟨member, sameProof, sameTask, sameStatus⟩
        refine ⟨notice.subId, member, ?_⟩
        cases notice
        simp_all
  unfold Listener.all at one ⊢
  simp only [List.mem_flatMap, visited, List.mem_map, env.mem_shuffle]
  constructor
  · rintro ⟨effect, ⟨task, ⟨entry, member, rfl⟩, isNotice⟩, told⟩
    refine ⟨entry.1, entry.2, Table.mem_entries_iff.mp member, (one entry.2).mp ?_⟩
    exact List.mem_flatMap.mpr ⟨effect, isNotice, told⟩
  · rintro ⟨taskId, task, stored, told⟩
    obtain ⟨effect, isNotice, told⟩ := List.mem_flatMap.mp ((one task).mpr told)
    exact ⟨effect, ⟨task, ⟨⟨taskId, task⟩, Table.mem_entries_iff.mpr stored, rfl⟩, isNotice⟩, told⟩

end Silent

/-! ## Calls -/

section Calls

variable {P α : Type} [LawfulPolicy P] {build : Build} {state : CoordinatorState P}
  {proofId taskId workerId : String} (listener : Listener α)

@[simp] theorem heard_assignTasks (env : Env) :
    (AssignmentPolicy.assignTasks build env state).1.heard listener = state.heard listener := by
  obtain ⟨sent, outbox, toWorkers⟩ := (LawfulPolicy.sends build env state).outbox
  unfold heard
  rw [outbox, Listener.all_append, listener.all_toWorkers toWorkers, List.append_nil]

/-- A call is heard only through what it sends to subscribers. -/
theorem heard_exec_of_deaf (env : Env) {call : Call}
    (deaf : ∀ (next : CoordinatorState P) (effect : Effect), call.Sends state next effect →
      listener.hear effect = []) :
    (state.exec build env call).state.heard listener = state.heard listener := by
  have writes := exec_writes build env call state
  generalize (state.exec build env call).state = final at writes
  induction writes with
  | refl => rfl
  | @tail middle last _ write ih =>
    rw [← ih]
    cases write with
    | send effects may =>
      have unheard := listener.all_eq_nil fun effect member =>
        deaf middle effect (may effect member)
      rw [heard_emitAll, unheard, List.append_nil]
    | assign => exact heard_assignTasks listener env
    | _ => rfl

/-- A call that tears no proof down and subscribes nobody says nothing to
subscribers while it holds the lock. -/
theorem heard_exec (env : Env) {call : Call} (quiet : call.tearsDown = false)
    (unsubscribing : call.subscribes = false) :
    (state.exec build env call).state.heard listener = state.heard listener := by
  refine heard_exec_of_deaf listener env ?_
  intro next effect sends
  cases effect with
  | toSubscriber => exact absurd (unsubscribing.symm.trans sends) Bool.false_ne_true
  | notifySubscribers => exact absurd (quiet.symm.trans sends) Bool.false_ne_true
  | _ => exact listener.deaf _ rfl

end Calls

/-! ## What a subscription sends -/

section Subscribing

variable {P : Type} {state : CoordinatorState P} {subId proofId : String} {channel : Channel}

theorem heard_subscribeTask {α : Type} {listener : Listener α}
    (ignores : ∀ subId channel message, listener.hear (.toSubscriber subId channel message) = [])
    (taskId : String) :
    (subscribeTask subId proofId channel state taskId).heard listener = state.heard listener := by
  have sent : ∀ message, (state.emit (.toSubscriber subId channel message)).heard listener =
      state.heard listener := by
    intro message
    unfold heard emit
    simp [Listener.all, ignores]
  unfold subscribeTask
  split
  · exact sent _
  · split
    · exact sent _
    · rfl

/-- What a subscription may answer on the channel of its own subscriber: that a
task is unknown, or the final status the task has. -/
inductive Answers (state : CoordinatorState P) (subId proofId : String) (channel : Channel) :
    String × Channel × SubMessage → Prop
  | unknown (taskId : String) :
      Answers state subId proofId channel (subId, channel, .unknownTask proofId taskId)
  | result {taskId : String} {status : TaskStatus}
      (stored : (taskOf state.proofs (proofId, taskId)).map (·.status) = some status)
      (final : status.isFinal = true) :
      Answers state subId proofId channel (subId, channel, .taskResult taskId status)

theorem statuses_subscribeTask (taskId : String) (key : TaskKey) :
    (taskOf (subscribeTask subId proofId channel state taskId).proofs key).map (·.status) =
      (taskOf state.proofs key).map (·.status) := by
  unfold subscribeTask
  split
  · rfl
  · next task got =>
    have inTable : taskOf state.proofs (proofId, taskId) = some task := got
    obtain ⟨proof, found, stored⟩ := taskOf.exists_of_eq_some inTable
    split
    · rfl
    · rw [taskOf_modifyTask found stored]
      split
      · next same =>
        have there : taskOf state.proofs key = some task := same ▸ got
        rw [there]
        rfl
      · rfl

theorem statuses_addSubscriptions (taskIds : List String) (key : TaskKey) :
    (taskOf (state.addSubscriptions subId proofId channel taskIds).proofs key).map (·.status) =
      (taskOf state.proofs key).map (·.status) := by
  unfold addSubscriptions
  split
  · refine List.foldlRecOn (motive := fun next : CoordinatorState P =>
      (taskOf next.proofs key).map (·.status) = (taskOf state.proofs key).map (·.status)) _ _
      rfl ?_
    intro next same taskId _
    rw [statuses_subscribeTask, same]
  · rfl

theorem sends_subscribeTask {answer : String × Channel × SubMessage} {taskId : String}
    (sent : answer ∈ (subscribeTask subId proofId channel state taskId).heard .sends) :
    answer ∈ state.heard .sends ∨ state.Answers subId proofId channel answer := by
  have emitted : ∀ message, answer ∈ (state.emit (.toSubscriber subId channel message)).heard
      .sends → answer ∈ state.heard .sends ∨ answer = (subId, channel, message) := by
    intro message sent
    simpa [heard, emit, Listener.all, Listener.sends] using sent
  unfold subscribeTask at sent
  split at sent
  · rcases emitted _ sent with before | rfl
    · exact .inl before
    · exact .inr (.unknown taskId)
  · next task got =>
    have inTable : taskOf state.proofs (proofId, taskId) = some task := got
    split at sent
    · next final =>
      rcases emitted _ sent with before | rfl
      · exact .inl before
      · exact .inr (.result (by rw [inTable]; rfl) final)
    · exact .inl sent

theorem sends_subscribeTasks {answer : String × Channel × SubMessage} {taskIds : List String}
    (sent : answer ∈ (taskIds.foldl (subscribeTask subId proofId channel) state).heard .sends) :
    answer ∈ state.heard .sends ∨ state.Answers subId proofId channel answer := by
  induction taskIds generalizing state with
  | nil => exact .inl sent
  | cons taskId rest ih =>
    rcases ih sent with before | answers
    · exact sends_subscribeTask before
    · refine .inr ?_
      cases answers with
      | unknown other => exact .unknown other
      | result stored final =>
        exact .result ((statuses_subscribeTask taskId _).symm.trans stored) final

theorem sends_addSubscriptions {answer : String × Channel × SubMessage} {taskIds : List String}
    (sent : answer ∈ (state.addSubscriptions subId proofId channel taskIds).heard .sends) :
    answer ∈ state.heard .sends ∨ state.Answers subId proofId channel answer := by
  unfold addSubscriptions at sent
  split at sent
  · exact sends_subscribeTasks sent
  · rw [heard_emitAll, List.mem_append] at sent
    rcases sent with before | answer
    · exact .inl before
    · simp only [Listener.all, Listener.sends, List.flatMap_map, List.mem_flatMap,
        List.mem_singleton] at answer
      obtain ⟨taskId, -, rfl⟩ := answer
      exact .inr (.unknown taskId)

end Subscribing

end CoordinatorState

end Sp1Cluster
