import Sp1Cluster.Coordinator.Contract
import Sp1Cluster.Coordinator.Workers

/-!
# What the sections of the operations write

What a section does is said once, as a rule: a property that holds at its start
and is kept by its effects holds at its end.

Which proofs are stored after the sections of the operations. A section writes
the record of one proof, or removes it; releasing workers and queueing tasks
leaves the table of proofs alone. The last part lists the outcomes of a failure
report.
-/

set_option autoImplicit false

namespace Sp1Cluster.CoordinatorState

variable {P : Type} [AssignmentPolicy P] {build : Build} {state : CoordinatorState P}
  {proofId taskId workerId : String}

omit [AssignmentPolicy P] in
/-- The record of a proof is written and the stream of one of its tasks is ended. -/
abbrev writeRecord (proofId taskId : String) (proof : Proof) (state : CoordinatorState P) :
    CoordinatorState P :=
  ({ state with proofs := state.proofs.insert proofId proof }).emit (.closeTaskChannel taskId)

theorem assignThen_state {α : Type} (env : Env) (value : α) (after : List Effect) :
    (state.assignThen build env value after).state =
      (AssignmentPolicy.assignTasks build env state).1 := by
  unfold assignThen
  split
  · next result => rw [result]
  · next result => rw [result]

theorem assignOrPanic_state (env : Env) :
    (state.assignOrPanic build env).state = (AssignmentPolicy.assignTasks build env state).1 := by
  unfold assignOrPanic
  split
  · next result => rw [result]
  · next result => rw [result]

@[simp] theorem proofs_enqueueTask (task : Task) :
    (state.enqueueTask build task).proofs = state.proofs := by
  unfold CoordinatorState.enqueueTask
  split <;> rfl

@[simp] theorem outbox_enqueueTask (task : Task) :
    (state.enqueueTask build task).outbox = state.outbox := by
  unfold CoordinatorState.enqueueTask
  split <;> rfl

/-! ## Rules for the sections -/

section Rules

variable {Q : CoordinatorState P → Prop}

/-- A turn of the release loop takes a task off the worker that has it, and cancels it. -/
theorem releaseRemainingAssignments_rule (env : Env) (proof : Proof)
    (skip : Option (String × String)) (start : Q state)
    (turn : ∀ (next : CoordinatorState P) (task : Task) (owner : String) (worker : Worker), Q next →
      Q (((next.emit
          (.toWorker worker.id worker.channel (.cancelTask proofId task.id))).modifyWorker owner
            (Worker.release (proofId, task.id) task.data.weight)).postTaskUpdateState build proofId
              task.data)) :
    Q (state.releaseRemainingAssignments build env proof proofId skip).1 := by
  unfold releaseRemainingAssignments
  refine List.foldlRecOn
    (motive := fun released : CoordinatorState P × Bool => Q released.1) _ _ start ?_
  intro released holds entry _
  unfold releaseAssignment
  split
  · exact holds
  · next owner _ =>
    split
    · exact holds
    · split
      · exact holds
      · next worker _ =>
        split
        · exact turn released.1 entry.2 owner worker holds
        · exact holds

theorem failProofInternal_rule (env : Env) (blamed : Option String) (notifySender : Bool)
    (extraData : Option String) (skip : Option (String × String)) (start : Q state)
    (torn : Q (state.tearDown build env proofId notifySender extraData skip)) :
    Q (state.failProofInternal build env proofId blamed notifySender extraData skip).state := by
  unfold failProofInternal
  split
  · exact start
  · split
    · split
      · exact start
      · split
        · exact start
        · exact torn
    · exact torn

/-- An accepted failure writes the record of its task and ends its stream. The proof may then be
torn down, or dropped when nothing in it is active; the rest writes no proof and sends nothing. -/
theorem recordFailure_rule (env : Env) (retryable : Bool) {proof : Proof} {task : Task}
    {written : CoordinatorState P}
    (isWritten : written = state.writeRecord proofId taskId (proof.failTask retryable taskId task))
    (start : Q written)
    (torn : Q (written.tearDown build env proofId true none (some (workerId, taskId))))
    (dropped : (proof.failTask retryable taskId task).activeTasks = 0 →
      Q ((written.dropProof proofId).releaseRemainingAssignments build env
        (proof.failTask retryable taskId task) proofId (some (workerId, taskId))).1)
    (frame : ∀ {next next' : CoordinatorState P}, Q next → next'.proofs = next.proofs →
      next'.outbox = next.outbox → Q next') :
    Q (state.recordFailure build env workerId proofId taskId retryable proof task) := by
  subst isWritten
  have removed : Q ((state.writeRecord proofId taskId
      (proof.failTask retryable taskId task)).removeFailedProof build env
          (enableProofFail task.data.taskType && (!retryable || task.retries == maxTaskRetries))
          (proof.failTask retryable taskId task) workerId proofId taskId) := by
    unfold removeFailedProof
    split
    · exact failProofInternal_rule env none true none _ start torn
    · split
      · next idle => exact dropped idle
      · exact start
  unfold recordFailure
  dsimp only
  split
  · exact frame removed (proofs_enqueueTask _) (outbox_enqueueTask _)
  · exact frame removed rfl rfl

/-- A completion writes the record of its task and ends its stream. The proof is dropped when
nothing in it is active, and the meter may be moved. -/
theorem recordCompletion_rule (env : Env) (metadata : TaskMetadata) {proof : Proof} {task : Task}
    {written : CoordinatorState P} (isWritten : written =
      state.writeRecord proofId taskId (proof.completeTask workerId taskId task))
    (start : Q written)
    (dropped : Q ((written.dropProof proofId).releaseRemainingAssignments build env
      (proof.completeTask workerId taskId task) proofId (some (workerId, taskId))).1)
    (credited : ∀ (next : CoordinatorState P) meter, Q next →
      Q { next with gpuBusyMsTotal := meter }) :
    Q (state.recordCompletion build env workerId proofId taskId proof task metadata).1 := by
  subst isWritten
  unfold recordCompletion
  dsimp only
  split
  · refine credited _ _ ?_
    split
    · exact dropped
    · exact start
  · split
    · exact dropped
    · exact start

section Completions

variable {proof : Proof} {task : Task}

/-- The state of a completion before tasks are assigned. -/
def afterCompletion (build : Build) (env : Env) (workerId proofId taskId : String) (proof : Proof)
    (task : Task) (metadata : TaskMetadata) (state : CoordinatorState P) : CoordinatorState P :=
  let next := (state.recordCompletion build env workerId proofId taskId proof task metadata).1
  if next.isHeldBy workerId proofId taskId then
    next.releaseOwn build workerId proofId taskId task.data
  else next

/-- An accepted completion: its state, and then an assignment if something was
released. -/
theorem completeTask_cases (env : Env) (workerId : String) (metadata : TaskMetadata)
    (found : state.proofs.lookup proofId = some proof)
    (stored : proof.tasks.lookup taskId = some task) :
    state.completeTask build env workerId proofId taskId metadata =
        (state.afterCompletion build env workerId proofId taskId proof task metadata).assignThen
          build env () (completionNotices proofId taskId task) ∨
      state.completeTask build env workerId proofId taskId metadata =
        { state := state.afterCompletion build env workerId proofId taskId proof task metadata
          reply := .ok ()
          after := completionNotices proofId taskId task } := by
  unfold completeTask
  rw [found]
  dsimp only
  rw [stored]
  dsimp only
  split
  · exact .inl rfl
  · exact .inr rfl

/-- A completion is refused, or its record is written and tasks may be assigned after that. -/
theorem completeTask_rule (env : Env) (workerId : String)
    (metadata : TaskMetadata) (start : Q state)
    (recorded : ∀ proof task, state.proofs.lookup proofId = some proof →
      proof.tasks.lookup taskId = some task →
        Q (state.afterCompletion build env workerId proofId taskId proof task metadata))
    (assigned : ∀ proof task, state.proofs.lookup proofId = some proof →
      proof.tasks.lookup taskId = some task →
        Q (state.afterCompletion build env workerId proofId taskId proof task metadata) →
          Q (AssignmentPolicy.assignTasks build env
            (state.afterCompletion build env workerId proofId taskId proof task metadata)).1) :
    Q (state.completeTask build env workerId proofId taskId metadata).state := by
  cases found : state.proofs.lookup proofId with
  | none =>
    unfold completeTask
    rw [found]
    exact start
  | some proof =>
    cases stored : proof.tasks.lookup taskId with
    | none =>
      unfold completeTask
      rw [found]
      dsimp only
      rw [stored]
      exact start
    | some task =>
      have written := recorded proof task found stored
      rcases completeTask_cases env workerId metadata found stored with assigns | direct
      · rw [assigns, assignThen_state]
        exact assigned proof task found stored written
      · rw [direct]
        exact written

end Completions

end Rules

/-! ## Which proofs are stored -/

@[simp] theorem proofs_releaseRemainingAssignments (env : Env) (proof : Proof)
    (skip : Option (String × String)) :
    (state.releaseRemainingAssignments build env proof proofId skip).1.proofs = state.proofs :=
  releaseRemainingAssignments_rule (Q := fun next => next.proofs = state.proofs) env proof skip rfl
    fun _ _ _ _ same => same

@[simp] theorem proofs_tearDown (env : Env) (notifySender : Bool) (extraData : Option String)
    (skip : Option (String × String)) :
    (state.tearDown build env proofId notifySender extraData skip).proofs =
      state.proofs.erase proofId := by
  unfold tearDown
  split
  · rfl
  · dsimp only
    split <;> exact proofs_releaseRemainingAssignments ..

theorem proofs_recordFailure (env : Env) (retryable : Bool) (proof : Proof) (task : Task) :
    (state.recordFailure build env workerId proofId taskId retryable proof task).proofs =
        state.proofs.insert proofId (proof.failTask retryable taskId task) ∨
      (state.recordFailure build env workerId proofId taskId retryable proof task).proofs =
        (state.proofs.insert proofId (proof.failTask retryable taskId task)).erase proofId := by
  refine recordFailure_rule (Q := fun next =>
    next.proofs = state.proofs.insert proofId (proof.failTask retryable taskId task) ∨
      next.proofs = (state.proofs.insert proofId (proof.failTask retryable taskId task)).erase
        proofId) env retryable rfl (.inl rfl) (.inr (proofs_tearDown ..))
    (fun _ => .inr (proofs_releaseRemainingAssignments ..)) ?_
  exact fun before same _ => same ▸ before

omit [AssignmentPolicy P] in
theorem eq_of_written {proofs : Table String Proof} {proof proof' : Proof} {task' record : Task}
    (found : state.proofs.lookup proofId = some proof)
    (changed : proof'.tasks = proof.tasks.insert taskId task')
    (written : proofs = state.proofs.insert proofId proof' ∨
      proofs = (state.proofs.insert proofId proof').erase proofId)
    (stored : taskOf proofs (proofId, taskId) = some record) : record = task' := by
  rcases written with kept | removed
  · rw [kept, taskOf.set_eq found changed, if_pos rfl] at stored
    exact (Option.some.inj stored).symm
  · rw [removed, taskOf.erase_eq, if_pos rfl] at stored
    cases stored

/-! ## The outcomes of a failure report -/

section FailureReports

variable {worker : Worker} {proof : Proof} {task : Task} {env : Env} {retryable : Bool}

theorem failTask_of_unheld (unheld : ¬ state.Holds workerId proofId taskId) :
    (state.failTask build env workerId proofId taskId retryable).state = state ∧
      (state.failTask build env workerId proofId taskId retryable).after = [] := by
  unfold failTask
  split
  · exact ⟨rfl, rfl⟩
  · next worker registered =>
    rw [if_pos fun held => unheld ⟨worker, registered, held⟩]
    exact ⟨rfl, rfl⟩

/-- A report is refused, or its worker holds the task and the task is stored. -/
theorem failTask_cases (env : Env) (workerId proofId taskId : String) (retryable : Bool) :
    (state.failTask build env workerId proofId taskId retryable).state = state ∨
      ∃ worker proof task, state.workers.lookup workerId = some worker ∧
        (proofId, taskId) ∈ worker.activeTasks ∧ state.proofs.lookup proofId = some proof ∧
        proof.tasks.lookup taskId = some task := by
  unfold failTask
  split
  · exact .inl rfl
  · next worker registered =>
    split
    · exact .inl rfl
    · next held =>
      split
      · exact .inl rfl
      · next proof found =>
        split
        · exact .inl rfl
        · next task stored =>
          exact .inr ⟨worker, proof, task, registered, not_not.mp held, found, stored⟩

variable (registered : state.workers.lookup workerId = some worker)
  (held : (proofId, taskId) ∈ worker.activeTasks)
  (found : state.proofs.lookup proofId = some proof)
  (stored : proof.tasks.lookup taskId = some task)
include registered held found stored

theorem failTask_of_succeeded (succeeded : task.status = .succeeded) :
    state.failTask build env workerId proofId taskId retryable =
      (state.releaseOwn build workerId proofId taskId task.data).assignThen build env () [] := by
  simp only [failTask, registered, held, not_true_eq_false, if_false, found, stored,
    if_pos succeeded]

theorem failTask_of_accepted (notSucceeded : task.status ≠ .succeeded) :
    state.failTask build env workerId proofId taskId retryable =
      (state.recordFailure build env workerId proofId taskId retryable proof task).assignThen
        build env () (failureNotices proofId taskId (Task.fail retryable task)) := by
  simp only [failTask, registered, held, not_true_eq_false, if_false, found, stored,
    if_neg notSucceeded]

end FailureReports

end Sp1Cluster.CoordinatorState
