import Sp1Cluster.Coordinator.Rosters
import Sp1Cluster.Coordinator.Reachable

/-!
# Idle workers are free now

A worker without tasks should have a free time of zero, so that an assignment
prefers it to every worker with estimated work. The policy's hook for empty
workers resets the time, and every path that takes a task off a worker runs it,
except the end of `fail_task`: a worker whose last task fails keeps the free time
that was estimated for it, until its next heartbeat.

In a run in which every accepted failure report leaves its reporter with another
task, idle workers are free now after every call.
-/

set_option autoImplicit false

namespace Sp1Cluster

/-- A worker that is free now when it has no tasks. -/
abbrev Worker.FreeWhenIdle (worker : Worker) : Prop :=
  KeySet.isEmpty worker.activeTasks = true → worker.nextFreeTime = 0

theorem Worker.freeWhenIdle_of_mem {worker : Worker} (key : TaskKey)
    (held : key ∈ worker.activeTasks) : worker.FreeWhenIdle :=
  fun empty => absurd held (KeySet.notMem_of_isEmpty empty key)

namespace Roster

/-- Every worker of the roster is free now when it has no tasks. -/
def Free (roster : Roster) : Prop :=
  ∀ workerId worker, roster.workers.lookup workerId = some worker → worker.FreeWhenIdle

variable {call : Call} {roster roster' : Roster}

theorem Free.insert (free : roster.Free) {workerId : String} {worker : Worker}
    (freeNow : worker.FreeWhenIdle) :
    ({ roster with workers := roster.workers.insert workerId worker }).Free := by
  intro other record registered
  rcases Table.lookup_insert_cases registered with ⟨_, rfl⟩ | ⟨_, registered⟩
  · exact freeNow
  · exact free other record registered

/-- All changes of a worker but one keep it free when idle. -/
theorem freeWhenIdle_of_change {workerId : String} {worker worker' : Worker}
    (unblamed : call.blames = none) (free : worker.FreeWhenIdle)
    (change : Worker.Change call workerId worker worker') : worker'.FreeWhenIdle := by
  cases change with
  | take task startTime =>
    refine Worker.freeWhenIdle_of_mem (task.data.proofId, task.id) ?_
    exact (KeySet.mem_add ..).mpr (.inl rfl)
  | release key weight =>
    intro empty
    unfold Worker.release at empty ⊢
    dsimp only at empty ⊢
    split
    · rfl
    · next busy =>
      rw [if_neg busy] at empty
      exact absurd empty busy
  | abandon key weight blamed =>
    rw [unblamed] at blamed
    cases blamed
  | reconcile now assigned activeTasks beats =>
    intro empty
    unfold Worker.reconcile at empty ⊢
    dsimp only at empty ⊢
    split
    · rfl
    · next busy =>
      rw [if_neg busy] at empty
      exact absurd empty busy
  | refresh channel identity => exact free
  | close => exact free

theorem Free.change (free : roster.Free) (unblamed : call.blames = none)
    (running : call.stops = false) (change : Change call roster roster') : roster'.Free := by
  cases change with
  | worker registered change =>
    exact free.insert (freeWhenIdle_of_change unblamed (free _ _ registered) change)
  | enrol workerType maxWeight channel identity lastHeartbeat absent enrols =>
    exact free.insert fun _ => rfl
  | dismiss workerId =>
    intro other record registered
    exact free other record (Table.lookup_of_erase registered)
  | stop stops =>
    rw [running] at stops
    cases stops
  | create expiresAt creates => exact free
  | remove proofId => exact free

theorem Free.changes (free : roster.Free) (unblamed : call.blames = none)
    (running : call.stops = false) (changes : Changes call roster roster') : roster'.Free := by
  induction changes with
  | refl => exact free
  | tail _ change ih => exact ih.change unblamed running change

end Roster

namespace CoordinatorState

variable {P : Type}

/-! ## Failure reports -/

/-- A task that stays with its worker when the worker reports a failure of
another task: it is not the reported task, and its proof is not removed. -/
def outlives (state : CoordinatorState P) (proofId taskId : String) (retryable : Bool)
    (key : TaskKey) : Bool :=
  key != (proofId, taskId) &&
    (key.1 != proofId ||
      match state.proofs.lookup proofId with
      | none => true
      | some proof =>
        match proof.tasks.lookup taskId with
        | none => true
        | some task => !failureRemoves retryable taskId proof task)

/-- A failure report that is accepted, for a task that has not succeeded, comes
from a worker that is left with another task. Other calls are not
restricted. -/
def leavesReporterBusy (state : CoordinatorState P) : Call → Bool
  | .failTask workerId proofId taskId retryable =>
    match state.workers.lookup workerId, state.getTask proofId taskId with
    | some worker, some task =>
      decide ((proofId, taskId) ∉ worker.activeTasks) || task.status == .succeeded ||
        worker.activeTasks.keys.any (state.outlives proofId taskId retryable)
    | _, _ => true
  | _ => true

section Reports

variable {state : CoordinatorState P} {workerId proofId taskId : String} {key : TaskKey}

variable [AssignmentPolicy P] {build : Build}

theorem Holds.releaseRemainingAssignments (env : Env) (proof : Proof)
    (skip : Option (String × String)) (other : key.1 ≠ proofId)
    (held : state.Holds workerId key.1 key.2) :
    (state.releaseRemainingAssignments build env proof proofId skip).1.Holds workerId key.1
      key.2 := by
  refine releaseRemainingAssignments_rule (Q := fun next => next.Holds workerId key.1 key.2) env
    proof skip held ?_
  intro next task owner worker heldSoFar
  have different : key ≠ (proofId, task.id) := fun same => other (congrArg Prod.fst same)
  obtain ⟨holder, registered, member⟩ := heldSoFar
  change ∃ worker, (Table.modify owner _ next.workers).lookup workerId = some worker ∧ _
  rw [Table.lookup_modify_eq]
  split
  · next same =>
    rw [← same, registered]
    exact ⟨_, rfl, (Board.mem_of_released (.inl rfl)).mpr ⟨different, member⟩⟩
  · exact ⟨holder, registered, member⟩

theorem Holds.removeFailedProof (env : Env) (manualProofFail : Bool) (proof : Proof)
    {reporter : String} (other : key.1 ≠ proofId) (held : state.Holds workerId key.1 key.2) :
    (state.removeFailedProof build env manualProofFail proof reporter proofId taskId).Holds workerId
      key.1 key.2 := by
  unfold CoordinatorState.removeFailedProof
  split
  · refine failProofInternal_rule (Q := fun next => next.Holds workerId key.1 key.2) env none true
      none (some (reporter, taskId)) held ?_
    unfold tearDown
    split
    · exact held
    · next stored found =>
      have released : ∀ effects, (((state.dropProof proofId).emitAll
          effects).releaseRemainingAssignments build env stored proofId
            (some (reporter, taskId))).1.Holds workerId key.1 key.2 :=
        fun effects => Holds.releaseRemainingAssignments env stored _ other held
      dsimp only
      split
      · exact released _
      · exact released _
  · split
    · exact Holds.releaseRemainingAssignments env proof _ other held
    · exact held

/-- What outlives a report is still held before the reported task is taken off
its worker. -/
theorem Holds.reportedFailure (env : Env) {retryable : Bool} {proof : Proof} {task : Task}
    (found : state.proofs.lookup proofId = some proof)
    (stored : proof.tasks.lookup taskId = some task)
    (outlives : state.outlives proofId taskId retryable key = true) {reporter : String}
    (held : state.Holds workerId key.1 key.2) :
    (state.reportedFailure build env reporter proofId taskId retryable proof task).Holds workerId
      key.1 key.2 := by
  unfold CoordinatorState.outlives at outlives
  rw [found] at outlives
  dsimp only at outlives
  rw [stored] at outlives
  simp only [Bool.and_eq_true, Bool.or_eq_true, bne_iff_ne, Bool.not_eq_true'] at outlives
  rcases outlives.2 with other | kept
  · exact Holds.removeFailedProof env _ _ other held
  · unfold failureRemoves at kept
    simp only [Bool.or_eq_false_iff, beq_eq_false_iff_ne] at kept
    unfold CoordinatorState.reportedFailure CoordinatorState.removeFailedProof
    dsimp only
    rw [kept.1, if_neg Bool.false_ne_true, if_neg kept.2]
    exact held

end Reports

/-! ## The calls -/

section Calls

variable {state : CoordinatorState P}

theorem free_abandon {workerId : String} {abandoned key : TaskKey} (weight : ℕ)
    (free : state.roster.Free) (held : state.Holds workerId key.1 key.2)
    (different : key ≠ abandoned) :
    (state.modifyWorker workerId (Worker.abandon abandoned weight)).roster.Free := by
  obtain ⟨worker, registered, member⟩ := held
  have changed : (state.modifyWorker workerId (Worker.abandon abandoned weight)).roster =
      { state.roster with
        workers := state.workers.insert workerId (worker.abandon abandoned weight) } := by
    simp only [roster, modifyWorker, Table.modify_of_lookup registered]
  rw [changed]
  refine free.insert (Worker.freeWhenIdle_of_mem key ?_)
  exact AList.mem_erase.mpr ⟨different, member⟩

variable [QueuePolicy P] {build : Build}

theorem free_failTask (env : Env) {workerId proofId taskId : String} {retryable : Bool}
    (free : state.roster.Free)
    (busy : state.leavesReporterBusy (.failTask workerId proofId taskId retryable) = true) :
    (state.failTask build env workerId proofId taskId retryable).state.roster.Free := by
  -- the label of a call that may tear the proof down and never leaves out the hook
  have keeps : ∀ {next next' : CoordinatorState P}, next.roster.Free →
      Writes build env (.failProof proofId none true none) state next next' → next'.roster.Free :=
    fun freeBefore writes => freeBefore.changes rfl rfl writes.changes
  have cases : (state.failTask build env workerId proofId taskId retryable).state = state ∨ _ :=
    failTask_cases env workerId proofId taskId retryable
  rcases cases with refused | ⟨worker, proof, task, registered, member, found, stored⟩
  · rw [refused]
    exact free
  · by_cases succeeded : task.status = .succeeded
    · rw [failTask_of_succeeded registered member found stored succeeded]
      exact keeps free ((writes_releaseOwn task.data).trans (writes_assignThen () []))
    · have storedHere : state.getTask proofId taskId = some task :=
        (taskOf.of_lookup found).trans stored
      simp only [leavesReporterBusy, registered, storedHere, member, not_true_eq_false,
        decide_false, Bool.false_or, Bool.or_eq_true, beq_iff_eq, succeeded, false_or,
        List.any_eq_true] at busy
      obtain ⟨key, listed, outlives⟩ := busy
      have held : state.Holds workerId key.1 key.2 := ⟨worker, registered, listed⟩
      have heldStill : (state.reportedFailure build env workerId proofId taskId retryable proof
          task).Holds workerId key.1 key.2 := held.reportedFailure env found stored outlives
      have freeStill : (state.reportedFailure build env workerId proofId taskId retryable proof
          task).roster.Free :=
        keeps free (writes_reportedFailure retryable task found ⟨worker, registered, member⟩ rfl
          (by simp [Call.failsProof]))
      have different : key ≠ (proofId, taskId) := by
        simp only [CoordinatorState.outlives, Bool.and_eq_true, bne_iff_ne] at outlives
        exact outlives.1
      rw [failTask_of_accepted registered member found stored succeeded]
      refine keeps ?_ (writes_assignThen _ _)
      rw [roster_recordFailure]
      exact free_abandon task.data.weight freeStill heldStill different

theorem free_step (event : Event) (free : state.roster.Free)
    (running : event.call.stops = false) (busy : state.leavesReporterBusy event.call = true) :
    (state.step build event).roster.Free := by
  have freeBefore : state.clearOutbox.roster.Free := free
  have busyBefore : state.clearOutbox.leavesReporterBusy event.call = true := busy
  unfold CoordinatorState.step
  cases call : event.call with
  | failTask workerId proofId taskId retryable =>
    rw [call] at busyBefore
    exact free_failTask event.env freeBefore busyBefore
  | _ =>
    rw [call] at running
    exact freeBefore.changes rfl running (changes_exec event.env _ _)

end Calls

/-- Idle workers are free now, and an assignment for which an idle worker is
eligible goes to a worker that is free now. -/
structure IdleFreeNow (state : CoordinatorState P) : Prop where
  free : ∀ workerId worker, state.workers.lookup workerId = some worker →
    (∀ key, key ∉ worker.activeTasks) → worker.nextFreeTime = 0
  ahead : ∀ env workerType taskWeight idleId idle chosenId chosen,
    state.workers.lookup idleId = some idle → (∀ key, key ∉ idle.activeTasks) →
    idle.Eligible workerType taskWeight →
    bestWorker env workerType taskWeight state = some (chosenId, chosen) →
      chosen.nextFreeTime = 0

theorem idleFreeNow_of_free {state : CoordinatorState P} (free : state.roster.Free) :
    state.IdleFreeNow := by
  have idleFree : ∀ workerId worker, state.workers.lookup workerId = some worker →
      (∀ key, key ∉ worker.activeTasks) → worker.nextFreeTime = 0 := by
    intro workerId worker registered idle
    exact free workerId worker registered (KeySet.isEmpty_of_notMem idle)
  refine ⟨idleFree, ?_⟩
  intro env workerType taskWeight idleId idle chosenId chosen registered empty eligible best
  have sooner := nextFreeTime_bestWorker_le best registered eligible
  rw [idleFree idleId idle registered empty] at sooner
  exact Nat.le_zero.mp sooner

theorem reach_free [QueuePolicy P] {build : Build} {events : List Event}
    (running : ∀ event ∈ events, event.call.stops = false)
    (busy : Systems.Along (CoordinatorState.step (P := P) build) new
      (fun state event => state.leavesReporterBusy event.call = true) events) :
    (reach P build events).roster.Free := by
  refine Systems.run_invariant (fun past state =>
    (∀ event ∈ past, event.call.stops = false) → state.roster.Free) ?_ ?_ busy running
  · intro _ workerId worker registered
    cases registered
  · intro past state event ih busyNow runningNow
    refine free_step event (ih fun earlier member => runningNow earlier (by simp [member])) ?_ busyNow
    exact runningNow event (by simp)

end CoordinatorState

/-- **Idle workers are free now**, under both policies, in every state of a run
without a shutdown in which every accepted failure report leaves its reporter
with another task. -/
theorem idle_workers_free_now (build : Build) (events : List Event)
    (running : ∀ event ∈ events, event.call.stops = false) :
    (Systems.Along (CoordinatorState.step (P := DefaultPolicy) build) .new
        (fun state event => state.leavesReporterBusy event.call = true) events →
      (CoordinatorState.reach DefaultPolicy build events).IdleFreeNow) ∧
    (Systems.Along (CoordinatorState.step (P := BalancedPolicy) build) .new
        (fun state event => state.leavesReporterBusy event.call = true) events →
      (CoordinatorState.reach BalancedPolicy build events).IdleFreeNow) :=
  ⟨fun busy => CoordinatorState.idleFreeNow_of_free (CoordinatorState.reach_free running busy),
    fun busy => CoordinatorState.idleFreeNow_of_free (CoordinatorState.reach_free running busy)⟩

/-- A GPU worker with two tasks reports a fatal failure of one and completes the
other. -/
def lastTaskCompleted : List Event :=
  oneShard ++ [(Call.spawn "p" .proveShard 4).plain "v",
    (Call.failTask "g" "p" "u" false).plain "", (Call.completeTask "g" "p" "v" ⟨0⟩).plain ""]

theorem idle_workers_free_now_lastTaskCompleted :
    (∀ event ∈ lastTaskCompleted, event.call.stops = false) ∧
      ((CoordinatorState.reach DefaultPolicy .plain lastTaskCompleted).workers.lookup "g").map
        (fun worker => (worker.activeTasks.keys, worker.nextFreeTime)) = some ([], 0) ∧
      (CoordinatorState.reach DefaultPolicy .plain lastTaskCompleted).IdleFreeNow ∧
      (CoordinatorState.reach BalancedPolicy .plain lastTaskCompleted).IdleFreeNow := by
  have running : ∀ event ∈ lastTaskCompleted, event.call.stops = false := by decide
  obtain ⟨default, balanced⟩ := idle_workers_free_now .plain lastTaskCompleted running
  exact ⟨running, by decide, default (by decide), balanced (by decide)⟩

/-- The only task of a GPU worker fails fatally. -/
def lastTaskFailed : List Event :=
  oneShard ++ [(Call.failTask "g" "p" "u" false).plain ""]

/-- The idle worker keeps the free time estimated for the failed task. -/
theorem failed_worker_not_free :
    (∀ event ∈ lastTaskFailed, event.call.stops = false) ∧
      ((CoordinatorState.reach DefaultPolicy .plain lastTaskFailed).workers.lookup "g").map
        (fun worker => (worker.activeTasks.keys, worker.nextFreeTime)) = some ([], 3000) ∧
      ¬ (CoordinatorState.reach DefaultPolicy .plain lastTaskFailed).IdleFreeNow := by
  have record : ((CoordinatorState.reach DefaultPolicy .plain lastTaskFailed).workers.lookup
      "g").map (fun worker => (worker.activeTasks.keys, worker.nextFreeTime)) = some ([], 3000) := by
    decide
  refine ⟨by decide, record, ?_⟩
  intro idle
  obtain ⟨worker, registered, fields⟩ := Option.map_eq_some_iff.mp record
  obtain ⟨noTasks, time⟩ := Prod.mk.inj fields
  have empty : ∀ key, key ∉ worker.activeTasks := by
    intro key held
    have listed : key ∈ worker.activeTasks.keys := held
    rw [noTasks] at listed
    cases listed
  rw [idle.free "g" worker registered empty] at time
  cases time

end Sp1Cluster
