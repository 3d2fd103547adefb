import Sp1Cluster.Coordinator.Policy.Laws

/-!
# The turns of an assignment

Both policies run the shared loop over their two queues. Seen on states rather
than on boards, a turn either changes the policy only, or starts a task that is
stored and unfinished on a registered worker that may take it. This is all that
`assign_tasks` can do, in any state.

The worker that a turn picks is one that will be free soonest, and there is one
whenever some worker may take the task.
-/

set_option autoImplicit false

namespace Sp1Cluster

open CoordinatorState Relation

/-- A policy that assigns by the shared loop over two lanes. -/
class QueuePolicy (P : Type) extends LawfulPolicy P where
  settle : Env → WorkerType → Task → P → P
  gpuLane : Env → Lane P
  cpuLane : Env → Lane P
  idle : P → Bool
  assignTasks_eq : ∀ (build : Build) (env : Env) (state : CoordinatorState P),
    assignTasks build env state =
      if state.shuttingDown || idle state.policy then (state, .ok ())
      else
        assignLoops build env (settle env) (gpuLane env) (cpuLane env)
          (fun policy => (gpuQueued policy).length) (fun policy => (cpuQueued policy).length) state
  gpu_front_of_idle : ∀ (env : Env) {policy : P}, idle policy = true →
    (gpuLane env).front policy = none
  cpu_front_of_idle : ∀ (env : Env) {policy : P}, idle policy = true →
    (cpuLane env).front policy = none
  gpu_serves : ∀ env : Env, (gpuLane env).Serves (settle env) .gpu Filed
  cpu_serves : ∀ env : Env, (cpuLane env).Serves (settle env) .cpu Filed
  gpu_front_cpu_discard : ∀ (env : Env) (queued : QueuedTask) (policy : P),
    (gpuLane env).front ((cpuLane env).discard queued policy) = (gpuLane env).front policy
  gpu_front_cpu_settle : ∀ (env : Env) (task : Task) (policy : P),
    (gpuLane env).front (settle env .cpu task policy) = (gpuLane env).front policy
  gpu_front_onProofDeleted : ∀ (env : Env) {policy : P} {proofId : String}, Filed policy →
    (∀ queued ∈ gpuQueued policy, queued.proofId ≠ proofId) →
      (gpuLane env).front (onProofDeleted proofId policy) = (gpuLane env).front policy
  cpu_front_onProofDeleted : ∀ (env : Env) (policy : P) (proofId : String),
    (cpuLane env).front (onProofDeleted proofId policy) = (cpuLane env).front policy

theorem least_shuffle_of_empty (env : Env) (cmp : QueuedTask → QueuedTask → Ordering)
    {queue : List QueuedTask} (empty : queue = []) :
    PriorityQueue.least cmp (env.shuffle queue) = none := by
  rw [PriorityQueue.least_eq_none_iff, empty]
  exact List.perm_nil.mp (env.shuffle_perm [])

instance : QueuePolicy DefaultPolicy where
  settle := DefaultPolicy.settle
  gpuLane := DefaultPolicy.gpuLane
  cpuLane := DefaultPolicy.cpuLane
  idle policy := policy.gpuQueue.isEmpty && policy.cpuQueue.isEmpty
  assignTasks_eq _ _ _ := rfl
  gpu_front_of_idle := by
    intro env policy idle
    rw [Bool.and_eq_true, List.isEmpty_iff, List.isEmpty_iff] at idle
    exact least_shuffle_of_empty env _ idle.1
  cpu_front_of_idle := by
    intro env policy idle
    rw [Bool.and_eq_true, List.isEmpty_iff, List.isEmpty_iff] at idle
    exact least_shuffle_of_empty env _ idle.2
  gpu_serves := DefaultPolicy.gpuLane_serves
  cpu_serves := DefaultPolicy.cpuLane_serves
  gpu_front_cpu_discard _ _ _ := rfl
  gpu_front_cpu_settle _ _ _ := rfl
  gpu_front_onProofDeleted _ _ _ _ _ := rfl
  cpu_front_onProofDeleted _ _ _ := rfl

/-- The charge of a proof that has no entries does not matter to the search. -/
theorem BalancedPolicy.findNextBalancedTask_onProofDeleted (env : Env) {policy : BalancedPolicy}
    {proofId : String} (filed : policy.Filed)
    (unqueued : ∀ queued ∈ policy.gpuQueued, queued.proofId ≠ proofId) :
    findNextBalancedTask env (onProofDeleted proofId policy) = findNextBalancedTask env policy := by
  unfold findNextBalancedTask
  refine congrArg Candidate.best (List.foldl_ext _ _ _ ?_)
  rintro candidate ⟨owner, queue⟩ member
  have stored : (⟨owner, queue⟩ : Sigma fun _ : String => List QueuedTask) ∈
      policy.gpuQueues.entries := env.mem_shuffle.mp member
  unfold Candidate.consider
  cases front : peek env queue with
  | none => rfl
  | some queued =>
    have inQueue : queued ∈ queue := peek_mem front
    have own : queued.proofId = owner :=
      filed owner queue (Table.mem_entries_iff.mp stored) queued inQueue
    have different : owner ≠ proofId := own ▸ unqueued queued
      (List.mem_flatMap.mpr ⟨_, stored, inQueue⟩)
    simp only [onProofDeleted, Table.lookup_erase_eq, if_neg different]

instance : QueuePolicy BalancedPolicy where
  settle := BalancedPolicy.settle
  gpuLane := BalancedPolicy.gpuLane
  cpuLane := BalancedPolicy.cpuLane
  idle policy := policy.gpuQueues.entries.isEmpty && policy.cpuQueue.isEmpty
  assignTasks_eq _ _ _ := rfl
  gpu_front_of_idle := by
    intro env policy idle
    rw [Bool.and_eq_true, List.isEmpty_iff, List.isEmpty_iff] at idle
    change BalancedPolicy.findNextBalancedTask env policy = none
    unfold BalancedPolicy.findNextBalancedTask
    rw [idle.1, List.perm_nil.mp (env.shuffle_perm [])]
    rfl
  cpu_front_of_idle := by
    intro env policy idle
    rw [Bool.and_eq_true, List.isEmpty_iff, List.isEmpty_iff] at idle
    exact least_shuffle_of_empty env _ idle.2
  gpu_serves := BalancedPolicy.gpuLane_serves
  cpu_serves := BalancedPolicy.cpuLane_serves
  gpu_front_cpu_discard _ _ _ := rfl
  gpu_front_cpu_settle _ _ _ := rfl
  gpu_front_onProofDeleted := BalancedPolicy.findNextBalancedTask_onProofDeleted
  cpu_front_onProofDeleted _ _ _ := rfl

/-! ## Turns of states -/

namespace CoordinatorState

variable {P : Type}

/-- One turn of an assignment loop. -/
inductive Turn (build : Build) : CoordinatorState P → CoordinatorState P → Prop where
  | discard {state : CoordinatorState P} (change : P → P) :
      Turn build state (state.modifyPolicy change)
  | assign {state : CoordinatorState P} {proofId taskId workerId : String} {task : Task}
      {worker : Worker} {bestWorkerTime startTime : ℕ} (change : P → P)
      (stored : state.getTask proofId taskId = some task) (unfinished : task.unfinished = true)
      (registered : state.workers.lookup workerId = some worker)
      (fits : worker.preferred (build.workerTypeFromTaskType task.data.taskType) task.data.weight
        bestWorkerTime = true) :
      Turn build state ((state.startTask workerId worker task startTime).modifyPolicy change)

theorem assignLoop_turns (build : Build) (env : Env) (settle : WorkerType → Task → P → P)
    (lane : Lane P) (site : ℕ → ClockRead) (turns : ℕ) (state : CoordinatorState P) :
    ReflTransGen (Turn build) state (assignLoop build env settle lane site turns state).1 := by
  induction turns generalizing state with
  | zero => exact .refl
  | succ following ih =>
    have turned := turned_loopBody build env settle lane (env.clock (site following)) state
    rw [assignLoop_succ]
    generalize loopBody build env settle lane (env.clock (site following)) state = turn
      at turned ⊢
    cases turned with
    | discard front stale => exact .head (.discard _) (ih _)
    | start startTime front stored unfinished chosen =>
      obtain ⟨registered, bestWorkerTime, fits⟩ := bestWorker_spec chosen
      exact .head (.assign _ stored unfinished registered fits) (ih _)
    | _ => exact .refl

/-- **All that an assignment does are turns.** -/
theorem assignTasks_turns [QueuePolicy P] (build : Build) (env : Env) (state : CoordinatorState P) :
    ReflTransGen (Turn build) state (AssignmentPolicy.assignTasks build env state).1 := by
  rw [QueuePolicy.assignTasks_eq]
  split
  · exact .refl
  · have first := assignLoop_turns build env (QueuePolicy.settle env) (QueuePolicy.gpuLane env)
      .gpuTurn (AssignmentPolicy.gpuQueued state.policy).length state
    unfold assignLoops
    split
    · next result =>
      rw [result] at first
      exact first
    · next result =>
      rw [result] at first
      exact first.trans (assignLoop_turns ..)

end CoordinatorState

/-! ## The choice of a worker -/

section Choice

variable {P : Type} {env : Env} {workerType : WorkerType} {taskWeight : ℕ}
  {state : CoordinatorState P} {workerId otherId : String} {worker other : Worker}

/-- The chosen worker is free no later than any worker that may take the
task. -/
theorem nextFreeTime_bestWorker_le
    (chosen : bestWorker env workerType taskWeight state = some (workerId, worker))
    (registered : state.workers.lookup otherId = some other)
    (eligible : other.Eligible workerType taskWeight) :
    worker.nextFreeTime ≤ other.nextFreeTime := by
  obtain ⟨time, soonest, unchosen | ⟨_, _, found, _, _, rfl, _⟩⟩ :=
    bestWorker_cases env workerType taskWeight state
  · cases unchosen.1.symm.trans chosen
  · cases found.symm.trans chosen
    exact soonest otherId other registered eligible

theorem nextFreeTime_bestWorker_lt
    (chosen : bestWorker env workerType taskWeight state = some (workerId, worker)) :
    worker.nextFreeTime < 2 ^ 128 - 1 := by
  obtain ⟨time, _, unchosen | ⟨_, _, found, _, _, rfl, sooner⟩⟩ :=
    bestWorker_cases env workerType taskWeight state
  · cases unchosen.1.symm.trans chosen
  · cases found.symm.trans chosen
    exact sooner

/-- Some worker is chosen when one may take the task. -/
theorem not_eligible_of_bestWorker_none
    (unchosen : bestWorker env workerType taskWeight state = none)
    (registered : state.workers.lookup otherId = some other)
    (inRange : other.nextFreeTime < 2 ^ 128 - 1) : ¬ other.Eligible workerType taskWeight := by
  intro eligible
  obtain ⟨time, soonest, ⟨_, rfl⟩ | ⟨_, _, found, _⟩⟩ :=
    bestWorker_cases env workerType taskWeight state
  · exact absurd inRange (not_lt.mpr (soonest otherId other registered eligible))
  · cases found.symm.trans unchosen

end Choice

end Sp1Cluster
