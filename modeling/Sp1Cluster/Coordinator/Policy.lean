import Sp1Cluster.Coordinator.Types
import Sp1Cluster.Data.PriorityQueue

/-!
# Assignment policies

An assignment policy queues the tasks that wait for a worker and gives them to
workers. The coordinator is written against the interface of this module; the
two policies of the source are its instances.

Both policies pick a worker in the same way and run the same loop over a
queue: look at the front entry, discard it when its task is gone or finished,
otherwise try to give the task to a worker, and stop when there is none. They
differ in which entry is at the front and in what they record when a task is
given to a worker. The loop is written once, with these as parameters.
-/

set_option autoImplicit false

namespace Sp1Cluster

/-- A task that waits in a queue. -/
structure QueuedTask where
  id : String
  taskType : TaskType
  proofCreatedAt : SystemTime
  createdAt : SystemTime
  proofId : String
deriving DecidableEq, Repr

/-- The interface between the coordinator and an assignment policy, with each
method reduced to the part of the state it reads and writes. `enqueueTask`
files an entry that `get_queued_task` built, by the type of worker the task
needs. The observations below the methods list the queued entries, say whether
the policy charges GPU weight to proofs, and give the weight charged to each. -/
class AssignmentPolicy (P : Type) where
  empty : P
  enqueueTask : WorkerType → QueuedTask → P → P
  postTaskUpdateState : (taskWeight : ℕ) → (proofId : String) → WorkerType → P → P
  onProofDeleted : (proofId : String) → P → P
  assignTasks : Build → Env → CoordinatorState P → CoordinatorState P × Except Status Unit
  cpuQueued : P → List QueuedTask
  gpuQueued : P → List QueuedTask
  chargesGpuWeight : Bool
  proofGpuWeight : P → String → Option ℕ

/-- `post_worker_empty`, the same for both policies. -/
def postWorkerEmpty (worker : Worker) : Worker :=
  { worker with nextFreeTime := 0, weight := 0 }

namespace CoordinatorState

variable {P : Type}

/-- `get_queued_task`; the source panics when the proof is not stored. -/
def getQueuedTask (state : CoordinatorState P) (task : Task) : Option QueuedTask :=
  (state.proofs.lookup task.data.proofId).map fun proof =>
    { id := task.id
      taskType := task.data.taskType
      proofCreatedAt := proof.createdAt
      createdAt := task.createdAt
      proofId := task.data.proofId }

/-- `enqueue_task`: file the entry of a task under the policy. -/
def enqueueTask [AssignmentPolicy P] (build : Build) (task : Task) (state : CoordinatorState P) :
    CoordinatorState P :=
  match state.getQueuedTask task with
  | none => state
  | some queued =>
    state.modifyPolicy
      (AssignmentPolicy.enqueueTask (build.workerTypeFromTaskType task.data.taskType) queued)

/-- `send_task`. -/
def sendTask (task : Task) (worker : Worker) (metadata : String) (state : CoordinatorState P) :
    CoordinatorState P :=
  state.emit (.toWorker worker.id worker.channel (.newTask task.id task.data metadata))

end CoordinatorState

/-! ## Giving a task to a worker -/

/-- The test of the worker loop in `assign_task`, against the best free time
found so far. -/
def Worker.preferred (workerType : WorkerType) (taskWeight bestWorkerTime : ℕ)
    (worker : Worker) : Bool :=
  !worker.closed
    && (worker.workerType == .all || worker.workerType == workerType)
    && decide (worker.nextFreeTime < bestWorkerTime)
    && decide (wrappingAdd32 worker.weight taskWeight ≤ worker.maxWeight)

/-- The worker loop of `assign_task`: the key and the record of the worker that
will be free soonest, with its free time. -/
def bestWorkerOf (workerType : WorkerType) (taskWeight : ℕ) :
    List (Sigma fun _ : String => Worker) → Option (String × Worker) × ℕ →
      Option (String × Worker) × ℕ
  | [], best => best
  | ⟨workerId, worker⟩ :: rest, best =>
    bestWorkerOf workerType taskWeight rest
      (if worker.preferred workerType taskWeight best.2 then
        (some (workerId, worker), worker.nextFreeTime)
      else best)

def bestWorker {P : Type} (env : Env) (workerType : WorkerType) (taskWeight : ℕ)
    (state : CoordinatorState P) : Option (String × Worker) :=
  (bestWorkerOf workerType taskWeight (env.shuffle state.workers.entries)
    (none, 2 ^ 128 - 1)).1

/-- The worker's record after it has been given a task. -/
def Worker.take (task : Task) (startTime : ℕ) (worker : Worker) : Worker :=
  { worker with
    weight := wrappingAdd32 worker.weight task.data.weight
    nextFreeTime := startTime + estimateDuration task.data.taskType
    activeTasks := KeySet.add (task.data.proofId, task.id) worker.activeTasks }

/-- The task's record after it has been given to a worker. -/
def Task.start (worker : Worker) (task : Task) : Task :=
  { task with
    worker := some worker.id
    status := .running
    gpuAttempts := task.gpuAttempts.insert worker.id
      { onGpu := worker.workerType == .gpu || worker.workerType == .all, credited := false } }

/-- The state changes of `assign_task` once a worker is chosen, apart from the
policy's own. -/
def CoordinatorState.startTask {P : Type} (workerId : String) (worker : Worker) (task : Task)
    (startTime : ℕ) (state : CoordinatorState P) : CoordinatorState P :=
  ((state.modifyWorker workerId (Worker.take task startTime)).modifyTask task.data.proofId task.id
    (Task.start worker)).sendTask task worker "null"

/-- `assign_task`. `settle` is what the policy records for the assignment: the
weight it charges and the queue entry it pops. -/
def assignTask {P : Type} (build : Build) (env : Env) (settle : WorkerType → Task → P → P)
    (task : Task) (now : SystemTime) (state : CoordinatorState P) :
    CoordinatorState P × Except Status (Option String) :=
  let workerType := build.workerTypeFromTaskType task.data.taskType
  if workerType = .none then (state, .ok none)
  else
    match bestWorker env workerType task.data.weight state with
    | none => (state, .ok none)
    | some (workerId, worker) =>
      match now.sinceEpoch with
      | none => (state, .error .clock)
      | some elapsed =>
        let startTime := max (asMillis elapsed) worker.nextFreeTime
        ((state.startTask workerId worker task startTime).modifyPolicy (settle workerType task),
          .ok (some worker.id))

/-! ## The loop over a queue -/

/-- How a policy reads one of its queues: the front entry, and the removal of
the front entry. -/
structure Lane (P : Type) where
  front : P → Option QueuedTask
  discard : QueuedTask → P → P

/-- The `while` loop of `assign_tasks` over one queue. A turn that goes on has
removed one entry, so the length of the queue bounds the turns. -/
def assignLoop {P : Type} (build : Build) (env : Env) (settle : WorkerType → Task → P → P)
    (lane : Lane P) (site : ℕ → ClockRead) :
    ℕ → CoordinatorState P → CoordinatorState P × Except Status Unit
  | 0, state => (state, .ok ())
  | following + 1, state =>
    match lane.front state.policy with
    | none => (state, .ok ())
    | some queued =>
      match state.getTask queued.proofId queued.id with
      | none =>
        assignLoop build env settle lane site following
          (state.modifyPolicy (lane.discard queued))
      | some task =>
        if task.status.isFinal then
          assignLoop build env settle lane site following
            (state.modifyPolicy (lane.discard queued))
        else
          match assignTask build env settle task (env.clock (site following)) state with
          | (state, .error status) => (state, .error status)
          | (state, .ok none) => (state, .ok ())
          | (state, .ok (some _)) => assignLoop build env settle lane site following state

/-- The two `while` loops of `assign_tasks`: the GPU queue and then the CPU
queue. -/
def assignLoops {P : Type} (build : Build) (env : Env) (settle : WorkerType → Task → P → P)
    (gpuLane cpuLane : Lane P) (gpuTurns cpuTurns : P → ℕ) (state : CoordinatorState P) :
    CoordinatorState P × Except Status Unit :=
  match assignLoop build env settle gpuLane .gpuTurn (gpuTurns state.policy) state with
  | (state, .error status) => (state, .error status)
  | (state, .ok ()) =>
    assignLoop build env settle cpuLane .cpuTurn (cpuTurns state.policy) state

end Sp1Cluster
