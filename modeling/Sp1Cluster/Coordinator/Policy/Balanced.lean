import Sp1Cluster.Coordinator.Policy

/-!
# The balanced policy

One queue for CPU tasks and one GPU queue for each proof. The next GPU task is
taken from the proof that has the least GPU weight assigned to workers, so the
policy charges that weight to the proof when a worker takes a task and releases
it when the worker gives the task up.
-/

set_option autoImplicit false

namespace Sp1Cluster

structure BalancedPolicy where
  cpuQueue : List QueuedTask
  gpuQueues : Table String (List QueuedTask)
  proofGpuWeights : Table String ℕ

namespace BalancedPolicy

/-- The first arm of `QueuedTask::cmp` takes these types on both sides. -/
def cpuOrdered : TaskType → Bool
  | .controller | .plonkWrap | .groth16Wrap | .executeOnly => true
  | _ => false

/-- `QueuedTask::cmp`, the copy of this policy. -/
def cmp (self other : QueuedTask) : Ordering :=
  if cpuOrdered self.taskType && cpuOrdered other.taskType then
    (compare self.proofCreatedAt other.proofCreatedAt).then
      (compare self.createdAt other.createdAt)
  else
    match self.taskType, other.taskType with
    | .setupVkey, .setupVkey =>
      (compare self.proofCreatedAt other.proofCreatedAt).then
        (compare self.createdAt other.createdAt)
    | .setupVkey, _ => .lt
    | _, .setupVkey => .gt
    | _, _ =>
      (compare self.proofCreatedAt other.proofCreatedAt).then <|
        match self.taskType, other.taskType with
        | .proveShard, .proveShard => compare self.createdAt other.createdAt
        | .proveShard, _ => .lt
        | _, .proveShard => .gt
        | _, _ => compare self.createdAt other.createdAt

/-- `BinaryHeap::peek` on a heap of reversed entries. -/
def peek (env : Env) (queue : List QueuedTask) : Option QueuedTask :=
  PriorityQueue.least cmp (env.shuffle queue)

/-- `BinaryHeap::pop`. -/
def pop (env : Env) (queue : List QueuedTask) : List QueuedTask :=
  PriorityQueue.remove (peek env queue) queue

/-- Pop from a proof's GPU queue and drop the queue when it is empty. -/
def popGpu (env : Env) (proofId : String) (policy : BalancedPolicy) : BalancedPolicy :=
  match policy.gpuQueues.lookup proofId with
  | none => policy
  | some queue =>
    let rest := pop env queue
    { policy with
      gpuQueues :=
        if rest.isEmpty then policy.gpuQueues.erase proofId
        else policy.gpuQueues.insert proofId rest }

/-- The search for the queue to serve: its front entry, the weight charged to
its proof, and the creation time of the proof. -/
structure Candidate where
  best : Option QueuedTask
  lowestWeight : ℕ
  oldestTime : SystemTime

/-- One turn of the loop in `find_next_balanced_task`. -/
def Candidate.consider (env : Env) (policy : BalancedPolicy) (candidate : Candidate)
    (entry : Sigma fun _ : String => List QueuedTask) : Candidate :=
  match peek env entry.2 with
  | none => candidate
  | some queued =>
    let currentWeight := (policy.proofGpuWeights.lookup entry.1).getD 0
    if currentWeight < candidate.lowestWeight
        ∨ (currentWeight = candidate.lowestWeight
          ∧ queued.proofCreatedAt < candidate.oldestTime) then
      { best := some queued
        lowestWeight := currentWeight
        oldestTime := queued.proofCreatedAt }
    else candidate

/-- `find_next_balanced_task`. -/
def findNextBalancedTask (env : Env) (policy : BalancedPolicy) : Option QueuedTask :=
  ((env.shuffle policy.gpuQueues.entries).foldl (Candidate.consider env policy)
    { best := none, lowestWeight := 2 ^ 32 - 1, oldestTime := 0 }).best

/-- `enqueue_task`. -/
def enqueueTask (workerType : WorkerType) (queued : QueuedTask) (policy : BalancedPolicy) :
    BalancedPolicy :=
  match workerType with
  | .cpu => { policy with cpuQueue := queued :: policy.cpuQueue }
  | .gpu =>
    { policy with
      gpuQueues := policy.gpuQueues.insert queued.proofId
        (queued :: (policy.gpuQueues.lookup queued.proofId).getD []) }
  | _ => policy

/-- `post_task_update_state`. -/
def postTaskUpdateState (taskWeight : ℕ) (proofId : String) (workerType : WorkerType)
    (policy : BalancedPolicy) : BalancedPolicy :=
  if workerType = .gpu then
    match policy.proofGpuWeights.lookup proofId with
    | none => policy
    | some currentWeight =>
      let rest := currentWeight - taskWeight
      { policy with
        proofGpuWeights :=
          if rest = 0 then policy.proofGpuWeights.erase proofId
          else policy.proofGpuWeights.insert proofId rest }
  else policy

/-- `on_proof_deleted`. -/
def onProofDeleted (proofId : String) (policy : BalancedPolicy) : BalancedPolicy :=
  { policy with proofGpuWeights := policy.proofGpuWeights.erase proofId }

/-- The weight `assign_task` charges to the proof of a GPU task. -/
def charge (workerType : WorkerType) (task : Task) (policy : BalancedPolicy) : BalancedPolicy :=
  if workerType = .gpu then
    { policy with
      proofGpuWeights := policy.proofGpuWeights.insert task.data.proofId
        (wrappingAdd32 ((policy.proofGpuWeights.lookup task.data.proofId).getD 0)
          task.data.weight) }
  else policy

/-- The end of `assign_task`: charge the weight and pop the task from its
queue. -/
def settle (env : Env) (workerType : WorkerType) (task : Task) (policy : BalancedPolicy) :
    BalancedPolicy :=
  let policy := charge workerType task policy
  match workerType with
  | .cpu => { policy with cpuQueue := pop env policy.cpuQueue }
  | .gpu => popGpu env task.data.proofId policy
  | _ => policy

def gpuLane (env : Env) : Lane BalancedPolicy where
  front := findNextBalancedTask env
  discard queued := popGpu env queued.proofId

def cpuLane (env : Env) : Lane BalancedPolicy where
  front policy := peek env policy.cpuQueue
  discard _ policy := { policy with cpuQueue := pop env policy.cpuQueue }

def gpuQueued (policy : BalancedPolicy) : List QueuedTask :=
  policy.gpuQueues.entries.flatMap fun entry => entry.2

/-- `assign_tasks`. -/
def assignTasks (build : Build) (env : Env) (state : CoordinatorState BalancedPolicy) :
    CoordinatorState BalancedPolicy × Except Status Unit :=
  if state.shuttingDown
      || (state.policy.gpuQueues.entries.isEmpty && state.policy.cpuQueue.isEmpty) then
    (state, .ok ())
  else
    assignLoops build env (settle env) (gpuLane env) (cpuLane env)
      (fun policy => policy.gpuQueued.length) (fun policy => policy.cpuQueue.length) state

end BalancedPolicy

instance : AssignmentPolicy BalancedPolicy where
  empty := ⟨[], ∅, ∅⟩
  enqueueTask := BalancedPolicy.enqueueTask
  postTaskUpdateState := BalancedPolicy.postTaskUpdateState
  onProofDeleted := BalancedPolicy.onProofDeleted
  assignTasks := BalancedPolicy.assignTasks
  cpuQueued policy := policy.cpuQueue
  gpuQueued := BalancedPolicy.gpuQueued
  chargesGpuWeight := true
  proofGpuWeight policy proofId := policy.proofGpuWeights.lookup proofId

end Sp1Cluster
