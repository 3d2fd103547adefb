import Sp1Cluster.Coordinator.Policy

/-!
# The default policy

One queue for CPU tasks and one for GPU tasks, each ordered by priority.
-/

set_option autoImplicit false

namespace Sp1Cluster

structure DefaultPolicy where
  cpuQueue : List QueuedTask
  gpuQueue : List QueuedTask
deriving DecidableEq, Repr

namespace DefaultPolicy

/-- The first arm of `QueuedTask::cmp` takes these types on both sides. -/
def cpuOrdered : TaskType → Bool
  | .controller | .plonkWrap | .groth16Wrap | .executeOnly => true
  | _ => false

/-- `QueuedTask::cmp`. -/
def cmp (self other : QueuedTask) : Ordering :=
  if cpuOrdered self.taskType && cpuOrdered other.taskType then
    (compare self.proofCreatedAt other.proofCreatedAt).then
      (compare self.createdAt other.createdAt)
  else
    match self.taskType, other.taskType with
    | .setupVkey, .setupVkey =>
      (compare self.proofCreatedAt other.proofCreatedAt).then
        (compare self.createdAt other.createdAt)
    | .setupVkey, _ => .lt
    | _, .setupVkey => .gt
    | _, _ =>
      (compare self.proofCreatedAt other.proofCreatedAt).then <|
        match self.taskType, other.taskType with
        | .proveShard, .proveShard => compare self.createdAt other.createdAt
        | .proveShard, _ => .lt
        | _, .proveShard => .gt
        | _, _ => compare self.createdAt other.createdAt

/-- `BinaryHeap::peek` on a heap of reversed entries. -/
def peek (env : Env) (queue : List QueuedTask) : Option QueuedTask :=
  PriorityQueue.least cmp (env.shuffle queue)

/-- `BinaryHeap::pop`. -/
def pop (env : Env) (queue : List QueuedTask) : List QueuedTask :=
  PriorityQueue.remove (peek env queue) queue

/-- `enqueue_task`. -/
def enqueueTask (workerType : WorkerType) (queued : QueuedTask) (policy : DefaultPolicy) :
    DefaultPolicy :=
  match workerType with
  | .cpu => { policy with cpuQueue := queued :: policy.cpuQueue }
  | .gpu => { policy with gpuQueue := queued :: policy.gpuQueue }
  | _ => policy

/-- The end of `assign_task`: pop the task from its queue. -/
def settle (env : Env) (workerType : WorkerType) (_task : Task) (policy : DefaultPolicy) :
    DefaultPolicy :=
  match workerType with
  | .cpu => { policy with cpuQueue := pop env policy.cpuQueue }
  | .gpu => { policy with gpuQueue := pop env policy.gpuQueue }
  | _ => policy

def gpuLane (env : Env) : Lane DefaultPolicy where
  front policy := peek env policy.gpuQueue
  discard _ policy := { policy with gpuQueue := pop env policy.gpuQueue }

def cpuLane (env : Env) : Lane DefaultPolicy where
  front policy := peek env policy.cpuQueue
  discard _ policy := { policy with cpuQueue := pop env policy.cpuQueue }

/-- `assign_tasks`. -/
def assignTasks (build : Build) (env : Env) (state : CoordinatorState DefaultPolicy) :
    CoordinatorState DefaultPolicy × Except Status Unit :=
  if state.shuttingDown
      || (state.policy.gpuQueue.isEmpty && state.policy.cpuQueue.isEmpty) then
    (state, .ok ())
  else
    assignLoops build env (settle env) (gpuLane env) (cpuLane env)
      (fun policy => policy.gpuQueue.length) (fun policy => policy.cpuQueue.length) state

end DefaultPolicy

instance : AssignmentPolicy DefaultPolicy where
  empty := ⟨[], []⟩
  enqueueTask := DefaultPolicy.enqueueTask
  postTaskUpdateState _ _ _ policy := policy
  onProofDeleted _ policy := policy
  assignTasks := DefaultPolicy.assignTasks
  cpuQueued policy := policy.cpuQueue
  gpuQueued policy := policy.gpuQueue
  chargesGpuWeight := false
  proofGpuWeight _ _ := none

end Sp1Cluster
