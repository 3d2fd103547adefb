import Sp1Cluster.Data.Table

/-!
# The data of the coordinator

The records the coordinator keeps for proofs, tasks and workers, the messages
it sends, and the environment one call reads from.

Times are nanoseconds since the Unix epoch and may be negative, because the
clock of the machine may be set before it. Weights are 32-bit words held as
natural numbers; every addition that can wrap says so.
-/

set_option autoImplicit false

namespace Sp1Cluster

/-- Nanoseconds since the Unix epoch. -/
abbrev SystemTime := ℤ

namespace SystemTime

/-- `duration_since(UNIX_EPOCH)`: fails when the clock is before the epoch. -/
def sinceEpoch (time : SystemTime) : Option ℕ :=
  if 0 ≤ time then some time.toNat else none

end SystemTime

/-- `Duration::as_secs`. -/
def asSecs (nanos : ℕ) : ℕ := nanos / 1000000000

/-- `Duration::as_millis`. -/
def asMillis (nanos : ℕ) : ℕ := nanos / 1000000

/-- Addition of 32-bit words in a release build. -/
def wrappingAdd32 (left right : ℕ) : ℕ := (left + right) % 2 ^ 32

/-- Addition of 64-bit words that stops at the largest one. -/
def saturatingAdd64 (left right : ℕ) : ℕ := min (left + right) (2 ^ 64 - 1)

inductive TaskType where
  | unspecifiedTaskType
  | controller
  | proveShard
  | recursionDeferred
  | recursionReduce
  | shrinkWrap
  | setupVkey
  | markerDeferredRecord
  | plonkWrap
  | groth16Wrap
  | utilVkeyMapChunk
  | utilVkeyMapController
  | executeOnly
  | coreExecute
deriving DecidableEq, Repr

inductive WorkerType where
  | unspecifiedWorkerType
  | none
  | cpu
  | gpu
  | all
deriving DecidableEq, Repr

inductive TaskStatus where
  | pending
  | running
  | succeeded
  | failedRetryable
  | failedFatal
deriving DecidableEq, Repr

/-- A finished task: `Succeeded` or `FailedFatal`. -/
def TaskStatus.isFinal : TaskStatus → Bool
  | .succeeded | .failedFatal => true
  | _ => false

/-- What is fixed when the coordinator is built and started. `fromTaskType` is
`WorkerType::from_task_type` of the prover's protocol crate, `cpuOnly` is the
compile-time flag `SP1_CLUSTER_CPU_ONLY`, and `controllerWeight` is read once
from `WORKER_CONTROLLER_WEIGHT`. -/
structure Build where
  fromTaskType : TaskType → WorkerType
  cpuOnly : Bool
  controllerWeight : ℕ

/-- `worker_type_from_task_type`. -/
def Build.workerTypeFromTaskType (build : Build) (taskType : TaskType) : WorkerType :=
  match build.fromTaskType taskType with
  | .gpu => if build.cpuOnly then .cpu else .gpu
  | workerType => workerType

/-- `estimate_duration`, in milliseconds. -/
def estimateDuration : TaskType → ℕ
  | .controller => 200
  | .plonkWrap => 8000
  | .groth16Wrap => 2000
  | .proveShard => 2000
  | .recursionDeferred => 400
  | .recursionReduce => 400
  | .shrinkWrap => 4000
  | .setupVkey => 4000
  | .markerDeferredRecord => 0
  | .unspecifiedTaskType => 0
  | .utilVkeyMapChunk | .utilVkeyMapController => 0
  | .executeOnly => 200
  | .coreExecute => 200

/-- `enable_proof_fail`: the task types whose fatal failure fails the proof. -/
def enableProofFail : TaskType → Bool
  | .controller | .groth16Wrap | .plonkWrap | .executeOnly | .coreExecute => true
  | _ => false

/-- `MAX_TASK_RETRIES`. -/
def maxTaskRetries : ℕ := 3

/-- `MIN_WORKER_HEARTBEAT_TIMEOUT`: four heartbeat intervals of five seconds. -/
def minWorkerHeartbeatTimeout : ℕ := 4 * 5

/-- `DEFAULT_WORKER_HEARTBEAT_TIMEOUT`. -/
def defaultWorkerHeartbeatTimeout : ℕ := 30

/-! ## Errors -/

inductive Code where
  | notFound
  | alreadyExists
  | failedPrecondition
  | internal
  | invalidArgument
deriving DecidableEq, Repr

structure Status where
  code : Code
  message : String
deriving DecidableEq, Repr

/-- How a call that does not return normally ends: with an error status for the
caller, or with a panic of the task that runs it. The changes made before are
kept in both cases. -/
inductive Fault where
  | status (status : Status)
  | panic (message : String)
deriving DecidableEq, Repr

def Status.notFound (message : String) : Status := ⟨.notFound, message⟩

/-- The error of a clock before the epoch. -/
def Status.clock : Status := ⟨.internal, "second time provided was later than self"⟩

/-! ## Requests -/

structure TaskData where
  taskType : TaskType
  inputs : List String
  outputs : List String
  metadata : String
  proofId : String
  parentId : Option String
  weight : ℕ
  requester : String
deriving DecidableEq, Repr

structure CreateProofRequest where
  proofId : String
  inputs : List String
  outputs : List String
  requester : String
  expiresAt : ℤ
deriving DecidableEq, Repr

structure CreateDummyProofRequest where
  proofId : String
  expiresAt : ℤ
deriving DecidableEq, Repr

/-- The part of `TaskMetadata` the coordinator reads. -/
structure TaskMetadata where
  gpuMs : ℕ
deriving DecidableEq, Repr

structure WorkerIdentity where
  version : String
  gitSha : String
  imageTag : String
  gpuName : String
  gpuMemoryTotalBytes : ℕ
  location : String
deriving DecidableEq, Repr

/-! ## Messages -/

abbrev Channel := ℕ

inductive ServerMessage where
  | newTask (taskId : String) (data : TaskData) (metadata : String)
  | cancelTask (proofId taskId : String)
  | serverHeartbeat
deriving DecidableEq, Repr

inductive SubMessage where
  | taskResult (taskId : String) (status : TaskStatus)
  | unknownTask (proofId taskId : String)
deriving DecidableEq, Repr

/-- `ProofResult`. Both policies send `()` as the metadata of a proof, so a
result carries no metadata here. -/
structure ProofResult where
  id : String
  success : Bool
  extraData : Option String
deriving DecidableEq, Repr

/-- What a call does besides changing the state it holds the lock of. -/
inductive Effect where
  | toWorker (workerId : String) (channel : Channel) (message : ServerMessage)
  | toSubscriber (subId : String) (channel : Channel) (message : SubMessage)
  | notifySubscribers (subscribers : List String) (proofId taskId : String) (status : TaskStatus)
  | closeTaskChannel (taskId : String)
  | proofResult (result : ProofResult)
  | endStreams
deriving DecidableEq, Repr

/-! ## Proofs, tasks and workers -/

/-- One assignment of a task to one worker. -/
structure GpuAttempt where
  onGpu : Bool
  credited : Bool
deriving DecidableEq, Repr

structure Task where
  id : String
  data : TaskData
  createdAt : SystemTime
  status : TaskStatus
  retries : ℕ
  subscribers : KeySet String
  worker : Option String
  gpuAttempts : Table String GpuAttempt
  deadWorkerRequeueCount : ℕ

/-- A proof being proven. `activeTasks` counts entries of the task table of the
same proof, with a `Counter`. -/
structure Proof where
  id : String
  tasks : Table String Task
  createdAt : SystemTime
  expiresAt : Option SystemTime
  activeTasks : ℕ

structure Worker where
  id : String
  workerType : WorkerType
  maxWeight : ℕ
  nextFreeTime : ℕ
  weight : ℕ
  activeTasks : KeySet (String × String)
  channel : Channel
  lastHeartbeat : ℕ
  closed : Bool
  identity : WorkerIdentity

/-- The state behind the coordinator's lock. `outbox` lists what the current
call has sent so far; the other fields are those of the source. -/
structure CoordinatorState (P : Type) where
  totalTasks : ℕ
  workers : Table String Worker
  proofs : Table String Proof
  proofsTx : Bool
  shuttingDown : Bool
  policy : P
  executeOnlyMode : Bool
  workerHeartbeatTimeoutSecs : ℕ
  gpuBusyMsTotal : ℕ
  outbox : List Effect

/-- The points of a call that read the clock. A turn of an assignment loop is
named by the number of turns that may follow it. -/
inductive ClockRead where
  | call
  | proofCreated
  | taskCreated
  | gpuTurn (following : ℕ)
  | cpuTurn (following : ℕ)
deriving DecidableEq, Repr

/-- What one call reads from its surroundings: the clock, the identifier drawn
for a new task, and the order in which hash tables and heaps list their
elements, which the standard library leaves open. -/
structure Env where
  clock : ClockRead → SystemTime
  taskId : String
  shuffle : {α : Type} → List α → List α
  shuffle_perm : ∀ {α : Type} (elements : List α), (shuffle elements).Perm elements

namespace Env

theorem mem_shuffle (env : Env) {α : Type} {element : α} {elements : List α} :
    element ∈ env.shuffle elements ↔ element ∈ elements :=
  (env.shuffle_perm elements).mem_iff

end Env

namespace Task

/-- A task that is neither `Succeeded` nor `FailedFatal`. -/
def unfinished (task : Task) : Bool := !task.status.isFinal

end Task

abbrev Build.schedulable (build : Build) (taskType : TaskType) : Prop :=
  build.workerTypeFromTaskType taskType = .cpu ∨ build.workerTypeFromTaskType taskType = .gpu

/-! ## Reading and changing the state -/

namespace CoordinatorState

variable {P : Type}

/-- `get_task_internal`. -/
def getTask (state : CoordinatorState P) (proofId taskId : String) : Option Task :=
  (state.proofs.lookup proofId).bind fun proof => proof.tasks.lookup taskId

def Holds (state : CoordinatorState P) (workerId proofId taskId : String) : Prop :=
  ∃ worker, state.workers.lookup workerId = some worker ∧ (proofId, taskId) ∈ worker.activeTasks

def emit (effect : Effect) (state : CoordinatorState P) : CoordinatorState P :=
  { state with outbox := state.outbox ++ [effect] }

def modifyTask (proofId taskId : String) (change : Task → Task) (state : CoordinatorState P) :
    CoordinatorState P :=
  { state with
    proofs := Table.modify proofId
      (fun proof => { proof with tasks := Table.modify taskId change proof.tasks }) state.proofs }

def modifyWorker (workerId : String) (change : Worker → Worker) (state : CoordinatorState P) :
    CoordinatorState P :=
  { state with workers := Table.modify workerId change state.workers }

def modifyPolicy (change : P → P) (state : CoordinatorState P) : CoordinatorState P :=
  { state with policy := change state.policy }

end CoordinatorState

end Sp1Cluster
