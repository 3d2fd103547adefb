import Sp1Cluster.Coordinator.Workers
import Sp1Cluster.Systems.Runs

/-!
# Calls and runs of the coordinator

Everything that can be asked of the coordinator, as one type of calls, and the
states that sequences of calls reach from an empty coordinator. Every call
comes with its own environment, so a run covers every clock, every drawn task
identifier and every order of the hash tables.
-/

set_option autoImplicit false

namespace Sp1Cluster

/-- The sections that run under the coordinator's lock. The two sweeps are
listed whole and also by their write sections, which can run later than the
scan they act on. -/
inductive Call where
  | createProof (request : CreateProofRequest)
  | createDummyProof (request : CreateDummyProofRequest)
  | createTask (data : TaskData)
  | completeTask (workerId proofId taskId : String) (metadata : TaskMetadata)
  | failTask (workerId proofId taskId : String) (retryable : Bool)
  | completeProof (proofId : String) (extraData : Option String)
  | failProof (proofId : String) (taskId : Option String) (notifySender : Bool)
      (extraData : Option String)
  | handleHeartbeat (workerId : String) (activeTaskProofIds activeTaskIds : List String)
      (currentWeight : ℕ)
  | addWorker (workerId : String) (workerType : WorkerType) (maxWeight : ℕ) (channel : Channel)
      (identity : WorkerIdentity)
  | closeWorker (workerId : String)
  | removeWorker (workerId : String)
  | cleanupDeadWorkers
  | removeDeadWorkers (dead : List String)
  | cleanupCancelExpiredProofs
  | failExpiredProofs (expired : List String)
  | addSubscriptions (subId proofId : String) (channel : Channel) (taskIds : List String)
  | sendHeartbeats
  | setProofsTx
  | setExecuteOnlyMode (executeOnlyMode : Bool)
  | setWorkerHeartbeatTimeout (secs : ℕ)
  | shutdown
deriving DecidableEq, Repr

def Call.drawsTaskId : Call → Bool
  | .createProof _ | .createTask _ => true
  | _ => false

def Call.stops : Call → Bool
  | .shutdown => true
  | _ => false

/-- Whether a call is the section of `add_subscriptions`. -/
def Call.subscribes : Call → Bool
  | .addSubscriptions .. => true
  | _ => false

/-- A call with the environment it runs in. -/
structure Event where
  env : Env
  call : Call

namespace Event

/-- The task identifier a call draws, if it draws one. -/
def drawn (event : Event) : Option String :=
  if event.call.drawsTaskId then some event.env.taskId else none

/-- Task identifiers are fresh: no identifier is drawn twice. -/
def FreshIds (events : List Event) : Prop := (events.filterMap drawn).Nodup

end Event

/-- Forget the value a call returns. -/
def Outcome.void {P α : Type} (outcome : Outcome P α) : Outcome P Unit where
  state := outcome.state
  reply := outcome.reply.map fun _ => ()
  after := outcome.after

namespace CoordinatorState

variable {P : Type} [AssignmentPolicy P]

/-- A state change that always succeeds. -/
def done (state : CoordinatorState P) : Outcome P Unit where
  state := state
  reply := .ok ()

def exec [Counter] (build : Build) (env : Env) (call : Call) (state : CoordinatorState P) :
    Outcome P Unit :=
  match call with
  | .createProof request => (state.createProof build env request).void
  | .createDummyProof request => (state.createDummyProof env request).void
  | .createTask data => (state.createTask build env data).void
  | .completeTask workerId proofId taskId metadata =>
    state.completeTask build env workerId proofId taskId metadata
  | .failTask workerId proofId taskId retryable =>
    state.failTask build env workerId proofId taskId retryable
  | .completeProof proofId extraData => state.completeProof proofId extraData
  | .failProof proofId taskId notifySender extraData =>
    state.failProof build env proofId taskId notifySender extraData
  | .handleHeartbeat workerId activeTaskProofIds activeTaskIds currentWeight =>
    state.handleHeartbeat build env workerId activeTaskProofIds activeTaskIds currentWeight
  | .addWorker workerId workerType maxWeight channel identity =>
    (state.addWorker build env workerId workerType maxWeight channel identity).void
  | .closeWorker workerId => state.closeWorker workerId
  | .removeWorker workerId => state.removeWorker build env workerId
  | .cleanupDeadWorkers => state.cleanupDeadWorkers build env
  | .removeDeadWorkers dead => state.removeDeadWorkers build env dead
  | .cleanupCancelExpiredProofs => state.cleanupCancelExpiredProofs build env
  | .failExpiredProofs expired => state.failExpiredProofs build env expired
  | .addSubscriptions subId proofId channel taskIds =>
    done (state.addSubscriptions subId proofId channel taskIds)
  | .sendHeartbeats => done (state.sendHeartbeats env)
  | .setProofsTx => done state.setProofsTx
  | .setExecuteOnlyMode executeOnlyMode => done (state.setExecuteOnlyMode executeOnlyMode)
  | .setWorkerHeartbeatTimeout secs => done (state.setWorkerHeartbeatTimeout secs)
  | .shutdown => done (state.shutdown env)

/-- Every call starts with nothing sent. -/
def clearOutbox (state : CoordinatorState P) : CoordinatorState P := { state with outbox := [] }

def step [Counter] (build : Build) (state : CoordinatorState P) (event : Event) :
    CoordinatorState P :=
  (state.clearOutbox.exec build event.env event.call).state

/-- The state an empty coordinator reaches by a list of events. -/
def reach (P : Type) [AssignmentPolicy P] [Counter] (build : Build) (events : List Event) :
    CoordinatorState P :=
  Systems.run (step build) new events

theorem reach_snoc {P : Type} [AssignmentPolicy P] [Counter] {build : Build} (past : List Event)
    (event : Event) : reach P build (past ++ [event]) = (reach P build past).step build event :=
  Systems.run_snoc _ _ _ _

end CoordinatorState

/-! ## Plain surroundings

A build and environments in which calls can be evaluated. -/

/-- Controllers and wraps run on CPU workers, proving tasks on GPU workers. -/
def Build.plain : Build where
  fromTaskType
    | .controller | .plonkWrap | .groth16Wrap | .executeOnly | .coreExecute => .cpu
    | .proveShard | .recursionDeferred | .recursionReduce | .shrinkWrap | .setupVkey => .gpu
    | _ => .none
  cpuOnly := false
  controllerWeight := 4

/-- The clock stands still, and tables are listed as they are stored. -/
def Env.plain (time : SystemTime) (taskId : String) : Env where
  clock _ := time
  taskId := taskId
  shuffle elements := elements
  shuffle_perm _ := .rfl

/-- A call one second after the epoch. -/
def Call.plain (call : Call) (taskId : String) : Event where
  env := .plain 1000000000 taskId
  call := call

namespace Call

/-- Register a worker without identity. -/
def register (workerId : String) (workerType : WorkerType) (maxWeight : ℕ) : Call :=
  .addWorker workerId workerType maxWeight 0 ⟨"", "", "", "", 0, ""⟩

/-- Create a proof without inputs, outputs and deadline. -/
def claim (proofId : String) : Call := .createProof ⟨proofId, [], [], "", 0⟩

def spawn (proofId : String) (taskType : TaskType) (weight : ℕ) : Call :=
  .createTask ⟨taskType, [], [], "", proofId, Option.none, weight, ""⟩

end Call

end Sp1Cluster
