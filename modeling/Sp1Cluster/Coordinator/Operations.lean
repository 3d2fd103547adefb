import Sp1Cluster.Coordinator.Policy

/-!
# The operations of the coordinator

Each operation is the section it runs under the state lock: a function of the
state that returns the new state and what the caller gets. What an operation
does after it has released the lock is listed separately, because other
operations can run before it.

An early return or a panic keeps the changes made so far, so every result
carries the state reached.
-/

set_option autoImplicit false

namespace Sp1Cluster

/-- The outcome of a section under the lock: the state it leaves, what the
caller gets, and what is still to be done without the lock. -/
structure Outcome (P α : Type) where
  state : CoordinatorState P
  reply : Except Fault α
  after : List Effect := []

/-- `expires_at` of a request: an absent or non-positive deadline is none. -/
def expiresAtOf (expiresAt : ℤ) : Option SystemTime :=
  if 0 < expiresAt then some (expiresAt * 1000000000) else none

/-- `Proof::new`. -/
def Proof.new (id : String) (expiresAt : Option SystemTime) (now : SystemTime) : Proof where
  id := id
  tasks := ∅
  createdAt := now
  expiresAt := expiresAt
  activeTasks := 0

/-- `Worker::new`; the clock has been read by the caller. -/
def Worker.new (id : String) (workerType : WorkerType) (maxWeight : ℕ) (channel : Channel)
    (identity : WorkerIdentity) (lastHeartbeat : ℕ) : Worker where
  id := id
  workerType := workerType
  maxWeight := maxWeight
  nextFreeTime := 0
  weight := 0
  activeTasks := ∅
  channel := channel
  lastHeartbeat := lastHeartbeat
  closed := false
  identity := identity

/-! ## Changes of the records -/

/-- How `active_tasks` is counted up and down. -/
class Counter where
  raise : ℕ → ℕ
  lower : ℕ → ℕ

/-- The code's counter, a `u32` that wraps. -/
@[reducible]
def Counter.u32 : Counter where
  raise count := (count + 1) % 2 ^ 32
  lower count := (count + (2 ^ 32 - 1)) % 2 ^ 32

/-- Counting without a bound, where no other counter is given. It is what the code does as
long as it has room: `CoordinatorState.Narrow` says when that is. -/
instance Counter.unbounded : Counter where
  raise count := count + 1
  lower count := count - 1

@[simp]
theorem Counter.raise_unbounded (count : ℕ) : Counter.raise count = count + 1 := rfl

@[simp]
theorem Counter.lower_unbounded (count : ℕ) : Counter.lower count = count - 1 := rfl

def Task.new (env : Env) (data : TaskData) : Task where
  id := env.taskId
  data := data
  createdAt := env.clock .taskCreated
  status := .pending
  retries := 0
  subscribers := ∅
  worker := none
  gpuAttempts := ∅
  deadWorkerRequeueCount := 0

def Proof.addTask [Counter] (task : Task) (proof : Proof) : Proof :=
  { proof with
    activeTasks := Counter.raise proof.activeTasks
    tasks := proof.tasks.insert task.id task }

/-- Take a task off a worker: out of its set, its weight off the worker's
weight, and the policy's hook when the worker has become empty. -/
def Worker.release (key : String × String) (weight : ℕ) (worker : Worker) : Worker :=
  let worker :=
    { worker with
      activeTasks := worker.activeTasks.erase key
      weight := worker.weight - weight }
  if KeySet.isEmpty worker.activeTasks then postWorkerEmpty worker else worker

/-- Whether a completion adds GPU time: the first report of an attempt that was
assigned to a GPU worker. -/
def Task.creditsGpuTime (workerId : String) (task : Task) : Bool :=
  match task.gpuAttempts.lookup workerId with
  | some attempt => !attempt.credited && attempt.onGpu
  | none => false

/-- The record of a task after a completion. Subscribers are taken by the first
completion only. -/
def Task.complete (workerId : String) (task : Task) : Task :=
  { task with
    gpuAttempts := Table.modify workerId
      (fun attempt => { attempt with credited := true }) task.gpuAttempts
    status := .succeeded
    subscribers := if task.status = .succeeded then task.subscribers else ∅ }

/-- The record of a proof after the completion of one of its tasks. -/
def Proof.completeTask [Counter] (workerId taskId : String) (task : Task) (proof : Proof) :
    Proof :=
  { proof with
    activeTasks :=
      if task.unfinished then Counter.lower proof.activeTasks else proof.activeTasks
    tasks := proof.tasks.insert taskId (Task.complete workerId task) }

/-- The status that a failure report gives a task that has not succeeded. -/
def Task.failureStatus (retryable : Bool) (task : Task) : TaskStatus :=
  if retryable && task.retries != maxTaskRetries then .failedRetryable else .failedFatal

/-- The record of a task after a failure report. -/
def Task.fail (retryable : Bool) (task : Task) : Task :=
  { task with
    status := task.failureStatus retryable
    retries := if task.failureStatus retryable = .failedRetryable then task.retries + 1
      else task.retries }

/-- The record of a proof after the failure of one of its tasks. -/
def Proof.failTask [Counter] (retryable : Bool) (taskId : String) (task : Task)
    (proof : Proof) : Proof :=
  { proof with
    activeTasks :=
      if task.failureStatus retryable = .failedFatal ∧ task.status ≠ .failedFatal then
        Counter.lower proof.activeTasks
      else proof.activeTasks
    tasks := proof.tasks.insert taskId (Task.fail retryable task) }

/-- The worker update at the end of `fail_task`, which does not run the hook
for empty workers. -/
def Worker.abandon (key : String × String) (weight : ℕ) (worker : Worker) : Worker :=
  { worker with
    activeTasks := worker.activeTasks.erase key
    weight := worker.weight - weight }

namespace CoordinatorState

variable {P : Type} [AssignmentPolicy P]

/-- `Coordinator::new`. -/
def new : CoordinatorState P where
  totalTasks := 0
  workers := ∅
  proofs := ∅
  proofsTx := false
  shuttingDown := false
  policy := AssignmentPolicy.empty
  executeOnlyMode := false
  workerHeartbeatTimeoutSecs := defaultWorkerHeartbeatTimeout
  gpuBusyMsTotal := 0
  outbox := []

/-- `assign_tasks` as the last action of a section whose caller gets an error
status when it fails. -/
def assignThen {α : Type} (build : Build) (env : Env) (value : α) (after : List Effect)
    (state : CoordinatorState P) : Outcome P α :=
  match AssignmentPolicy.assignTasks build env state with
  | (state, .error status) => { state := state, reply := .error (.status status) }
  | (state, .ok ()) => { state := state, reply := .ok value, after := after }

/-- `assign_tasks(..).await.unwrap()`. -/
def assignOrPanic (build : Build) (env : Env) (state : CoordinatorState P) : Outcome P Unit :=
  match AssignmentPolicy.assignTasks build env state with
  | (state, .error status) => { state := state, reply := .error (.panic status.message) }
  | (state, .ok ()) => { state := state, reply := .ok () }

/-! ## Creating proofs and tasks -/

/-- `create_task_internal`. -/
def createTaskInternal [Counter] (build : Build) (env : Env) (data : TaskData)
    (state : CoordinatorState P) : Outcome P String :=
  let task := Task.new env data
  let state := { state with totalTasks := state.totalTasks + 1 }
  match state.proofs.lookup data.proofId with
  | none =>
    { state := state
      reply := .error (.status (.notFound s!"proof {data.proofId} not found")) }
  | some proof =>
    let state := { state with proofs := state.proofs.insert data.proofId (proof.addTask task) }
    (state.enqueueTask build task).assignThen build env task.id []

/-- `create_task`. -/
def createTask [Counter] (build : Build) (env : Env) (data : TaskData)
    (state : CoordinatorState P) : Outcome P String :=
  state.createTaskInternal build env data

/-- The checks that `create_proof` and `create_dummy_proof` share: the
coordinator is not shutting down and the proof is not stored. -/
def refuseProof (proofId : String) (state : CoordinatorState P) : Option Status :=
  if state.shuttingDown then some ⟨.failedPrecondition, "Server shutting down"⟩
  else if proofId ∈ state.proofs then
    some ⟨.alreadyExists, s!"proof {proofId} already exists"⟩
  else none

/-- Store a proof without tasks. -/
def insertProof (env : Env) (proofId : String) (expiresAt : ℤ) (state : CoordinatorState P) :
    CoordinatorState P :=
  { state with
    proofs := state.proofs.insert proofId
      (Proof.new proofId (expiresAtOf expiresAt) (env.clock .proofCreated)) }

/-- The data of the first task of a proof. -/
def rootTaskData (build : Build) (executeOnlyMode : Bool) (request : CreateProofRequest) :
    TaskData where
  taskType := if executeOnlyMode then .executeOnly else .controller
  inputs := request.inputs
  outputs := request.outputs
  metadata := "\x7b\x7d"
  proofId := request.proofId
  parentId := none
  weight := build.controllerWeight % 2 ^ 32
  requester := request.requester

/-- `create_proof`. -/
def createProof [Counter] (build : Build) (env : Env) (request : CreateProofRequest)
    (state : CoordinatorState P) : Outcome P String :=
  match state.refuseProof request.proofId with
  | some status => { state := state, reply := .error (.status status) }
  | none =>
    (state.insertProof env request.proofId request.expiresAt).createTaskInternal build env
      (rootTaskData build state.executeOnlyMode request)

/-- `create_dummy_proof`. -/
def createDummyProof (env : Env) (request : CreateDummyProofRequest)
    (state : CoordinatorState P) : Outcome P String :=
  match state.refuseProof request.proofId with
  | some status => { state := state, reply := .error (.status status) }
  | none => { state := state.insertProof env request.proofId request.expiresAt, reply := .ok "" }

/-! ## Releasing workers -/

/-- The policy's `post_task_update_state` for one task. -/
def postTaskUpdateState (build : Build) (proofId : String) (data : TaskData)
    (state : CoordinatorState P) : CoordinatorState P :=
  state.modifyPolicy
    (AssignmentPolicy.postTaskUpdateState data.weight proofId
      (build.workerTypeFromTaskType data.taskType))

/-- One turn of the loop in `release_remaining_assignments`. -/
def releaseAssignment (build : Build) (proofId : String) (skip : Option (String × String))
    (task : Task) (released : CoordinatorState P × Bool) : CoordinatorState P × Bool :=
  match task.worker with
  | none => released
  | some owner =>
    if some (owner, task.id) = skip then released
    else
      match released.1.workers.lookup owner with
      | none => released
      | some worker =>
        if (proofId, task.id) ∈ worker.activeTasks then
          (((released.1.emit
              (.toWorker worker.id worker.channel (.cancelTask proofId task.id))).modifyWorker owner
                (Worker.release (proofId, task.id) task.data.weight)).postTaskUpdateState build
                  proofId task.data,
            true)
        else released

/-- `release_remaining_assignments`: the state, and whether anything was
released. -/
def releaseRemainingAssignments (build : Build) (env : Env) (proof : Proof) (proofId : String)
    (skip : Option (String × String)) (state : CoordinatorState P) : CoordinatorState P × Bool :=
  (env.shuffle proof.tasks.entries).foldl
    (fun released entry => releaseAssignment build proofId skip entry.2 released) (state, false)

/-- `on_proof_deleted` and the removal of the proof's record. -/
def dropProof (proofId : String) (state : CoordinatorState P) : CoordinatorState P :=
  { state.modifyPolicy (AssignmentPolicy.onProofDeleted proofId) with
    proofs := state.proofs.erase proofId }

/-! ## Finishing tasks -/

/-- Whether a worker's set contains a task, as the code tests it. -/
def isHeldBy (workerId proofId taskId : String) (state : CoordinatorState P) : Bool :=
  match state.workers.lookup workerId with
  | none => false
  | some worker => decide ((proofId, taskId) ∈ worker.activeTasks)

/-- The subscribers that a completion notifies after the lock is released. -/
def completionNotices (proofId taskId : String) (task : Task) : List Effect :=
  if task.status = .succeeded then []
  else [.notifySubscribers task.subscribers.keys proofId taskId .succeeded]

/-- The part of `complete_task` before the ownership test: the record is
written, the proof is removed when this was its last active task, and GPU time
is credited. The flag says whether other tasks were taken off workers. -/
def recordCompletion [Counter] (build : Build) (env : Env) (workerId proofId taskId : String)
    (proof : Proof) (task : Task) (metadata : TaskMetadata) (state : CoordinatorState P) :
    CoordinatorState P × Bool :=
  let proof := proof.completeTask workerId taskId task
  let state := ({ state with proofs := state.proofs.insert proofId proof }).emit
    (.closeTaskChannel taskId)
  let (state, released) :=
    if proof.activeTasks = 0 then
      (state.dropProof proofId).releaseRemainingAssignments build env proof proofId
        (some (workerId, taskId))
    else (state, false)
  (if task.creditsGpuTime workerId then
      { state with gpuBusyMsTotal := saturatingAdd64 state.gpuBusyMsTotal metadata.gpuMs }
    else state,
    released)

/-- The reporting worker gives up its task. -/
def releaseOwn (build : Build) (workerId proofId taskId : String) (data : TaskData)
    (state : CoordinatorState P) : CoordinatorState P :=
  (state.postTaskUpdateState build proofId data).modifyWorker workerId
    (Worker.release (proofId, taskId) data.weight)

/-- `complete_task`. -/
def completeTask [Counter] (build : Build) (env : Env) (workerId proofId taskId : String)
    (metadata : TaskMetadata) (state : CoordinatorState P) : Outcome P Unit :=
  match state.proofs.lookup proofId with
  | none =>
    { state := state, reply := .error (.status (.notFound s!"proof {proofId} not found")) }
  | some proof =>
    match proof.tasks.lookup taskId with
    | none =>
      { state := state, reply := .error (.status (.notFound s!"task {taskId} not found")) }
    | some task =>
      let (state, released) :=
        state.recordCompletion build env workerId proofId taskId proof task metadata
      let stillOwned := state.isHeldBy workerId proofId taskId
      let state :=
        if stillOwned then state.releaseOwn build workerId proofId taskId task.data else state
      if released || stillOwned then
        state.assignThen build env () (completionNotices proofId taskId task)
      else
        { state := state, reply := .ok (), after := completionNotices proofId taskId task }

/-! ## Failing proofs -/

/-- The notifications `fail_proof_internal` sends for one task. -/
def teardownNotice (proofId : String) (task : Task) : List Effect :=
  if KeySet.isEmpty task.subscribers then []
  else [.notifySubscribers task.subscribers.keys proofId task.id .failedFatal]

def emitAll (effects : List Effect) (state : CoordinatorState P) : CoordinatorState P :=
  { state with outbox := state.outbox ++ effects }

/-- The part of `fail_proof_internal` after the blamed task has been vetted. -/
def tearDown (build : Build) (env : Env) (proofId : String) (notifySender : Bool)
    (extraData : Option String) (skip : Option (String × String)) (state : CoordinatorState P) :
    CoordinatorState P :=
  match state.proofs.lookup proofId with
  | none => state.dropProof proofId
  | some proof =>
    let tasks := (env.shuffle proof.tasks.entries).map fun entry => entry.2
    let state := (state.dropProof proofId).emitAll (tasks.flatMap (teardownNotice proofId))
    let state := (state.releaseRemainingAssignments build env proof proofId skip).1
    let state := state.emitAll (tasks.map fun task => .closeTaskChannel task.id)
    if notifySender && state.proofsTx then
      state.emit (.proofResult { id := proofId, success := false, extraData := extraData })
    else state

/-- `fail_proof_internal`. -/
def failProofInternal (build : Build) (env : Env) (proofId : String) (taskId : Option String)
    (notifySender : Bool) (extraData : Option String) (skip : Option (String × String))
    (state : CoordinatorState P) : Outcome P Unit :=
  if state.shuttingDown then { state := state, reply := .ok () }
  else
    match taskId, state.proofs.lookup proofId with
    | some blamed, some proof =>
      match proof.tasks.lookup blamed with
      | none =>
        { state := state
          reply := .error (.status
            (.notFound s!"task {blamed} not found in proof {proofId}")) }
      | some task =>
        if task.status = .succeeded then { state := state, reply := .ok () }
        else
          { state := state.tearDown build env proofId notifySender extraData skip
            reply := .ok () }
    | _, _ =>
      { state := state.tearDown build env proofId notifySender extraData skip, reply := .ok () }

/-- `fail_proof`. -/
def failProof (build : Build) (env : Env) (proofId : String) (taskId : Option String)
    (notifySender : Bool) (extraData : Option String) (state : CoordinatorState P) :
    Outcome P Unit :=
  state.failProofInternal build env proofId taskId notifySender extraData none

/-! ## Failing tasks -/

/-- The subscribers that a fatal failure notifies after the lock is released. -/
def failureNotices (proofId taskId : String) (task : Task) : List Effect :=
  if task.status = .failedFatal then
    [.notifySubscribers task.subscribers.keys proofId taskId .failedFatal]
  else []

/-- The removal of the proof inside `fail_task`: by hand when the task's type
fails the proof, otherwise when no active task is left. -/
def removeFailedProof (build : Build) (env : Env) (manualProofFail : Bool) (proof : Proof)
    (workerId proofId taskId : String) (state : CoordinatorState P) : CoordinatorState P :=
  if manualProofFail then
    (state.failProofInternal build env proofId none true none (some (workerId, taskId))).state
  else if proof.activeTasks = 0 then
    ((state.dropProof proofId).releaseRemainingAssignments build env proof proofId
      (some (workerId, taskId))).1
  else state

/-- The part of `fail_task` after the report has been accepted and before tasks
are assigned, for a task that has not succeeded. -/
def recordFailure [Counter] (build : Build) (env : Env) (workerId proofId taskId : String)
    (retryable : Bool) (proof : Proof) (task : Task) (state : CoordinatorState P) :
    CoordinatorState P :=
  let manualProofFail :=
    enableProofFail task.data.taskType && (!retryable || task.retries == maxTaskRetries)
  let proof := proof.failTask retryable taskId task
  let task := Task.fail retryable task
  let state := ({ state with proofs := state.proofs.insert proofId proof }).emit
    (.closeTaskChannel taskId)
  let state := state.removeFailedProof build env manualProofFail proof workerId proofId taskId
  let state := state.postTaskUpdateState build proofId task.data
  let state := state.modifyWorker workerId (Worker.abandon (proofId, taskId) task.data.weight)
  if task.status = .failedRetryable then state.enqueueTask build task else state

/-- `fail_task`. -/
def failTask [Counter] (build : Build) (env : Env) (workerId proofId taskId : String)
    (retryable : Bool) (state : CoordinatorState P) : Outcome P Unit :=
  match state.workers.lookup workerId with
  | none =>
    { state := state, reply := .error (.status (.notFound s!"worker {workerId} not found")) }
  | some worker =>
    if (proofId, taskId) ∉ worker.activeTasks then
      { state := state
        reply := .error (.status
          ⟨.failedPrecondition, s!"worker {workerId} is not working on task {taskId}"⟩) }
    else
      match state.proofs.lookup proofId with
      | none =>
        { state := state, reply := .error (.status (.notFound s!"proof {proofId} not found")) }
      | some proof =>
        match proof.tasks.lookup taskId with
        | none =>
          { state := state, reply := .error (.status (.notFound s!"task {taskId} not found")) }
        | some task =>
          if task.status = .succeeded then
            (state.releaseOwn build workerId proofId taskId task.data).assignThen build env () []
          else
            (state.recordFailure build env workerId proofId taskId retryable proof task).assignThen
              build env () (failureNotices proofId taskId (Task.fail retryable task))

/-- `complete_proof`: the result is sent after the read lock is released. -/
def completeProof (proofId : String) (extraData : Option String) (state : CoordinatorState P) :
    Outcome P Unit :=
  if proofId ∈ state.proofs then
    { state := state
      reply := .ok ()
      after :=
        if state.proofsTx then
          [.proofResult { id := proofId, success := true, extraData := extraData }]
        else [] }
  else
    { state := state, reply := .error (.status (.notFound s!"Proof {proofId} not found")) }

end CoordinatorState

end Sp1Cluster
