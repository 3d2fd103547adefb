import Sp1Cluster.Coordinator.Operations

/-!
# Workers, sweeps and shutdown

The operations that register workers, reconcile them by heartbeats and remove
them, the two periodic sweeps, the locked section of a subscription, and the
shutdown.

A sweep first scans under the read lock and then acts under the write lock on
what the scan found. The second section is a separate operation, for any list
of identifiers, because other operations can run between the two.
-/

set_option autoImplicit false

namespace Sp1Cluster

/-- The record of a task put back into the queue because its worker is gone. -/
def Task.requeue (task : Task) : Task :=
  { task with deadWorkerRequeueCount := min (task.deadWorkerRequeueCount + 1) (2 ^ 32 - 1) }

/-- The record of a worker after a heartbeat: the weight is the recomputed one,
and the policy's hook runs when the worker is empty. -/
def Worker.reconcile (now assigned : ℕ) (activeTasks : KeySet (String × String))
    (worker : Worker) : Worker :=
  let worker :=
    { worker with lastHeartbeat := now, weight := assigned, activeTasks := activeTasks }
  if KeySet.isEmpty activeTasks then postWorkerEmpty worker else worker

namespace CoordinatorState

variable {P : Type} [AssignmentPolicy P]

/-- The panic of `duration_since(UNIX_EPOCH).unwrap()`. -/
def clockPanic : Fault := .panic Status.clock.message

/-! ## Heartbeats -/

def taskWeight (state : CoordinatorState P) (key : String × String) : ℕ :=
  match state.getTask key.1 key.2 with
  | none => 0
  | some task => task.data.weight

/-- `assigned_weight`: the sum of 32-bit words of the stored tasks of a set. -/
def assignedWeight (state : CoordinatorState P) (activeTasks : KeySet (String × String)) : ℕ :=
  KeySet.sumOver state.taskWeight activeTasks % 2 ^ 32

/-- The cancellation of a reported task that the worker should not hold. -/
def cancelUnexpected (worker : Worker) (key : String × String) : List Effect :=
  if key ∈ worker.activeTasks then []
  else [.toWorker worker.id worker.channel (.cancelTask key.1 key.2)]

/-- The redelivery of a task that the worker holds but did not report. The
policies' task metadata is the empty string, sent in its JSON form. -/
def resendTask (state : CoordinatorState P) (worker : Worker) (key : String × String) :
    List Effect :=
  match state.getTask key.1 key.2 with
  | none => []
  | some task => [.toWorker worker.id worker.channel (.newTask task.id task.data "\"\"")]

/-- `handle_heartbeat`. The worker's own count of its weight is only logged. -/
def handleHeartbeat (build : Build) (env : Env) (workerId : String)
    (activeTaskProofIds activeTaskIds : List String) (_currentWeight : ℕ)
    (state : CoordinatorState P) : Outcome P Unit :=
  match state.workers.lookup workerId with
  | none =>
    { state := state, reply := .error (.status (.notFound s!"worker {workerId} not found")) }
  | some worker =>
    match (env.clock .call).sinceEpoch with
    | none => { state := state, reply := .error clockPanic }
    | some now =>
      let workerSet := activeTaskProofIds.zip activeTaskIds
      let missing := (env.shuffle worker.activeTasks.keys).filter (· ∉ workerSet)
      let tasksToRemove := missing.filter fun key => (state.getTask key.1 key.2).isNone
      let activeTasks := tasksToRemove.foldl (fun keys key => keys.erase key) worker.activeTasks
      let assigned := state.assignedWeight worker.activeTasks
      let state := state.emitAll (workerSet.flatMap (cancelUnexpected worker)
        ++ missing.flatMap (state.resendTask worker))
      let state := state.modifyWorker workerId
        (Worker.reconcile (asSecs now) assigned activeTasks)
      if !tasksToRemove.isEmpty || KeySet.isEmpty activeTasks then
        state.assignOrPanic build env
      else { state := state, reply := .ok () }

/-- `send_heartbeats`. -/
def sendHeartbeats (env : Env) (state : CoordinatorState P) : CoordinatorState P :=
  state.emitAll ((env.shuffle state.workers.entries).map fun entry =>
    .toWorker entry.2.id entry.2.channel .serverHeartbeat)

/-! ## Registration and removal -/

/-- `add_worker`; the reply says whether the worker already existed. -/
def addWorker (build : Build) (env : Env) (workerId : String) (workerType : WorkerType)
    (maxWeight : ℕ) (channel : Channel) (identity : WorkerIdentity)
    (state : CoordinatorState P) : Outcome P Bool :=
  if workerId ∈ state.workers then
    { state := state.modifyWorker workerId fun worker =>
        { worker with channel := channel, identity := identity }
      reply := .ok true }
  else
    match (env.clock .call).sinceEpoch with
    | none => { state := state, reply := .error clockPanic }
    | some now =>
      ({ state with
          workers := state.workers.insert workerId
            (Worker.new workerId workerType maxWeight channel identity (asSecs now))
        }).assignThen build env false []

/-- `close_worker`. -/
def closeWorker (workerId : String) (state : CoordinatorState P) : Outcome P Unit :=
  if workerId ∈ state.workers then
    { state := state.modifyWorker workerId fun worker => { worker with closed := true }
      reply := .ok () }
  else
    { state := state, reply := .error (.status (.notFound s!"worker {workerId} not found")) }

/-- One turn of the loop in `remove_worker_internal`. -/
def requeueTask (build : Build) (state : CoordinatorState P) (key : String × String) :
    CoordinatorState P :=
  match state.getTask key.1 key.2 with
  | none => state
  | some task =>
    ((state.modifyTask key.1 key.2 Task.requeue).postTaskUpdateState build key.1
      task.data).enqueueTask build task.requeue

/-- `remove_worker_internal`. -/
def removeWorkerInternal (build : Build) (env : Env) (state : CoordinatorState P)
    (workerId : String) : CoordinatorState P :=
  match state.workers.lookup workerId with
  | none => state
  | some worker =>
    (env.shuffle worker.activeTasks.keys).foldl (requeueTask build)
      { state with workers := state.workers.erase workerId }

/-- `remove_worker`; a failed assignment is only logged. -/
def removeWorker (build : Build) (env : Env) (workerId : String) (state : CoordinatorState P) :
    Outcome P Unit :=
  { state := (AssignmentPolicy.assignTasks build env
      (state.removeWorkerInternal build env workerId)).1
    reply := .ok () }

/-! ## Sweeps -/

/-- Whether the scan of `cleanup_dead_workers` takes a worker for dead. -/
def isDead (timeoutSecs now : ℕ) (worker : Worker) : Bool :=
  (worker.lastHeartbeat + timeoutSecs) % 2 ^ 64 < now

/-- The scan of `cleanup_dead_workers`. -/
def deadWorkers (env : Env) (now : ℕ) (state : CoordinatorState P) : List String :=
  (env.shuffle state.workers.entries).filterMap fun entry =>
    if isDead state.workerHeartbeatTimeoutSecs now entry.2 then some entry.1 else none

/-- The write section of `cleanup_dead_workers`. -/
def removeDeadWorkers (build : Build) (env : Env) (dead : List String)
    (state : CoordinatorState P) : Outcome P Unit :=
  (dead.foldl (removeWorkerInternal build env) state).assignOrPanic build env

/-- `cleanup_dead_workers` with nothing between its two sections. -/
def cleanupDeadWorkers (build : Build) (env : Env) (state : CoordinatorState P) :
    Outcome P Unit :=
  match (env.clock .call).sinceEpoch with
  | none => { state := state, reply := .error clockPanic }
  | some now =>
    let dead := state.deadWorkers env (asSecs now)
    if dead.isEmpty then { state := state, reply := .ok () }
    else state.removeDeadWorkers build env dead

/-- Whether the scan of `cleanup_cancel_expired_proofs` takes a proof for
expired. -/
def isExpired (now : SystemTime) (proof : Proof) : Bool :=
  match proof.expiresAt with
  | none => false
  | some expiresAt => expiresAt < now

/-- The scan of `cleanup_cancel_expired_proofs`. -/
def expiredProofs (env : Env) (now : SystemTime) (state : CoordinatorState P) : List String :=
  (env.shuffle state.proofs.entries).filterMap fun entry =>
    if isExpired now entry.2 then some entry.1 else none

/-- The write section of `cleanup_cancel_expired_proofs`; a refused failure is
only logged. -/
def failExpiredProofs (build : Build) (env : Env) (expired : List String)
    (state : CoordinatorState P) : Outcome P Unit :=
  (expired.foldl
    (fun state proofId =>
      (state.failProofInternal build env proofId none false none none).state)
    state).assignOrPanic build env

/-- `cleanup_cancel_expired_proofs` with nothing between its two sections. -/
def cleanupCancelExpiredProofs (build : Build) (env : Env) (state : CoordinatorState P) :
    Outcome P Unit :=
  let expired := state.expiredProofs env (env.clock .call)
  if expired.isEmpty then { state := state, reply := .ok () }
  else state.failExpiredProofs build env expired

/-! ## Subscriptions -/

/-- One turn of the loop in `add_subscriptions`, for a stored proof. -/
def subscribeTask (subId proofId : String) (channel : Channel) (state : CoordinatorState P)
    (taskId : String) : CoordinatorState P :=
  match state.getTask proofId taskId with
  | none => state.emit (.toSubscriber subId channel (.unknownTask proofId taskId))
  | some task =>
    if task.status.isFinal then
      state.emit (.toSubscriber subId channel (.taskResult taskId task.status))
    else
      state.modifyTask proofId taskId fun task =>
        { task with subscribers := KeySet.add subId task.subscribers }

/-- The section of `add_subscriptions` under the state lock, for the proof and
the channel the subscriber had when it was looked up. -/
def addSubscriptions (subId proofId : String) (channel : Channel) (taskIds : List String)
    (state : CoordinatorState P) : CoordinatorState P :=
  if proofId ∈ state.proofs then
    taskIds.foldl (subscribeTask subId proofId channel) state
  else
    state.emitAll (taskIds.map fun taskId =>
      .toSubscriber subId channel (.unknownTask proofId taskId))

/-! ## Settings and shutdown -/

def setProofsTx (state : CoordinatorState P) : CoordinatorState P :=
  { state with proofsTx := true }

def setExecuteOnlyMode (executeOnlyMode : Bool) (state : CoordinatorState P) :
    CoordinatorState P :=
  { state with executeOnlyMode := executeOnlyMode }

/-- `set_worker_heartbeat_timeout`: never below the floor. -/
def setWorkerHeartbeatTimeout (secs : ℕ) (state : CoordinatorState P) : CoordinatorState P :=
  { state with
    workerHeartbeatTimeoutSecs :=
      if secs < minWorkerHeartbeatTimeout then minWorkerHeartbeatTimeout else secs }

/-- The cancellations `shutdown` sends to one worker. -/
def cancelAll (env : Env) (worker : Worker) : List Effect :=
  (env.shuffle worker.activeTasks.keys).map fun key =>
    .toWorker worker.id worker.channel (.cancelTask key.1 key.2)

/-- `shutdown`. -/
def shutdown (env : Env) (state : CoordinatorState P) : CoordinatorState P :=
  let state := { state with shuttingDown := true }
  let state := state.emitAll
    ((env.shuffle state.workers.entries).flatMap fun entry => cancelAll env entry.2)
  ({ state with
      workers := Table.mapValues (fun worker => { worker with activeTasks := ∅ }) state.workers
    }).emit .endStreams

end CoordinatorState

end Sp1Cluster
