import Sp1Cluster.Coordinator.Contract
import Sp1Cluster.Coordinator.Calls

/-!
# The moves of the board

Every call of the coordinator is a sequence of a few kinds of moves on its
board, followed by turns of the assignment loop. The moves are small enough
that each of them keeps every invariant, and they say all that a call can do to
proofs, tasks, workers and the backlog, so an invariant is checked against the
moves and never against the calls.
-/

set_option autoImplicit false

namespace Sp1Cluster

open Relation

/-- What a call brings with it: the weights of the tasks it creates, the
capacities of the workers it registers, the tasks it reports as completed and
as failed, the proofs it may remove, the subscriptions it makes, and whether it
stops the coordinator. -/
structure Inputs where
  weights : Set ℕ
  capacities : Set ℕ
  completed : Set TaskKey
  failed : Set (TaskKey × Bool)
  ended : Set String
  subscribed : Set (String × TaskKey)
  stops : Bool

namespace Inputs

/-- Whether a call reports a failure of a task. -/
def Fails (inputs : Inputs) (key : TaskKey) : Prop := ∃ retryable, (key, retryable) ∈ inputs.failed

def none : Inputs := ⟨∅, ∅, ∅, ∅, ∅, ∅, false⟩

structure Le (inputs other : Inputs) : Prop where
  weights : inputs.weights ⊆ other.weights
  capacities : inputs.capacities ⊆ other.capacities
  completed : inputs.completed ⊆ other.completed
  failed : inputs.failed ⊆ other.failed
  ended : inputs.ended ⊆ other.ended
  subscribed : inputs.subscribed ⊆ other.subscribed
  stops : inputs.stops = true → other.stops = true

end Inputs

def Call.inputs (build : Build) : Call → Inputs
  | .createProof _ => { Inputs.none with weights := {build.controllerWeight % 2 ^ 32} }
  | .createTask data => { Inputs.none with weights := {data.weight} }
  | .completeTask _ proofId taskId _ =>
    { Inputs.none with completed := {(proofId, taskId)}, ended := {proofId} }
  | .failTask _ proofId taskId retryable =>
    { Inputs.none with failed := {((proofId, taskId), retryable)}, ended := {proofId} }
  | .failProof proofId _ _ _ => { Inputs.none with ended := {proofId} }
  | .cleanupCancelExpiredProofs => { Inputs.none with ended := Set.univ }
  | .failExpiredProofs expired => { Inputs.none with ended := {proofId | proofId ∈ expired} }
  | .addWorker _ _ maxWeight _ _ => { Inputs.none with capacities := {maxWeight} }
  | .addSubscriptions subId proofId _ taskIds =>
    { Inputs.none with
      subscribed := {subscription | ∃ taskId ∈ taskIds, subscription = (subId, (proofId, taskId))} }
  | .shutdown => { Inputs.none with stops := true }
  | _ => Inputs.none

theorem Call.stops_inputs (build : Build) (call : Call) :
    (call.inputs build).stops = call.stops := by
  cases call <;> rfl

namespace Board

def taskWeight (board : Board) (key : TaskKey) : ℕ :=
  match board.task key with
  | none => 0
  | some task => task.data.weight

/-- Take a task off a worker: the worker's record changes, the weight is given
back, and a task that is unfinished, or goes back to its queue in any case, is in
transit. -/
def release (build : Build) (workerId : String) (worker' : Worker) (key : TaskKey) (task : Task)
    (goesBack : Bool) (board : Board) : Board :=
  { (board.setWorker workerId worker').withBacklog
      (Backlog.discharge (build.workerTypeFromTaskType task.data.taskType) key.1
        task.data.weight) with
    transit := if task.unfinished || goesBack then insert key board.transit else board.transit }

/-- Store a new task, in transit to its queue. -/
def addTask [Counter] (proof : Proof) (task : Task) (board : Board) : Board :=
  { board.setProof task.data.proofId (proof.addTask task) with
    transit := insert (task.data.proofId, task.id) board.transit
    issued := insert task.id board.issued }

def removeProof (proofId : String) (board : Board) : Board :=
  { board with
    proofs := board.proofs.erase proofId
    backlog := board.backlog.forget proofId
    transit := {key ∈ board.transit | key.1 ≠ proofId} }

def removeWorker (workerId : String) (board : Board) : Board :=
  { board with workers := board.workers.erase workerId }

/-- Record a failure report. A fatally failed task is not in transit any
more. -/
def failTask (proofId : String) (proof : Proof) (retryable : Bool) (taskId : String) (task : Task)
    (board : Board) : Board :=
  let board := board.setProof proofId (proof.failTask retryable taskId task)
  if task.failureStatus retryable = .failedFatal then board.settle (proofId, taskId) else board

/-- Stop: no worker holds anything any more. -/
def halt (board : Board) : Board :=
  { board with
    shuttingDown := true
    workers := Table.mapValues (fun worker => { worker with activeTasks := ∅ }) board.workers
    transit := board.transit ∪ {key | ∃ workerId, board.Holds workerId key} }

end Board

/-- A worker record that scheduling does not tell from another. -/
structure Worker.Alike (worker worker' : Worker) : Prop where
  id : worker'.id = worker.id
  maxWeight : worker'.maxWeight = worker.maxWeight
  activeTasks : worker'.activeTasks = worker.activeTasks

/-- A task record that scheduling does not tell from another. -/
structure Task.Alike (task task' : Task) : Prop where
  id : task'.id = task.id
  data : task'.data = task.data
  worker : task'.worker = task.worker
  status : task'.status = task.status

/-- One move of a call, apart from assignment. -/
inductive Board.Move (build : Build) (inputs : Inputs) : Board → Board → Prop where
  | addProof {board : Board} {proofId : String} {proof : Proof}
      (absent : proofId ∉ board.proofs) (empty : proof.tasks = ∅) (idle : proof.activeTasks = 0) :
      Move build inputs board (board.setProof proofId proof)
  | addTask {board : Board} {proof : Proof} (env : Env) (data : TaskData)
      (found : board.proofs.lookup data.proofId = some proof)
      (fresh : env.taskId ∉ board.issued) (weight : data.weight ∈ inputs.weights) :
      Move build inputs board (board.addTask proof (Task.new env data))
  | enqueue {board : Board} {proofId taskId : String} {task : Task} {queued : QueuedTask}
      (stored : board.task (proofId, taskId) = some task)
      (inTransit : (proofId, taskId) ∈ board.transit)
      (notFatal : task.status ≠ .failedFatal)
      (key : queued.key = (proofId, taskId)) (type : queued.taskType = task.data.taskType) :
      Move build inputs board
        ((board.withBacklog
          (Backlog.add (build.workerTypeFromTaskType task.data.taskType) queued)).settle
            (proofId, taskId))
  | release {board : Board} {workerId : String} {worker worker' : Worker} {key : TaskKey}
      {task : Task} (registered : board.workers.lookup workerId = some worker)
      (held : key ∈ worker.activeTasks) (stored : board.task key = some task)
      (released : worker' = worker.release key task.data.weight ∨
        worker' = worker.abandon key task.data.weight) (goesBack : Bool) :
      Move build inputs board (board.release build workerId worker' key task goesBack)
  | complete {board : Board} {workerId proofId taskId : String} {proof : Proof} {task : Task}
      (found : board.proofs.lookup proofId = some proof)
      (stored : proof.tasks.lookup taskId = some task)
      (alive : (proof.completeTask workerId taskId task).activeTasks ≠ 0)
      (reported : (proofId, taskId) ∈ inputs.completed) :
      Move build inputs board
        ((board.setProof proofId (proof.completeTask workerId taskId task)).settle
          (proofId, taskId))
  | fail {board : Board} {proofId taskId : String} {proof : Proof} {task : Task}
      {retryable : Bool} (found : board.proofs.lookup proofId = some proof)
      (stored : proof.tasks.lookup taskId = some task)
      (inTransit : (proofId, taskId) ∈ board.transit) (unfinished : task.unfinished = true)
      (alive : (proof.failTask retryable taskId task).activeTasks ≠ 0)
      (reported : ((proofId, taskId), retryable) ∈ inputs.failed) :
      Move build inputs board (board.failTask proofId proof retryable taskId task)
  | removeProof {board : Board} {proofId : String}
      (vacated : ∀ workerId taskId, ¬ board.Holds workerId (proofId, taskId))
      (ended : proofId ∈ inputs.ended) :
      Move build inputs board (board.removeProof proofId)
  | addWorker {board : Board} {workerId : String} {worker : Worker}
      (absent : workerId ∉ board.workers) (own : worker.id = workerId)
      (empty : worker.activeTasks = ∅) (weightless : worker.weight = 0)
      (capacity : worker.maxWeight ∈ inputs.capacities) :
      Move build inputs board (board.setWorker workerId worker)
  | changeWorker {board : Board} {workerId : String} {worker worker' : Worker}
      (registered : board.workers.lookup workerId = some worker) (alike : worker.Alike worker')
      (weight : worker'.weight = worker.weight ∨
        worker'.weight = KeySet.sumOver board.taskWeight worker.activeTasks % 2 ^ 32) :
      Move build inputs board (board.setWorker workerId worker')
  | removeWorker {board : Board} {workerId : String} {worker : Worker}
      (registered : board.workers.lookup workerId = some worker)
      (empty : ∀ key, key ∉ worker.activeTasks) :
      Move build inputs board (board.removeWorker workerId)
  | requeued {board : Board} {proofId taskId : String} {proof : Proof} {task : Task}
      (found : board.proofs.lookup proofId = some proof)
      (stored : proof.tasks.lookup taskId = some task) :
      Move build inputs board (board.setTask proofId proof taskId task.requeue)
  | subscribe {board : Board} {subId proofId taskId : String} {proof : Proof} {task : Task}
      (found : board.proofs.lookup proofId = some proof)
      (stored : proof.tasks.lookup taskId = some task) (unfinished : task.unfinished = true)
      (asked : (subId, (proofId, taskId)) ∈ inputs.subscribed) :
      Move build inputs board
        (board.setTask proofId proof taskId
          { task with subscribers := KeySet.add subId task.subscribers })
  | halt {board : Board} (asked : inputs.stops = true) : Move build inputs board board.halt

namespace Board

theorem Move.mono {build : Build} {inputs other : Inputs} {board board' : Board}
    (le : inputs.Le other) (move : Move build inputs board board') :
    Move build other board board' := by
  cases move with
  | addProof absent empty idle => exact .addProof absent empty idle
  | addTask env data found fresh weight =>
    exact .addTask env data found fresh (le.weights weight)
  | enqueue stored inTransit notFatal key type => exact .enqueue stored inTransit notFatal key type
  | release registered held stored released goesBack =>
    exact .release registered held stored released goesBack
  | complete found stored alive reported =>
    exact .complete found stored alive (le.completed reported)
  | fail found stored inTransit unfinished alive reported =>
    exact .fail found stored inTransit unfinished alive (le.failed reported)
  | removeProof vacated ended => exact .removeProof vacated (le.ended ended)
  | addWorker absent own empty weightless capacity =>
    exact .addWorker absent own empty weightless (le.capacities capacity)
  | changeWorker registered alike weight => exact .changeWorker registered alike weight
  | removeWorker registered empty => exact .removeWorker registered empty
  | requeued found stored => exact .requeued found stored
  | subscribe found stored unfinished asked =>
    exact .subscribe found stored unfinished (le.subscribed asked)
  | halt asked => exact .halt (le.stops asked)

abbrev Moves (build : Build) (inputs : Inputs) : Board → Board → Prop :=
  ReflTransGen (Move build inputs)

theorem Moves.mono {build : Build} {inputs other : Inputs} {board board' : Board}
    (le : inputs.Le other) (moves : Moves build inputs board board') :
    Moves build other board board' :=
  moves.lift id fun _ _ move => move.mono le

end Board

end Sp1Cluster
