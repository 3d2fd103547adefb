import Sp1Cluster.Coordinator.Operations
import Sp1Cluster.Coordinator.Backlog
import Mathlib.Data.Set.Insert

/-!
# The board: the scheduling part of a coordinator state

The board of a coordinator state keeps its proofs and workers, replaces the
policy by the backlog it implements, and leaves out what scheduling does not
depend on. Two components are not in the source. `transit` is the set of tasks
that have been taken off a worker, or just created, and not yet been put
anywhere; `issued` is the set of task identifiers drawn so far.
-/

set_option autoImplicit false

namespace Sp1Cluster

/-! ## Stored tasks -/

def taskOf (proofs : Table String Proof) (key : TaskKey) : Option Task :=
  (proofs.lookup key.1).bind fun proof => proof.tasks.lookup key.2

namespace taskOf

variable {proofs : Table String Proof} {proofId taskId : String} {proof proof' : Proof}
  {task : Task} {key : TaskKey}

theorem of_lookup (found : proofs.lookup proofId = some proof) :
    taskOf proofs (proofId, taskId) = proof.tasks.lookup taskId := by
  simp [taskOf, found]

theorem exists_of_eq_some (stored : taskOf proofs key = some task) :
    ∃ proof, proofs.lookup key.1 = some proof ∧ proof.tasks.lookup key.2 = some task :=
  Option.bind_eq_some_iff.mp stored

theorem insert_eq (key : TaskKey) :
    taskOf (proofs.insert proofId proof') key =
      if key.1 = proofId then proof'.tasks.lookup key.2 else taskOf proofs key := by
  unfold taskOf
  rw [Table.lookup_insert_eq]
  split <;> rfl

theorem erase_eq (key : TaskKey) :
    taskOf (proofs.erase proofId) key = if key.1 = proofId then none else taskOf proofs key := by
  unfold taskOf
  rw [Table.lookup_erase_eq]
  split <;> rfl

theorem set_eq (found : proofs.lookup proofId = some proof)
    (changed : proof'.tasks = proof.tasks.insert taskId task) (key : TaskKey) :
    taskOf (proofs.insert proofId proof') key =
      if key = (proofId, taskId) then some task else taskOf proofs key := by
  obtain ⟨otherProof, otherTask⟩ := key
  rw [insert_eq, changed, Table.lookup_insert_eq]
  by_cases sameProof : otherProof = proofId
  · subst sameProof
    by_cases sameTask : otherTask = taskId
    · simp [sameTask]
    · simp [sameTask, of_lookup found]
  · simp [sameProof]

theorem insert_empty_eq (absent : proofId ∉ proofs) (empty : proof'.tasks = ∅) (key : TaskKey) :
    taskOf (proofs.insert proofId proof') key = taskOf proofs key := by
  rw [insert_eq, empty]
  split
  · next same =>
    have missing : proofs.lookup key.1 = none := same ▸ AList.lookup_eq_none.mpr absent
    simp [taskOf, missing]
  · rfl

end taskOf

theorem CoordinatorState.taskOf_modifyTask {P : Type} {state : CoordinatorState P}
    {proofId taskId : String} {proof : Proof} {task : Task}
    (found : state.proofs.lookup proofId = some proof)
    (stored : proof.tasks.lookup taskId = some task) (change : Task → Task) (key : TaskKey) :
    taskOf (state.modifyTask proofId taskId change).proofs key =
      if key = (proofId, taskId) then some (change task) else taskOf state.proofs key := by
  change taskOf (Table.modify _ _ state.proofs) key = _
  rw [Table.modify_of_lookup found, Table.modify_of_lookup stored]
  exact taskOf.set_eq found rfl key

/-! ## The board -/

structure Board where
  proofs : Table String Proof
  workers : Table String Worker
  backlog : Backlog
  shuttingDown : Bool
  transit : Set TaskKey
  issued : Set String

namespace Board

def task (board : Board) (key : TaskKey) : Option Task := taskOf board.proofs key

def Holds (board : Board) (workerId : String) (key : TaskKey) : Prop :=
  ∃ worker, board.workers.lookup workerId = some worker ∧ key ∈ worker.activeTasks

def setProof (proofId : String) (proof : Proof) (board : Board) : Board :=
  { board with proofs := board.proofs.insert proofId proof }

def setWorker (workerId : String) (worker : Worker) (board : Board) : Board :=
  { board with workers := board.workers.insert workerId worker }

def setTask (proofId : String) (proof : Proof) (taskId : String) (task : Task) (board : Board) :
    Board :=
  board.setProof proofId { proof with tasks := proof.tasks.insert taskId task }

def withBacklog (change : Backlog → Backlog) (board : Board) : Board :=
  { board with backlog := change board.backlog }

/-- Put a task that is in transit somewhere. -/
def settle (key : TaskKey) (board : Board) : Board :=
  { board with transit := board.transit \ {key} }

section Lemmas

variable {board : Board} {proofId taskId workerId : String} {proof : Proof} {task : Task}
  {worker worker' : Worker} {key : TaskKey}

theorem task_setTask (found : board.proofs.lookup proofId = some proof) (key : TaskKey) :
    (board.setTask proofId proof taskId task).task key =
      if key = (proofId, taskId) then some task else board.task key :=
  taskOf.set_eq found rfl key

theorem holds_setWorker_iff (other : String) :
    (board.setWorker workerId worker').Holds other key ↔
      if other = workerId then key ∈ worker'.activeTasks else board.Holds other key := by
  unfold Holds setWorker
  simp only [Table.lookup_insert_eq]
  split <;> simp

theorem holds_of_lookup (found : board.workers.lookup workerId = some worker) :
    board.Holds workerId key ↔ key ∈ worker.activeTasks := by
  simp [Holds, found]

end Lemmas

end Board

/-! ## The board of a state -/

namespace CoordinatorState

variable {P : Type} [AssignmentPolicy P]

/-- The backlog a policy implements. -/
def backlogOf (policy : P) : Backlog where
  cpu := AssignmentPolicy.cpuQueued policy
  gpu := AssignmentPolicy.gpuQueued policy
  charged := AssignmentPolicy.proofGpuWeight policy

def board (transit : Set TaskKey) (issued : Set String) (state : CoordinatorState P) : Board where
  proofs := state.proofs
  workers := state.workers
  backlog := backlogOf state.policy
  shuttingDown := state.shuttingDown
  transit := transit
  issued := issued

variable {transit : Set TaskKey} {issued : Set String} {state : CoordinatorState P}
  {proofId taskId workerId : String} {proof : Proof} {task : Task} {worker : Worker}

theorem board_modifyTask (found : state.proofs.lookup proofId = some proof)
    (stored : proof.tasks.lookup taskId = some task) (change : Task → Task) :
    (state.modifyTask proofId taskId change).board transit issued =
      (state.board transit issued).setTask proofId proof taskId (change task) := by
  simp only [board, modifyTask, Board.setTask, Board.setProof, Table.modify_of_lookup found,
    Table.modify_of_lookup stored]

theorem board_modifyWorker (registered : state.workers.lookup workerId = some worker)
    (change : Worker → Worker) :
    (state.modifyWorker workerId change).board transit issued =
      (state.board transit issued).setWorker workerId (change worker) := by
  simp only [board, modifyWorker, Board.setWorker, Table.modify_of_lookup registered]

end CoordinatorState

/-! ## Steps of an assignment -/

namespace Board

/-- The board after a worker has been given a task. -/
def start (workerId : String) (worker : Worker) (proofId : String) (proof : Proof) (task : Task)
    (startTime : ℕ) (board : Board) : Board :=
  (board.setWorker workerId (Worker.take task startTime worker)).setTask proofId proof task.id
    (Task.start worker task)

/-- One turn of an assignment loop: an entry whose task is gone or finished is
discarded, or an unfinished task is given to a worker that may take it. -/
inductive AssignStep (build : Build) (charges : Bool) : Board → Board → Prop where
  | discard {board : Board} {workerType : WorkerType} {queued : QueuedTask}
      (waiting : queued ∈ board.backlog.queue workerType)
      (stale : ∀ task, board.task queued.key = some task → task.unfinished = false) :
      AssignStep build charges board (board.withBacklog (Backlog.remove workerType queued))
  | assign {board : Board} {queued : QueuedTask} {proof : Proof} {task : Task}
      {workerId : String} {worker : Worker} {bestWorkerTime startTime : ℕ}
      (running : board.shuttingDown = false)
      (waiting : queued ∈ board.backlog.queue (build.workerTypeFromTaskType task.data.taskType))
      (found : board.proofs.lookup queued.proofId = some proof)
      (stored : proof.tasks.lookup queued.id = some task)
      (unfinished : task.unfinished = true)
      (registered : board.workers.lookup workerId = some worker)
      (fits : worker.preferred (build.workerTypeFromTaskType task.data.taskType)
        task.data.weight bestWorkerTime = true) :
      AssignStep build charges board
        ((board.start workerId worker queued.proofId proof task startTime).withBacklog
          fun backlog =>
            (backlog.charge charges (build.workerTypeFromTaskType task.data.taskType)
              queued.proofId task.data.weight).remove
                (build.workerTypeFromTaskType task.data.taskType) queued)

/-- The keys of the tables agree with the records, and every entry waits in the
queue of its task's type. -/
structure Coherent (build : Build) (board : Board) : Prop where
  task_id : ∀ {key : TaskKey} {task : Task}, board.task key = some task → task.id = key.2
  task_proofId : ∀ {key : TaskKey} {task : Task}, board.task key = some task →
    task.data.proofId = key.1
  worker_id : ∀ {workerId : String} {worker : Worker},
    board.workers.lookup workerId = some worker → worker.id = workerId
  queue_type : ∀ {workerType : WorkerType} {queued : QueuedTask},
    queued ∈ board.backlog.queue workerType →
      build.workerTypeFromTaskType queued.taskType = workerType
  entry_type : ∀ {workerType : WorkerType} {queued : QueuedTask} {task : Task},
    queued ∈ board.backlog.queue workerType → board.task queued.key = some task →
      task.data.taskType = queued.taskType

end Board

end Sp1Cluster
