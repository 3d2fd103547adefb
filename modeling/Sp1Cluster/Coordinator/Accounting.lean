import Sp1Cluster.Coordinator.Placement

/-!
# Counting active tasks

The counter of a proof is the number of its unfinished tasks, and a proof whose
counter is zero has no tasks: the moves that finish the last task of a proof
are not moves of the board, because the call that makes them removes the proof.
Together with the placement of tasks this is what the calls rely on.
-/

set_option autoImplicit false

namespace Sp1Cluster

open Relation

/-! ## The record of a proof -/

/-- The counter of a proof is right, and a proof with tasks has active ones. -/
structure Proof.Accounted (proof : Proof) : Prop where
  active : proof.activeTasks = Table.count Task.unfinished proof.tasks
  alive : proof.activeTasks = 0 → proof.tasks = ∅

namespace Proof.Accounted

variable {proof : Proof} {taskId : String} {task : Task}

theorem of_empty (empty : proof.tasks = ∅) (idle : proof.activeTasks = 0) : proof.Accounted where
  active := by rw [idle, empty, Table.count_empty]
  alive _ := empty

variable (accounted : proof.Accounted)
include accounted

theorem activeTasks_ne_zero (stored : proof.tasks.lookup taskId = some task) :
    proof.activeTasks ≠ 0 := by
  intro none
  rw [accounted.alive none] at stored
  cases stored

theorem activeTasks_pos (stored : proof.tasks.lookup taskId = some task)
    (unfinished : task.unfinished = true) : 0 < proof.activeTasks := by
  rw [accounted.active]
  exact (Table.count_pos_iff _ _).mpr ⟨taskId, task, stored, unfinished⟩

theorem addTask (unstored : proof.tasks.lookup task.id = none) (unfinished : task.unfinished = true) :
    (proof.addTask task).Accounted where
  active := by
    have absent : task.id ∉ proof.tasks := AList.lookup_eq_none.mp unstored
    simp only [Proof.addTask, Counter.raise_unbounded, Table.count_insert, unfinished, if_true,
      Table.erase_of_notMem absent, accounted.active]
  alive none := by
    simp [Proof.addTask] at none

variable (stored : proof.tasks.lookup taskId = some task)
include stored

theorem setTask {task' : Task} (same : task'.unfinished = task.unfinished) :
    Proof.Accounted { proof with tasks := proof.tasks.insert taskId task' } where
  active := by
    simp only [Table.count_insert, same]
    rw [accounted.active, Table.count_of_lookup _ stored]
  alive none := absurd none (accounted.activeTasks_ne_zero stored)

theorem active_completeTask {workerId : String} :
    (proof.completeTask workerId taskId task).activeTasks =
      Table.count Task.unfinished (proof.completeTask workerId taskId task).tasks := by
  have done : (Task.complete workerId task).unfinished = false := rfl
  have counted := accounted.active
  rw [Table.count_of_lookup _ stored] at counted
  simp only [Proof.completeTask, Counter.lower_unbounded, Table.count_insert, done]
  split
  · next unfinished =>
    rw [if_pos unfinished] at counted
    simp only [Bool.false_eq_true, if_false]
    omega
  · next finished =>
    rw [if_neg finished] at counted
    simp only [Bool.false_eq_true, if_false]
    omega

/-- A completion that leaves the counter of a proof at zero finishes the only
unfinished task of the proof. -/
theorem only_unfinished {workerId : String}
    (last : (proof.completeTask workerId taskId task).activeTasks = 0) :
    task.unfinished = true ∧ ∀ other otherTask, proof.tasks.lookup other = some otherTask →
      otherTask.unfinished = true → other = taskId := by
  constructor
  · -- A finished task leaves the counter alone, and the counter was not zero.
    by_contra finished
    refine accounted.activeTasks_ne_zero stored ?_
    rw [← last]
    simp only [Proof.completeTask, if_neg finished]
  · intro other otherTask storedOther unfinished
    by_contra distinct
    have counted : (proof.completeTask workerId taskId task).activeTasks = _ :=
      accounted.active_completeTask stored
    have still : (proof.completeTask workerId taskId task).tasks.lookup other = some otherTask := by
      change (proof.tasks.insert taskId _).lookup other = _
      rw [Table.lookup_insert_eq, if_neg distinct]
      exact storedOther
    have positive := (Table.count_pos_iff Task.unfinished _).mpr
      ⟨other, otherTask, still, unfinished⟩
    omega

theorem active_failTask {retryable : Bool} (unfinished : task.unfinished = true) :
    (proof.failTask retryable taskId task).activeTasks =
      Table.count Task.unfinished (proof.failTask retryable taskId task).tasks := by
  have counted := accounted.active
  rw [Table.count_of_lookup _ stored, if_pos unfinished] at counted
  have notFatal : task.status ≠ .failedFatal := by
    intro fatal
    simp [Task.unfinished, fatal, TaskStatus.isFinal] at unfinished
  simp only [Proof.failTask, Counter.lower_unbounded, Table.count_insert]
  by_cases fatal : task.failureStatus retryable = .failedFatal
  · have done : (Task.fail retryable task).unfinished = false := by
      simp [Task.fail, Task.unfinished, fatal, TaskStatus.isFinal]
    rw [if_pos ⟨fatal, notFatal⟩, done]
    simp only [Bool.false_eq_true, if_false]
    omega
  · have retried : task.failureStatus retryable = .failedRetryable := by
      unfold Task.failureStatus at fatal ⊢
      split
      · rfl
      · next final => simp [final] at fatal
    have stillOpen : (Task.fail retryable task).unfinished = true := by
      simp [Task.fail, Task.unfinished, retried, TaskStatus.isFinal]
    rw [if_neg fun both => fatal both.1, stillOpen, if_pos rfl]
    exact counted

end Proof.Accounted

/-! ## The board -/

namespace Board

variable {build : Build} {charges : Bool} {inputs : Inputs} {board board' : Board}

/-- What every call relies on and keeps: tasks are placed and counted. -/
structure Sound (build : Build) (board : Board) : Prop extends Placed build board where
  accounted : ∀ {proofId : String} {proof : Proof},
    board.proofs.lookup proofId = some proof → proof.Accounted

theorem Sound.empty (build : Build) :
    (Board.mk ∅ ∅ ⟨0, 0, fun _ => none⟩ false ∅ ∅).Sound build where
  toPlaced := Placed.empty build
  accounted found := by cases found

theorem Sound.accounted_insert (sound : board.Sound build) {proofId : String} {proof : Proof}
    (accounted : proof.Accounted) {other : String} {record : Proof}
    (found : (board.proofs.insert proofId proof).lookup other = some record) :
    record.Accounted := by
  rcases Table.lookup_insert_cases found with ⟨_, rfl⟩ | ⟨_, found⟩
  · exact accounted
  · exact sound.accounted found

theorem Sound.move (sound : board.Sound build) (move : Move build inputs board board') :
    board'.Sound build := by
  refine ⟨sound.toPlaced.move move, ?_⟩
  intro other record recorded
  cases move with
  | addProof absent empty idle =>
    exact sound.accounted_insert (.of_empty empty idle) recorded
  | addTask env data found fresh weight =>
    refine sound.accounted_insert ((sound.accounted found).addTask ?_ rfl) recorded
    have unstored := (sound.fresh_unused data.proofId fresh).1
    exact (taskOf.of_lookup found).symm.trans unstored
  | enqueue stored inTransit notFatal key type => exact sound.accounted recorded
  | release registered held stored released goesBack => exact sound.accounted recorded
  | complete found stored alive reported =>
    exact sound.accounted_insert ⟨(sound.accounted found).active_completeTask stored,
      fun none => absurd none alive⟩ recorded
  | @fail proofId taskId proof task retryable found stored inTransit unfinished alive reported =>
    have inserted : (board.proofs.insert proofId
        (proof.failTask retryable taskId task)).lookup other = some record := by
      unfold Board.failTask at recorded
      dsimp only at recorded
      split at recorded <;> exact recorded
    exact sound.accounted_insert ⟨(sound.accounted found).active_failTask stored unfinished,
      fun none => absurd none alive⟩ inserted
  | removeProof vacated ended =>
    change (board.proofs.erase _).lookup other = some record at recorded
    exact sound.accounted (Table.lookup_of_erase recorded)
  | addWorker absent own empty weightless capacity => exact sound.accounted recorded
  | changeWorker registered alike weight => exact sound.accounted recorded
  | removeWorker registered empty => exact sound.accounted recorded
  | requeued found stored =>
    refine sound.accounted_insert ((sound.accounted found).setTask stored ?_) recorded
    rfl
  | subscribe found stored unfinished asked =>
    refine sound.accounted_insert ((sound.accounted found).setTask stored ?_) recorded
    rfl
  | halt asked => exact sound.accounted recorded

theorem Sound.assignStep (sound : board.Sound build)
    (turn : AssignStep build charges board board') : board'.Sound build := by
  refine ⟨sound.toPlaced.assignStep turn, ?_⟩
  intro other record recorded
  cases turn with
  | discard waiting stale => exact sound.accounted recorded
  | @assign queued proof task workerId worker bestWorkerTime startTime running waiting found stored
      unfinished registered fits =>
      have here : board.task queued.key = some task := (taskOf.of_lookup found).trans stored
      have sameId : task.id = queued.id := sound.task_id here
      refine sound.accounted_insert ((sound.accounted found).setTask (sameId ▸ stored) ?_) recorded
      exact unfinished.symm

theorem Sound.moves (sound : board.Sound build) (moves : Moves build inputs board board') :
    board'.Sound build := by
  induction moves with
  | refl => exact sound
  | tail _ move ih => exact ih.move move

theorem Sound.assignSteps (sound : board.Sound build)
    (turns : ReflTransGen (AssignStep build charges) board board') : board'.Sound build := by
  induction turns with
  | refl => exact sound
  | tail _ turn ih => exact ih.assignStep turn

end Board

end Sp1Cluster
