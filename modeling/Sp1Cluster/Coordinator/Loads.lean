import Sp1Cluster.Coordinator.Capacity
import Sp1Cluster.Coordinator.Turns

/-!
# The loads of the workers

The load of a worker is the sum of the weights of the tasks it holds. The
arithmetic of the code wraps when a task is given and saturates when one is
taken, so the weight a worker records may fall behind its load, but it never
runs ahead of it. A worker whose load leaves room for a task therefore passes
the test of the code, whatever the weights are.
-/

set_option autoImplicit false

namespace Sp1Cluster

open Relation

theorem KeySet.sumOver_le_add {κ : Type} [DecidableEq κ] (weight : κ → ℕ) (key : κ)
    (keys : KeySet κ) : keys.sumOver weight ≤ (keys.add key).sumOver weight := by
  by_cases member : key ∈ keys
  · rw [KeySet.sumOver_of_mem weight member]
    exact (Table.total_insert (fun key _ => weight key) keys key ()).ge
  · rw [KeySet.sumOver_add weight member]
    exact Nat.le_add_left _ _

namespace Board

variable {build : Build} {charges : Bool} {inputs : Inputs} {board board' : Board}

def load (board : Board) (worker : Worker) : ℕ :=
  KeySet.sumOver board.taskWeight worker.activeTasks

/-- No worker records more than its load. -/
def Light (board : Board) : Prop :=
  ∀ workerId worker, board.workers.lookup workerId = some worker →
    worker.weight ≤ board.load worker

theorem Light.move (light : board.Light) (sound : board.Sound build)
    (running : inputs.stops = false) (move : Move build inputs board board') : board'.Light := by
  intro workerId worker' registered'
  unfold load
  rw [move.load_eq sound registered']
  cases move.workerStep registered' with
  | keep registered => exact light workerId worker' registered
  | add _ weightless =>
    rw [weightless]
    exact Nat.zero_le _
  | change registered alike weight =>
    rw [alike.activeTasks]
    rcases weight with same | recomputed
    · rw [same]
      exact light workerId _ registered
    · rw [recomputed]
      exact Nat.mod_le _ _
  | release registered held stored released =>
    have within := light workerId _ registered
    unfold load at within
    rw [KeySet.sumOver_of_mem _ held, taskWeight_of_task stored] at within
    rw [activeTasks_of_released released]
    rcases weight_of_released released with less | ⟨-, nothing⟩ <;> omega
  | halt _ asked => exact absurd (running.symm.trans asked) nofun

theorem Light.moves (light : board.Light) (sound : board.Sound build)
    (running : inputs.stops = false) (moves : Moves build inputs board board') :
    board'.Light := by
  induction moves with
  | refl => exact light
  | tail before move ih => exact Light.move ih (sound.moves before) running move

theorem Light.assignStep (light : board.Light) (sound : board.Sound build)
    (turn : AssignStep build charges board board') : board'.Light := by
  intro workerId worker' registered'
  unfold load
  rw [KeySet.sumOver_congr fun key _ => turn.taskWeight_eq sound key]
  rcases turn.worker_cases sound registered' with kept | ⟨worker, task, startTime, registered,
    stored, unheld, -, rfl⟩
  · exact light workerId worker' kept
  · have within : worker.weight ≤ KeySet.sumOver board.taskWeight worker.activeTasks :=
      light workerId worker registered
    change wrappingAdd32 worker.weight task.data.weight ≤
      KeySet.sumOver board.taskWeight (KeySet.add (task.data.proofId, task.id) worker.activeTasks)
    rw [KeySet.sumOver_add _ unheld, taskWeight_of_task stored]
    have wrapped : wrappingAdd32 worker.weight task.data.weight ≤
        worker.weight + task.data.weight := Nat.mod_le _ _
    omega

theorem Light.assignSteps (light : board.Light) (sound : board.Sound build)
    (turns : ReflTransGen (AssignStep build charges) board board') : board'.Light := by
  induction turns with
  | refl => exact light
  | tail before turn ih => exact Light.assignStep ih (sound.assignSteps before) turn

end Board

end Sp1Cluster
