import Sp1Cluster.Coordinator.Accounting

/-!
# Simulation: the steps calls are made of

Each small step of the coordinator's code is a move of the board, or leaves the
board as it is.
-/

set_option autoImplicit false

namespace Sp1Cluster.CoordinatorState

open Relation Board

variable {P : Type} [LawfulPolicy P] {build : Build} {inputs : Inputs} {transit : Set TaskKey}
  {issued : Set String} {state : CoordinatorState P}

/-- What a call makes of a state before it assigns tasks: moves of the board,
and a policy whose representation stays well formed. -/
structure Steps (build : Build) (inputs : Inputs) (transit transit' : Set TaskKey)
    (issued issued' : Set String) (state state' : CoordinatorState P) : Prop where
  moves : Moves build inputs (state.board transit issued) (state'.board transit' issued')
  filed : LawfulPolicy.Filed state.policy → LawfulPolicy.Filed state'.policy

namespace Steps

variable {first second third : CoordinatorState P} {transit₁ transit₂ transit₃ : Set TaskKey}
  {issued₁ issued₂ issued₃ : Set String}

theorem refl (build : Build) (inputs : Inputs) (transit : Set TaskKey) (issued : Set String)
    (state : CoordinatorState P) : Steps build inputs transit transit issued issued state state :=
  ⟨.refl, id⟩

theorem trans (earlier : Steps build inputs transit₁ transit₂ issued₁ issued₂ first second)
    (later : Steps build inputs transit₂ transit₃ issued₂ issued₃ second third) :
    Steps build inputs transit₁ transit₃ issued₁ issued₃ first third :=
  ⟨earlier.moves.trans later.moves, fun filed => later.filed (earlier.filed filed)⟩

theorem sound (steps : Steps build inputs transit₁ transit₂ issued₁ issued₂ first second)
    (sound : (first.board transit₁ issued₁).Sound build) :
    (second.board transit₂ issued₂).Sound build :=
  sound.moves steps.moves

end Steps

theorem Steps.of_board_eq {state' : CoordinatorState P} (transit : Set TaskKey)
    (issued : Set String) (proofs : state'.proofs = state.proofs)
    (workers : state'.workers = state.workers) (policy : state'.policy = state.policy)
    (stopped : state'.shuttingDown = state.shuttingDown) :
    Steps build inputs transit transit issued issued state state' := by
  refine ⟨?_, by rw [policy]; exact id⟩
  have same : state'.board transit issued = state.board transit issued := by
    simp only [board, proofs, workers, policy, stopped]
  rw [same]

/-! ## Backlogs -/

theorem board_modifyPolicy (transit : Set TaskKey) (issued : Set String) {change : P → P}
    {changeBacklog : Backlog → Backlog}
    (same : backlogOf (change state.policy) = changeBacklog (backlogOf state.policy)) :
    (state.modifyPolicy change).board transit issued =
      (state.board transit issued).withBacklog changeBacklog := by
  simp only [board, modifyPolicy, withBacklog, same]

theorem board_postTaskUpdateState (proofId : String) (data : TaskData) :
    (state.postTaskUpdateState build proofId data).board transit issued =
      (state.board transit issued).withBacklog
        (Backlog.discharge (build.workerTypeFromTaskType data.taskType) proofId data.weight) :=
  board_modifyPolicy transit issued (LawfulPolicy.backlog_postTaskUpdateState ..)

theorem steps_enqueueTask (proofId taskId : String) (task : Task)
    (stored : (state.board transit issued).task (proofId, taskId) = some task)
    (sameId : task.id = taskId) (sameProof : task.data.proofId = proofId)
    (inTransit : (proofId, taskId) ∈ transit)
    (notFatal : task.status ≠ .failedFatal) :
    Steps build inputs transit (transit \ {(proofId, taskId)}) issued issued state
      (state.enqueueTask build task) := by
  obtain ⟨proof, found, -⟩ := taskOf.exists_of_eq_some stored
  have queuedIs : state.getQueuedTask task = some
      { id := task.id
        taskType := task.data.taskType
        proofCreatedAt := proof.createdAt
        createdAt := task.createdAt
        proofId := task.data.proofId } := by
    have lookup : state.proofs.lookup task.data.proofId = some proof := sameProof ▸ found
    simp only [getQueuedTask, lookup, Option.map_some]
  unfold CoordinatorState.enqueueTask
  rw [queuedIs]
  dsimp only
  refine ⟨?_, fun filed => LawfulPolicy.filed_enqueueTask _ _ filed⟩
  refine .single ?_
  rw [board_modifyPolicy (transit \ {(proofId, taskId)}) issued
    (LawfulPolicy.backlog_enqueueTask ..)]
  exact .enqueue stored inTransit notFatal (by simp [QueuedTask.key, sameId, sameProof]) rfl

/-! ## Workers -/

theorem steps_changeWorker {workerId : String} {worker : Worker} {change : Worker → Worker}
    (registered : state.workers.lookup workerId = some worker)
    (alike : worker.Alike (change worker))
    (weight : (change worker).weight = worker.weight ∨ (change worker).weight =
      KeySet.sumOver (state.board transit issued).taskWeight worker.activeTasks % 2 ^ 32) :
    Steps build inputs transit transit issued issued state
      (state.modifyWorker workerId change) := by
  refine ⟨?_, id⟩
  rw [board_modifyWorker registered]
  exact .single (.changeWorker registered alike weight)

theorem steps_release {workerId proofId taskId : String} {worker : Worker} {task : Task}
    {change : Worker → Worker} (registered : state.workers.lookup workerId = some worker)
    (held : (proofId, taskId) ∈ worker.activeTasks)
    (stored : (state.board transit issued).task (proofId, taskId) = some task)
    (released : change worker = worker.release (proofId, taskId) task.data.weight ∨
      change worker = worker.abandon (proofId, taskId) task.data.weight) (goesBack : Bool) :
    Steps build inputs transit
      (if task.unfinished || goesBack then insert (proofId, taskId) transit else transit) issued issued state
      ((state.postTaskUpdateState build proofId task.data).modifyWorker workerId change) := by
  refine ⟨?_, fun filed => LawfulPolicy.filed_postTaskUpdateState _ _ _ filed⟩
  have registered' : (state.postTaskUpdateState build proofId task.data).workers.lookup workerId =
      some worker := registered
  refine .single ?_
  rw [board_modifyWorker registered', board_postTaskUpdateState]
  exact .release registered held stored released goesBack

/-! ## Tasks -/

section Tasks

variable {proofId taskId : String} {proof : Proof} {task : Task}

theorem steps_requeued (found : state.proofs.lookup proofId = some proof)
    (stored : proof.tasks.lookup taskId = some task) :
    Steps build inputs transit transit issued issued state
      (state.modifyTask proofId taskId Task.requeue) := by
  refine ⟨.single ?_, id⟩
  rw [board_modifyTask found stored]
  exact .requeued found stored

end Tasks

end Sp1Cluster.CoordinatorState
