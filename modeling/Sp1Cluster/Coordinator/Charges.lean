import Mathlib.Data.List.Infix
import Sp1Cluster.Coordinator.Reachable

/-!
# The charges of the balanced policy

The balanced policy charges to a proof the weight of the GPU tasks that workers
hold of it. Every assignment is charged once and every end of an assignment,
whatever ends it, gives the charge back once, so the charge of a proof is always
the weight of what is held of it. The one thing that can break this is a sum
that leaves the range of a 32-bit word.
-/

set_option autoImplicit false

namespace Sp1Cluster

open Relation

namespace Board

variable {build : Build} {inputs : Inputs} {board board' : Board} {proofId taskId : String}
  {proof proof' : Proof} {task : Task} {key : TaskKey}

def held (board : Board) (key : TaskKey) : Bool :=
  board.workers.entries.any fun entry => decide (key ∈ entry.2.activeTasks)

theorem held_iff : board.held key = true ↔ ∃ workerId, board.Holds workerId key := by
  unfold held
  simp only [List.any_eq_true, decide_eq_true_iff]
  constructor
  · rintro ⟨⟨workerId, worker⟩, member, holds⟩
    exact ⟨workerId, worker, Table.mem_entries_iff.mp member, holds⟩
  · rintro ⟨workerId, worker, registered, holds⟩
    exact ⟨⟨workerId, worker⟩, Table.mem_entries_iff.mpr registered, holds⟩

/-- What a task adds to the charge of its proof. -/
def share (build : Build) (board : Board) (key : TaskKey) : ℕ :=
  match board.task key with
  | none => 0
  | some task =>
    if board.held key = true ∧ build.workerTypeFromTaskType task.data.taskType = .gpu then
      task.data.weight
    else 0

/-- The weight of the GPU tasks of a proof that workers hold. -/
def gpuWeight (build : Build) (board : Board) (proofId : String) : ℕ :=
  match board.proofs.lookup proofId with
  | none => 0
  | some proof => Table.total (fun taskId _ => board.share build (proofId, taskId)) proof.tasks

/-- Every charge is the weight that is held, and only stored proofs are
charged. -/
structure Charged (build : Build) (board : Board) : Prop where
  exact_weight : ∀ proofId, (board.backlog.charged proofId).getD 0 = board.gpuWeight build proofId
  stored : ∀ {proofId}, proofId ∉ board.proofs → board.backlog.charged proofId = none

/-! ## Shares -/

theorem share_of_task (stored : board.task key = some task) :
    board.share build key =
      if board.held key = true ∧ build.workerTypeFromTaskType task.data.taskType = .gpu then
        task.data.weight
      else 0 := by
  simp [share, stored]

theorem share_congr (task : (board'.task key).map Task.data = (board.task key).map Task.data)
    (held : (∃ workerId, board'.Holds workerId key) ↔ ∃ workerId, board.Holds workerId key) :
    board'.share build key = board.share build key := by
  have sameHeld : board'.held key = board.held key := by
    rw [Bool.eq_iff_iff, held_iff, held_iff]
    exact held
  cases before : board.task key with
  | none =>
    rw [before, Option.map_none, Option.map_eq_none_iff] at task
    simp [share, before, task]
  | some old =>
    rw [before, Option.map_some] at task
    obtain ⟨new, after, sameData⟩ := Option.map_eq_some_iff.mp task
    rw [share_of_task before, share_of_task after, sameHeld, sameData]

theorem gpuWeight_congr (proofs : board'.proofs.lookup proofId = board.proofs.lookup proofId)
    (shares : ∀ taskId, board'.share build (proofId, taskId) = board.share build (proofId, taskId)) :
    board'.gpuWeight build proofId = board.gpuWeight build proofId := by
  unfold gpuWeight
  rw [proofs]
  cases board.proofs.lookup proofId with
  | none => rfl
  | some proof => exact Table.total_congr fun taskId _ _ => shares taskId

/-- A proof weighs the share of any of its tasks and those of the others. -/
theorem gpuWeight_of_lookup (found : board.proofs.lookup proofId = some proof) (taskId : String) :
    board.gpuWeight build proofId = board.share build (proofId, taskId) +
      Table.total (fun taskId _ => board.share build (proofId, taskId))
        (proof.tasks.erase taskId) := by
  simp only [gpuWeight, found]
  cases stored : proof.tasks.lookup taskId with
  | some task => exact Table.total_of_lookup _ stored
  | none =>
    have unstored : board.task (proofId, taskId) = none := (taskOf.of_lookup found).trans stored
    rw [Table.erase_of_notMem (AList.lookup_eq_none.mp stored)]
    simp [share, unstored]

theorem gpuWeight_change (found : board.proofs.lookup proofId = some proof)
    (found' : board'.proofs.lookup proofId = some proof')
    (tasks : proof'.tasks.erase taskId = proof.tasks.erase taskId)
    (others : ∀ other ≠ proofId, board'.proofs.lookup other = board.proofs.lookup other)
    (shares : ∀ key ≠ (proofId, taskId), board'.share build key = board.share build key)
    (other : String) :
    board'.gpuWeight build other +
        (if other = proofId then board.share build (proofId, taskId) else 0) =
      board.gpuWeight build other +
        if other = proofId then board'.share build (proofId, taskId) else 0 := by
  split
  · next same =>
    subst same
    have rest : Table.total (fun taskId _ => board'.share build (other, taskId))
        (proof.tasks.erase taskId) =
          Table.total (fun taskId _ => board.share build (other, taskId))
            (proof.tasks.erase taskId) := by
      refine Table.total_congr fun another value present => shares _ ?_
      rintro ⟨⟩
      simp at present
    rw [gpuWeight_of_lookup found taskId, gpuWeight_of_lookup found' taskId, tasks, rest]
    omega
  · next different =>
    rw [gpuWeight_congr (others other different) fun taskId => shares _ fun same =>
      different (congrArg Prod.fst same)]

theorem gpuWeight_setRecord {task' : Task} (found : board.proofs.lookup proofId = some proof)
    (proofs : board'.proofs = board.proofs.insert proofId proof')
    (tasks : proof'.tasks = proof.tasks.insert taskId task')
    (shares : ∀ key ≠ (proofId, taskId), board'.share build key = board.share build key) :
    ∀ other, board'.gpuWeight build other +
        (if other = proofId then board.share build (proofId, taskId) else 0) =
      board.gpuWeight build other +
        if other = proofId then board'.share build (proofId, taskId) else 0 := by
  refine gpuWeight_change found (by rw [proofs]; exact AList.lookup_insert _)
    (by rw [tasks]; exact Table.erase_insert ..) (fun other different => ?_) shares
  rw [proofs, Table.lookup_insert_eq, if_neg different]

/-! ## Moves -/

namespace Charged

variable (charged : board.Charged build)
include charged

theorem of_same (charges : board'.backlog.charged = board.backlog.charged)
    (weights : ∀ proofId, board'.gpuWeight build proofId = board.gpuWeight build proofId)
    (proofs : ∀ proofId, proofId ∉ board'.proofs → proofId ∉ board.proofs) :
    board'.Charged build where
  exact_weight := by
    intro proofId
    rw [charges, weights]
    exact charged.exact_weight proofId
  stored := by
    intro proofId absent
    rw [charges]
    exact charged.stored (proofs proofId absent)

theorem of_holds (charges : board'.backlog.charged = board.backlog.charged)
    (proofs : board'.proofs = board.proofs)
    (holds : ∀ key, (∃ workerId, board'.Holds workerId key) ↔ ∃ workerId, board.Holds workerId key) :
    board'.Charged build := by
  refine charged.of_same charges ?_ (by rw [proofs]; exact fun _ absent => absent)
  intro proofId
  refine gpuWeight_congr (by rw [proofs]) ?_
  intro taskId
  refine share_congr ?_ (holds _)
  unfold Board.task
  rw [proofs]

theorem of_insert (charges : board'.backlog.charged = board.backlog.charged)
    (proofs : board'.proofs = board.proofs.insert proofId proof')
    (weights : ∀ proofId, board'.gpuWeight build proofId = board.gpuWeight build proofId) :
    board'.Charged build := by
  refine charged.of_same charges weights fun other absent present => absent ?_
  rw [proofs]
  exact (AList.mem_insert _).mpr (.inr present)

theorem setTask (charges : board'.backlog.charged = board.backlog.charged)
    (workers : board'.workers = board.workers) (proof' : Proof) (task' : Task)
    (found : board.proofs.lookup proofId = some proof)
    (stored : proof.tasks.lookup taskId = some task)
    (proofs : board'.proofs = board.proofs.insert proofId proof')
    (tasks : proof'.tasks = proof.tasks.insert taskId task') (sameData : task'.data = task.data) :
    board'.Charged build := by
  have shares : ∀ key, board'.share build key = board.share build key := by
    intro key
    refine share_congr ?_ (by unfold Holds; rw [workers])
    unfold Board.task
    rw [proofs, taskOf.set_eq found tasks]
    split
    · next same =>
      rw [same, taskOf.of_lookup found, stored]
      exact congrArg some sameData
    · rfl
  refine charged.of_insert charges proofs fun other => ?_
  have change := gpuWeight_setRecord found proofs tasks (fun key _ => shares key) other
  rw [shares] at change
  omega

theorem addProof (absent : proofId ∉ board.proofs) (empty : proof.tasks = ∅) :
    (board.setProof proofId proof).Charged build := by
  refine charged.of_insert rfl rfl fun other => ?_
  by_cases same : other = proofId
  · subst same
    have after : (board.setProof other proof).proofs.lookup other = some proof :=
      AList.lookup_insert _
    simp [gpuWeight, after, empty, AList.lookup_eq_none.mpr absent]
  · refine gpuWeight_congr ((Table.lookup_insert_eq ..).trans (if_neg same)) fun taskId =>
      share_congr (congrArg _ ?_) Iff.rfl
    exact taskOf.insert_empty_eq absent empty _

theorem addTask (sound : board.Sound build) (env : Env) (data : TaskData)
    (found : board.proofs.lookup data.proofId = some proof) (fresh : env.taskId ∉ board.issued) :
    (board.addTask proof (Task.new env data)).Charged build := by
  obtain ⟨unstored, unheld, -⟩ := sound.fresh_unused data.proofId fresh
  have tasks : ∀ key, (board.addTask proof (Task.new env data)).task key =
      if key = (data.proofId, env.taskId) then some (Task.new env data) else board.task key :=
    task_addTask (Task.new env data) found
  have new : (board.addTask proof (Task.new env data)).share build
      (data.proofId, env.taskId) = 0 := by
    rw [share_of_task ((tasks _).trans (if_pos rfl)), if_neg]
    rintro ⟨held, -⟩
    obtain ⟨workerId, holds⟩ := held_iff.mp held
    exact unheld workerId holds
  have old : board.share build (data.proofId, env.taskId) = 0 := by simp [share, unstored]
  refine charged.of_insert rfl rfl fun other => ?_
  have others : ∀ key ≠ (data.proofId, env.taskId),
      (board.addTask proof (Task.new env data)).share build key = board.share build key :=
    fun key different => share_congr (by rw [tasks, if_neg different]) Iff.rfl
  have change := gpuWeight_setRecord found rfl rfl others other
  rw [new, old] at change
  omega

theorem removeProof : (board.removeProof proofId).Charged build where
  exact_weight := by
    intro other
    change (Function.update board.backlog.charged proofId none other).getD 0 = _
    by_cases same : other = proofId
    · subst same
      have gone : (board.removeProof other).proofs.lookup other = none := by
        change (board.proofs.erase other).lookup other = none
        rw [Table.lookup_erase_eq, if_pos rfl]
      simp [gpuWeight, gone]
    · rw [Function.update_of_ne same, charged.exact_weight]
      refine (gpuWeight_congr ?_ ?_).symm
      · change (board.proofs.erase proofId).lookup other = _
        rw [Table.lookup_erase_eq, if_neg same]
      · intro taskId
        refine share_congr ?_ Iff.rfl
        change (taskOf (board.proofs.erase proofId) (other, taskId)).map Task.data = _
        rw [taskOf.erase_eq, if_neg same]
        rfl
  stored := by
    intro other absent
    change Function.update board.backlog.charged proofId none other = none
    by_cases same : other = proofId
    · subst same
      exact Function.update_self ..
    · rw [Function.update_of_ne same]
      refine charged.stored fun present => absent ?_
      exact AList.mem_erase.mpr ⟨same, present⟩

/-- Taking a held task off its worker gives back what it was charged. -/
theorem release (sound : board.Sound build) {workerId : String} {worker worker' : Worker}
    (registered : board.workers.lookup workerId = some worker) (held : key ∈ worker.activeTasks)
    (stored : board.task key = some task)
    (released : worker' = worker.release key task.data.weight ∨
      worker' = worker.abandon key task.data.weight) (goesBack : Bool) :
    (board.release build workerId worker' key task goesBack).Charged build := by
  obtain ⟨proof, found, inProof⟩ := taskOf.exists_of_eq_some stored
  have heldHere : board.Holds workerId key := ⟨worker, registered, held⟩
  have holds := holds_release_iff build task goesBack registered released
  have others : ∀ other ≠ key, (board.release build workerId worker' key task goesBack).share build
      other = board.share build other := by
    intro other different
    refine share_congr rfl (exists_congr fun holder => ?_)
    rw [holds, and_iff_left fun same => different same.2]
  have before : board.share build key =
      if build.workerTypeFromTaskType task.data.taskType = .gpu then task.data.weight else 0 := by
    rw [share_of_task stored]
    simp [held_iff.mpr ⟨workerId, heldHere⟩]
  have after : (board.release build workerId worker' key task goesBack).share build key = 0 := by
    have storedAfter : (board.release build workerId worker' key task goesBack).task key =
        some task := stored
    rw [share_of_task storedAfter, if_neg]
    rintro ⟨stillHeld, -⟩
    obtain ⟨holder, holdsAfter⟩ := held_iff.mp stillHeld
    obtain ⟨holdsBefore, notReleased⟩ := (holds holder _).mp holdsAfter
    exact notReleased ⟨sound.holder_unique holdsBefore heldHere, rfl⟩
  refine ⟨fun other => ?_, fun {other} absent => ?_⟩
  · have found' : (board.release build workerId worker' key task goesBack).proofs.lookup key.1 =
        some proof := found
    have change := gpuWeight_change found found' rfl (fun _ _ => rfl) others other
    rw [before, after] at change
    change ((Backlog.discharge _ _ _ board.backlog).charged other).getD 0 = _
    rw [Backlog.getD_discharge, charged.exact_weight]
    grind
  · exact Backlog.charged_discharge _ _ _ _ (charged.stored absent)

theorem move (sound : board.Sound build) (running : inputs.stops = false)
    (move : Move build inputs board board') : board'.Charged build := by
  cases move with
  | addProof absent empty idle => exact charged.addProof absent empty
  | addTask env data found fresh weight => exact charged.addTask sound env data found fresh
  | enqueue stored inTransit notFatal key type =>
    exact charged.of_holds (Backlog.charged_add ..) rfl fun _ => Iff.rfl
  | release registered held stored released goesBack =>
    exact charged.release sound registered held stored released goesBack
  | complete found stored alive reported => exact charged.setTask rfl rfl _ _ found stored rfl rfl rfl
  | @fail proofId taskId proof task retryable found stored inTransit unfinished alive reported =>
    refine charged.setTask ?_ ?_ (proof.failTask retryable taskId task)
      (Task.fail retryable task) found stored ?_ rfl rfl
    all_goals
      unfold Board.failTask
      dsimp only
      split <;> rfl
  | removeProof vacated ended => exact charged.removeProof
  | @addWorker workerId worker absent own empty weightless capacity =>
    refine charged.of_holds rfl rfl fun key => exists_congr fun other => ?_
    rw [holds_setWorker_iff]
    split
    · next same =>
      rw [empty]
      refine ⟨fun holds => absurd holds (AList.notMem_empty key), ?_⟩
      rintro ⟨record, registered, -⟩
      exact absurd (same ▸ Table.mem_of_lookup registered) absent
    · exact Iff.rfl
  | changeWorker registered alike weight =>
    refine charged.of_holds rfl rfl fun key => exists_congr fun other => ?_
    rw [holds_setWorker_iff]
    split
    · next same => rw [same, alike.activeTasks, holds_of_lookup registered]
    · exact Iff.rfl
  | @removeWorker workerId worker registered empty =>
    refine charged.of_holds rfl rfl fun key => exists_congr fun other => ?_
    unfold Holds Board.removeWorker
    simp only [Table.lookup_erase_eq]
    by_cases same : other = workerId
    · subst same
      simp [registered, empty key]
    · simp [same]
  | requeued found stored => exact charged.setTask rfl rfl _ _ found stored rfl rfl rfl
  | subscribe found stored unfinished asked => exact charged.setTask rfl rfl _ _ found stored rfl rfl rfl
  | halt asked =>
    rw [running] at asked
    cases asked

theorem moves (sound : board.Sound build) (running : inputs.stops = false)
    (moves : Moves build inputs board board') : board'.Charged build := by
  induction moves with
  | refl => exact charged
  | tail before move ih => exact ih.move (sound.moves before) running move

end Charged

/-! ## Assignment -/

theorem gpuWeight_assign {charges : Bool} (sound : board.Sound build) {queued : QueuedTask}
    {workerId : String} {worker : Worker} (startTime : ℕ)
    (waiting : queued ∈ board.backlog.queue (build.workerTypeFromTaskType task.data.taskType))
    (found : board.proofs.lookup queued.proofId = some proof)
    (stored : proof.tasks.lookup queued.id = some task) (unfinished : task.unfinished = true)
    (registered : board.workers.lookup workerId = some worker)
    (next : board' = (board.start workerId worker queued.proofId proof task startTime).withBacklog
      fun backlog =>
      (backlog.charge charges (build.workerTypeFromTaskType task.data.taskType) queued.proofId
      task.data.weight).remove (build.workerTypeFromTaskType task.data.taskType) queued)
    (proofId : String) :
    board'.gpuWeight build proofId = board.gpuWeight build proofId +
      if proofId = queued.proofId ∧ build.workerTypeFromTaskType task.data.taskType = .gpu then
        task.data.weight
      else 0 := by
  have here : board.task queued.key = some task := (taskOf.of_lookup found).trans stored
  have coherent := sound.toCoherent
  have sameId : task.id = queued.id := sound.task_id here
  have unheld := sound.unheld_of_waiting waiting here unfinished
  have tasks : ∀ other, board'.task other =
      if other = queued.key then some (Task.start worker task) else board.task other := by
    rw [next]
    exact task_start coherent found stored startTime workerId worker
  have holds : ∀ holder other, board'.Holds holder other ↔
      (holder = workerId ∧ other = queued.key) ∨ board.Holds holder other := by
    rw [next]
    exact holds_start coherent found stored startTime registered
  have others : ∀ other ≠ queued.key, board'.share build other = board.share build other := by
    intro other different
    refine share_congr (by rw [tasks, if_neg different]) (exists_congr fun holder => ?_)
    rw [holds, or_iff_right fun same => different same.2]
  have before : board.share build queued.key = 0 := by
    rw [share_of_task here, if_neg]
    rintro ⟨isHeld, -⟩
    obtain ⟨holder, holdsIt⟩ := held_iff.mp isHeld
    exact unheld holder holdsIt
  have after : board'.share build queued.key =
      if build.workerTypeFromTaskType task.data.taskType = .gpu then task.data.weight else 0 := by
    have isHeld : board'.held queued.key = true :=
      held_iff.mpr ⟨workerId, (holds _ _).mpr (.inl ⟨rfl, rfl⟩)⟩
    rw [share_of_task (by rw [tasks, if_pos rfl]), isHeld]
    simp [Task.start]
  have proofs : board'.proofs = board.proofs.insert queued.proofId
      { proof with tasks := proof.tasks.insert queued.id (Task.start worker task) } := by
    rw [next, ← sameId]
    rfl
  have change := gpuWeight_setRecord found proofs rfl others proofId
  change _ + (if _ then board.share build queued.key else 0) =
    _ + (if _ then board'.share build queued.key else 0) at change
  rw [before, after] at change
  grind

theorem gpuWeight_le_of_turn {charges : Bool} (sound : board.Sound build)
    (turn : AssignStep build charges board board') (proofId : String) :
    board.gpuWeight build proofId ≤ board'.gpuWeight build proofId := by
  cases turn with
  | discard waiting stale => exact Nat.le_refl _
  | @assign queued proof task workerId worker bestWorkerTime startTime running waiting found stored
      unfinished registered fits =>
      rw [gpuWeight_assign sound startTime waiting found stored unfinished registered rfl]
      exact Nat.le_add_right _ _

/-- A turn charges what it assigns, as long as the sum fits into a word. -/
theorem Charged.assignStep (charged : board.Charged build) (sound : board.Sound build)
    (turn : AssignStep build true board board')
    (inRange : ∀ proofId, board'.gpuWeight build proofId < 2 ^ 32) : board'.Charged build := by
  cases turn with
  | discard waiting stale =>
    exact charged.of_holds (Backlog.charged_remove ..) rfl fun _ => Iff.rfl
  | @assign queued proof task workerId worker bestWorkerTime startTime running waiting found stored
      unfinished registered fits =>
      have weights := gpuWeight_assign sound startTime waiting found stored unfinished registered
        (rfl : Eq _ ((board.start workerId worker queued.proofId proof task startTime).withBacklog
          fun backlog =>
            (backlog.charge true (build.workerTypeFromTaskType task.data.taskType) queued.proofId
              task.data.weight).remove (build.workerTypeFromTaskType task.data.taskType) queued))
      refine ⟨fun proofId => ?_, fun {proofId} absent => ?_⟩
      · have small := inRange proofId
        rw [weights] at small ⊢
        change (Backlog.charged (Backlog.remove _ queued
          (Backlog.charge _ _ _ _ board.backlog)) proofId).getD 0 = _
        rw [Backlog.charged_remove, Backlog.getD_charge, charged.exact_weight]
        split_ifs at small ⊢
        · exact Nat.mod_eq_of_lt small
        · rfl
      · have absentBefore : proofId ∉ board.proofs := fun present =>
          absent ((AList.mem_insert _).mpr (.inr present))
        change Backlog.charged (Backlog.remove _ queued
          (Backlog.charge _ _ _ _ board.backlog)) proofId = none
        have different : proofId ≠ queued.proofId := fun same =>
          absentBefore (same ▸ Table.mem_of_lookup found)
        rw [Backlog.charged_remove, Backlog.charge]
        split
        · exact (Function.update_of_ne different ..).trans (charged.stored absentBefore)
        · exact charged.stored absentBefore

theorem Charged.assignSteps (charged : board.Charged build) (sound : board.Sound build)
    (turns : ReflTransGen (AssignStep build true) board board')
    (inRange : ∀ proofId, board'.gpuWeight build proofId < 2 ^ 32) : board'.Charged build := by
  induction turns with
  | refl => exact charged
  | tail before turn ih =>
    have soundBefore := sound.assignSteps before
    refine (ih ?_).assignStep soundBefore turn inRange
    intro proofId
    exact Nat.lt_of_le_of_lt (gpuWeight_le_of_turn soundBefore turn proofId) (inRange proofId)

end Board

/-! ## Reachable states -/

namespace CoordinatorState

/-- The sum of the weights of the GPU tasks of a proof that some worker holds. -/
def heldGpuWeight {P : Type} (build : Build) (state : CoordinatorState P) (proofId : String) : ℕ :=
  match state.proofs.lookup proofId with
  | none => 0
  | some proof =>
    ((proof.tasks.entries.filter fun entry =>
      state.workers.entries.any (fun holder =>
        decide ((proofId, entry.1) ∈ holder.2.activeTasks)) &&
      decide (build.workerTypeFromTaskType entry.2.data.taskType = .gpu)).map
        fun entry => entry.2.data.weight).sum

theorem gpuWeight_board {P : Type} [AssignmentPolicy P] (build : Build)
    (state : CoordinatorState P) (transit : Set TaskKey) (issued : Set String) (proofId : String) :
    (state.board transit issued).gpuWeight build proofId = state.heldGpuWeight build proofId := by
  unfold Board.gpuWeight heldGpuWeight
  change (match state.proofs.lookup proofId with
    | none => 0
    | some proof => Table.total _ proof.tasks) = _
  cases found : state.proofs.lookup proofId with
  | none => rfl
  | some proof =>
    dsimp only
    rw [Table.sum_filter]
    unfold Table.total
    congr 1
    refine List.map_congr_left ?_
    rintro ⟨taskId, task⟩ member
    have stored : (state.board transit issued).task (proofId, taskId) = some task :=
      (taskOf.of_lookup found).trans (Table.mem_entries_iff.mp member)
    dsimp only
    rw [Board.share_of_task stored]
    simp only [Bool.and_eq_true, decide_eq_true_iff]
    rfl

theorem heldGpuWeight_lt {P : Type} {build : Build} {state : CoordinatorState P} {bound : ℕ}
    (positive : 0 < bound)
    (small : ∀ entry ∈ state.proofs.entries, state.heldGpuWeight build entry.1 < bound)
    (proofId : String) : state.heldGpuWeight build proofId < bound := by
  cases found : state.proofs.lookup proofId with
  | none =>
    unfold heldGpuWeight
    rw [found]
    exact positive
  | some proof => exact small ⟨proofId, proof⟩ (Table.mem_entries_iff.mpr found)

variable {build : Build}

theorem reach_charged (events : List Event) (fresh : Event.FreshIds events)
    (running : ∀ event ∈ events, event.call.stops = false)
    (inRange : ∀ past, past <+: events → ∀ proofId,
      (reach BalancedPolicy build past).heldGpuWeight build proofId < 2 ^ 32) :
    ∃ transit issued, (reach BalancedPolicy build events).Sane build events transit issued ∧
      ((reach BalancedPolicy build events).board transit issued).Charged build := by
  induction events using List.reverseRecOn with
  | nil => exact ⟨∅, ∅, sane_new, fun _ => rfl, fun _ => rfl⟩
  | append_singleton past event ih =>
    obtain ⟨transit, issued, sane, charged⟩ := ih fresh.of_append
      (fun earlier member => running earlier (by simp [member]))
      (fun shorter isPrefix => inRange shorter (isPrefix.trans (List.prefix_append _ _)))
    obtain ⟨transit', issued', sane', performs⟩ := sane.step event fresh
    have stops : (event.call.inputs build).stops = false :=
      (Call.stops_inputs build event.call).trans (running event (by simp))
    obtain ⟨middle, moves, turns⟩ := performs.plays
    rw [reach_snoc]
    refine ⟨transit', issued', sane', ?_⟩
    refine (charged.moves sane.sound stops moves).assignSteps (sane.sound.moves moves) turns ?_
    intro proofId
    rw [gpuWeight_board, ← reach_snoc]
    exact inRange (past ++ [event]) List.prefix_rfl proofId

end CoordinatorState

/-- **The balanced policy's charges are exact**, in every state that calls
without a shutdown reach, as long as the weight held of every proof fits into a
32-bit word: the charge of a proof is the weight of its GPU tasks that workers
hold, and only stored proofs are charged. -/
theorem gpu_charges_exact (build : Build) (events : List Event) (fresh : Event.FreshIds events)
    (running : ∀ event ∈ events, event.call.stops = false)
    (inRange : ∀ past, past <+: events → ∀ proofId,
      (CoordinatorState.reach BalancedPolicy build past).heldGpuWeight build proofId < 2 ^ 32)
    (proofId : String) :
    (((CoordinatorState.reach BalancedPolicy build events).policy.proofGpuWeights.lookup
        proofId).getD 0 =
      (CoordinatorState.reach BalancedPolicy build events).heldGpuWeight build proofId) ∧
    (proofId ∉ (CoordinatorState.reach BalancedPolicy build events).proofs →
      proofId ∉ (CoordinatorState.reach BalancedPolicy build events).policy.proofGpuWeights) := by
  obtain ⟨transit, issued, -, charged⟩ :=
    CoordinatorState.reach_charged events fresh running inRange
  refine ⟨?_, ?_⟩
  · rw [← CoordinatorState.gpuWeight_board build _ transit issued]
    exact charged.exact_weight proofId
  · intro absent
    exact AList.lookup_eq_none.mp (charged.stored absent)

theorem gpu_charges_exact_oneShard :
    Event.FreshIds oneShard ∧ (∀ event ∈ oneShard, event.call.stops = false) ∧
      (CoordinatorState.reach BalancedPolicy .plain oneShard).heldGpuWeight .plain "p" = 4 ∧
      ((CoordinatorState.reach BalancedPolicy .plain oneShard).policy.proofGpuWeights.lookup
        "p").getD 0 =
      (CoordinatorState.reach BalancedPolicy .plain oneShard).heldGpuWeight .plain "p" := by
  have fresh : Event.FreshIds oneShard := by
    unfold Event.FreshIds
    decide
  have running : ∀ event ∈ oneShard, event.call.stops = false := by decide
  have inRange : ∀ past, past <+: oneShard → ∀ proofId,
      (CoordinatorState.reach BalancedPolicy .plain past).heldGpuWeight .plain proofId <
        2 ^ 32 := by
    intro past isPrefix
    refine CoordinatorState.heldGpuWeight_lt (by decide) ?_
    revert past
    simp only [← List.mem_inits]
    decide
  exact ⟨fresh, running, by decide,
    (gpu_charges_exact .plain oneShard fresh running inRange "p").1⟩

end Sp1Cluster
