import Sp1Cluster.Coordinator.Accounting

/-!
# The record of one task along the moves

What a move, or a turn of an assignment, can do to the record of one task, to
the record of one worker, to the holders of a task, its queue entries and its
place in transit. Statements about the life of a task and the weights of the
workers follow from these without looking at the moves again.
-/

set_option autoImplicit false

namespace Sp1Cluster

namespace Board

variable {build : Build} {charges : Bool} {inputs : Inputs} {board board' : Board} {key : TaskKey}
  {workerId : String} {task task' : Task}

/-- What one step can do to the record of the task under a key. -/
inductive TaskStep (inputs : Inputs) (board board' : Board) (key : TaskKey) :
    Option Task → Option Task → Prop where
  | keep (record : Option Task) : TaskStep inputs board board' key record record
  | create (env : Env) (data : TaskData) (fresh : key.2 ∉ board.issued)
      (alone : ∀ other, other.2 = key.2 → other ≠ key → board'.task other = none) :
      TaskStep inputs board board' key none (some (Task.new env data))
  | remove (task : Task) (ended : key.1 ∈ inputs.ended) :
      TaskStep inputs board board' key (some task) none
  | complete (workerId : String) (task : Task) (reported : key ∈ inputs.completed) :
      TaskStep inputs board board' key (some task) (some (Task.complete workerId task))
  | fail (retryable : Bool) (task : Task) (inTransit : key ∈ board.transit)
      (unfinished : task.unfinished = true) (reported : (key, retryable) ∈ inputs.failed)
      (settled : task.failureStatus retryable = .failedFatal → key ∉ board'.transit) :
      TaskStep inputs board board' key (some task) (some (Task.fail retryable task))
  | requeue (task : Task) : TaskStep inputs board board' key (some task) (some task.requeue)
  | subscribe (subId : String) (task : Task) (unfinished : task.unfinished = true)
      (asked : (subId, key) ∈ inputs.subscribed) :
      TaskStep inputs board board' key (some task)
        (some { task with subscribers := KeySet.add subId task.subscribers })
  | start (worker : Worker) (task : Task) (unfinished : task.unfinished = true)
      (waiting : 0 < board.backlog.count key) :
      TaskStep inputs board board' key (some task) (some (Task.start worker task))

theorem TaskStep.of_set {proofId taskId : String} {proof proof' : Proof}
    (found : board.proofs.lookup proofId = some proof)
    (stored : proof.tasks.lookup taskId = some task)
    (changed : proof'.tasks = proof.tasks.insert taskId task')
    (step : TaskStep inputs board board' (proofId, taskId) (some task) (some task'))
    (proofs : board'.proofs = board.proofs.insert proofId proof') (key : TaskKey) :
    TaskStep inputs board board' key (board.task key) (board'.task key) := by
  have after : board'.task key = if key = (proofId, taskId) then some task' else board.task key := by
    unfold Board.task
    rw [proofs]
    exact taskOf.set_eq found changed key
  rw [after]
  split
  · next same =>
    subst same
    have before : board.task (proofId, taskId) = some task :=
      (taskOf.of_lookup found).trans stored
    rw [before]
    exact step
  · exact .keep _

theorem TaskStep.data_eq {record record' : Option Task}
    (step : TaskStep inputs board board' key record record') (before : record = some task)
    (after : record' = some task') : task'.data = task.data := by
  cases step <;> cases before <;> cases after <;> rfl

/-- What the record of a worker may come from. -/
inductive WorkerStep (inputs : Inputs) (board : Board) (workerId : String) : Worker → Prop where
  | keep {worker : Worker} (registered : board.workers.lookup workerId = some worker) :
      WorkerStep inputs board workerId worker
  | add {worker : Worker} (empty : worker.activeTasks = ∅) (weightless : worker.weight = 0)
      (capacity : worker.maxWeight ∈ inputs.capacities) : WorkerStep inputs board workerId worker
  | change {worker worker' : Worker} (registered : board.workers.lookup workerId = some worker)
      (alike : worker.Alike worker')
      (weight : worker'.weight = worker.weight ∨
        worker'.weight = KeySet.sumOver board.taskWeight worker.activeTasks % 2 ^ 32) :
      WorkerStep inputs board workerId worker'
  | release {worker worker' : Worker} {key : TaskKey} {task : Task}
      (registered : board.workers.lookup workerId = some worker)
      (held : key ∈ worker.activeTasks) (stored : board.task key = some task)
      (released : worker' = worker.release key task.data.weight ∨
        worker' = worker.abandon key task.data.weight) : WorkerStep inputs board workerId worker'
  | halt {worker : Worker} (registered : board.workers.lookup workerId = some worker)
      (asked : inputs.stops = true) :
      WorkerStep inputs board workerId { worker with activeTasks := ∅ }

theorem taskWeight_of_task (stored : board.task key = some task) :
    board.taskWeight key = task.data.weight := by
  simp [taskWeight, stored]

theorem proofs_failTask (proofId taskId : String) (proof : Proof) (retryable : Bool) (task : Task) :
    (board.failTask proofId proof retryable taskId task).proofs =
      board.proofs.insert proofId (proof.failTask retryable taskId task) := by
  unfold Board.failTask
  dsimp only
  split <;> rfl

/-! ## Moves -/

namespace Move

variable (move : Move build inputs board board')
include move

theorem taskStep (sound : board.Sound build) (key : TaskKey) :
    TaskStep inputs board board' key (board.task key) (board'.task key) := by
  cases move with
  | addProof absent empty idle =>
    have same : (board.setProof _ _).task key = board.task key :=
      taskOf.insert_empty_eq absent empty key
    rw [same]
    exact .keep _
  | addTask env data found fresh weight =>
    rw [task_addTask (Task.new env data) found]
    split
    · next same =>
      have unused : board.task key = none := by
        rw [same]
        exact (sound.fresh_unused _ fresh).1
      rw [unused]
      refine .create env data (same ▸ fresh) ?_
      intro other sameId different
      rw [task_addTask (Task.new env data) found, if_neg (same ▸ different)]
      have otherFresh : other.2 ∉ board.issued := by
        rw [sameId, same]
        exact fresh
      exact (sound.fresh_unused other.1 otherFresh).1
    · exact .keep _
  | complete found stored alive reported =>
    exact .of_set found stored rfl (.complete _ _ reported) rfl key
  | fail found stored inTransit unfinished alive reported =>
    refine .of_set found stored rfl (.fail _ _ inTransit unfinished reported ?_)
      (proofs_failTask ..) key
    intro fatal moving
    unfold Board.failTask at moving
    dsimp only at moving
    rw [if_pos fatal] at moving
    exact moving.2 rfl
  | @removeProof proofId vacated ended =>
    have after : (board.removeProof proofId).task key =
        if key.1 = proofId then none else board.task key := taskOf.erase_eq key
    rw [after]
    split
    · next same =>
      cases board.task key with
      | none => exact .keep _
      | some task => exact .remove task (same ▸ ended)
    · exact .keep _
  | requeued found stored => exact .of_set found stored rfl (.requeue _) rfl key
  | subscribe found stored unfinished asked =>
    exact .of_set found stored rfl (.subscribe _ _ unfinished asked) rfl key
  | _ => exact .keep _

theorem workerStep {worker' : Worker}
    (registered' : board'.workers.lookup workerId = some worker') :
    WorkerStep inputs board workerId worker' := by
  have inserted : ∀ {changedId : String} {changed : Worker},
      (board.workers.insert changedId changed).lookup workerId = some worker' →
        WorkerStep inputs board changedId changed → WorkerStep inputs board workerId worker' := by
    intro changedId changed lookup step
    rcases Table.lookup_insert_cases lookup with ⟨same, rfl⟩ | ⟨_, lookup⟩
    · exact same ▸ step
    · exact .keep lookup
  cases move with
  | release registered held stored released goesBack =>
    exact inserted registered' (.release registered held stored released)
  | fail found stored inTransit unfinished alive reported =>
    unfold Board.failTask at registered'
    dsimp only at registered'
    split at registered' <;> exact .keep registered'
  | addWorker absent own empty weightless capacity =>
    exact inserted registered' (.add empty weightless capacity)
  | changeWorker registered alike weight =>
    exact inserted registered' (.change registered alike weight)
  | removeWorker registered empty =>
    change (board.workers.erase _).lookup workerId = some worker' at registered'
    exact .keep (Table.lookup_of_erase registered')
  | halt asked =>
    change (Table.mapValues _ board.workers).lookup workerId = some worker' at registered'
    rw [Table.lookup_mapValues] at registered'
    obtain ⟨worker, registered, rfl⟩ := Option.map_eq_some_iff.mp registered'
    exact .halt registered asked
  | _ => exact .keep registered'

theorem holds_of (held : board'.Holds workerId key) : board.Holds workerId key := by
  obtain ⟨worker', registered', member⟩ := held
  cases move.workerStep registered' with
  | keep registered => exact ⟨worker', registered, member⟩
  | add empty => exact absurd (empty ▸ member) (AList.notMem_empty key)
  | change registered alike => exact ⟨_, registered, alike.activeTasks ▸ member⟩
  | release registered _ _ released =>
    exact ⟨_, registered, ((mem_of_released released).mp member).2⟩
  | halt => exact absurd member (AList.notMem_empty key)

theorem load_eq (sound : board.Sound build) {worker : Worker}
    (registered : board'.workers.lookup workerId = some worker) :
    KeySet.sumOver board'.taskWeight worker.activeTasks =
      KeySet.sumOver board.taskWeight worker.activeTasks := by
  refine KeySet.sumOver_congr ?_
  intro key member
  have held : board'.Holds workerId key := ⟨worker, registered, member⟩
  obtain ⟨task, stored, -⟩ := sound.held_task (move.holds_of held)
  obtain ⟨task', stored', -⟩ := (sound.move move).held_task held
  rw [taskWeight_of_task stored, taskWeight_of_task stored',
    (move.taskStep sound key).data_eq stored stored']

/-- Only tasks in transit are queued. -/
theorem count_le (resting : key ∉ board.transit) :
    board'.backlog.count key ≤ board.backlog.count key := by
  cases move with
  | @enqueue proofId taskId task queued stored inTransit notFatal same type =>
    change (board.backlog.add _ queued).count key ≤ _
    by_cases queues : (build.workerTypeFromTaskType task.data.taskType).Queues
    · rw [Backlog.count_add queues, if_neg]
      · omega
      · rw [same]
        rintro rfl
        exact resting inTransit
    · rw [Backlog.add_of_not_queues queues]
  | release registered held stored released goesBack => exact (Backlog.count_discharge ..).le
  | fail found stored inTransit unfinished alive reported =>
    unfold Board.failTask
    dsimp only
    split <;> exact le_rfl
  | _ => exact le_rfl

/-- Only new tasks, and tasks that were held, come into transit. -/
theorem transit_of (moving : key ∈ board'.transit) :
    key ∈ board.transit ∨ (∃ workerId, board.Holds workerId key) ∨ key.2 ∉ board.issued := by
  cases move with
  | addTask env data found fresh weight =>
    rcases moving with rfl | before
    · exact .inr (.inr fresh)
    · exact .inl before
  | enqueue stored inTransit notFatal same type => exact .inl moving.1
  | release registered held stored released goesBack =>
    unfold Board.release at moving
    dsimp only at moving
    split at moving
    · rcases moving with rfl | before
      · exact .inr (.inl ⟨_, _, registered, held⟩)
      · exact .inl before
    · exact .inl moving
  | complete found stored alive reported => exact .inl moving.1
  | fail found stored inTransit unfinished alive reported =>
    unfold Board.failTask at moving
    dsimp only at moving
    split at moving
    · exact .inl moving.1
    · exact .inl moving
  | removeProof vacated ended => exact .inl moving.1
  | halt asked =>
    rcases moving with before | held
    · exact .inl before
    · exact .inr (.inl held)
  | _ => exact .inl moving

theorem issued_subset : board.issued ⊆ board'.issued := by
  cases move with
  | addTask env data found fresh weight => exact Set.subset_insert _ _
  | fail found stored inTransit unfinished alive reported =>
    unfold Board.failTask
    dsimp only
    split <;> exact subset_rfl
  | _ => exact subset_rfl

end Move

/-! ## Turns of an assignment -/

namespace AssignStep

variable (turn : AssignStep build charges board board')
include turn

theorem taskStep (inputs : Inputs) (sound : board.Sound build) (key : TaskKey) :
    TaskStep inputs board board' key (board.task key) (board'.task key) := by
  cases turn with
  | discard waiting stale => exact .keep _
  | @assign queued proof task workerId worker bestWorkerTime startTime running waiting found stored
      unfinished registered fits =>
      have here : board.task queued.key = some task := (taskOf.of_lookup found).trans stored
      have sameId : task.id = queued.id := sound.task_id here
      have storedById : proof.tasks.lookup task.id = some task := sameId ▸ stored
      have started : ∀ after, TaskStep inputs board after (queued.proofId, task.id) (some task)
          (some (Task.start worker task)) := by
        intro after
        rw [sameId]
        exact .start worker task unfinished (Backlog.count_pos_of_mem waiting)
      exact .of_set found storedById rfl (started _) rfl key

/-- A worker is given a task that waits and is unfinished. -/
theorem holds_of (sound : board.Sound build) (held : board'.Holds workerId key) :
    board.Holds workerId key ∨
      (0 < board.backlog.count key ∧ ∃ task, board.task key = some task ∧ task.unfinished = true) := by
  cases turn with
  | discard waiting stale => exact .inl held
  | @assign queued proof task taker worker bestWorkerTime startTime running waiting found stored
      unfinished registered fits =>
      rcases (holds_start sound.toCoherent found stored startTime registered _ _).mp held with
        ⟨-, rfl⟩ | before
      · exact .inr ⟨Backlog.count_pos_of_mem waiting, task, (taskOf.of_lookup found).trans stored,
          unfinished⟩
      · exact .inl before

theorem count_le (key : TaskKey) : board'.backlog.count key ≤ board.backlog.count key := by
  cases turn with
  | @discard workerType queued waiting stale =>
    have counted := Backlog.count_remove waiting key
    change (board.backlog.remove workerType queued).count key ≤ _
    omega
  | @assign queued proof task workerId worker bestWorkerTime startTime running waiting found stored
      unfinished registered fits =>
      have counted := Backlog.count_take waiting charges queued.proofId task.data.weight key
      exact counted ▸ Nat.le_add_right ..

theorem transit_eq : board'.transit = board.transit := by
  cases turn <;> rfl

theorem issued_eq : board'.issued = board.issued := by
  cases turn <;> rfl

end AssignStep

end Board

/-! ## A whole assignment -/

/-- What an assignment does to a stored task: it may start it, if it is
unfinished. -/
structure Task.Restarted (task task' : Task) : Prop where
  retries : task'.retries = task.retries
  subscribers : task'.subscribers = task.subscribers
  unfinished : task'.unfinished = task.unfinished
  settled : task.unfinished = false → task'.status = task.status

namespace Task.Restarted

variable {task task' task'' : Task}

theorem refl (task : Task) : task.Restarted task := ⟨rfl, rfl, rfl, fun _ => rfl⟩

theorem trans (first : task.Restarted task') (second : task'.Restarted task'') :
    task.Restarted task'' where
  retries := second.retries.trans first.retries
  subscribers := second.subscribers.trans first.subscribers
  unfinished := second.unfinished.trans first.unfinished
  settled finished := (second.settled (first.unfinished.trans finished)).trans
    (first.settled finished)

theorem fatal_iff (restarted : task.Restarted task') :
    task'.status = .failedFatal ↔ task.status = .failedFatal := by
  constructor
  · intro fatal
    have finished : task'.unfinished = false := by
      simp [Task.unfinished, fatal, TaskStatus.isFinal]
    rw [← restarted.settled (restarted.unfinished.symm.trans finished)]
    exact fatal
  · intro fatal
    have finished : task.unfinished = false := by
      simp [Task.unfinished, fatal, TaskStatus.isFinal]
    rw [restarted.settled finished]
    exact fatal

end Task.Restarted

namespace Board

variable {build : Build} {charges : Bool} {board board' : Board} {key : TaskKey}

/-- What moves and turns keep is kept by moves and turns after them. -/
theorem moves_turns_rule {Q : Board → Prop} {inputs : Inputs} {middle : Board}
    (sound : board.Sound build) (start : Q board)
    (move : ∀ {first second : Board}, first.Sound build → Move build inputs first second →
      Q first → Q second)
    (turn : ∀ {first second : Board}, first.Sound build → AssignStep build charges first second →
      Q first → Q second)
    (moves : Moves build inputs board middle)
    (turns : Relation.ReflTransGen (AssignStep build charges) middle board') : Q board' := by
  have moved : Q middle := by
    clear turns
    induction moves with
    | refl => exact start
    | tail before last ih => exact move (sound.moves before) last ih
  induction turns with
  | refl => exact moved
  | tail before last ih => exact turn ((sound.moves moves).assignSteps before) last ih

/-- What every step keeps, by what it does to the records of the tasks, is kept by
moves and turns after them. -/
theorem plays_rule {Q : Board → Prop} {inputs : Inputs} {middle : Board}
    (sound : board.Sound build) (start : Q board)
    (step : ∀ {first second : Board}, first.Sound build → first.issued ⊆ second.issued →
      (∀ key, TaskStep inputs first second key (first.task key) (second.task key)) →
        Q first → Q second)
    (moves : Moves build inputs board middle)
    (turns : Relation.ReflTransGen (AssignStep build charges) middle board') : Q board' :=
  moves_turns_rule sound start
    (fun sound move => step sound move.issued_subset (move.taskStep sound))
    (fun sound turn => step sound turn.issued_eq.ge (turn.taskStep inputs sound)) moves turns

theorem AssignStep.restarted (turn : AssignStep build charges board board')
    (sound : board.Sound build) {task' : Task} (stored : board'.task key = some task') :
    ∃ task, board.task key = some task ∧ task.Restarted task' := by
  cases turn with
  | discard waiting stale => exact ⟨task', stored, .refl task'⟩
  | @assign queued proof task workerId worker bestWorkerTime startTime running waiting found inProof
      unfinished registered fits =>
      have tasks := task_start sound.toCoherent found inProof startTime workerId worker key
      have stored := tasks.symm.trans stored
      split at stored
      · next same =>
        cases stored
        refine ⟨task, same ▸ (taskOf.of_lookup found).trans inProof, rfl, rfl, unfinished.symm, ?_⟩
        intro finished
        exact absurd (unfinished.symm.trans finished) nofun
      · exact ⟨task', stored, .refl task'⟩

theorem AssignStep.taskWeight_eq (turn : AssignStep build charges board board')
    (sound : board.Sound build) (key : TaskKey) : board'.taskWeight key = board.taskWeight key := by
  have step := turn.taskStep Inputs.none sound key
  cases before : board.task key with
  | none =>
    cases after : board'.task key with
    | none => simp [taskWeight, before, after]
    | some task' =>
      obtain ⟨task, stored, -⟩ := turn.restarted sound after
      rw [before] at stored
      cases stored
  | some task =>
    cases after : board'.task key with
    | none =>
      rw [before, after] at step
      cases step with
      | remove _ ended => exact absurd ended (Set.notMem_empty _)
    | some task' =>
      rw [taskWeight_of_task before, taskWeight_of_task after, step.data_eq before after]

/-- What a turn does to a worker: its record stays, or it is given a task. -/
theorem AssignStep.worker_cases (turn : AssignStep build charges board board')
    (sound : board.Sound build) {workerId : String} {worker' : Worker}
    (registered' : board'.workers.lookup workerId = some worker') :
    board.workers.lookup workerId = some worker' ∨
      ∃ worker task startTime, board.workers.lookup workerId = some worker ∧
        board.task (task.data.proofId, task.id) = some task ∧
        (task.data.proofId, task.id) ∉ worker.activeTasks ∧
        (∃ workerType bestWorkerTime,
          worker.preferred workerType task.data.weight bestWorkerTime = true) ∧
        worker' = Worker.take task startTime worker := by
  cases turn with
  | discard waiting stale => exact .inl registered'
  | @assign queued proof task taker worker bestWorkerTime startTime running waiting found stored
      unfinished registered fits =>
      change (board.workers.insert taker (Worker.take task startTime worker)).lookup workerId =
        some worker' at registered'
      rcases Table.lookup_insert_cases registered' with ⟨same, rfl⟩ | ⟨_, registered'⟩
      · have here : board.task queued.key = some task := (taskOf.of_lookup found).trans stored
        refine .inr ⟨worker, task, startTime, same ▸ registered, ?_, ?_, ⟨_, _, fits⟩, rfl⟩
        all_goals rw [key_of_queued sound.toCoherent found stored]
        · exact here
        · intro held
          exact sound.unheld_of_waiting waiting here unfinished taker ⟨worker, registered, held⟩
      · exact .inl registered'

theorem restarted_of_turns (sound : board.Sound build)
    (turns : Relation.ReflTransGen (AssignStep build charges) board board') {task' : Task}
    (stored : board'.task key = some task') :
    ∃ task, board.task key = some task ∧ task.Restarted task' := by
  induction turns generalizing task' with
  | refl => exact ⟨task', stored, .refl task'⟩
  | tail before turn ih =>
    obtain ⟨between, storedBetween, later⟩ := turn.restarted (sound.assignSteps before) stored
    obtain ⟨task, storedBefore, earlier⟩ := ih storedBetween
    exact ⟨task, storedBefore, earlier.trans later⟩

end Board

theorem CoordinatorState.task_of_assignTasks {P : Type} [LawfulPolicy P] {build : Build}
    {transit : Set TaskKey} {issued : Set String} {state : CoordinatorState P}
    (filed : LawfulPolicy.Filed state.policy) (sound : (state.board transit issued).Sound build)
    (env : Env) (key : TaskKey) {task' : Task}
    (stored : taskOf (AssignmentPolicy.assignTasks build env state).1.proofs key = some task') :
    ∃ task, taskOf state.proofs key = some task ∧ task.Restarted task' := by
  have assigns := LawfulPolicy.assigns build env filed
    ⟨sound.task_id, sound.task_proofId, sound.worker_id, sound.queue_type, sound.entry_type⟩
  have storedBoard : ((AssignmentPolicy.assignTasks build env state).1.board transit issued).task
      key = some task' := stored
  exact Board.restarted_of_turns sound (assigns.turns transit issued) storedBoard

end Sp1Cluster
