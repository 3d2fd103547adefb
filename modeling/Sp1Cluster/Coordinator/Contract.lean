import Sp1Cluster.Coordinator.Board
import Mathlib.Logic.Relation

/-!
# The contract of an assignment policy

What the coordinator relies on: the methods of a policy act on the backlog it
implements, and `assign_tasks` only takes turns that discard stale entries or
give waiting tasks to workers that may take them. The loop both policies share
keeps the contract as soon as their queues do.
-/

set_option autoImplicit false

namespace Sp1Cluster

def Effect.isToWorker : Effect → Bool
  | .toWorker .. => true
  | _ => false

namespace CoordinatorState

variable {P : Type}

/-- A state whose settings and counters are those of another, and which has
sent more messages to workers and nothing else. -/
structure SendsToWorkers (state state' : CoordinatorState P) : Prop where
  totalTasks : state'.totalTasks = state.totalTasks
  proofsTx : state'.proofsTx = state.proofsTx
  shuttingDown : state'.shuttingDown = state.shuttingDown
  executeOnlyMode : state'.executeOnlyMode = state.executeOnlyMode
  heartbeatTimeout : state'.workerHeartbeatTimeoutSecs = state.workerHeartbeatTimeoutSecs
  gpuBusyMsTotal : state'.gpuBusyMsTotal = state.gpuBusyMsTotal
  outbox : ∃ sent, state'.outbox = state.outbox ++ sent ∧ ∀ effect ∈ sent, effect.isToWorker

theorem SendsToWorkers.refl (state : CoordinatorState P) : SendsToWorkers state state where
  totalTasks := rfl
  proofsTx := rfl
  shuttingDown := rfl
  executeOnlyMode := rfl
  heartbeatTimeout := rfl
  gpuBusyMsTotal := rfl
  outbox := ⟨[], by simp, by simp⟩

theorem SendsToWorkers.trans {first second third : CoordinatorState P}
    (earlier : SendsToWorkers first second) (later : SendsToWorkers second third) :
    SendsToWorkers first third where
  totalTasks := later.totalTasks.trans earlier.totalTasks
  proofsTx := later.proofsTx.trans earlier.proofsTx
  shuttingDown := later.shuttingDown.trans earlier.shuttingDown
  executeOnlyMode := later.executeOnlyMode.trans earlier.executeOnlyMode
  heartbeatTimeout := later.heartbeatTimeout.trans earlier.heartbeatTimeout
  gpuBusyMsTotal := later.gpuBusyMsTotal.trans earlier.gpuBusyMsTotal
  outbox := by
    obtain ⟨sent, before, sentBefore⟩ := earlier.outbox
    obtain ⟨more, after, sentAfter⟩ := later.outbox
    refine ⟨sent ++ more, by simp [after, before], ?_⟩
    intro effect member
    rcases List.mem_append.mp member with inSent | inMore
    · exact sentBefore effect inSent
    · exact sentAfter effect inMore

end CoordinatorState

open CoordinatorState Relation

section Assigning

variable {P : Type} [AssignmentPolicy P]

/-- What a run of an assignment loop does to a state, for a policy whose
representation stays well formed. -/
structure Assigns (build : Build) (Filed : P → Prop) (state state' : CoordinatorState P) :
    Prop where
  turns : ∀ transit issued,
    ReflTransGen (Board.AssignStep build (AssignmentPolicy.chargesGpuWeight P))
      (state.board transit issued) (state'.board transit issued)
  filed : Filed state'.policy

theorem Assigns.refl (build : Build) {Filed : P → Prop} {state : CoordinatorState P}
    (filed : Filed state.policy) : Assigns build Filed state state where
  turns _ _ := .refl
  filed := filed

theorem Assigns.trans {build : Build} {Filed : P → Prop} {first second third : CoordinatorState P}
    (earlier : Assigns build Filed first second) (later : Assigns build Filed second third) :
    Assigns build Filed first third where
  turns transit issued := (earlier.turns transit issued).trans (later.turns transit issued)
  filed := later.filed

end Assigning

/-- A policy that implements a backlog. `Filed` is what its representation
keeps. -/
class LawfulPolicy (P : Type) extends AssignmentPolicy P where
  Filed : P → Prop
  filed_empty : Filed empty
  backlog_empty : backlogOf empty = ⟨0, 0, fun _ => none⟩
  filed_enqueueTask : ∀ {policy : P} (workerType : WorkerType) (queued : QueuedTask),
    Filed policy → Filed (enqueueTask workerType queued policy)
  backlog_enqueueTask : ∀ {policy : P} (workerType : WorkerType) (queued : QueuedTask),
    backlogOf (enqueueTask workerType queued policy) =
      (backlogOf policy).add workerType queued
  filed_postTaskUpdateState : ∀ {policy : P} (taskWeight : ℕ) (proofId : String)
    (workerType : WorkerType),
    Filed policy → Filed (postTaskUpdateState taskWeight proofId workerType policy)
  backlog_postTaskUpdateState : ∀ {policy : P} (taskWeight : ℕ) (proofId : String)
    (workerType : WorkerType),
    backlogOf (postTaskUpdateState taskWeight proofId workerType policy) =
      (backlogOf policy).discharge workerType proofId taskWeight
  filed_onProofDeleted : ∀ {policy : P} (proofId : String),
    Filed policy → Filed (onProofDeleted proofId policy)
  backlog_onProofDeleted : ∀ {policy : P} (proofId : String),
    backlogOf (onProofDeleted proofId policy) = (backlogOf policy).forget proofId
  assigns : ∀ (build : Build) (env : Env) {state : CoordinatorState P}, Filed state.policy →
    (state.board ∅ ∅).Coherent build →
    Assigns build Filed state (assignTasks build env state).1
  sends : ∀ (build : Build) (env : Env) (state : CoordinatorState P),
    SendsToWorkers state (assignTasks build env state).1
  assigns_ok : ∀ (build : Build) (env : Env) (state : CoordinatorState P),
    (∀ read, 0 ≤ env.clock read) → (assignTasks build env state).2 = .ok ()

/-! ## Choosing a worker -/

namespace Worker

/-- A worker that may take a task: open, of a matching type, and with a weight
that leaves room by the test of the code. -/
def Eligible (workerType : WorkerType) (taskWeight : ℕ) (worker : Worker) : Prop :=
  worker.closed = false ∧ (worker.workerType = .all ∨ worker.workerType = workerType) ∧
    wrappingAdd32 worker.weight taskWeight ≤ worker.maxWeight

theorem preferred_iff {workerType : WorkerType} {taskWeight bestWorkerTime : ℕ} {worker : Worker} :
    worker.preferred workerType taskWeight bestWorkerTime = true ↔
      worker.Eligible workerType taskWeight ∧ worker.nextFreeTime < bestWorkerTime := by
  simp only [preferred, Eligible, Bool.and_eq_true, Bool.not_eq_true', Bool.or_eq_true, beq_iff_eq,
    decide_eq_true_iff]
  constructor
  · rintro ⟨⟨⟨opened, type⟩, sooner⟩, room⟩
    exact ⟨⟨opened, type, room⟩, sooner⟩
  · rintro ⟨⟨opened, type, room⟩, sooner⟩
    exact ⟨⟨⟨opened, type⟩, sooner⟩, room⟩

end Worker

/-- What the search ends with: where it began, or an eligible worker that is free sooner; and
no eligible worker is free before the time it ends with. -/
theorem bestWorkerOf_cases (workerType : WorkerType) (taskWeight : ℕ)
    (entries : List (Sigma fun _ : String => Worker)) (best : Option (String × Worker) × ℕ) :
    (bestWorkerOf workerType taskWeight entries best).2 ≤ best.2 ∧
    (∀ entry ∈ entries, entry.2.Eligible workerType taskWeight →
      (bestWorkerOf workerType taskWeight entries best).2 ≤ entry.2.nextFreeTime) ∧
    (bestWorkerOf workerType taskWeight entries best = best ∨
      ∃ entry ∈ entries, entry.2.Eligible workerType taskWeight ∧ entry.2.nextFreeTime < best.2 ∧
        bestWorkerOf workerType taskWeight entries best =
          (some (entry.1, entry.2), entry.2.nextFreeTime)) := by
  induction entries generalizing best with
  | nil => exact ⟨le_rfl, List.forall_mem_nil _, .inl rfl⟩
  | cons entry rest ih =>
    simp only [bestWorkerOf, List.forall_mem_cons]
    split
    · next preferred =>
      obtain ⟨eligible, sooner⟩ := Worker.preferred_iff.mp preferred
      obtain ⟨le, others, same | ⟨found, member, suits, before, result⟩⟩ :=
        ih (some (entry.1, entry.2), entry.2.nextFreeTime)
      · exact ⟨le.trans sooner.le, ⟨fun _ => le, others⟩,
          .inr ⟨entry, List.mem_cons_self, eligible, sooner, same⟩⟩
      · exact ⟨le.trans sooner.le, ⟨fun _ => le, others⟩,
          .inr ⟨found, List.mem_cons_of_mem _ member, suits, before.trans sooner, result⟩⟩
    · next passed =>
      obtain ⟨le, others, result⟩ := ih best
      refine ⟨le, ⟨fun eligible => le.trans (not_lt.mp fun sooner => passed ?_), others⟩, ?_⟩
      · exact Worker.preferred_iff.mpr ⟨eligible, sooner⟩
      · exact result.imp_right fun ⟨found, member, spec⟩ =>
          ⟨found, List.mem_cons_of_mem _ member, spec⟩

theorem bestWorker_cases {P : Type} (env : Env) (workerType : WorkerType) (taskWeight : ℕ)
    (state : CoordinatorState P) :
    ∃ time, (∀ otherId other, state.workers.lookup otherId = some other →
        other.Eligible workerType taskWeight → time ≤ other.nextFreeTime) ∧
      (bestWorker env workerType taskWeight state = none ∧ time = 2 ^ 128 - 1 ∨
        ∃ workerId worker, bestWorker env workerType taskWeight state = some (workerId, worker) ∧
          state.workers.lookup workerId = some worker ∧ worker.Eligible workerType taskWeight ∧
          time = worker.nextFreeTime ∧ time < 2 ^ 128 - 1) := by
  have registered : ∀ entry : Sigma fun _ : String => Worker,
      entry ∈ env.shuffle state.workers.entries ↔ state.workers.lookup entry.1 = some entry.2 :=
    fun _ => env.mem_shuffle.trans Table.mem_entries_iff
  obtain ⟨-, others, result⟩ := bestWorkerOf_cases workerType taskWeight
    (env.shuffle state.workers.entries) (none, 2 ^ 128 - 1)
  refine ⟨_, fun otherId other found => others ⟨otherId, other⟩ ((registered _).mpr found), ?_⟩
  rcases result with same | ⟨entry, member, eligible, sooner, same⟩
  · exact .inl ⟨congrArg Prod.fst same, congrArg Prod.snd same⟩
  · exact .inr ⟨entry.1, entry.2, congrArg Prod.fst same, (registered _).mp member, eligible,
      congrArg Prod.snd same, same ▸ sooner⟩

theorem bestWorker_spec {P : Type} {env : Env} {workerType : WorkerType} {taskWeight : ℕ}
    {state : CoordinatorState P} {workerId : String} {worker : Worker}
    (chosen : bestWorker env workerType taskWeight state = some (workerId, worker)) :
    state.workers.lookup workerId = some worker ∧
      ∃ bestWorkerTime, worker.preferred workerType taskWeight bestWorkerTime = true := by
  obtain ⟨time, _, unchosen | ⟨_, _, found, registered, eligible, rfl, sooner⟩⟩ :=
    bestWorker_cases env workerType taskWeight state
  · cases unchosen.1.symm.trans chosen
  · cases found.symm.trans chosen
    exact ⟨registered, _, Worker.preferred_iff.mpr ⟨eligible, sooner⟩⟩

/-! ## One turn of the shared loop -/

/-- What a turn comes to: the loop is left with a result, or it goes on. -/
inductive TurnEnd (P : Type) where
  | leaves (result : CoordinatorState P × Except Status Unit)
  | goesOn (next : CoordinatorState P)

section Turn

variable {P : Type}

/-- The body of a `while` loop of `assign_tasks`. -/
def loopBody (build : Build) (env : Env) (settle : WorkerType → Task → P → P) (lane : Lane P)
    (now : SystemTime) (state : CoordinatorState P) : TurnEnd P :=
  match lane.front state.policy with
  | none => .leaves (state, .ok ())
  | some queued =>
    match state.getTask queued.proofId queued.id with
    | none => .goesOn (state.modifyPolicy (lane.discard queued))
    | some task =>
      if task.status.isFinal then .goesOn (state.modifyPolicy (lane.discard queued))
      else
        match assignTask build env settle task now state with
        | (state, .error status) => .leaves (state, .error status)
        | (state, .ok none) => .leaves (state, .ok ())
        | (state, .ok (some _)) => .goesOn state

theorem assignLoop_succ (build : Build) (env : Env) (settle : WorkerType → Task → P → P)
    (lane : Lane P) (site : ℕ → ClockRead) (following : ℕ) (state : CoordinatorState P) :
    assignLoop build env settle lane site (following + 1) state =
      match loopBody build env settle lane (env.clock (site following)) state with
      | .leaves result => result
      | .goesOn next => assignLoop build env settle lane site following next := by
  simp only [assignLoop, loopBody]
  cases lane.front state.policy with
  | none => rfl
  | some queued =>
    dsimp only
    cases state.getTask queued.proofId queued.id with
    | none => rfl
    | some task =>
      dsimp only
      split
      · rfl
      · rcases assignTask build env settle task (env.clock (site following)) state with
          ⟨after, status | _ | workerId⟩ <;> rfl

variable (build : Build) (env : Env) (settle : WorkerType → Task → P → P) (lane : Lane P)
  (now : SystemTime) (state : CoordinatorState P)

/-- All that a turn can come to: the queue is empty, the clock is before the epoch, the
task at the front finds no worker, a stale entry is discarded, or the task at the front
is started on the worker that the search has chosen. -/
inductive Turned : TurnEnd P → Prop where
  | empty (front : lane.front state.policy = none) : Turned (.leaves (state, .ok ()))
  | early (before : now < 0) : Turned (.leaves (state, .error .clock))
  | waits {queued : QueuedTask} {task : Task} (front : lane.front state.policy = some queued)
      (stored : taskOf state.proofs queued.key = some task) (unfinished : task.unfinished = true)
      (unplaced : build.workerTypeFromTaskType task.data.taskType = .none ∨
        bestWorker env (build.workerTypeFromTaskType task.data.taskType) task.data.weight state =
          none) :
      Turned (.leaves (state, .ok ()))
  | discard {queued : QueuedTask} (front : lane.front state.policy = some queued)
      (stale : ∀ task, taskOf state.proofs queued.key = some task → task.unfinished = false) :
      Turned (.goesOn (state.modifyPolicy (lane.discard queued)))
  | start {queued : QueuedTask} {task : Task} {workerId : String} {worker : Worker}
      (startTime : ℕ) (front : lane.front state.policy = some queued)
      (stored : taskOf state.proofs queued.key = some task) (unfinished : task.unfinished = true)
      (chosen : bestWorker env (build.workerTypeFromTaskType task.data.taskType) task.data.weight
        state = some (workerId, worker)) :
      Turned (.goesOn ((state.startTask workerId worker task startTime).modifyPolicy
        (settle (build.workerTypeFromTaskType task.data.taskType) task)))

theorem turned_loopBody :
    Turned build env settle lane now state (loopBody build env settle lane now state) := by
  unfold loopBody
  split
  · next front => exact .empty front
  · next queued front =>
    split
    · next missing =>
      refine .discard front ?_
      intro task stored
      exact absurd (missing.symm.trans stored) (by simp)
    · next task stored =>
      have inTable : taskOf state.proofs queued.key = some task := stored
      split
      · next final =>
        refine .discard front ?_
        intro other otherStored
        obtain rfl : task = other := Option.some.inj (inTable.symm.trans otherStored)
        simp [Task.unfinished, final]
      · next active =>
        have unfinished : task.unfinished = true := by simp [Task.unfinished, active]
        unfold assignTask
        dsimp only
        by_cases untyped : build.workerTypeFromTaskType task.data.taskType = .none
        · rw [if_pos untyped]
          exact .waits front inTable unfinished (.inl untyped)
        · rw [if_neg untyped]
          cases chosen : bestWorker env (build.workerTypeFromTaskType task.data.taskType)
              task.data.weight state with
          | none => exact .waits front inTable unfinished (.inr chosen)
          | some found =>
            cases elapsed : now.sinceEpoch with
            | none =>
              refine .early ?_
              by_contra late
              simp [SystemTime.sinceEpoch, not_lt.mp late] at elapsed
            | some since => exact .start _ front inTable unfinished chosen

end Turn

/-! ## Turns keep the keys coherent -/

namespace Board

variable {build : Build} {charges : Bool} {board board' : Board}

/-- A board whose tasks and workers keep their identity, and whose queues have
no new entries, is as coherent as the one before. -/
theorem Coherent.of_kept (coherent : board.Coherent build)
    (tasks : ∀ key task', board'.task key = some task' →
      ∃ task, board.task key = some task ∧ task'.id = task.id ∧ task'.data = task.data)
    (workers : ∀ workerId worker', board'.workers.lookup workerId = some worker' →
      ∃ worker, board.workers.lookup workerId = some worker ∧ worker'.id = worker.id)
    (queues : ∀ workerType queued, queued ∈ board'.backlog.queue workerType →
      queued ∈ board.backlog.queue workerType) :
    board'.Coherent build where
  task_id := by
    intro key task' stored'
    obtain ⟨task, stored, sameId, -⟩ := tasks key task' stored'
    exact sameId.trans (coherent.task_id stored)
  task_proofId := by
    intro key task' stored'
    obtain ⟨task, stored, -, sameData⟩ := tasks key task' stored'
    rw [sameData]
    exact coherent.task_proofId stored
  worker_id := by
    intro workerId worker' registered'
    obtain ⟨worker, registered, sameId⟩ := workers workerId worker' registered'
    exact sameId.trans (coherent.worker_id registered)
  queue_type := by
    intro workerType queued waiting
    exact coherent.queue_type (queues workerType queued waiting)
  entry_type := by
    intro workerType queued task' waiting stored'
    obtain ⟨task, stored, -, sameData⟩ := tasks queued.key task' stored'
    rw [sameData]
    exact coherent.entry_type (queues workerType queued waiting) stored

theorem Coherent.assignStep (coherent : board.Coherent build)
    (turn : AssignStep build charges board board') : board'.Coherent build := by
  cases turn with
  | discard waiting stale =>
    refine coherent.of_kept ?_ ?_ ?_
    · intro key task stored
      exact ⟨task, stored, rfl, rfl⟩
    · intro workerId worker registered
      exact ⟨worker, registered, rfl⟩
    · intro workerType queued member
      exact Backlog.mem_queue_remove member
  | @assign queued proof task workerId worker bestWorkerTime startTime running waiting found stored
      unfinished registered fits =>
      refine coherent.of_kept ?_ ?_ ?_
      · intro key task' stored'
        change (board.setTask queued.proofId proof task.id (Task.start worker task)).task key =
          some task' at stored'
        rw [task_setTask found] at stored'
        split at stored'
        · next same =>
          cases stored'
          have here : board.task queued.key = some task := (taskOf.of_lookup found).trans stored
          have sameId : task.id = queued.id := coherent.task_id here
          refine ⟨task, ?_, rfl, rfl⟩
          rw [same, sameId]
          exact here
        · exact ⟨task', stored', rfl, rfl⟩
      · intro otherId worker' registered'
        change (board.workers.insert workerId (Worker.take task startTime worker)).lookup otherId =
          some worker' at registered'
        rcases Table.lookup_insert_cases registered' with ⟨same, rfl⟩ | ⟨_, registered'⟩
        · exact ⟨worker, same ▸ registered, rfl⟩
        · exact ⟨worker', registered', rfl⟩
      · intro workerType entry member
        have before := Backlog.mem_queue_remove member
        rw [Backlog.queue_charge] at before
        exact before

theorem shuttingDown_of_turns (turns : ReflTransGen (AssignStep build charges) board board') :
    board'.shuttingDown = board.shuttingDown := by
  induction turns with
  | refl => rfl
  | tail _ turn ih =>
    rw [← ih]
    cases turn <;> rfl

theorem Coherent.assignSteps (coherent : board.Coherent build)
    (turns : ReflTransGen (AssignStep build charges) board board') : board'.Coherent build := by
  induction turns with
  | refl => exact coherent
  | tail _ turn ih => exact ih.assignStep turn

end Board

/-! ## The shared loop -/

section Loop

variable {P : Type} [AssignmentPolicy P] {build : Build} {env : Env}
  {settle : WorkerType → Task → P → P} {lane : Lane P} {workerType : WorkerType}
  {Filed : P → Prop} {state : CoordinatorState P} {queued : QueuedTask} {worker : Worker}
  {task : Task}

/-- A lane that reads one queue of the backlog: its front entry waits there,
discarding removes that entry, and settling an assignment charges the task and
removes the entry. -/
structure Lane.Serves (lane : Lane P) (settle : WorkerType → Task → P → P)
    (workerType : WorkerType) (Filed : P → Prop) : Prop where
  waiting : ∀ {policy : P} {queued : QueuedTask}, Filed policy →
    lane.front policy = some queued → queued ∈ (backlogOf policy).queue workerType
  filed_discard : ∀ {policy : P} {queued : QueuedTask}, Filed policy →
    lane.front policy = some queued → Filed (lane.discard queued policy)
  discard : ∀ {policy : P} {queued : QueuedTask}, Filed policy →
    lane.front policy = some queued →
      backlogOf (lane.discard queued policy) = (backlogOf policy).remove workerType queued
  filed_settle : ∀ {policy : P} {queued : QueuedTask} {task : Task}, Filed policy →
    lane.front policy = some queued → task.data.proofId = queued.proofId →
      Filed (settle workerType task policy)
  settle : ∀ {policy : P} {queued : QueuedTask} {task : Task}, Filed policy →
    lane.front policy = some queued → task.data.proofId = queued.proofId →
      backlogOf (settle workerType task policy) =
        ((backlogOf policy).charge (AssignmentPolicy.chargesGpuWeight P) workerType
          queued.proofId task.data.weight).remove workerType queued

theorem assigns_discard (serves : lane.Serves settle workerType Filed) (filed : Filed state.policy)
    (front : lane.front state.policy = some queued)
    (stale : ∀ task, taskOf state.proofs queued.key = some task → task.unfinished = false) :
    Assigns build Filed state (state.modifyPolicy (lane.discard queued)) where
  turns transit issued := by
    have same : (state.modifyPolicy (lane.discard queued)).board transit issued =
        (state.board transit issued).withBacklog (Backlog.remove workerType queued) := by
      simp only [CoordinatorState.board, modifyPolicy, Board.withBacklog,
        serves.discard filed front]
    rw [same]
    exact .single (.discard (serves.waiting filed front) stale)
  filed := serves.filed_discard filed front

theorem type_of_front (serves : lane.Serves settle workerType Filed) (filed : Filed state.policy)
    (coherent : (state.board ∅ ∅).Coherent build) (front : lane.front state.policy = some queued)
    (stored : taskOf state.proofs queued.key = some task) :
    build.workerTypeFromTaskType task.data.taskType = workerType := by
  have waiting := serves.waiting filed front
  rw [coherent.entry_type waiting stored]
  exact coherent.queue_type waiting

theorem assigns_start (serves : lane.Serves settle workerType Filed) (filed : Filed state.policy)
    (coherent : (state.board ∅ ∅).Coherent build) (running : state.shuttingDown = false)
    (front : lane.front state.policy = some queued)
    (stored : taskOf state.proofs queued.key = some task) (unfinished : task.unfinished = true)
    {workerId : String} (startTime : ℕ)
    (chosen : bestWorker env (build.workerTypeFromTaskType task.data.taskType) task.data.weight
      state = some (workerId, worker)) :
    Assigns build Filed state ((state.startTask workerId worker task startTime).modifyPolicy
      (settle (build.workerTypeFromTaskType task.data.taskType) task)) := by
  obtain ⟨proof, (found : state.proofs.lookup queued.proofId = some proof),
    (inProof : proof.tasks.lookup queued.id = some task)⟩ := taskOf.exists_of_eq_some stored
  obtain ⟨registered, bestWorkerTime, fits⟩ := bestWorker_spec chosen
  have waiting := serves.waiting filed front
  have sameId : task.id = queued.id := coherent.task_id stored
  have sameProof : task.data.proofId = queued.proofId := coherent.task_proofId stored
  have laneType := type_of_front serves filed coherent front stored
  subst laneType
  refine ⟨?_, serves.filed_settle filed front sameProof⟩
  intro transit issued
  have same : ((state.startTask workerId worker task startTime).modifyPolicy
        (settle (build.workerTypeFromTaskType task.data.taskType) task)).board transit issued =
      ((state.board transit issued).start workerId worker queued.proofId proof task
        startTime).withBacklog fun backlog =>
          (backlog.charge (AssignmentPolicy.chargesGpuWeight P)
            (build.workerTypeFromTaskType task.data.taskType) queued.proofId
            task.data.weight).remove
              (build.workerTypeFromTaskType task.data.taskType) queued := by
    simp only [CoordinatorState.board, modifyPolicy, startTask, sendTask, emit, modifyTask,
      modifyWorker, Board.withBacklog, Board.start, Board.setTask, Board.setProof,
      Board.setWorker, Table.modify_of_lookup registered, sameProof, sameId,
      Table.modify_of_lookup found, Table.modify_of_lookup inProof,
      serves.settle filed front sameProof]
  rw [same]
  exact .single (.assign running waiting found inProof unfinished registered fits)

/-- What discarding the front entry and starting the task of the front entry keep
is kept by the loop over a queue. -/
theorem assignLoop_preserves (invariant : CoordinatorState P → Prop) (env : Env)
    (serves : lane.Serves settle workerType Filed)
    (discards : ∀ {state : CoordinatorState P} {queued : QueuedTask}, Filed state.policy →
      lane.front state.policy = some queued →
      Assigns build Filed state (state.modifyPolicy (lane.discard queued)) → invariant state →
      invariant (state.modifyPolicy (lane.discard queued)))
    (starts : ∀ {state : CoordinatorState P} {queued : QueuedTask} {task : Task}
      (workerId : String) (worker : Worker) (startTime : ℕ), Filed state.policy →
      lane.front state.policy = some queued → taskOf state.proofs queued.key = some task →
      task.id = queued.id → task.data.proofId = queued.proofId →
      build.workerTypeFromTaskType task.data.taskType = workerType →
      Assigns build Filed state ((state.startTask workerId worker task startTime).modifyPolicy
      (settle workerType task)) → invariant state →
      invariant ((state.startTask workerId worker task startTime).modifyPolicy
      (settle workerType task))) (site : ℕ → ClockRead) (turns : ℕ) (filed : Filed state.policy)
    (coherent : (state.board ∅ ∅).Coherent build) (running : state.shuttingDown = false)
    (holds : invariant state) :
    invariant (assignLoop build env settle lane site turns state).1 := by
  induction turns generalizing state with
  | zero => exact holds
  | succ following ih =>
    -- a turn that goes on is one of `Assigns`, so the next state is filed and coherent again
    have goOn : ∀ {next : CoordinatorState P}, Assigns build Filed state next →
        invariant next →
          invariant (assignLoop build env settle lane site following next).1 := by
      intro next turn kept
      refine ih turn.filed (coherent.assignSteps (turn.turns ∅ ∅)) ?_ kept
      exact (Board.shuttingDown_of_turns (turn.turns ∅ ∅)).trans running
    have turned := turned_loopBody build env settle lane (env.clock (site following)) state
    rw [assignLoop_succ]
    generalize loopBody build env settle lane (env.clock (site following)) state = turn
      at turned ⊢
    cases turned with
    | discard front stale =>
      have turn : Assigns build Filed state _ := assigns_discard serves filed front stale
      exact goOn turn (discards filed front turn holds)
    | start startTime front stored unfinished chosen =>
      have type := type_of_front serves filed coherent front stored
      have turn := assigns_start serves filed coherent running front stored unfinished
        startTime chosen
      rw [type] at turn ⊢
      exact goOn turn (starts _ _ startTime filed front stored (coherent.task_id stored)
        (coherent.task_proofId stored) type turn holds)
    | _ => exact holds

/-- **The shared loop keeps the contract**, for any lane that reads a queue of
the backlog. -/
theorem assignLoop_assigns (env : Env) (serves : lane.Serves settle workerType Filed)
    (site : ℕ → ClockRead) (turns : ℕ) (filed : Filed state.policy)
    (coherent : (state.board ∅ ∅).Coherent build) (running : state.shuttingDown = false) :
    Assigns build Filed state (assignLoop build env settle lane site turns state).1 := by
  refine assignLoop_preserves (Assigns build Filed state) env serves ?_ ?_ site turns filed coherent
    running (.refl build filed)
  · intro next queued _ _ turn before
    exact before.trans turn
  · intro next queued task workerId worker startTime _ _ _ _ _ _ turn before
    exact before.trans turn

omit [AssignmentPolicy P] in
theorem assignLoop_ok (site : ℕ → ClockRead) (turns : ℕ) (state : CoordinatorState P)
    (late : ∀ read, 0 ≤ env.clock read) :
    (assignLoop build env settle lane site turns state).2 = .ok () := by
  induction turns generalizing state with
  | zero => rfl
  | succ following ih =>
    have turned := turned_loopBody build env settle lane (env.clock (site following)) state
    rw [assignLoop_succ]
    generalize loopBody build env settle lane (env.clock (site following)) state = turn
      at turned ⊢
    cases turned with
    | early before => exact absurd (late (site following)) (not_le.mpr before)
    | discard front stale => exact ih _
    | start startTime front stored unfinished chosen => exact ih _
    | _ => rfl

omit [AssignmentPolicy P] in
theorem assignLoop_sends (site : ℕ → ClockRead) (turns : ℕ) (state : CoordinatorState P) :
    SendsToWorkers state (assignLoop build env settle lane site turns state).1 := by
  induction turns generalizing state with
  | zero => exact .refl state
  | succ following ih =>
    have turned := turned_loopBody build env settle lane (env.clock (site following)) state
    rw [assignLoop_succ]
    generalize loopBody build env settle lane (env.clock (site following)) state = turn
      at turned ⊢
    cases turned with
    | discard front stale =>
      refine SendsToWorkers.trans ?_ (ih _)
      exact { SendsToWorkers.refl state with }
    | start startTime front stored unfinished chosen =>
      refine SendsToWorkers.trans ?_ (ih _)
      exact { SendsToWorkers.refl state with
        outbox := ⟨[_], rfl, by simp [Effect.isToWorker]⟩ }
    | _ => exact .refl state

/-! Both policies run the two loops unless they have nothing to assign. -/

theorem assignLoops_assigns (idle : Bool) (env : Env) {gpuLane cpuLane : Lane P}
    (servesGpu : gpuLane.Serves settle .gpu Filed) (servesCpu : cpuLane.Serves settle .cpu Filed)
    (gpuTurns cpuTurns : P → ℕ) (filed : Filed state.policy)
    (coherent : (state.board ∅ ∅).Coherent build) :
    Assigns build Filed state (if state.shuttingDown || idle then (state, .ok ())
      else assignLoops build env settle gpuLane cpuLane gpuTurns cpuTurns state).1 := by
  split
  · exact .refl build filed
  · next busy =>
    rw [Bool.or_eq_true, not_or, Bool.not_eq_true] at busy
    have first := assignLoop_assigns env servesGpu .gpuTurn (gpuTurns state.policy) filed coherent
      busy.1
    unfold assignLoops
    split
    · next state' status result =>
      rw [result] at first
      exact first
    · next state' result =>
      rw [result] at first
      refine first.trans (assignLoop_assigns env servesCpu .cpuTurn _ first.filed ?_ ?_)
      · exact coherent.assignSteps (first.turns ∅ ∅)
      · exact (Board.shuttingDown_of_turns (first.turns ∅ ∅)).trans busy.1

omit [AssignmentPolicy P] in
theorem assignLoops_sends (idle : Bool) (gpuLane cpuLane : Lane P) (gpuTurns cpuTurns : P → ℕ)
    (state : CoordinatorState P) :
    SendsToWorkers state (if state.shuttingDown || idle then (state, .ok ())
      else assignLoops build env settle gpuLane cpuLane gpuTurns cpuTurns state).1 := by
  have first : SendsToWorkers state (assignLoop build env settle gpuLane .gpuTurn
    (gpuTurns state.policy) state).1 := assignLoop_sends .gpuTurn _ state
  unfold assignLoops
  split
  · exact .refl state
  · split
    · next state' status result =>
      rw [result] at first
      exact first
    · next state' result =>
      rw [result] at first
      exact first.trans (assignLoop_sends .cpuTurn _ state')

omit [AssignmentPolicy P] in
theorem assignLoops_ok (idle : Bool) (gpuLane cpuLane : Lane P) (gpuTurns cpuTurns : P → ℕ)
    (state : CoordinatorState P) (late : ∀ read, 0 ≤ env.clock read) :
    (if state.shuttingDown || idle then (state, .ok ())
      else assignLoops build env settle gpuLane cpuLane gpuTurns cpuTurns state).2 = .ok () := by
  have first : (assignLoop build env settle gpuLane .gpuTurn (gpuTurns state.policy) state).2 =
      .ok () := assignLoop_ok .gpuTurn _ state late
  unfold assignLoops
  split
  · rfl
  · split
    · next state' status result =>
      rw [result] at first
      cases first
    · exact assignLoop_ok .cpuTurn _ _ late

end Loop

/-! ## Turns that go on -/

section Turning

variable {P : Type} [AssignmentPolicy P] {build : Build} {env : Env}
  {settle : WorkerType → Task → P → P} {lane : Lane P} {workerType : WorkerType}
  {Filed : P → Prop} {state next : CoordinatorState P}

/-- Exactly one entry leaves one queue, and the other queue stays as it is. -/
def RemovesOne (workerType : WorkerType) (state next : CoordinatorState P) :
    Prop :=
  ∃ queued ∈ (backlogOf state.policy).queue workerType,
    (backlogOf next.policy).queue workerType =
        ((backlogOf state.policy).queue workerType).erase queued ∧
      ∀ other ≠ workerType,
        (backlogOf next.policy).queue other = (backlogOf state.policy).queue other

/-- What a loop needs of a state. -/
structure Loopable (build : Build) (Filed : P → Prop) (state : CoordinatorState P) : Prop where
  filed : Filed state.policy
  coherent : (state.board ∅ ∅).Coherent build
  running : state.shuttingDown = false

theorem Loopable.assigns (ready : Loopable build Filed state)
    (turn : Assigns build Filed state next) : Loopable build Filed next where
  filed := turn.filed
  coherent := ready.coherent.assignSteps (turn.turns ∅ ∅)
  running := (Board.shuttingDown_of_turns (turn.turns ∅ ∅)).trans ready.running

omit [AssignmentPolicy P] in
theorem queue_remove {backlog : Backlog} {queued : QueuedTask}
    (member : queued ∈ backlog.queue workerType) :
    (backlog.remove workerType queued).queue workerType =
        (backlog.queue workerType).erase queued ∧
      ∀ other ≠ workerType,
        (backlog.remove workerType queued).queue other = backlog.queue other := by
  rcases Backlog.queues_of_mem member with rfl | rfl
  · refine ⟨rfl, ?_⟩
    intro other different
    cases other <;> first | rfl | exact absurd rfl different
  · refine ⟨rfl, ?_⟩
    intro other different
    cases other <;> first | rfl | exact absurd rfl different

theorem removesOne_start (serves : lane.Serves settle workerType Filed)
    (filed : Filed state.policy) {queued : QueuedTask} {task : Task}
    (front : lane.front state.policy = some queued) (sameProof : task.data.proofId = queued.proofId)
    (workerId : String) (worker : Worker) (startTime : ℕ) :
    RemovesOne workerType state
      ((state.startTask workerId worker task startTime).modifyPolicy (settle workerType task)) := by
  have waiting := serves.waiting filed front
  refine ⟨queued, waiting, ?_⟩
  change (backlogOf (settle workerType task state.policy)).queue workerType = _ ∧
    ∀ other ≠ workerType, (backlogOf (settle workerType task state.policy)).queue other = _
  rw [serves.settle filed front sameProof]
  have charged : queued ∈ ((backlogOf state.policy).charge
      (AssignmentPolicy.chargesGpuWeight P) workerType queued.proofId task.data.weight).queue
        workerType := by
    rw [Backlog.queue_charge]
    exact waiting
  simpa only [Backlog.queue_charge] using queue_remove charged

theorem RemovesOne.card (removes : RemovesOne workerType state next) :
    ((backlogOf next.policy).queue workerType).card + 1 =
      ((backlogOf state.policy).queue workerType).card := by
  obtain ⟨queued, waiting, shorter, -⟩ := removes
  rw [shorter]
  exact Multiset.card_erase_add_one waiting

/-- **A turn that goes on removes one entry**, and it is one of the contract's turns. -/
theorem Loopable.turned (ready : Loopable build Filed state)
    (serves : lane.Serves settle workerType Filed) {now : SystemTime}
    (turned : Turned build env settle lane now state (.goesOn next)) :
    RemovesOne workerType state next ∧ Loopable build Filed next := by
  cases turned with
  | discard front stale =>
    have waiting := serves.waiting ready.filed front
    refine ⟨⟨_, waiting, ?_⟩, ready.assigns (assigns_discard serves ready.filed front stale)⟩
    change (backlogOf (lane.discard _ state.policy)).queue workerType = _ ∧
      ∀ other ≠ workerType, (backlogOf (lane.discard _ state.policy)).queue other = _
    rw [serves.discard ready.filed front]
    exact queue_remove waiting
  | start startTime front stored unfinished chosen =>
    have assigned := assigns_start serves ready.filed ready.coherent ready.running front stored
      unfinished startTime chosen
    rw [type_of_front serves ready.filed ready.coherent front stored] at assigned ⊢
    exact ⟨removesOne_start serves ready.filed front (ready.coherent.task_proofId stored) _ _
      startTime, ready.assigns assigned⟩

end Turning

end Sp1Cluster
