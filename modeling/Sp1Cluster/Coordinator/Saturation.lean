import Sp1Cluster.Coordinator.Loads
import Sp1Cluster.Coordinator.Notices

/-!
# Freed capacity is used at once

An assignment goes on until neither queue has an unfinished task at its front
that some worker has room for. So a state in which a call has just assigned is
saturated, and a call that does not assign has to leave the fronts of the
queues, their tasks and the room of the workers as they were. Failing a proof
and completing a task that still waits in a queue do not assign, and they need
not leave these as they were.
-/

set_option autoImplicit false

namespace Sp1Cluster

open Relation Board

/-! ## What could be assigned -/

/-- The first unfinished task of a queue, once the entries of finished or
removed tasks are skipped. -/
def Lane.nextTask {P : Type} (lane : Lane P) (state : CoordinatorState P) : ℕ → P → Option Task
  | 0, _ => none
  | following + 1, policy =>
    match lane.front policy with
    | none => none
    | some queued =>
      match state.getTask queued.proofId queued.id with
      | none => lane.nextTask state following (lane.discard queued policy)
      | some task =>
        if task.status.isFinal then lane.nextTask state following (lane.discard queued policy)
        else some task

namespace CoordinatorState

section Saturated

variable {P : Type}

/-- The sum of the weights of the tasks a worker holds. -/
def load (state : CoordinatorState P) (worker : Worker) : ℕ :=
  KeySet.sumOver state.taskWeight worker.activeTasks

/-- A worker that could take a task: it is open, of a matching type, and has
room for the task next to those it holds. The search of the code starts at the
largest free time there is, so the worker must be free before that. -/
abbrev HasRoomFor (build : Build) (state : CoordinatorState P) (data : TaskData) (worker : Worker) :
    Prop :=
  worker.closed = false ∧
    (worker.workerType = .all ∨
      worker.workerType = build.workerTypeFromTaskType data.taskType) ∧
    state.load worker + data.weight ≤ worker.maxWeight ∧ worker.nextFreeTime < 2 ^ 128 - 1

/-- No registered worker could take a task. -/
def NoRoomFor (build : Build) (state : CoordinatorState P) (data : TaskData) : Prop :=
  ∀ workerId worker, state.workers.lookup workerId = some worker →
    ¬ state.HasRoomFor build data worker

variable [QueuePolicy P]

/-- The next GPU task, for the order in which the heaps list their entries. -/
def nextGpuTask (env : Env) (state : CoordinatorState P) : Option Task :=
  (QueuePolicy.gpuLane env).nextTask state (AssignmentPolicy.gpuQueued state.policy).length
    state.policy

def nextCpuTask (env : Env) (state : CoordinatorState P) : Option Task :=
  (QueuePolicy.cpuLane env).nextTask state (AssignmentPolicy.cpuQueued state.policy).length
    state.policy

structure Saturated (build : Build) (env : Env) (state : CoordinatorState P) : Prop where
  gpu : ∀ task, state.nextGpuTask env = some task → state.NoRoomFor build task.data
  cpu : ∀ task, state.nextCpuTask env = some task → state.NoRoomFor build task.data

/-- Whether some worker could take the next GPU task. -/
def hasGpuRoom (build : Build) (env : Env) (state : CoordinatorState P) : Bool :=
  (state.nextGpuTask env).any fun task =>
    state.workers.entries.any fun entry => state.HasRoomFor build task.data entry.2

theorem not_saturated_of_hasGpuRoom {build : Build} {env : Env} {state : CoordinatorState P}
    (room : state.hasGpuRoom build env = true) : ¬ state.Saturated build env := by
  intro saturated
  unfold hasGpuRoom at room
  cases next : state.nextGpuTask env with
  | none => simp [next] at room
  | some task =>
    rw [next, Option.any_some, List.any_eq_true] at room
    obtain ⟨⟨workerId, worker⟩, member, free⟩ := room
    exact saturated.gpu task next workerId worker (Table.mem_entries_iff.mp member)
      (of_decide_eq_true free)

end Saturated

/-! ## Blocked queues -/

section Blocked

variable {P : Type} {build : Build} {lane : Lane P} {state state' : CoordinatorState P}

/-- A queue is empty, or an unfinished task that no worker has room for is at
its front. -/
def Blocked (build : Build) (lane : Lane P) (state : CoordinatorState P) : Prop :=
  ∀ queued, lane.front state.policy = some queued →
    ∃ task, state.getTask queued.proofId queued.id = some task ∧ task.unfinished = true ∧
      state.NoRoomFor build task.data

theorem Blocked.noRoomFor (blocked : state.Blocked build lane) (turns : ℕ) {task : Task}
    (next : lane.nextTask state turns state.policy = some task) :
    state.NoRoomFor build task.data := by
  cases turns with
  | zero => cases next
  | succ following =>
    unfold Lane.nextTask at next
    cases front : lane.front state.policy with
    | none => simp [front] at next
    | some queued =>
      obtain ⟨waiting, stored, unfinished, noRoom⟩ := blocked queued front
      have active : waiting.status.isFinal = false := by simpa [Task.unfinished] using unfinished
      simp only [front, stored, active, Bool.false_eq_true, if_false, Option.some.injEq] at next
      rw [← next]
      exact noRoom

/-- A queue stays blocked while its front and the task there stay and no worker
has room that it did not have. -/
theorem Blocked.of_kept (blocked : state.Blocked build lane)
    (front : lane.front state'.policy = lane.front state.policy)
    (tasks : ∀ queued task, lane.front state.policy = some queued →
      state.getTask queued.proofId queued.id = some task → task.unfinished = true →
        ∃ task', state'.getTask queued.proofId queued.id = some task' ∧ task'.unfinished = true ∧
          task'.data = task.data)
    (workers : ∀ workerId worker', state'.workers.lookup workerId = some worker' →
      ∃ worker, state.workers.lookup workerId = some worker ∧
        ∀ data, state'.HasRoomFor build data worker' → state.HasRoomFor build data worker) :
    state'.Blocked build lane := by
  intro queued front'
  rw [front] at front'
  obtain ⟨task, stored, unfinished, noRoom⟩ := blocked queued front'
  obtain ⟨task', stored', unfinished', sameData⟩ := tasks queued task front' stored unfinished
  refine ⟨task', stored', unfinished', ?_⟩
  intro workerId worker' registered' room
  obtain ⟨worker, registered, before⟩ := workers workerId worker' registered'
  rw [sameData] at room
  exact noRoom workerId worker registered (before task.data room)

theorem HasRoomFor.of_le {data : TaskData} {worker worker' : Worker}
    (room : state'.HasRoomFor build data worker') (opened : worker'.closed = false → worker.closed = false)
    (type : worker'.workerType = worker.workerType) (capacity : worker'.maxWeight = worker.maxWeight)
    (load : state.load worker ≤ state'.load worker')
    (time : worker'.nextFreeTime < 2 ^ 128 - 1 → worker.nextFreeTime < 2 ^ 128 - 1) :
    state.HasRoomFor build data worker := by
  obtain ⟨closed, matching, room, free⟩ := room
  refine ⟨opened closed, type ▸ matching, ?_, time free⟩
  rw [← capacity]
  omega

end Blocked

/-! ## The end of an assignment -/

section Assigning

variable {P : Type} [QueuePolicy P] {build : Build} {transit : Set TaskKey} {issued : Set String}
  {state : CoordinatorState P}

structure Ready (build : Build) (transit : Set TaskKey) (issued : Set String)
    (state : CoordinatorState P) : Prop where
  filed : LawfulPolicy.Filed state.policy
  sound : (state.board transit issued).Sound build
  light : (state.board transit issued).Light
  running : state.shuttingDown = false

theorem Ready.coherent (ready : state.Ready build transit issued) :
    (state.board ∅ ∅).Coherent build :=
  ⟨ready.sound.task_id, ready.sound.task_proofId, ready.sound.worker_id, ready.sound.queue_type,
    ready.sound.entry_type⟩

theorem Ready.assigns {state' : CoordinatorState P} (ready : state.Ready build transit issued)
    (assigns : Assigns build LawfulPolicy.Filed state state') :
    state'.Ready build transit issued where
  filed := assigns.filed
  sound := ready.sound.assignSteps (assigns.turns transit issued)
  light := ready.light.assignSteps ready.sound (assigns.turns transit issued)
  running := (shuttingDown_of_turns (assigns.turns transit issued)).trans ready.running

variable {env : Env} {settle : WorkerType → Task → P → P} {lane : Lane P}
  {workerType : WorkerType}

/-- A state in which the loop over a queue has ended. -/
structure LoopEnded (build : Build) (transit : Set TaskKey) (issued : Set String) (lane : Lane P)
    (Q : CoordinatorState P → Prop) (state : CoordinatorState P) : Prop where
  ready : state.Ready build transit issued
  blocked : state.Blocked build lane
  kept : Q state

/-- **The loop over one queue leaves it blocked.** It has enough turns for the
entries of the queue. What the turns keep is kept by the loop. -/
theorem Ready.assignLoop {Q : CoordinatorState P → Prop}
    (serves : lane.Serves settle workerType LawfulPolicy.Filed) (site : ℕ → ClockRead)
    (clock : ∀ read, 0 ≤ env.clock read)
    (discard : ∀ {state : CoordinatorState P} {queued : QueuedTask}, Q state →
      Q (state.modifyPolicy (lane.discard queued)))
    (assign : ∀ {state : CoordinatorState P} {task : Task} {workerId : String} {worker : Worker}
      (startTime : ℕ), state.getTask task.data.proofId task.id = some task →
      state.workers.lookup workerId = some worker → worker.nextFreeTime < 2 ^ 128 - 1 → Q state →
        Q ((state.startTask workerId worker task startTime).modifyPolicy (settle workerType task)))
    (turns : ℕ) (ready : state.Ready build transit issued)
    (enough : ((backlogOf state.policy).queue workerType).card ≤ turns) (holds : Q state) :
    LoopEnded build transit issued lane Q
      (Sp1Cluster.assignLoop build env settle lane site turns state).1 := by
  induction turns generalizing state with
  | zero =>
    refine ⟨ready, ?_, holds⟩
    intro queued front
    have waiting := serves.waiting ready.filed front
    rw [Multiset.card_eq_zero.mp (Nat.le_zero.mp enough)] at waiting
    cases waiting
  | succ following ih =>
    have turned := turned_loopBody build env settle lane (env.clock (site following)) state
    have loopable : Loopable build LawfulPolicy.Filed state :=
      ⟨ready.filed, ready.coherent, ready.running⟩
    -- a turn that goes on leaves a shorter queue
    have shorter : ∀ {next : CoordinatorState P},
        Turned build env settle lane (env.clock (site following)) state (.goesOn next) →
          ((backlogOf next.policy).queue workerType).card ≤ following := by
      intro next turned
      have less := (loopable.turned serves turned).1.card
      omega
    rw [assignLoop_succ]
    generalize loopBody build env settle lane (env.clock (site following)) state = turn
      at turned ⊢
    cases turned with
    | empty front =>
      refine ⟨ready, ?_, holds⟩
      intro queued found
      rw [front] at found
      cases found
    | early before => exact absurd (clock (site following)) (not_le.mpr before)
    | @waits queued task front stored unfinished unplaced =>
      have type := type_of_front serves ready.filed ready.coherent front stored
      have typed : build.workerTypeFromTaskType task.data.taskType ≠ .none := by
        rcases Backlog.queues_of_mem (serves.waiting ready.filed front) with cpu | gpu
        · rw [type, cpu]
          decide
        · rw [type, gpu]
          decide
      refine ⟨ready, ?_, holds⟩
      intro other otherFront
      obtain rfl : queued = other := Option.some.inj (front.symm.trans otherFront)
      refine ⟨task, stored, unfinished, ?_⟩
      rintro workerId worker registered ⟨opened, matching, room, allowed⟩
      change state.load worker + task.data.weight ≤ worker.maxWeight at room
      have light : worker.weight ≤ state.load worker := ready.light workerId worker registered
      have wrapped : wrappingAdd32 worker.weight task.data.weight ≤
        worker.weight + task.data.weight := Nat.mod_le _ _
      exact not_eligible_of_bestWorker_none (unplaced.resolve_left typed) registered allowed
        ⟨opened, matching, by omega⟩
    | discard front stale =>
      exact ih (ready.assigns (assigns_discard serves ready.filed front stale))
        (shorter (.discard front stale)) (discard holds)
    | @start queued task workerId worker startTime front stored unfinished chosen =>
      have turn := assigns_start serves ready.filed ready.coherent ready.running front stored
        unfinished startTime chosen
      have less := shorter (.start startTime front stored unfinished chosen)
      rw [type_of_front serves ready.filed ready.coherent front stored] at turn less ⊢
      refine ih (ready.assigns turn) less ?_
      refine assign startTime ?_ (bestWorker_spec chosen).1
        (nextFreeTime_bestWorker_lt chosen) holds
      rw [ready.sound.task_proofId (stored : (state.board transit issued).task _ = _),
        ready.sound.task_id (stored : (state.board transit issued).task _ = _)]
      exact stored

omit [QueuePolicy P] in
/-- Starting a task of one queue leaves the other queue blocked. -/
theorem Blocked.startTask {task : Task} {workerId : String} {worker : Worker} (startTime : ℕ)
    {change : P → P} (stored : state.getTask task.data.proofId task.id = some task)
    (registered : state.workers.lookup workerId = some worker)
    (inRange : worker.nextFreeTime < 2 ^ 128 - 1)
    (front : lane.front (change state.policy) = lane.front state.policy)
    (blocked : state.Blocked build lane) :
    ((state.startTask workerId worker task startTime).modifyPolicy change).Blocked build lane := by
  have inTable : taskOf state.proofs (task.data.proofId, task.id) = some task := stored
  obtain ⟨proof, found, inProof⟩ := taskOf.exists_of_eq_some inTable
  have tasks : ∀ key, taskOf ((state.startTask workerId worker task startTime).modifyPolicy
      change).proofs key = if key = (task.data.proofId, task.id) then some (Task.start worker task)
        else taskOf state.proofs key := by
    intro key
    have foundStill : (state.modifyWorker workerId (Worker.take task startTime)).proofs.lookup
        task.data.proofId = some proof := found
    exact taskOf_modifyTask foundStill inProof (Task.start worker) key
  have weights : ∀ key, ((state.startTask workerId worker task startTime).modifyPolicy
      change).taskWeight key = state.taskWeight key := by
    intro key
    change (match taskOf _ key with | none => 0 | some task => task.data.weight) =
      (match taskOf state.proofs key with | none => 0 | some task => task.data.weight)
    rw [tasks]
    by_cases same : key = (task.data.proofId, task.id)
    · rw [if_pos same, same, inTable]
      rfl
    · rw [if_neg same]
  refine blocked.of_kept front ?_ ?_
  · intro queued waiting _ storedWaiting unfinishedWaiting
    have before : taskOf state.proofs queued.key = some waiting := storedWaiting
    have after := tasks queued.key
    by_cases same : queued.key = (task.data.proofId, task.id)
    · rw [if_pos same] at after
      obtain rfl : task = waiting := Option.some.inj (inTable.symm.trans (same ▸ before))
      exact ⟨_, after, rfl, rfl⟩
    · rw [if_neg same] at after
      exact ⟨waiting, after.trans before, unfinishedWaiting, rfl⟩
  · intro otherId worker' registered'
    change (Table.modify workerId (Worker.take task startTime) state.workers).lookup otherId =
      some worker' at registered'
    rw [Table.modify_of_lookup registered] at registered'
    rcases Table.lookup_insert_cases registered' with ⟨same, rfl⟩ | ⟨_, registered'⟩
    · refine ⟨worker, same ▸ registered, fun data room => room.of_le id rfl rfl ?_ ?_⟩
      · unfold load
        rw [KeySet.sumOver_congr fun key _ => weights key]
        exact KeySet.sumOver_le_add _ _ _
      · exact fun _ => inRange
    · refine ⟨worker', registered', fun data room => room.of_le id rfl rfl ?_ id⟩
      unfold load
      rw [KeySet.sumOver_congr fun key _ => weights key]

/-- Both queues are blocked. -/
structure Exhausted (build : Build) (env : Env) (state : CoordinatorState P) : Prop where
  gpu : state.Blocked build (QueuePolicy.gpuLane env)
  cpu : state.Blocked build (QueuePolicy.cpuLane env)

theorem Exhausted.saturated (exhausted : state.Exhausted build env) :
    state.Saturated build env where
  gpu _ next := exhausted.gpu.noRoomFor _ next
  cpu _ next := exhausted.cpu.noRoomFor _ next

/-- **An assignment ends with both queues blocked.** -/
theorem Ready.exhausted (ready : state.Ready build transit issued)
    (clock : ∀ read, 0 ≤ env.clock read) :
    (AssignmentPolicy.assignTasks build env state).1.Exhausted build env := by
  rw [QueuePolicy.assignTasks_eq]
  split
  · next stops =>
    rw [ready.running, Bool.false_or] at stops
    constructor
    · intro queued front
      rw [QueuePolicy.gpu_front_of_idle env stops] at front
      cases front
    · intro queued front
      rw [QueuePolicy.cpu_front_of_idle env stops] at front
      cases front
  · have gpuEnd : LoopEnded build transit issued (QueuePolicy.gpuLane env) (fun _ => True)
        (Sp1Cluster.assignLoop build env (QueuePolicy.settle env) (QueuePolicy.gpuLane env) .gpuTurn
          (AssignmentPolicy.gpuQueued state.policy).length state).1 :=
      ready.assignLoop (QueuePolicy.gpu_serves env) .gpuTurn clock (fun _ => trivial)
        (fun _ _ _ _ _ => trivial) _ (Multiset.coe_card _).le trivial
    have ok : (Sp1Cluster.assignLoop build env (QueuePolicy.settle env) (QueuePolicy.gpuLane env)
        .gpuTurn (AssignmentPolicy.gpuQueued state.policy).length state).2 = .ok () :=
      assignLoop_ok .gpuTurn _ state clock
    unfold assignLoops
    split
    · next failed =>
      rw [failed] at ok
      cases ok
    · next middle result =>
      rw [result] at gpuEnd
      -- the CPU loop does not touch what the GPU lane reads
      have cpuEnd : LoopEnded build transit issued (QueuePolicy.cpuLane env)
          (fun state => state.Blocked build (QueuePolicy.gpuLane env))
          (Sp1Cluster.assignLoop build env (QueuePolicy.settle env) (QueuePolicy.cpuLane env)
            .cpuTurn (AssignmentPolicy.cpuQueued middle.policy).length middle).1 := by
        refine gpuEnd.ready.assignLoop (QueuePolicy.cpu_serves env) .cpuTurn clock ?_ ?_ _
          (Multiset.coe_card _).le gpuEnd.blocked
        · intro current queued blocked
          refine blocked.of_kept (QueuePolicy.gpu_front_cpu_discard env queued _) ?_ ?_
          · intro entry task _ stored unfinished
            exact ⟨task, stored, unfinished, rfl⟩
          · intro workerId worker registered
            exact ⟨worker, registered, fun _ => id⟩
        · intro current task workerId worker startTime stored registered inRange blocked
          exact blocked.startTask startTime stored registered inRange
            (QueuePolicy.gpu_front_cpu_settle env task _)
      exact ⟨cpuEnd.kept, cpuEnd.blocked⟩

end Assigning

end CoordinatorState

end Sp1Cluster
