import Sp1Cluster.Coordinator.Moves

/-!
# Where the tasks are

An unfinished task that some worker can run is in exactly one place: in
transit, waiting in a queue, or held by a worker. A worker holds only stored
tasks whose record names it, and a fatally failed task is nowhere. Every move
and every turn of an assignment keeps this.
-/

set_option autoImplicit false

namespace Sp1Cluster.Board

variable {build : Build} {charges : Bool} {inputs : Inputs} {board board' : Board}
  {workerId : String} {key : TaskKey} {task task' : Task} {queued : QueuedTask} {worker : Worker}
  {workerType : WorkerType} {proof : Proof}

/-- The placement invariant. -/
structure Placed (build : Build) (board : Board) : Prop extends Coherent build board where
  held_task : ∀ {workerId : String} {key : TaskKey}, board.Holds workerId key →
    ∃ task, board.task key = some task ∧ task.worker = some workerId ∧
      task.status ≠ .failedFatal ∧ build.schedulable task.data.taskType
  held_unqueued : ∀ {workerId : String} {key : TaskKey} {task : Task},
    board.Holds workerId key → board.task key = some task → task.unfinished = true →
      board.backlog.count key = 0
  placed : ∀ {key : TaskKey} {task : Task}, board.task key = some task →
    task.unfinished = true → build.schedulable task.data.taskType → key ∉ board.transit →
      (∃ workerId, board.Holds workerId key) ∨ board.backlog.count key = 1
  transit_unheld : ∀ {workerId : String} {key : TaskKey}, key ∈ board.transit →
    ¬ board.Holds workerId key
  transit_unqueued : ∀ {key : TaskKey} {task : Task}, key ∈ board.transit →
    board.task key = some task → task.unfinished = true → board.backlog.count key = 0
  fatal_unqueued : ∀ {key : TaskKey} {task : Task}, board.task key = some task →
    task.status = .failedFatal → board.backlog.count key = 0
  task_issued : ∀ {key : TaskKey} {task : Task}, board.task key = some task →
    key.2 ∈ board.issued
  queue_issued : ∀ {workerType : WorkerType} {queued : QueuedTask},
    queued ∈ board.backlog.queue workerType → queued.id ∈ board.issued
  halted : board.shuttingDown = true → ∀ workerId key, ¬ board.Holds workerId key

/-! ## The place of one task -/

/-- What placement reads of one task. -/
structure Spot where
  task : Option Task
  holders : Set String
  waits : WorkerType → Set QueuedTask
  count : ℕ
  moving : Prop
  issued : Prop
  stopped : Bool

def spot (board : Board) (key : TaskKey) : Spot where
  task := board.task key
  holders := {workerId | board.Holds workerId key}
  waits workerType := {queued ∈ board.backlog.queue workerType | queued.key = key}
  count := board.backlog.count key
  moving := key ∈ board.transit
  issued := key.2 ∈ board.issued
  stopped := board.shuttingDown

/-- What the placement invariant says of one task. -/
structure Spot.Ok (build : Build) (key : TaskKey) (spot : Spot) : Prop where
  own : ∀ task, spot.task = some task →
    task.id = key.2 ∧ task.data.proofId = key.1 ∧ spot.issued
  waits : ∀ workerType, ∀ queued ∈ spot.waits workerType,
    build.workerTypeFromTaskType queued.taskType = workerType ∧ spot.issued ∧
      ∀ task, spot.task = some task → task.data.taskType = queued.taskType
  held : ∀ workerId ∈ spot.holders, spot.stopped = false ∧ ¬ spot.moving ∧
    ∃ task, spot.task = some task ∧ task.worker = some workerId ∧
      task.status ≠ .failedFatal ∧ build.schedulable task.data.taskType
  away : ∀ task, spot.task = some task → task.unfinished = true →
    spot.moving ∨ spot.holders.Nonempty → spot.count = 0
  placed : ∀ task, spot.task = some task → task.unfinished = true →
    build.schedulable task.data.taskType → ¬ spot.moving →
      spot.holders.Nonempty ∨ spot.count = 1
  fatal : ∀ task, spot.task = some task → task.status = .failedFatal → spot.count = 0

theorem Placed.spot_ok (inv : board.Placed build) (key : TaskKey) :
    (board.spot key).Ok build key where
  own task stored := ⟨inv.task_id stored, inv.task_proofId stored, inv.task_issued stored⟩
  waits := by
    rintro workerType queued ⟨waiting, rfl⟩
    exact ⟨inv.queue_type waiting, inv.queue_issued waiting, fun task => inv.entry_type waiting⟩
  held workerId held := by
    refine ⟨?_, fun moving => inv.transit_unheld moving held, inv.held_task held⟩
    exact Bool.eq_false_iff.mpr fun stopped => inv.halted stopped workerId key held
  away task stored unfinished := by
    rintro (moving | ⟨workerId, held⟩)
    · exact inv.transit_unqueued moving stored unfinished
    · exact inv.held_unqueued held stored unfinished
  placed task := inv.placed
  fatal task := inv.fatal_unqueued

/-- **Placement is a property of each task.** -/
theorem placed_of_spots
    (workers : ∀ workerId worker, board.workers.lookup workerId = some worker →
      worker.id = workerId) (spots : ∀ key, (board.spot key).Ok build key) :
    board.Placed build where
  task_id stored := ((spots _).own _ stored).1
  task_proofId stored := ((spots _).own _ stored).2.1
  worker_id registered := workers _ _ registered
  queue_type waiting := ((spots _).waits _ _ ⟨waiting, rfl⟩).1
  entry_type waiting stored := ((spots _).waits _ _ ⟨waiting, rfl⟩).2.2 _ stored
  held_task held := ((spots _).held _ held).2.2
  held_unqueued held stored unfinished := (spots _).away _ stored unfinished (.inr ⟨_, held⟩)
  placed := (spots _).placed _
  transit_unheld moving held := ((spots _).held _ held).2.1 moving
  transit_unqueued moving stored unfinished := (spots _).away _ stored unfinished (.inl moving)
  fatal_unqueued := (spots _).fatal _
  task_issued stored := ((spots _).own _ stored).2.2
  queue_issued {_ queued} waiting := ((spots queued.key).waits _ _ ⟨waiting, rfl⟩).2.1
  halted stopped workerId key held :=
    Bool.false_ne_true (((spots key).held workerId held).1.symm.trans stopped)

theorem Spot.Ok.vacant {spot : Spot} (unstored : spot.task = none)
    (unheld : ∀ workerId, workerId ∉ spot.holders)
    (unqueued : ∀ workerType queued, queued ∉ spot.waits workerType) : spot.Ok build key := by
  have noTask : ∀ task, spot.task ≠ some task := fun task stored => by
    rw [unstored] at stored
    cases stored
  exact ⟨fun task stored => absurd stored (noTask task),
    fun workerType queued waiting => absurd waiting (unqueued workerType queued),
    fun workerId held => absurd held (unheld workerId),
    fun task stored => absurd stored (noTask task),
    fun task stored => absurd stored (noTask task),
    fun task stored => absurd stored (noTask task)⟩

/-- A task that is where it was, waited for by no more entries. -/
structure Spot.Le (spot' spot : Spot) : Prop where
  task : spot'.task = spot.task
  holders : ∀ workerId, workerId ∈ spot'.holders ↔ workerId ∈ spot.holders
  waits : ∀ workerType, spot'.waits workerType ⊆ spot.waits workerType
  count : spot'.count = spot.count
  moving : spot'.moving ↔ spot.moving
  issued : spot.issued → spot'.issued
  stopped : spot'.stopped = spot.stopped

theorem Spot.Ok.of_le {spot spot' : Spot} (ok : spot.Ok build key) (le : spot'.Le spot) :
    spot'.Ok build key := by
  have holders : spot'.holders = spot.holders := Set.ext le.holders
  constructor
  · intro task stored
    obtain ⟨id, proofId, issued⟩ := ok.own task (le.task.symm.trans stored)
    exact ⟨id, proofId, le.issued issued⟩
  · intro workerType queued waiting
    obtain ⟨type, issued, entry⟩ := ok.waits workerType queued (le.waits workerType waiting)
    exact ⟨type, le.issued issued, le.task ▸ entry⟩
  · rw [holders, le.stopped, le.moving, le.task]
    exact ok.held
  · rw [holders, le.moving, le.task, le.count]
    exact ok.away
  · rw [holders, le.moving, le.task, le.count]
    exact ok.placed
  · rw [le.task, le.count]
    exact ok.fatal

theorem Placed.of_changed (inv : board.Placed build) (key : TaskKey)
    (workers : ∀ workerId worker, board'.workers.lookup workerId = some worker →
      worker.id = workerId)
    (others : ∀ other, other ≠ key → (board'.spot other).Le (board.spot other))
    (here : (board'.spot key).Ok build key) : board'.Placed build := by
  refine placed_of_spots workers fun other => ?_
  by_cases same : other = key
  · exact same ▸ here
  · exact (inv.spot_ok other).of_le (others other same)

theorem Placed.empty (build : Build) :
    (Board.mk ∅ ∅ ⟨0, 0, fun _ => none⟩ false ∅ ∅).Placed build := by
  refine placed_of_spots nofun fun key => .vacant rfl ?_ ?_
  · rintro workerId ⟨worker, registered, -⟩
    cases registered
  · rintro workerType queued ⟨waiting, -⟩
    cases workerType <;> simp [Backlog.queue] at waiting

/-! ## Consequences -/

namespace Placed

variable (inv : board.Placed build)
include inv

theorem holder_unique {other : String} (held : board.Holds workerId key)
    (heldByOther : board.Holds other key) : workerId = other := by
  obtain ⟨task, stored, owner, -⟩ := inv.held_task held
  obtain ⟨same, storedToo, otherOwner, -⟩ := inv.held_task heldByOther
  obtain rfl : task = same := Option.some.inj (stored.symm.trans storedToo)
  exact Option.some.inj (owner.symm.trans otherOwner)

theorem schedulable_of_mem (waiting : queued ∈ board.backlog.queue workerType)
    (stored : board.task queued.key = some task) : build.schedulable task.data.taskType := by
  have type : build.workerTypeFromTaskType task.data.taskType = workerType := by
    rw [inv.entry_type waiting stored, inv.queue_type waiting]
  rcases Backlog.queues_of_mem waiting with rfl | rfl
  · exact .inl type
  · exact .inr type

theorem count_le_one (stored : board.task key = some task) (unfinished : task.unfinished = true) :
    board.backlog.count key ≤ 1 := by
  rcases Nat.eq_zero_or_pos (board.backlog.count key) with none | some
  · omega
  · obtain ⟨workerType, queued, waiting, rfl⟩ := Backlog.exists_mem_of_count_pos some
    have runnable := inv.schedulable_of_mem waiting stored
    by_cases moving : queued.key ∈ board.transit
    · rw [inv.transit_unqueued moving stored unfinished]
      omega
    · rcases inv.placed stored unfinished runnable moving with ⟨workerId, held⟩ | once
      · rw [inv.held_unqueued held stored unfinished]
        omega
      · omega

theorem unheld_of_waiting (waiting : queued ∈ board.backlog.queue workerType)
    (stored : board.task queued.key = some task) (unfinished : task.unfinished = true)
    (workerId : String) : ¬ board.Holds workerId queued.key := by
  intro held
  have counted := Backlog.count_pos_of_mem waiting
  have uncounted := inv.held_unqueued held stored unfinished
  omega

theorem fresh_unused (proofId : String) {taskId : String} (fresh : taskId ∉ board.issued) :
    board.task (proofId, taskId) = none ∧ (∀ workerId, ¬ board.Holds workerId (proofId, taskId)) ∧
      board.backlog.count (proofId, taskId) = 0 := by
  have unstored : board.task (proofId, taskId) = none := by
    cases stored : board.task (proofId, taskId) with
    | none => rfl
    | some task => exact absurd (inv.task_issued stored) fresh
  refine ⟨unstored, ?_, ?_⟩
  · intro workerId held
    obtain ⟨task, stored, -⟩ := inv.held_task held
    rw [unstored] at stored
    cases stored
  · by_contra positive
    obtain ⟨workerType, queued, waiting, same⟩ :=
      Backlog.exists_mem_of_count_pos (Nat.pos_of_ne_zero positive)
    have issued : queued.id ∈ board.issued := inv.queue_issued waiting
    have sameId : queued.id = taskId := congrArg Prod.snd same
    exact fresh (sameId ▸ issued)

end Placed

/-! ## Moves that leave every task where it is -/

theorem Placed.addProof (inv : board.Placed build) {proofId : String}
    (absent : proofId ∉ board.proofs) (empty : proof.tasks = ∅) :
    (board.setProof proofId proof).Placed build :=
  placed_of_spots (fun _ _ registered => inv.worker_id registered) fun key =>
    (inv.spot_ok key).of_le ⟨taskOf.insert_empty_eq absent empty key, fun _ => Iff.rfl,
      fun _ _ => id, rfl, Iff.rfl, id, rfl⟩

theorem worker_id_insert (inv : board.Placed build) (own : worker.id = workerId) (other : String)
    (record : Worker)
    (registered : (board.workers.insert workerId worker).lookup other = some record) :
    record.id = other := by
  rcases Table.lookup_insert_cases registered with ⟨same, rfl⟩ | ⟨_, registered⟩
  · exact own.trans same.symm
  · exact inv.worker_id registered

theorem Placed.setWorker (inv : board.Placed build) (own : worker.id = workerId)
    (same : ∀ key, key ∈ worker.activeTasks ↔ board.Holds workerId key) :
    (board.setWorker workerId worker).Placed build := by
  refine placed_of_spots (worker_id_insert inv own) fun key =>
    (inv.spot_ok key).of_le ⟨rfl, fun other => ?_, fun _ _ => id, rfl, Iff.rfl, id, rfl⟩
  refine (holds_setWorker_iff other).trans ?_
  split
  · next sameWorker =>
    rw [same, ← sameWorker]
    exact Iff.rfl
  · exact Iff.rfl

theorem Placed.removeWorker (inv : board.Placed build) (empty : ∀ key, ¬ board.Holds workerId key) :
    (board.removeWorker workerId).Placed build := by
  refine placed_of_spots ?_ fun key =>
    (inv.spot_ok key).of_le ⟨rfl, fun other => ?_, fun _ _ => id, rfl, Iff.rfl, id, rfl⟩
  · intro other record registered
    change (board.workers.erase workerId).lookup other = some record at registered
    exact inv.worker_id (Table.lookup_of_erase registered)
  · change (∃ worker, (board.workers.erase workerId).lookup other = some worker ∧ _) ↔ _
    rw [Table.lookup_erase_eq]
    split
    · next same =>
      subst same
      exact iff_of_false nofun (empty key)
    · exact Iff.rfl

/-! ## Changes of one task -/

/-- The record of a stored task may change, but neither its identity nor its data, and no entry
is added. What remains to be shown is where the task is. -/
theorem Spot.Ok.changed {spot spot' : Spot} (ok : spot.Ok build key)
    (stored : spot.task = some task) (stored' : spot'.task = some task')
    (same : task'.id = task.id ∧ task'.data = task.data) (issued : spot.issued → spot'.issued)
    (waits : ∀ workerType, spot'.waits workerType ⊆ spot.waits workerType)
    (held : ∀ workerId ∈ spot'.holders, spot'.stopped = false ∧ ¬ spot'.moving ∧
      task'.worker = some workerId ∧ task'.status ≠ .failedFatal ∧
      build.schedulable task.data.taskType)
    (away : task'.unfinished = true → spot'.moving ∨ spot'.holders.Nonempty → spot'.count = 0)
    (placed : task'.unfinished = true → build.schedulable task.data.taskType → ¬ spot'.moving →
      spot'.holders.Nonempty ∨ spot'.count = 1)
    (fatal : task'.status = .failedFatal → spot'.count = 0) : spot'.Ok build key := by
  have only : ∀ {other}, spot'.task = some other → other = task' := fun storedOther =>
    Option.some.inj (storedOther.symm.trans stored')
  obtain ⟨id, proofId, drawn⟩ := ok.own task stored
  refine ⟨?_, ?_, ?_, ?_, ?_, ?_⟩
  · intro other storedOther
    rw [only storedOther, same.1, same.2]
    exact ⟨id, proofId, issued drawn⟩
  · intro workerType queued waiting
    obtain ⟨type, -, entry⟩ := ok.waits workerType queued (waits workerType waiting)
    refine ⟨type, issued drawn, fun other storedOther => ?_⟩
    rw [only storedOther, same.2]
    exact entry task stored
  · intro workerId holder
    obtain ⟨running, resting, owner, notFatal, runnable⟩ := held workerId holder
    exact ⟨running, resting, task', stored', owner, notFatal, same.2 ▸ runnable⟩
  · intro other storedOther
    rw [only storedOther]
    exact away
  · intro other storedOther
    rw [only storedOther, same.2]
    exact placed
  · intro other storedOther
    rw [only storedOther]
    exact fatal

theorem mem_settle {other : TaskKey} {transit : Set TaskKey} (different : other ≠ key) :
    other ∈ transit \ {key} ↔ other ∈ transit :=
  ⟨fun moving => moving.1, fun moving => ⟨moving, different⟩⟩

section Records

variable {proofId taskId : String} {proof : Proof} {task : Task}
  (inv : board.Placed build) (found : board.proofs.lookup proofId = some proof)
  (stored : proof.tasks.lookup taskId = some task)
include inv found stored

theorem Placed.setRecord {proof' : Proof} {transit : Set TaskKey}
    (changed : proof'.tasks = proof.tasks.insert taskId task')
    (same : task'.id = task.id ∧ task'.data = task.data)
    (others : ∀ other, other ≠ (proofId, taskId) → (other ∈ transit ↔ other ∈ board.transit))
    (held : ∀ workerId, board.Holds workerId (proofId, taskId) →
      (proofId, taskId) ∉ transit ∧ task'.worker = task.worker ∧ task'.status ≠ .failedFatal)
    (stays : task'.unfinished = true → task.unfinished = true ∧
      ((proofId, taskId) ∈ transit ↔ (proofId, taskId) ∈ board.transit))
    (fatal : task'.status = .failedFatal → board.backlog.count (proofId, taskId) = 0) :
    ({ board.setProof proofId proof' with transit := transit }).Placed build := by
  have here : board.task (proofId, taskId) = some task := (taskOf.of_lookup found).trans stored
  have tasks := taskOf.set_eq found changed
  have ok := inv.spot_ok (proofId, taskId)
  refine inv.of_changed (proofId, taskId) (fun _ _ registered => inv.worker_id registered) ?_
    (ok.changed here ((tasks _).trans (if_pos rfl)) same id (fun _ _ => id) ?_ ?_ ?_ fatal)
  · intro other different
    exact ⟨(tasks other).trans (if_neg different), fun _ => Iff.rfl, fun _ _ => id, rfl,
      others other different, id, rfl⟩
  · intro workerId holder
    obtain ⟨running, -, record, storedToo, owner, -, runnable⟩ := ok.held workerId holder
    obtain ⟨resting, sameOwner, notFatal⟩ := held workerId holder
    cases here.symm.trans storedToo
    exact ⟨running, resting, sameOwner.trans owner, notFatal, runnable⟩
  · intro unfinished away
    obtain ⟨before, moving⟩ := stays unfinished
    exact ok.away task here before (away.imp_left moving.mp)
  · intro unfinished runnable resting
    obtain ⟨before, moving⟩ := stays unfinished
    exact ok.placed task here before runnable (mt moving.mpr resting)

theorem Placed.setTask (alike : task.Alike task') :
    (board.setTask proofId proof taskId task').Placed build := by
  have here : board.task (proofId, taskId) = some task := (taskOf.of_lookup found).trans stored
  have ok := inv.spot_ok (proofId, taskId)
  refine inv.setRecord found stored rfl ⟨alike.id, alike.data⟩ (fun _ _ => Iff.rfl) ?_ ?_ ?_
  · intro workerId holder
    obtain ⟨-, resting, record, storedToo, -, notFatal, -⟩ := ok.held workerId holder
    cases here.symm.trans storedToo
    exact ⟨resting, alike.worker, alike.status ▸ notFatal⟩
  · intro unfinished
    rw [Task.unfinished, alike.status] at unfinished
    exact ⟨unfinished, Iff.rfl⟩
  · rw [alike.status]
    exact ok.fatal task here

theorem Placed.complete :
    ((board.setProof proofId (proof.completeTask workerId taskId task)).settle
      (proofId, taskId)).Placed build :=
  inv.setRecord found stored rfl ⟨rfl, rfl⟩ (fun _ => mem_settle)
    (fun _ _ => ⟨fun moving => moving.2 rfl, rfl, nofun⟩) nofun nofun

theorem Placed.fail {retryable : Bool} (inTransit : (proofId, taskId) ∈ board.transit)
    (unfinished : task.unfinished = true) :
    (board.failTask proofId proof retryable taskId task).Placed build := by
  have here : board.task (proofId, taskId) = some task := (taskOf.of_lookup found).trans stored
  have uncounted := inv.transit_unqueued inTransit here unfinished
  have unheld : ∀ workerId, ¬ board.Holds workerId (proofId, taskId) := fun _ =>
    inv.transit_unheld inTransit
  unfold Board.failTask
  dsimp only
  split
  · next fatal =>
    refine inv.setRecord found stored rfl ⟨rfl, rfl⟩ (fun _ => mem_settle)
      (fun workerId held => absurd held (unheld workerId)) ?_ fun _ => uncounted
    intro stillOpen
    simp [Task.fail, Task.unfinished, fatal, TaskStatus.isFinal] at stillOpen
  · exact inv.setRecord found stored rfl ⟨rfl, rfl⟩ (fun _ _ => Iff.rfl)
      (fun workerId held => absurd held (unheld workerId)) (fun _ => ⟨unfinished, Iff.rfl⟩)
      fun _ => uncounted

end Records

/-! ## New tasks and new entries -/

theorem task_addTask [Counter] (task : Task)
    (found : board.proofs.lookup task.data.proofId = some proof) (key : TaskKey) :
    (board.addTask proof task).task key =
      if key = (task.data.proofId, task.id) then some task else board.task key :=
  taskOf.set_eq found rfl key

theorem Placed.addTask [Counter] (inv : board.Placed build) (env : Env) (data : TaskData)
    (found : board.proofs.lookup data.proofId = some proof) (fresh : env.taskId ∉ board.issued) :
    (board.addTask proof (Task.new env data)).Placed build := by
  obtain ⟨-, unheld, uncounted⟩ := inv.fresh_unused data.proofId fresh
  have tasks := task_addTask (Task.new env data) found
  refine inv.of_changed (data.proofId, env.taskId) (fun _ _ registered => inv.worker_id registered)
    (fun other different => ?_) ⟨?_, ?_, fun workerId held => absurd held (unheld workerId),
      fun _ _ _ _ => uncounted, ?_, fun _ _ _ => uncounted⟩
  · exact ⟨(tasks other).trans (if_neg different), fun _ => Iff.rfl, fun _ _ => id, rfl,
      ⟨fun moving => moving.resolve_left different, .inr⟩, .inr, rfl⟩
  · intro task stored
    cases ((tasks _).trans (if_pos rfl)).symm.trans stored
    exact ⟨rfl, rfl, Set.mem_insert _ _⟩
  · rintro workerType queued ⟨waiting, same⟩
    have counted := Backlog.count_pos_of_mem waiting
    rw [same] at counted
    exact absurd uncounted counted.ne'
  · exact fun _ _ _ _ resting => absurd (Set.mem_insert _ _) resting

theorem Placed.enqueue (inv : board.Placed build) {proofId taskId : String}
    (stored : board.task (proofId, taskId) = some task)
    (inTransit : (proofId, taskId) ∈ board.transit) (notFatal : task.status ≠ .failedFatal)
    (key : queued.key = (proofId, taskId)) (type : queued.taskType = task.data.taskType) :
    ((board.withBacklog
      (Backlog.add (build.workerTypeFromTaskType task.data.taskType) queued)).settle
        (proofId, taskId)).Placed build := by
  have ok := inv.spot_ok (proofId, taskId)
  have only : ∀ {other}, board.task (proofId, taskId) = some other → other = task :=
    fun storedOther => Option.some.inj (storedOther.symm.trans stored)
  refine inv.of_changed (proofId, taskId) (fun _ _ registered => inv.worker_id registered)
    (fun other different => ⟨rfl, fun _ => Iff.rfl, ?_, ?_, mem_settle different, id, rfl⟩)
    ⟨ok.own, ?_, fun workerId held => absurd inTransit (ok.held workerId held).2.1, ?_, ?_, ?_⟩
  · rintro workerType entry ⟨waiting, rfl⟩
    rcases Backlog.mem_queue_add waiting with ⟨rfl, -⟩ | before
    · exact absurd key different
    · exact ⟨before, rfl⟩
  · change (board.backlog.add _ queued).count other = board.backlog.count other
    by_cases queues : (build.workerTypeFromTaskType task.data.taskType).Queues
    · rw [Backlog.count_add queues, if_neg fun same => different (same.symm.trans key)]
      rfl
    · rw [Backlog.add_of_not_queues queues]
  · rintro workerType entry ⟨waiting, same⟩
    rcases Backlog.mem_queue_add waiting with ⟨rfl, rfl⟩ | before
    · refine ⟨by rw [type], inv.task_issued stored, fun other storedOther => ?_⟩
      rw [only storedOther, type]
    · exact ok.waits workerType entry ⟨before, same⟩
  · rintro other - - (moving | ⟨workerId, held⟩)
    · exact absurd rfl moving.2
    · exact absurd inTransit (ok.held workerId held).2.1
  · intro other storedOther unfinished runnable _
    rw [only storedOther] at unfinished runnable
    refine .inr ?_
    change (board.backlog.add _ queued).count _ = 1
    rw [Backlog.count_add runnable, inv.transit_unqueued inTransit stored unfinished, if_pos key]
  · intro other storedOther fatal
    exact absurd (only storedOther ▸ fatal) notFatal

/-! ## Taking tasks off workers -/

section Released

variable {worker worker' : Worker} {key other : TaskKey} {weight : ℕ}
  (released : worker' = worker.release key weight ∨ worker' = worker.abandon key weight)
include released

theorem activeTasks_of_released : worker'.activeTasks = worker.activeTasks.erase key := by
  rcases released with rfl | rfl
  · unfold Worker.release
    dsimp only
    split <;> rfl
  · rfl

theorem mem_of_released :
    other ∈ worker'.activeTasks ↔ other ≠ key ∧ other ∈ worker.activeTasks := by
  rw [activeTasks_of_released released]
  exact AList.mem_erase

theorem id_of_released : worker'.id = worker.id := by
  rcases released with rfl | rfl
  · unfold Worker.release
    dsimp only
    split <;> rfl
  · rfl

theorem maxWeight_of_released : worker'.maxWeight = worker.maxWeight := by
  rcases released with rfl | rfl
  · unfold Worker.release
    dsimp only
    split <;> rfl
  · rfl

/-- The weight is taken off, or the worker has become empty and weighs nothing. -/
theorem weight_of_released :
    worker'.weight = worker.weight - weight ∨
      (KeySet.isEmpty worker'.activeTasks = true ∧ worker'.weight = 0) := by
  rcases released with rfl | rfl
  · unfold Worker.release
    dsimp only
    split
    · next empty => exact .inr ⟨empty, rfl⟩
    · exact .inl rfl
  · exact .inl rfl

end Released

theorem holds_release_iff (build : Build) (task : Task) (goesBack : Bool) {worker' : Worker}
    {weight : ℕ} (registered : board.workers.lookup workerId = some worker)
    (released : worker' = worker.release key weight ∨ worker' = worker.abandon key weight)
    (other : String) (otherKey : TaskKey) :
    (board.release build workerId worker' key task goesBack).Holds other otherKey ↔
      board.Holds other otherKey ∧ ¬ (other = workerId ∧ otherKey = key) := by
  change (board.setWorker workerId worker').Holds other otherKey ↔ _
  rw [holds_setWorker_iff]
  split
  · next same =>
    subst same
    rw [mem_of_released released, holds_of_lookup registered]
    tauto
  · next different => tauto

theorem Placed.release (inv : board.Placed build) {worker' : Worker}
    (registered : board.workers.lookup workerId = some worker) (held : key ∈ worker.activeTasks)
    (stored : board.task key = some task)
    (released : worker' = worker.release key task.data.weight ∨
      worker' = worker.abandon key task.data.weight) (goesBack : Bool) :
    (board.release build workerId worker' key task goesBack).Placed build := by
  have heldHere : board.Holds workerId key := ⟨worker, registered, held⟩
  have holds := holds_release_iff build task goesBack registered released
  have ok := inv.spot_ok key
  have unheld : ∀ holder, ¬ (board.release build workerId worker' key task goesBack).Holds holder
      key := by
    intro holder later
    obtain ⟨before, notReleased⟩ := (holds holder key).mp later
    exact notReleased ⟨inv.holder_unique before heldHere, rfl⟩
  have moving : ∀ other, other ∈ (board.release build workerId worker' key task goesBack).transit ↔
      (other = key ∧ (task.unfinished || goesBack) = true) ∨ other ∈ board.transit := by
    intro other
    unfold Board.release
    by_cases moves : (task.unfinished || goesBack) = true <;> simp [moves]
  have waits : ∀ other workerType, Set.Subset
      (((board.release build workerId worker' key task goesBack).spot other).waits workerType)
        ((board.spot other).waits workerType) := by
    rintro other workerType queued ⟨waiting, same⟩
    exact ⟨Backlog.queue_discharge .. ▸ waiting, same⟩
  have own : worker'.id = workerId := (id_of_released released).trans (inv.worker_id registered)
  refine inv.of_changed key (worker_id_insert inv own)
    (fun other different => ⟨rfl, fun holder => ?_, waits other, Backlog.count_discharge .., ?_, id,
      rfl⟩)
    (ok.changed stored stored ⟨rfl, rfl⟩ id (waits key)
      (fun holder later => absurd later (unheld holder)) ?_ ?_ ?_)
  · exact (holds holder other).trans (and_iff_left fun same => different same.2)
  · exact (moving other).trans (or_iff_right fun same => different same.1)
  · intro unfinished _
    exact (Backlog.count_discharge ..).trans (inv.held_unqueued heldHere stored unfinished)
  · intro unfinished _ resting
    exact absurd ((moving key).mpr (.inl ⟨rfl, by simp [unfinished]⟩)) resting
  · intro fatal
    exact (Backlog.count_discharge ..).trans (ok.fatal task stored fatal)

theorem Placed.halt (inv : board.Placed build) : board.halt.Placed build := by
  have unheld : ∀ workerId key, ¬ board.halt.Holds workerId key := by
    rintro workerId key ⟨worker, registered, held⟩
    change (Table.mapValues _ board.workers).lookup workerId = some worker at registered
    rw [Table.lookup_mapValues] at registered
    obtain ⟨before, -, rfl⟩ := Option.map_eq_some_iff.mp registered
    exact AList.notMem_empty key held
  refine placed_of_spots ?_ fun key => ?_
  · intro workerId worker registered
    change (Table.mapValues _ board.workers).lookup workerId = some worker at registered
    rw [Table.lookup_mapValues] at registered
    obtain ⟨before, registeredBefore, rfl⟩ := Option.map_eq_some_iff.mp registered
    change before.id = workerId
    exact inv.worker_id registeredBefore
  · have ok := inv.spot_ok key
    refine ⟨ok.own, ok.waits, fun workerId held => absurd held (unheld workerId key), ?_, ?_,
      ok.fatal⟩
    · rintro task stored unfinished (moving | ⟨workerId, held⟩)
      · exact ok.away task stored unfinished moving
      · exact absurd held (unheld workerId key)
    · intro task stored unfinished runnable resting
      have before := ok.placed task stored unfinished runnable fun moving => resting (.inl moving)
      exact before.imp_left fun held => absurd (.inr held) resting

theorem Placed.removeProof (inv : board.Placed build) {proofId : String}
    (vacated : ∀ workerId taskId, ¬ board.Holds workerId (proofId, taskId)) :
    (board.removeProof proofId).Placed build := by
  refine placed_of_spots (fun _ _ registered => inv.worker_id registered) fun key => ?_
  have ok := inv.spot_ok key
  have erased : (board.removeProof proofId).task key =
      if key.1 = proofId then none else board.task key := taskOf.erase_eq key
  by_cases same : key.1 = proofId
  · have unstored : ∀ task, (board.removeProof proofId).task key ≠ some task := fun task => by
      rw [erased, if_pos same]
      exact nofun
    refine ⟨fun task stored => absurd stored (unstored task), ?_,
      fun workerId held => absurd held (same ▸ vacated workerId key.2),
      fun task stored => absurd stored (unstored task),
      fun task stored => absurd stored (unstored task),
      fun task stored => absurd stored (unstored task)⟩
    intro workerType queued waiting
    obtain ⟨type, issued, -⟩ := ok.waits workerType queued waiting
    exact ⟨type, issued, fun task stored => absurd stored (unstored task)⟩
  · exact ok.of_le ⟨erased.trans (if_neg same), fun _ => Iff.rfl, fun _ _ => id, rfl,
      and_iff_left same, id, rfl⟩

/-! ## Assignment -/

theorem Placed.discard (inv : board.Placed build)
    (waiting : queued ∈ board.backlog.queue workerType)
    (stale : ∀ task, board.task queued.key = some task → task.unfinished = false) :
    (board.withBacklog (Backlog.remove workerType queued)).Placed build := by
  have count := Backlog.count_remove waiting
  have ok := inv.spot_ok queued.key
  have fewer : ∀ key type, Set.Subset
      (((board.withBacklog (Backlog.remove workerType queued)).spot key).waits type)
        ((board.spot key).waits type) := by
    rintro key type entry ⟨member, same⟩
    exact ⟨Backlog.mem_queue_remove member, same⟩
  have finished : ∀ task, board.task queued.key = some task → ¬ task.unfinished = true := by
    intro task stored
    rw [stale task stored]
    exact nofun
  refine inv.of_changed queued.key (fun _ _ registered => inv.worker_id registered)
    (fun other different => ⟨rfl, fun _ => Iff.rfl, fewer other, ?_, Iff.rfl, id, rfl⟩)
    ⟨ok.own, fun type entry member => ok.waits type entry (fewer queued.key type member), ok.held,
      fun task stored open_ => absurd open_ (finished task stored),
      fun task stored open_ => absurd open_ (finished task stored), ?_⟩
  · have split := count other
    rw [if_neg different.symm] at split
    exact split.symm
  · intro task stored fatal
    have none := ok.fatal task stored fatal
    have split := count queued.key
    change (board.backlog.remove workerType queued).count queued.key = 0
    change board.backlog.count queued.key = 0 at none
    omega

section Started

variable {queued : QueuedTask} {proof : Proof} {task : Task} {workerId : String} {worker : Worker}
  (inv : board.Coherent build) (found : board.proofs.lookup queued.proofId = some proof)
  (stored : proof.tasks.lookup queued.id = some task) (startTime : ℕ)
include inv found stored

theorem key_of_queued : (task.data.proofId, task.id) = queued.key := by
  have here : board.task queued.key = some task := (taskOf.of_lookup found).trans stored
  exact Prod.ext (inv.task_proofId here) (inv.task_id here)

theorem task_start (workerId : String) (worker : Worker) (other : TaskKey) :
    (board.start workerId worker queued.proofId proof task startTime).task other =
      if other = queued.key then some (Task.start worker task) else board.task other := by
  have sameId : task.id = queued.id := congrArg Prod.snd (key_of_queued inv found stored)
  rw [start, sameId]
  exact task_setTask found other

theorem holds_start (registered : board.workers.lookup workerId = some worker) (holder : String)
    (other : TaskKey) :
    (board.start workerId worker queued.proofId proof task startTime).Holds holder other ↔
      (holder = workerId ∧ other = queued.key) ∨ board.Holds holder other := by
  refine (holds_setWorker_iff holder).trans ?_
  split
  · next same =>
    subst same
    rw [holds_of_lookup registered]
    simp [Worker.take, key_of_queued inv found stored]
  · next different => simp [different]

end Started

theorem Placed.assign (inv : board.Placed build) (startTime : ℕ)
    (running : board.shuttingDown = false)
    (waiting : queued ∈ board.backlog.queue (build.workerTypeFromTaskType task.data.taskType))
    (found : board.proofs.lookup queued.proofId = some proof)
    (stored : proof.tasks.lookup queued.id = some task) (unfinished : task.unfinished = true)
    (registered : board.workers.lookup workerId = some worker) :
    ((board.start workerId worker queued.proofId proof task startTime).withBacklog fun backlog =>
      (backlog.charge charges (build.workerTypeFromTaskType task.data.taskType) queued.proofId
        task.data.weight).remove (build.workerTypeFromTaskType task.data.taskType)
          queued).Placed build := by
  have here : board.task queued.key = some task := (taskOf.of_lookup found).trans stored
  have counted : 0 < board.backlog.count queued.key := Backlog.count_pos_of_mem waiting
  have once := inv.count_le_one here unfinished
  have unheld := inv.unheld_of_waiting waiting here unfinished
  have resting : queued.key ∉ board.transit := fun moving =>
    absurd (inv.transit_unqueued moving here unfinished) counted.ne'
  have count := Backlog.count_take waiting charges queued.proofId task.data.weight
  have holds := holds_start inv.toCoherent found stored startTime registered
  have tasks := task_start inv.toCoherent found stored startTime workerId worker
  have own : worker.id = workerId := inv.worker_id registered
  refine inv.of_changed queued.key (worker_id_insert inv own)
    (fun other different => ⟨(tasks other).trans (if_neg different), fun holder => ?_,
      fun _ _ => .imp_left Backlog.mem_queue_take, ?_, Iff.rfl, id, rfl⟩)
    ((inv.spot_ok queued.key).changed here ((tasks _).trans (if_pos rfl)) ⟨rfl, rfl⟩ id
      (fun _ _ => .imp_left Backlog.mem_queue_take) ?_ ?_ ?_ nofun)
  · exact (holds holder other).trans (or_iff_right fun same => different same.2)
  · have split := count other
    rw [if_neg different.symm] at split
    exact split.symm
  · intro holder held
    rcases (holds holder queued.key).mp held with ⟨rfl, -⟩ | before
    · exact ⟨running, resting, congrArg some (inv.worker_id registered), nofun,
        inv.schedulable_of_mem waiting here⟩
    · exact absurd before (unheld holder)
  · intro _ _
    have split := count queued.key
    rw [if_pos rfl] at split
    change ((board.backlog.charge charges _ _ _).remove _ queued).count queued.key = 0
    omega
  · intro _ _ _
    exact .inl ⟨workerId, (holds workerId queued.key).mpr (.inl ⟨rfl, rfl⟩)⟩

/-! ## Every move and every turn -/

theorem Placed.assignStep (inv : board.Placed build)
    (turn : AssignStep build charges board board') : board'.Placed build := by
  cases turn with
  | discard waiting stale => exact inv.discard waiting stale
  | assign running waiting found stored unfinished registered fits =>
    exact inv.assign _ running waiting found stored unfinished registered

theorem Placed.move (inv : board.Placed build) (move : Move build inputs board board') :
    board'.Placed build := by
  cases move with
  | addProof absent empty idle => exact inv.addProof absent empty
  | addTask env data found fresh weight => exact inv.addTask env data found fresh
  | enqueue stored inTransit notFatal key type =>
    exact inv.enqueue stored inTransit notFatal key type
  | release registered held stored released goesBack =>
    exact inv.release registered held stored released goesBack
  | complete found stored alive reported => exact inv.complete found stored
  | fail found stored inTransit unfinished alive reported =>
    exact inv.fail found stored inTransit unfinished
  | removeProof vacated ended => exact inv.removeProof vacated
  | addWorker absent own empty weightless capacity =>
    refine inv.setWorker own ?_
    intro key
    rw [empty]
    refine ⟨fun held => absurd held (AList.notMem_empty key), ?_⟩
    rintro ⟨worker, registered, -⟩
    exact absurd (Table.mem_of_lookup registered) absent
  | changeWorker registered alike weight =>
    refine inv.setWorker (alike.id.trans (inv.worker_id registered)) ?_
    intro key
    rw [alike.activeTasks, holds_of_lookup registered]
  | removeWorker registered empty =>
    refine inv.removeWorker ?_
    intro key
    rw [holds_of_lookup registered]
    exact empty key
  | requeued found stored => exact inv.setTask found stored ⟨rfl, rfl, rfl, rfl⟩
  | subscribe found stored unfinished asked => exact inv.setTask found stored ⟨rfl, rfl, rfl, rfl⟩
  | halt asked => exact inv.halt

end Sp1Cluster.Board
