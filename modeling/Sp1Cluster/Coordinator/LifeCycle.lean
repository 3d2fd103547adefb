import Sp1Cluster.Coordinator.Records
import Sp1Cluster.Coordinator.Reachable

/-!
# The life of a task

A succeeded task stays succeeded. A fatally failed task can only become
succeeded, and is never queued, assigned or retried again: it is in no queue, in
no worker's set and not in transit, and the moves take tasks from nowhere else.
The counter of retries is at most three and counts the failure reports that send
a task back to its queue.

The last part is about single calls: when exactly the counter goes up, and when
a failure is fatal.
-/

set_option autoImplicit false

namespace Sp1Cluster

open Relation Board

/-! ## Ageing -/

/-- How the record of a task changes while the task is stored. The counter of
retries changes only when a failure of the task is reported. -/
structure Task.Ages (reported : Prop) (task task' : Task) : Prop where
  succeeded : task.status = .succeeded → task'.status = .succeeded
  finished : task.unfinished = false → task'.unfinished = false
  retries_le : task.retries ≤ task'.retries
  retries_eq : ¬ reported → task'.retries = task.retries

namespace Task.Ages

variable {reported : Prop} {task task' task'' : Task}

theorem refl (reported : Prop) (task : Task) : task.Ages reported task :=
  ⟨fun done => done, fun done => done, le_rfl, fun _ => rfl⟩

theorem trans (first : task.Ages reported task') (second : task'.Ages reported task'') :
    task.Ages reported task'' where
  succeeded := second.succeeded ∘ first.succeeded
  finished := second.finished ∘ first.finished
  retries_le := first.retries_le.trans second.retries_le
  retries_eq unreported := (second.retries_eq unreported).trans (first.retries_eq unreported)

theorem of_unfinished (unfinished : task.unfinished = true) (same : task'.retries = task.retries) :
    task.Ages reported task' where
  succeeded done := by simp [Task.unfinished, done, TaskStatus.isFinal] at unfinished
  finished done := by simp [unfinished] at done
  retries_le := same.ge
  retries_eq _ := same

end Task.Ages

namespace Board

variable {build : Build} {charges : Bool} {inputs : Inputs} {reported : TaskKey → Prop}
  {board board' board'' : Board} {key : TaskKey} {task task' : Task} {proofId taskId : String}

theorem TaskStep.ages {record : Option Task}
    (step : TaskStep inputs board board' key record (some task')) (issued : key.2 ∈ board.issued) :
    ∃ task, record = some task ∧ task.Ages (inputs.Fails key) task' := by
  cases step with
  | keep => exact ⟨task', rfl, .refl _ _⟩
  | create env data fresh => exact absurd issued fresh
  | complete workerId task reported =>
    exact ⟨task, rfl, fun _ => rfl, fun _ => rfl, le_rfl, fun _ => rfl⟩
  | fail retryable task inTransit unfinished reported settled =>
    refine ⟨task, rfl, ?_, ?_, ?_, fun unreported => absurd ⟨retryable, reported⟩ unreported⟩
    · intro done
      simp [Task.unfinished, done, TaskStatus.isFinal] at unfinished
    · intro done
      simp [unfinished] at done
    · unfold Task.fail
      dsimp only
      split <;> omega
  | requeue task => exact ⟨task, rfl, id, id, le_rfl, fun _ => rfl⟩
  | subscribe subId task unfinished asked => exact ⟨task, rfl, .of_unfinished unfinished rfl⟩
  | start worker task unfinished waiting => exact ⟨task, rfl, .of_unfinished unfinished rfl⟩

/-- A later board: the tasks it stores are new, or have aged. -/
structure Evolves (reported : TaskKey → Prop) (board board' : Board) : Prop where
  issued : board.issued ⊆ board'.issued
  ages : ∀ {key : TaskKey} {task' : Task}, key.2 ∈ board.issued → board'.task key = some task' →
    ∃ task, board.task key = some task ∧ task.Ages (reported key) task'

namespace Evolves

theorem refl (reported : TaskKey → Prop) (board : Board) : board.Evolves reported board :=
  ⟨subset_rfl, fun _ stored => ⟨_, stored, .refl _ _⟩⟩

theorem trans (first : board.Evolves reported board') (second : board'.Evolves reported board'') :
    board.Evolves reported board'' := by
  refine ⟨first.issued.trans second.issued, ?_⟩
  intro key task'' issued stored
  obtain ⟨task', storedBetween, later⟩ := second.ages (first.issued issued) stored
  obtain ⟨task, storedBefore, earlier⟩ := first.ages issued storedBetween
  exact ⟨task, storedBefore, earlier.trans later⟩

theorem mono {other : TaskKey → Prop} (implied : ∀ key, reported key → other key)
    (evolves : board.Evolves reported board') : board.Evolves other board' := by
  refine ⟨evolves.issued, ?_⟩
  intro key task' issued stored
  obtain ⟨task, storedBefore, ages⟩ := evolves.ages issued stored
  exact ⟨task, storedBefore, { ages with
    retries_eq := fun unreported => ages.retries_eq (unreported ∘ implied key) }⟩

theorem of_taskStep (issued : board.issued ⊆ board'.issued)
    (steps : ∀ key, TaskStep inputs board board' key (board.task key) (board'.task key)) :
    board.Evolves inputs.Fails board' := by
  refine ⟨issued, ?_⟩
  intro key task' issuedBefore stored
  have step := steps key
  rw [stored] at step
  exact step.ages issuedBefore

theorem of_plays {middle : Board} (sound : board.Sound build)
    (moves : Moves build inputs board middle)
    (turns : ReflTransGen (AssignStep build charges) middle board') :
    board.Evolves inputs.Fails board' :=
  plays_rule (Q := board.Evolves inputs.Fails) sound (.refl _ _)
    (fun _ issued steps evolves => evolves.trans (.of_taskStep issued steps)) moves turns

end Evolves

/-! ## Retired tasks -/

/-- A finished task that no worker holds and no queue lists, with the counter
and the worker of an earlier record. -/
structure Retired (board : Board) (key : TaskKey) (original : Task) : Prop where
  issued : key.2 ∈ board.issued
  unheld : ∀ workerId, ¬ board.Holds workerId key
  unqueued : board.backlog.count key = 0
  resting : key ∉ board.transit
  record : ∀ {task : Task}, board.task key = some task →
    task.unfinished = false ∧ task.retries = original.retries ∧ task.worker = original.worker

namespace Retired

variable {original : Task}

/-- Steps change a retired task only by completing it again. -/
theorem record_step (retired : board.Retired key original)
    (step : TaskStep inputs board board' key (board.task key) (board'.task key))
    (stored : board'.task key = some task') :
    task'.unfinished = false ∧ task'.retries = original.retries ∧
      task'.worker = original.worker := by
  rw [stored] at step
  generalize record : board.task key = before at step
  cases step with
  | keep => exact retired.record record
  | create env data fresh => exact absurd retired.issued fresh
  | complete workerId _ reported => exact ⟨rfl, (retired.record record).2⟩
  | fail retryable _ inTransit unfinished reported settled => exact absurd inTransit retired.resting
  | requeue =>
    have before := retired.record record
    exact before
  | subscribe _ _ unfinished | start _ _ unfinished =>
    cases (retired.record record).1.symm.trans unfinished

theorem move (retired : board.Retired key original) (sound : board.Sound build)
    (move : Move build inputs board board') : board'.Retired key original where
  issued := move.issued_subset retired.issued
  unheld workerId held := retired.unheld workerId (move.holds_of held)
  unqueued := Nat.le_zero.mp ((move.count_le retired.resting).trans retired.unqueued.le)
  resting moving := by
    rcases move.transit_of moving with before | ⟨workerId, held⟩ | fresh
    · exact retired.resting before
    · exact retired.unheld workerId held
    · exact fresh retired.issued
  record := retired.record_step (move.taskStep sound key)

theorem turn (retired : board.Retired key original) (sound : board.Sound build)
    (turn : AssignStep build charges board board') : board'.Retired key original where
  issued := turn.issued_eq.ge retired.issued
  unheld workerId held := by
    rcases turn.holds_of sound held with before | ⟨waiting, -⟩
    · exact retired.unheld workerId before
    · rw [retired.unqueued] at waiting
      cases waiting
  unqueued := Nat.le_zero.mp ((turn.count_le key).trans retired.unqueued.le)
  resting := turn.transit_eq ▸ retired.resting
  record := retired.record_step (turn.taskStep Inputs.none sound key)

end Retired

/-! ## Bounds -/

/-- No counter exceeds the limit, and a task in transit has not failed
fatally. -/
structure Orderly (board : Board) : Prop where
  retries_le : ∀ {key : TaskKey} {task : Task}, board.task key = some task →
    task.retries ≤ maxTaskRetries
  transit_notFatal : ∀ {key : TaskKey} {task : Task}, key ∈ board.transit →
    board.task key = some task → task.status ≠ .failedFatal

namespace Orderly

theorem retries_fail {retryable : Bool} (bounded : task.retries ≤ maxTaskRetries) :
    (Task.fail retryable task).retries ≤ maxTaskRetries := by
  unfold Task.fail
  dsimp only
  split
  · next retried =>
    unfold Task.failureStatus at retried
    split at retried
    · next below =>
      have different : task.retries ≠ maxTaskRetries := by simp_all
      omega
    · cases retried
  · exact bounded

theorem retries_step (orderly : board.Orderly)
    (step : TaskStep inputs board board' key (board.task key) (board'.task key))
    (stored : board'.task key = some task') : task'.retries ≤ maxTaskRetries := by
  rw [stored] at step
  generalize record : board.task key = before at step
  cases step with
  | create env data fresh => exact Nat.zero_le _
  | fail retryable _ inTransit unfinished reported settled =>
    exact retries_fail (orderly.retries_le record)
  | keep | complete | requeue | subscribe | start =>
    have bounded := orderly.retries_le record
    exact bounded

/-- A task in transit that fails fatally is settled by the same step. -/
theorem notFatal_step (orderly : board.Orderly)
    (step : TaskStep inputs board board' key (board.task key) (board'.task key))
    (moving : key ∈ board.transit ∨ ∀ task, board.task key = some task → task.status ≠ .failedFatal)
    (movingStill : key ∈ board'.transit) (stored : board'.task key = some task') :
    task'.status ≠ .failedFatal := by
  have notFatal : ∀ {task}, board.task key = some task → task.status ≠ .failedFatal := by
    intro task record
    rcases moving with moving | notFatal
    · exact orderly.transit_notFatal moving record
    · exact notFatal task record
  rw [stored] at step
  generalize record : board.task key = before at step
  cases step with
  | create env data fresh => simp [Task.new]
  | complete workerId _ reported => simp [Task.complete]
  | fail retryable _ inTransit unfinished reported settled =>
    exact fun fatal => settled fatal movingStill
  | start worker _ unfinished waiting => simp [Task.start]
  | keep | requeue | subscribe =>
    have before := notFatal record
    exact before

theorem move (orderly : board.Orderly) (sound : board.Sound build)
    (move : Move build inputs board board') : board'.Orderly := by
  refine ⟨fun {key task} => orderly.retries_step (move.taskStep sound key), ?_⟩
  intro key task movingStill stored
  refine orderly.notFatal_step (move.taskStep sound key) ?_ movingStill stored
  rcases move.transit_of movingStill with moving | ⟨workerId, held⟩ | fresh
  · exact .inl moving
  · refine .inr ?_
    intro record storedBefore
    obtain ⟨same, storedToo, -, notFatal, -⟩ := sound.held_task held
    obtain rfl : record = same := Option.some.inj (storedBefore.symm.trans storedToo)
    exact notFatal
  · exact .inr fun record storedBefore => absurd (sound.task_issued storedBefore) fresh

theorem turn (orderly : board.Orderly) (sound : board.Sound build)
    (turn : AssignStep build charges board board') : board'.Orderly := by
  refine ⟨fun {key task} => orderly.retries_step (turn.taskStep Inputs.none sound key), ?_⟩
  intro key task movingStill stored
  exact orderly.notFatal_step (turn.taskStep Inputs.none sound key)
    (.inl (turn.transit_eq ▸ movingStill)) movingStill stored

theorem retired (orderly : board.Orderly) (sound : board.Sound build)
    (stored : board.task key = some task) (fatal : task.status = .failedFatal) :
    board.Retired key task where
  issued := sound.task_issued stored
  unheld workerId held := by
    obtain ⟨same, storedToo, -, notFatal, -⟩ := sound.held_task held
    obtain rfl : task = same := Option.some.inj (stored.symm.trans storedToo)
    exact notFatal fatal
  unqueued := sound.fatal_unqueued stored fatal
  resting moving := orderly.transit_notFatal moving stored fatal
  record storedToo := by
    obtain rfl := Option.some.inj (stored.symm.trans storedToo)
    exact ⟨by simp [Task.unfinished, fatal, TaskStatus.isFinal], rfl, rfl⟩

end Orderly

end Board

/-! ## Moments of a run -/

namespace CoordinatorState

variable {P : Type} [LawfulPolicy P] {build : Build}

section Calls

variable {inputs : Inputs} {transit transit' : Set TaskKey} {issued issued' : Set String}
  {state state' : CoordinatorState P}
  (performs : Performs build inputs transit transit' issued issued' state state')
  (sound : (state.board transit issued).Sound build)
include performs sound

theorem Performs.orderly (orderly : (state.board transit issued).Orderly) :
    (state'.board transit' issued').Orderly := by
  obtain ⟨middle, moves, turns⟩ := performs.plays
  exact moves_turns_rule sound orderly (fun sound move orderly => orderly.move sound move)
    (fun sound turn orderly => orderly.turn sound turn) moves turns

theorem Performs.evolves :
    (state.board transit issued).Evolves inputs.Fails (state'.board transit' issued') := by
  obtain ⟨middle, moves, turns⟩ := performs.plays
  exact .of_plays sound moves turns

theorem Performs.retired {key : TaskKey} {original : Task}
    (retired : (state.board transit issued).Retired key original) :
    (state'.board transit' issued').Retired key original := by
  obtain ⟨middle, moves, turns⟩ := performs.plays
  exact moves_turns_rule (Q := fun board => board.Retired key original) sound retired
    (fun sound move retired => retired.move sound move)
    (fun sound turn retired => retired.turn sound turn) moves turns

end Calls

/-- The board of a later moment: tasks have aged, and retired tasks are still
retired. -/
structure Later (board board' : Board) : Prop where
  evolves : board.Evolves (fun _ => True) board'
  retired : ∀ {key : TaskKey} {original : Task}, board.Retired key original →
    board'.Retired key original

theorem reach_orderly (events : List Event) (fresh : Event.FreshIds events) :
    ∃ transit issued, (reach P build events).Sane build events transit issued ∧
      ((reach P build events).board transit issued).Orderly := by
  refine sane_new.run_rule (fun _ board => board.Orderly)
    (fun sane performs => performs.orderly sane.sound) ⟨?_, ?_⟩ fresh
  · intro key task stored
    cases stored
  · intro key task moving stored
    cases stored

theorem reach_later (past future : List Event) (fresh : Event.FreshIds (past ++ future)) :
    ∃ transit issued transit' issued',
      (reach P build past).Sane build past transit issued ∧
      ((reach P build past).board transit issued).Orderly ∧
      (reach P build (past ++ future)).Sane build (past ++ future) transit' issued' ∧
      ((reach P build (past ++ future)).board transit' issued').Orderly ∧
      Later ((reach P build past).board transit issued)
        ((reach P build (past ++ future)).board transit' issued') := by
  obtain ⟨transit, issued, sane, orderly⟩ := reach_orderly (P := P) past fresh.of_append
  have later : Later ((reach P build past).board transit issued)
      ((reach P build past).board transit issued) := ⟨.refl _ _, id⟩
  unfold reach
  rw [Systems.run_append]
  obtain ⟨transit', issued', sane', orderly', later'⟩ := sane.run_rule
    (fun _ board => board.Orderly ∧ Later ((reach P build past).board transit issued) board)
    (fun saneNow performs ⟨orderlyNow, laterNow⟩ =>
      ⟨performs.orderly saneNow.sound orderlyNow,
        laterNow.evolves.trans ((performs.evolves saneNow.sound).mono fun _ _ => trivial),
        fun retired => performs.retired saneNow.sound (laterNow.retired retired)⟩)
    ⟨orderly, later⟩ fresh
  exact ⟨transit, issued, transit', issued', sane, orderly, sane', orderly', later'⟩

/-- What has become of a task by a later moment at which it is still stored. -/
structure Matured (after : CoordinatorState P) (proofId taskId : String) (task task' : Task) :
    Prop where
  succeeded : task.status = .succeeded → task'.status = .succeeded
  fatal : task.status = .failedFatal → task'.status = .failedFatal ∨ task'.status = .succeeded
  never_again : task.status = .failedFatal →
    after.queueEntries proofId taskId = 0 ∧ (∀ workerId, ¬ after.Holds workerId proofId taskId) ∧
      task'.retries = task.retries ∧ task'.worker = task.worker
  retries_le : task.retries ≤ task'.retries
  bounded : task'.retries ≤ maxTaskRetries

theorem reach_matured (past future : List Event) (fresh : Event.FreshIds (past ++ future))
    {proofId taskId : String} {task task' : Task}
    (stored : (reach P build past).getTask proofId taskId = some task)
    (storedLater : (reach P build (past ++ future)).getTask proofId taskId = some task') :
    (reach P build (past ++ future)).Matured proofId taskId task task' := by
  obtain ⟨transit, issued, transit', issued', sane, orderly, sane', orderly', later⟩ :=
    reach_later (P := P) past future fresh
  have storedBoard : ((reach P build past).board transit issued).task (proofId, taskId) =
      some task := stored
  have storedBoard' : ((reach P build (past ++ future)).board transit' issued').task
      (proofId, taskId) = some task' := storedLater
  obtain ⟨same, storedToo, ages⟩ :=
    later.evolves.ages (sane.sound.task_issued storedBoard) storedBoard'
  obtain rfl : task = same := Option.some.inj (stored.symm.trans storedToo)
  refine ⟨ages.succeeded, ?_, ?_, ages.retries_le, orderly'.retries_le storedBoard'⟩
  · intro fatal
    have finished := ages.finished (by simp [Task.unfinished, fatal, TaskStatus.isFinal])
    cases status : task'.status <;> simp_all [Task.unfinished, TaskStatus.isFinal]
  · intro fatal
    have retired := later.retired (orderly.retired sane.sound storedBoard fatal)
    obtain ⟨-, retries, worker⟩ := retired.record storedLater
    refine ⟨?_, retired.unheld, retries, worker⟩
    rw [← count_board _ transit' issued']
    exact retired.unqueued

/-! ## When the counter goes up -/

section Failing

variable {transit : Set TaskKey} {issued : Set String} {state : CoordinatorState P}
  {workerId proofId taskId : String} {worker : Worker} {proof : Proof} {task task' : Task}
  (filed : LawfulPolicy.Filed state.policy) (sound : (state.board transit issued).Sound build)
  (env : Env) (retryable : Bool) (registered : state.workers.lookup workerId = some worker)
  (held : (proofId, taskId) ∈ worker.activeTasks)
  (found : state.proofs.lookup proofId = some proof)
  (stored : proof.tasks.lookup taskId = some task)
include filed sound registered held found stored

theorem retries_of_succeeded (succeeded : task.status = .succeeded)
    (storedAfter : (state.failTask build env workerId proofId taskId retryable).state.getTask
      proofId taskId = some task') : task'.retries = task.retries := by
  have here : (state.board transit issued).task (proofId, taskId) = some task :=
    (taskOf.of_lookup found).trans stored
  rw [failTask_of_succeeded registered held found stored succeeded, assignThen_state] at storedAfter
  have released : Steps build Inputs.none transit _ issued issued state _ :=
    steps_releaseOwn registered held here
  obtain ⟨same, storedToo, restarted⟩ := task_of_assignTasks (released.filed filed)
    (released.sound sound) env (proofId, taskId) storedAfter
  obtain rfl : task = same := Option.some.inj (here.symm.trans storedToo)
  exact restarted.retries

theorem record_of_accepted (notSucceeded : task.status ≠ .succeeded)
    (storedAfter : (state.failTask build env workerId proofId taskId retryable).state.getTask
      proofId taskId = some task') :
    task'.retries = (Task.fail retryable task).retries ∧
      (task'.status = .failedFatal ↔ (Task.fail retryable task).status = .failedFatal) := by
  have here : (state.board transit issued).task (proofId, taskId) = some task :=
    (taskOf.of_lookup found).trans stored
  rw [failTask_of_accepted registered held found stored notSucceeded, assignThen_state]
    at storedAfter
  let inputs : Inputs := (Call.failTask workerId proofId taskId retryable).inputs build
  obtain ⟨transit', -, steps⟩ : ∃ transit' ⊆ transit, Steps build inputs transit transit' issued
      issued state _ := steps_recordFailure filed sound env registered held found stored
    notSucceeded rfl rfl
  obtain ⟨written, storedWritten, restarted⟩ := task_of_assignTasks (steps.filed filed)
    (steps.sound sound) env (proofId, taskId) storedAfter
  have isWritten : written = Task.fail retryable task :=
    eq_of_written found rfl (proofs_recordFailure env retryable proof task) storedWritten
  exact isWritten ▸ ⟨restarted.retries, restarted.fatal_iff⟩

end Failing

/-- A failure report that sends a task back to its queue: from the holder, as
retryable, for a task that has not succeeded and has retries left. -/
def SendsBack (event : Event) (before : CoordinatorState P) (proofId taskId : String)
    (task : Task) : Prop :=
  ∃ workerId, event.call = .failTask workerId proofId taskId true ∧
    before.Holds workerId proofId taskId ∧ task.status ≠ .succeeded ∧
      task.retries < maxTaskRetries

/-- What one event does to the counter of a task that stays stored, and when a
failure report is fatal. -/
structure Counted (event : Event) (before : CoordinatorState P) (proofId taskId : String)
    (task task' : Task) : Prop where
  up : SendsBack event before proofId taskId task → task'.retries = task.retries + 1
  same : ¬ SendsBack event before proofId taskId task → task'.retries = task.retries
  fatal : ∀ workerId retryable, event.call = .failTask workerId proofId taskId retryable →
    before.Holds workerId proofId taskId → task.unfinished = true →
      (task'.status = .failedFatal ↔ retryable = false ∨ task.retries = maxTaskRetries)

theorem fail_retries (retryable : Bool) (task : Task) (bounded : task.retries ≤ maxTaskRetries) :
    (Task.fail retryable task).retries =
      if retryable = true ∧ task.retries < maxTaskRetries then task.retries + 1
      else task.retries := by
  unfold Task.fail Task.failureStatus
  by_cases last : task.retries = maxTaskRetries
  · simp [last]
  · have below : task.retries < maxTaskRetries := lt_of_le_of_ne bounded last
    cases retryable <;> simp [last, below]

theorem fail_fatal_iff (retryable : Bool) (task : Task) :
    (Task.fail retryable task).status = .failedFatal ↔
      retryable = false ∨ task.retries = maxTaskRetries := by
  unfold Task.fail Task.failureStatus
  by_cases last : task.retries = maxTaskRetries <;> cases retryable <;> simp [last]

theorem not_fails_of_ne {call : Call} {proofId taskId : String}
    (other : ∀ workerId retryable, call ≠ .failTask workerId proofId taskId retryable) :
    ¬ (call.inputs build).Fails (proofId, taskId) := by
  rintro ⟨retryable, reported⟩
  cases call with
  | failTask workerId otherProof otherTask otherRetryable =>
    have same : ((proofId, taskId), retryable) = ((otherProof, otherTask), otherRetryable) :=
      reported
    cases same
    exact other workerId retryable rfl
  | _ => exact absurd reported (Set.notMem_empty _)

theorem Sane.counted {past : List Event} {state : CoordinatorState P} {transit : Set TaskKey}
    {issued : Set String} (sane : state.Sane build past transit issued)
    (orderly : (state.board transit issued).Orderly) (event : Event)
    (fresh : Event.FreshIds (past ++ [event])) {proofId taskId : String} {task task' : Task}
    (stored : state.getTask proofId taskId = some task)
    (storedAfter : (state.step build event).getTask proofId taskId = some task') :
    Counted event state proofId taskId task task' := by
  have here : (state.board transit issued).task (proofId, taskId) = some task := stored
  by_cases accepted : ∃ workerId retryable,
      event.call = .failTask workerId proofId taskId retryable ∧
        state.Holds workerId proofId taskId
  · obtain ⟨workerId, retryable, isReport, holds⟩ := accepted
    obtain ⟨worker, registered, held⟩ := holds
    obtain ⟨proof, found, inProof⟩ := taskOf.exists_of_eq_some here
    have filed : LawfulPolicy.Filed state.clearOutbox.policy := sane.filed
    have sound : (state.clearOutbox.board transit issued).Sound build := sane.sound
    unfold CoordinatorState.step at storedAfter
    rw [isReport] at storedAfter
    by_cases succeeded : task.status = .succeeded
    · have retries := retries_of_succeeded filed sound event.env retryable registered held found
        inProof succeeded storedAfter
      refine ⟨?_, fun _ => retries, ?_⟩
      · rintro ⟨-, -, -, notSucceeded, -⟩
        exact absurd succeeded notSucceeded
      · intro _ _ _ _ unfinished
        simp [Task.unfinished, succeeded, TaskStatus.isFinal] at unfinished
    · obtain ⟨retries, fatal⟩ := record_of_accepted filed sound event.env retryable registered
        held found inProof succeeded storedAfter
      rw [fail_retries retryable task (orderly.retries_le here)] at retries
      rw [fail_fatal_iff] at fatal
      refine ⟨?_, ?_, ?_⟩
      · rintro ⟨other, isSame, -, -, below⟩
        cases isReport.symm.trans isSame
        rw [retries, if_pos ⟨rfl, below⟩]
      · intro notSent
        rw [retries, if_neg]
        rintro ⟨rfl, below⟩
        exact notSent ⟨workerId, isReport, ⟨worker, registered, held⟩, succeeded, below⟩
      · intro other otherRetryable isSame _ _
        cases isReport.symm.trans isSame
        exact fatal
  · have retries : task'.retries = task.retries := by
      by_cases isReport : ∃ workerId retryable,
          event.call = .failTask workerId proofId taskId retryable
      · obtain ⟨workerId, retryable, isReport⟩ := isReport
        have unheld : ¬ state.clearOutbox.Holds workerId proofId taskId := fun holds =>
          accepted ⟨workerId, retryable, isReport, holds⟩
        unfold CoordinatorState.step at storedAfter
        rw [isReport] at storedAfter
        change (state.clearOutbox.failTask build event.env workerId proofId taskId
            retryable).state.getTask proofId taskId = some task' at storedAfter
        rw [(failTask_of_unheld unheld).1] at storedAfter
        have same : some task = some task' := stored.symm.trans storedAfter
        cases same
        rfl
      · obtain ⟨transit', issued', sane', performs⟩ := sane.step event fresh
        have storedBoard : ((state.step build event).board transit' issued').task
            (proofId, taskId) = some task' := storedAfter
        obtain ⟨same, storedToo, ages⟩ := (performs.evolves sane.sound).ages
          (sane.sound.task_issued here) storedBoard
        obtain rfl : task = same := Option.some.inj (here.symm.trans storedToo)
        refine ages.retries_eq (not_fails_of_ne ?_)
        intro workerId retryable isSame
        exact isReport ⟨workerId, retryable, isSame⟩
    refine ⟨?_, fun _ => retries, ?_⟩
    · rintro ⟨workerId, isSame, holds, -⟩
      exact absurd ⟨workerId, true, isSame, holds⟩ accepted
    · intro workerId retryable isSame holds
      exact absurd ⟨workerId, retryable, isSame, holds⟩ accepted

/-- The life of the tasks of a run: what becomes of a task between two moments
at which it is stored, and what one event does to it. -/
structure LifeCycle (P : Type) [LawfulPolicy P] (build : Build) (events : List Event) : Prop where
  matured : ∀ past future, events = past ++ future →
    ∀ {proofId taskId : String} {task task' : Task},
      (reach P build past).getTask proofId taskId = some task →
      (reach P build events).getTask proofId taskId = some task' →
        (reach P build events).Matured proofId taskId task task'
  counted : ∀ past event, events = past ++ [event] →
    ∀ {proofId taskId : String} {task task' : Task},
      (reach P build past).getTask proofId taskId = some task →
      (reach P build events).getTask proofId taskId = some task' →
        Counted event (reach P build past) proofId taskId task task'

theorem lifeCycle (events : List Event) (fresh : Event.FreshIds events) :
    LifeCycle P build events := by
  constructor
  · rintro past future rfl proofId taskId task task' stored storedLater
    exact reach_matured past future fresh stored storedLater
  · rintro past event rfl proofId taskId task task' stored storedAfter
    obtain ⟨transit, issued, sane, orderly⟩ := reach_orderly (P := P) past fresh.of_append
    rw [reach_snoc] at storedAfter
    exact sane.counted orderly event fresh stored storedAfter

end CoordinatorState

/-- **The life of a task**, under both policies, along every run. -/
theorem task_life_cycle (build : Build) (events : List Event) (fresh : Event.FreshIds events) :
    CoordinatorState.LifeCycle DefaultPolicy build events ∧
      CoordinatorState.LifeCycle BalancedPolicy build events :=
  ⟨CoordinatorState.lifeCycle events fresh, CoordinatorState.lifeCycle events fresh⟩

/-- The holder reports a retryable failure of the task. -/
def shardFails : Event := (Call.failTask "g" "p" "u" true).plain ""

theorem task_life_cycle_oneShard :
    Event.FreshIds (oneShard ++ [shardFails]) ∧
      ((CoordinatorState.reach DefaultPolicy .plain (oneShard ++ [shardFails])).getTask "p"
        "u").map (·.retries) = some 1 ∧
      CoordinatorState.LifeCycle DefaultPolicy .plain (oneShard ++ [shardFails]) ∧
      CoordinatorState.LifeCycle BalancedPolicy .plain (oneShard ++ [shardFails]) := by
  have fresh : Event.FreshIds (oneShard ++ [shardFails]) := by
    unfold Event.FreshIds
    decide
  exact ⟨fresh, by decide, task_life_cycle .plain _ fresh⟩

/-- Three retryable failures. -/
def thriceFailed : List Event := oneShard ++ [shardFails, shardFails, shardFails]

/-- A fourth retryable failure of the holder is accepted, and the task stays
stored, but its counter does not go up. -/
theorem fourth_failure_not_counted :
    Event.FreshIds (thriceFailed ++ [shardFails]) ∧
      (CoordinatorState.reach DefaultPolicy .plain thriceFailed).isHeldBy "g" "p" "u" = true ∧
      ((CoordinatorState.reach DefaultPolicy .plain thriceFailed).exec .plain shardFails.env
        shardFails.call).reply.isOk = true ∧
      ((CoordinatorState.reach DefaultPolicy .plain thriceFailed).getTask "p" "u").map
        (fun task => (task.status, task.retries)) = some (.running, 3) ∧
      ((CoordinatorState.reach DefaultPolicy .plain (thriceFailed ++ [shardFails])).getTask "p"
        "u").map (fun task => (task.status, task.retries)) = some (.failedFatal, 3) := by
  refine ⟨?_, by decide, by decide, by decide, by decide⟩
  unfold Event.FreshIds
  decide

end Sp1Cluster
