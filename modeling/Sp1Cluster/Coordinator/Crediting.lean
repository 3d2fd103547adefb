import Sp1Cluster.Coordinator.LifeCycle
import Sp1Cluster.Coordinator.Settings

/-!
# Crediting device time

The coordinator adds the device time of a completion to a meter when the policy
had recorded an attempt of the reporting worker on a GPU and no report of that
attempt has been credited. A new assignment overwrites the record of an
attempt, so that a pair of a worker and a task is credited only once rests on
the life of the task: the first credit completes it, and a completed task is
never assigned again.
-/

set_option autoImplicit false

namespace Sp1Cluster

open Relation

namespace Board

variable {build : Build} {charges : Bool} {inputs : Inputs} {board board' : Board}
  {workerId : String} {key : TaskKey}

/-! ## Attempts on a GPU -/

/-- The record of a task lists an attempt of a worker on a GPU. -/
def Tried (board : Board) (workerId : String) (key : TaskKey) : Prop :=
  ∃ task attempt, board.task key = some task ∧ task.gpuAttempts.lookup workerId = some attempt ∧
    attempt.onGpu = true

/-- A worker of type `Gpu` or `All` holds a task. -/
def OnDevice (board : Board) (workerId : String) (key : TaskKey) : Prop :=
  ∃ worker, board.workers.lookup workerId = some worker ∧ key ∈ worker.activeTasks ∧
    (worker.workerType = .gpu ∨ worker.workerType = .all)

theorem Tried.of_set {proofId taskId : String} {proof proof' : Proof} {task task' : Task}
    (tried : board'.Tried workerId key) (found : board.proofs.lookup proofId = some proof)
    (stored : proof.tasks.lookup taskId = some task)
    (changed : proof'.tasks = proof.tasks.insert taskId task')
    (proofs : board'.proofs = board.proofs.insert proofId proof')
    (earlier : ∀ attempt, task'.gpuAttempts.lookup workerId = some attempt →
      attempt.onGpu = true → ∃ before, task.gpuAttempts.lookup workerId = some before ∧
        before.onGpu = true) :
    board.Tried workerId key := by
  obtain ⟨record, attempt, storedAfter, listed, onGpu⟩ := tried
  have after : board'.task key = if key = (proofId, taskId) then some task' else board.task key := by
    unfold Board.task
    rw [proofs]
    exact taskOf.set_eq found changed key
  rw [after] at storedAfter
  split at storedAfter
  · next same =>
    cases storedAfter
    obtain ⟨before, listedBefore, onGpuBefore⟩ := earlier attempt listed onGpu
    exact ⟨task, before, same ▸ (taskOf.of_lookup found).trans stored, listedBefore, onGpuBefore⟩
  · exact ⟨record, attempt, storedAfter, listed, onGpu⟩

theorem attempt_of_complete (reporter : String) {task : Task} {attempt : GpuAttempt}
    (listed : (Task.complete reporter task).gpuAttempts.lookup workerId = some attempt) :
    ∃ before, task.gpuAttempts.lookup workerId = some before ∧ before.onGpu = attempt.onGpu ∧
      (before.credited = true → attempt.credited = true) ∧
      (workerId = reporter → attempt.credited = true) := by
  change (Table.modify reporter _ task.gpuAttempts).lookup workerId = some attempt at listed
  rw [Table.lookup_modify_eq] at listed
  split at listed
  · next same =>
    subst same
    obtain ⟨before, found, rfl⟩ := Option.map_eq_some_iff.mp listed
    exact ⟨before, found, rfl, fun _ => rfl, fun _ => rfl⟩
  · next different => exact ⟨attempt, listed, rfl, id, fun same => absurd same different⟩

theorem Tried.of_move (move : Move build inputs board board')
    (tried : board'.Tried workerId key) : board.Tried workerId key := by
  cases move with
  | addProof absent empty idle =>
    obtain ⟨task, attempt, stored, listed⟩ := tried
    exact ⟨task, attempt, (taskOf.insert_empty_eq absent empty key).symm.trans stored, listed⟩
  | addTask env data found fresh weight =>
    obtain ⟨task, attempt, stored, listed, onGpu⟩ := tried
    rw [task_addTask (Task.new env data) found] at stored
    split at stored
    · cases stored
      cases listed
    · exact ⟨task, attempt, stored, listed, onGpu⟩
  | complete found stored alive reported =>
    refine tried.of_set found stored rfl rfl ?_
    intro attempt listed onGpu
    obtain ⟨before, listedBefore, same, -⟩ := attempt_of_complete _ listed
    exact ⟨before, listedBefore, same.trans onGpu⟩
  | fail found stored inTransit unfinished alive reported =>
    refine tried.of_set found stored rfl (proofs_failTask ..) ?_
    intro attempt listed onGpu
    exact ⟨attempt, listed, onGpu⟩
  | @removeProof proofId vacated ended =>
    obtain ⟨task, attempt, stored, listed⟩ := tried
    have after : (board.removeProof proofId).task key =
        if key.1 = proofId then none else board.task key := taskOf.erase_eq key
    rw [after] at stored
    split at stored
    · cases stored
    · exact ⟨task, attempt, stored, listed⟩
  | requeued found stored =>
    refine tried.of_set found stored rfl rfl ?_
    intro attempt listed onGpu
    exact ⟨attempt, listed, onGpu⟩
  | subscribe found stored unfinished asked =>
    refine tried.of_set found stored rfl rfl ?_
    intro attempt listed onGpu
    exact ⟨attempt, listed, onGpu⟩
  | _ => exact tried

/-- A turn records an attempt on a GPU for the worker it gives the task to. -/
theorem Tried.of_turn (turn : AssignStep build charges board board') (sound : board.Sound build)
    (tried : board'.Tried workerId key) :
    board.Tried workerId key ∨ board'.OnDevice workerId key := by
  cases turn with
  | discard waiting stale => exact .inl tried
  | @assign queued proof task taker worker bestWorkerTime startTime running waiting found inProof
      unfinished registered fits =>
      have here : board.task queued.key = some task := (taskOf.of_lookup found).trans inProof
      have sameId : task.id = queued.id := sound.task_id here
      have sameProof : task.data.proofId = queued.proofId := sound.task_proofId here
      obtain ⟨record, attempt, stored, listed, onGpu⟩ := tried
      change taskOf (board.proofs.insert queued.proofId
        { proof with tasks := proof.tasks.insert task.id (Task.start worker task) }) key =
          some record at stored
      rw [taskOf.set_eq found rfl] at stored
      split at stored
      · next same =>
        cases stored
        change (task.gpuAttempts.insert worker.id _).lookup workerId = some attempt at listed
        rw [Table.lookup_insert_eq, sound.worker_id registered] at listed
        split at listed
        · next taken =>
          cases listed
          refine .inr ⟨Worker.take task startTime worker, ?_, ?_, ?_⟩
          · subst taken
            exact AList.lookup_insert _
          · rw [same]
            refine (KeySet.mem_add ..).mpr (.inl ?_)
            rw [sameProof]
          · simpa [Worker.take] using onGpu
        · refine .inl ⟨task, attempt, ?_, listed, onGpu⟩
          rw [same, sameId]
          exact here
      · exact .inl ⟨record, attempt, stored, listed, onGpu⟩

theorem OnDevice.turn (onDevice : board.OnDevice workerId key)
    (turn : AssignStep build charges board board') : board'.OnDevice workerId key := by
  cases turn with
  | discard waiting stale => exact onDevice
  | @assign queued proof task taker worker bestWorkerTime startTime running waiting found inProof
      unfinished registered fits =>
      obtain ⟨holder, registeredHolder, held, device⟩ := onDevice
      by_cases same : workerId = taker
      · subst same
        obtain rfl : worker = holder := Option.some.inj (registered.symm.trans registeredHolder)
        exact ⟨Worker.take task startTime worker, AList.lookup_insert _,
          (KeySet.mem_add ..).mpr (.inr held), device⟩
      · refine ⟨holder, ?_, held, device⟩
        change (board.workers.insert taker _).lookup workerId = some holder
        rw [Table.lookup_insert_eq, if_neg same]
        exact registeredHolder

theorem Tried.of_moves (moves : Moves build inputs board board')
    (tried : board'.Tried workerId key) : board.Tried workerId key := by
  induction moves with
  | refl => exact tried
  | tail _ move ih => exact ih (tried.of_move move)

theorem Tried.of_turns (sound : board.Sound build)
    (turns : ReflTransGen (AssignStep build charges) board board')
    (tried : board'.Tried workerId key) :
    board.Tried workerId key ∨ board'.OnDevice workerId key := by
  induction turns with
  | refl => exact .inl tried
  | tail before turn ih =>
    rcases tried.of_turn turn (sound.assignSteps before) with triedBefore | onDevice
    · rcases ih triedBefore with atStart | onDevice
      · exact .inl atStart
      · exact .inr (onDevice.turn turn)
    · exact .inr onDevice

/-! ## Spent attempts -/

structure Spent (board : Board) (workerId : String) (key : TaskKey) : Prop where
  issued : key.2 ∈ board.issued
  succeeded : ∀ {task : Task}, board.task key = some task → task.status = .succeeded
  credited : ∀ {task : Task} {attempt : GpuAttempt}, board.task key = some task →
    task.gpuAttempts.lookup workerId = some attempt → attempt.credited = true

namespace Spent

/-- A completed task is not assigned again, so its attempts stay as they are. -/
theorem step (spent : board.Spent workerId key) (issued : board.issued ⊆ board'.issued)
    (step : TaskStep inputs board board' key (board.task key) (board'.task key)) :
    board'.Spent workerId key := by
  have after : ∀ task', board'.task key = some task' → task'.status = .succeeded ∧
      ∀ attempt, task'.gpuAttempts.lookup workerId = some attempt → attempt.credited = true := by
    intro task' stored
    rw [stored] at step
    generalize record : board.task key = before at step
    have finished : ∀ {task}, before = some task → task.status = .succeeded ∧
        task.unfinished = false := by
      rintro task rfl
      have succeeded := spent.succeeded record
      exact ⟨succeeded, by simp [Task.unfinished, succeeded, TaskStatus.isFinal]⟩
    cases step with
    | keep => exact ⟨(finished rfl).1, fun attempt => spent.credited record⟩
    | create env data fresh => exact absurd spent.issued fresh
    | complete reporter _ reported =>
      refine ⟨rfl, ?_⟩
      intro attempt listed
      obtain ⟨before, listedBefore, -, kept, -⟩ := attempt_of_complete reporter listed
      exact kept (spent.credited record listedBefore)
    | requeue => exact ⟨(finished rfl).1, fun attempt listed => spent.credited record listed⟩
    | fail _ _ _ unfinished | subscribe _ _ unfinished | start _ _ unfinished =>
      cases (finished rfl).2.symm.trans unfinished
  exact ⟨issued spent.issued, fun stored => (after _ stored).1,
    fun stored listed => (after _ stored).2 _ listed⟩

theorem plays {middle : Board} (spent : board.Spent workerId key) (sound : board.Sound build)
    (moves : Moves build inputs board middle)
    (turns : ReflTransGen (AssignStep build charges) middle board') : board'.Spent workerId key :=
  plays_rule (Q := fun board => board.Spent workerId key) sound spent
    (fun _ issued steps spent => spent.step issued (steps key)) moves turns

end Spent

end Board

/-! ## Reports -/

/-- A completion that a worker reports for a task. -/
def Event.Reports (event : Event) (workerId : String) (key : TaskKey) : Prop :=
  ∃ metadata, event.call = .completeTask workerId key.1 key.2 metadata

namespace CoordinatorState

open Board

variable {P : Type} [LawfulPolicy P] {build : Build}

/-- A report is credited: the task is stored, and its record lists an attempt of
the worker on a GPU that was not credited before. -/
def Credits (state : CoordinatorState P) (event : Event) (workerId : String) (key : TaskKey) :
    Prop :=
  event.Reports workerId key ∧
    ∃ task, taskOf state.proofs key = some task ∧ task.creditsGpuTime workerId = true

section Calls

variable {transit : Set TaskKey} {issued : Set String} {state : CoordinatorState P}

theorem tried_of_credits (transit : Set TaskKey) (issued : Set String) {event : Event}
    {workerId : String} {key : TaskKey} (credits : state.Credits event workerId key) :
    (state.board transit issued).Tried workerId key := by
  obtain ⟨-, task, stored, credited⟩ := credits
  unfold Task.creditsGpuTime at credited
  split at credited
  · next attempt listed =>
    simp only [Bool.and_eq_true] at credited
    exact ⟨task, attempt, stored, listed, credited.2⟩
  · cases credited

theorem not_credits_of_spent {event : Event} {workerId : String} {key : TaskKey}
    (spent : (state.board transit issued).Spent workerId key) :
    ¬ state.Credits event workerId key := by
  rintro ⟨-, task, stored, credited⟩
  unfold Task.creditsGpuTime at credited
  split at credited
  · next attempt listed =>
    have spentAttempt := spent.credited stored listed
    simp [spentAttempt] at credited
  · cases credited

/-- The meter changes only by a report that is credited. -/
theorem meter_step (event : Event) :
    (state.step build event).gpuBusyMsTotal = state.gpuBusyMsTotal ∨
      ((∃ workerId key, state.Credits event workerId key) ∧
        ∃ gpuMs, (state.step build event).gpuBusyMsTotal =
          saturatingAdd64 state.gpuBusyMsTotal gpuMs) := by
  unfold CoordinatorState.step
  by_cases quiet : event.call.sets = false
  · exact .inl (settings_exec event.env quiet).gpuBusyMsTotal
  · cases call : event.call with
    | completeTask workerId proofId taskId metadata =>
      rcases state.clearOutbox.settings_completeTask event.env workerId proofId taskId
        metadata with same | ⟨credited, added⟩
      · exact .inl same.gpuBusyMsTotal
      · exact .inr ⟨⟨workerId, (proofId, taskId), ⟨metadata, call⟩, credited⟩, metadata.gpuMs,
          added.gpuBusyMsTotal⟩
    | setProofsTx => exact .inl rfl
    | setExecuteOnlyMode executeOnlyMode => exact .inl rfl
    | setWorkerHeartbeatTimeout secs => exact .inl rfl
    | shutdown => exact .inl rfl
    | _ =>
      rw [call] at quiet
      exact absurd rfl quiet

theorem spent_of_credits (state : CoordinatorState P) (filed : LawfulPolicy.Filed state.policy)
    (sound : (state.board transit issued).Sound build) {event : Event} {workerId : String}
    {key : TaskKey} (credits : state.Credits event workerId key) :
    ∃ transit', ((state.exec build event.env event.call).state.board transit' issued).Spent workerId
      key := by
  obtain ⟨⟨metadata, isReport⟩, task, here, -⟩ := credits
  obtain ⟨proofId, taskId⟩ := key
  obtain ⟨proof, found, stored⟩ := taskOf.exists_of_eq_some here
  rw [isReport]
  change ∃ transit', ((state.completeTask build event.env workerId proofId taskId
    metadata).state.board transit' issued).Spent workerId (proofId, taskId)
  have written : ∀ record, taskOf (state.afterCompletion build event.env workerId proofId taskId
      proof task metadata).proofs (proofId, taskId) = some record →
        record = Task.complete workerId task := by
    intro record storedAfter
    have written := afterCompletion_written sound event.env workerId metadata found stored
    exact eq_of_written found rfl (written.imp_right And.left) storedAfter
  have spent : ∀ transit', ((state.afterCompletion build event.env workerId proofId taskId proof
      task metadata).board transit' issued).Spent workerId (proofId, taskId) := by
    intro transit'
    refine ⟨sound.task_issued here, ?_, ?_⟩
    · intro record storedAfter
      rw [written record storedAfter]
      rfl
    · intro record attempt storedAfter listed
      rw [written record storedAfter] at listed
      obtain ⟨-, -, -, -, own⟩ := attempt_of_complete workerId listed
      exact own rfl
  rcases completeTask_cases event.env workerId metadata found stored with assigned | direct
  · obtain ⟨inputs, transit', steps⟩ :=
      steps_afterCompletion filed sound event.env workerId metadata found stored
    have soundAfter := steps.sound sound
    have assigns := LawfulPolicy.assigns build event.env (steps.filed filed)
      ⟨soundAfter.task_id, soundAfter.task_proofId, soundAfter.worker_id, soundAfter.queue_type,
        soundAfter.entry_type⟩
    rw [assigned, assignThen_state]
    have unmoved : ∀ board, Moves build Inputs.none board board := fun _ => .refl
    exact ⟨transit', (spent transit').plays soundAfter (unmoved _) (assigns.turns transit' issued)⟩
  · rw [direct]
    exact ⟨transit, spent transit⟩

end Calls

/-! ## Runs -/

/-- Between two states a policy gives a task to a worker for its GPU: the record
of the task lists an attempt of the worker on a GPU that it did not list before,
and the worker holds the task and is of type `Gpu` or `All`. -/
structure HandsOut (before after : CoordinatorState P) (workerId : String) (key : TaskKey) :
    Prop where
  unlisted : ¬ (before.board ∅ ∅).Tried workerId key
  listed : (after.board ∅ ∅).Tried workerId key
  held : (after.board ∅ ∅).OnDevice workerId key

/-- An attempt on a GPU that a run has recorded was handed out by one of its
events. -/
theorem reach_tried (events : List Event) (fresh : Event.FreshIds events) {workerId : String}
    {key : TaskKey} (tried : ((reach P build events).board ∅ ∅).Tried workerId key) :
    ∃ earlier event, earlier ++ [event] <+: events ∧
      (reach P build earlier).HandsOut (reach P build (earlier ++ [event])) workerId key := by
  induction events using List.reverseRecOn with
  | nil =>
    obtain ⟨task, attempt, stored, -⟩ := tried
    cases stored
  | append_singleton past event ih =>
    by_cases triedBefore : ((reach P build past).board ∅ ∅).Tried workerId key
    · obtain ⟨earlier, handing, within, handsOut⟩ := ih fresh.of_append triedBefore
      exact ⟨earlier, handing, within.trans (List.prefix_append _ _), handsOut⟩
    · refine ⟨past, event, List.prefix_rfl, triedBefore, tried, ?_⟩
      obtain ⟨transit, issued, sane⟩ := reach_sane P build fresh.of_append
      obtain ⟨transit', issued', -, performs⟩ := sane.step event fresh
      rw [reach_snoc] at tried ⊢
      obtain ⟨middle, moves, turns⟩ := performs.plays
      rcases Tried.of_turns (sane.sound.moves moves) turns tried with triedMiddle | onDevice
      · exact absurd (triedMiddle.of_moves moves) triedBefore
      · exact onDevice

/-- Once a report was credited, the attempt stays spent. -/
theorem reach_spent (past future : List Event) (event : Event)
    (fresh : Event.FreshIds (past ++ [event] ++ future)) {workerId : String} {key : TaskKey}
    (credits : (reach P build past).Credits event workerId key) :
    ∃ transit issued,
      (reach P build (past ++ [event] ++ future)).Sane build (past ++ [event] ++ future) transit
        issued ∧
      ((reach P build (past ++ [event] ++ future)).board transit issued).Spent workerId key := by
  have freshThen := fresh.of_append
  obtain ⟨transit, issued, sane⟩ := reach_sane P build freshThen.of_append
  obtain ⟨transit', issued', sane', performs⟩ := sane.step event freshThen
  have filed : LawfulPolicy.Filed (reach P build past).clearOutbox.policy := sane.filed
  have sound : ((reach P build past).clearOutbox.board transit issued).Sound build := sane.sound
  obtain ⟨unplaced, spent⟩ := (reach P build past).clearOutbox.spent_of_credits filed
    sound credits
  unfold reach
  rw [Systems.run_append, Systems.run_snoc]
  refine sane'.run_rule (fun _ board => board.Spent workerId key) ?_
    ⟨(performs.evolves sane.sound).issued spent.issued, spent.succeeded, spent.credited⟩ fresh
  intro _ _ _ _ _ _ _ saneNow played spentNow
  obtain ⟨middle, moves, turns⟩ := played.plays
  exact spentNow.plays saneNow.sound moves turns

/-- The meter fits into a 64-bit word. -/
theorem reach_meter_le (events : List Event) :
    (reach P build events).gpuBusyMsTotal ≤ 2 ^ 64 - 1 := by
  induction events using List.reverseRecOn with
  | nil => exact Nat.zero_le _
  | append_singleton past event ih =>
    rw [reach_snoc]
    rcases (reach P build past).meter_step event with same | ⟨-, gpuMs, added⟩
    · rw [same]
      exact ih
    · rw [added]
      exact Nat.min_le_right _ _

theorem reach_meter_mono (past future : List Event) :
    (reach P build past).gpuBusyMsTotal ≤ (reach P build (past ++ future)).gpuBusyMsTotal := by
  induction future using List.reverseRecOn with
  | nil => rw [List.append_nil]
  | append_singleton between event ih =>
    have bounded : (reach P build (past ++ between)).gpuBusyMsTotal ≤ 2 ^ 64 - 1 :=
      reach_meter_le _
    rw [← List.append_assoc, reach_snoc]
    rcases (reach P build (past ++ between)).meter_step event with same | ⟨-, gpuMs, added⟩
    · rw [same]
      exact ih
    · rw [added]
      exact ih.trans (Nat.le_min.mpr ⟨Nat.le_add_right _ _, bounded⟩)

/-- An event of a run moves the meter. -/
def MovesMeter (P : Type) [LawfulPolicy P] (build : Build) (past : List Event) (event : Event) :
    Prop :=
  (reach P build (past ++ [event])).gpuBusyMsTotal ≠ (reach P build past).gpuBusyMsTotal

theorem credits_of_moves {past : List Event} {event : Event}
    (moved : MovesMeter P build past event) :
    ∃ workerId key, (reach P build past).Credits event workerId key := by
  unfold MovesMeter at moved
  rw [reach_snoc] at moved
  rcases (reach P build past).meter_step event with same | ⟨credits, -⟩
  · exact absurd same moved
  · exact credits

/-- What the meter of GPU time shows along a run: it never goes down; it moves
only by a report of a worker for a task that a policy gave to the worker while
its type was `Gpu` or `All`; and of the reports of one worker for one task at
most one moves it. -/
structure CreditsSound (P : Type) [LawfulPolicy P] (build : Build) (events : List Event) :
    Prop where
  never_down : ∀ past future, events = past ++ future →
    (reach P build past).gpuBusyMsTotal ≤ (reach P build events).gpuBusyMsTotal
  assigned : ∀ past event future, events = past ++ [event] ++ future →
    MovesMeter P build past event →
      ∃ workerId key, event.Reports workerId key ∧
        ∃ earlier handing, earlier ++ [handing] <+: past ∧
          (reach P build earlier).HandsOut (reach P build (earlier ++ [handing])) workerId key
  once : ∀ past first between second future,
    events = past ++ [first] ++ between ++ [second] ++ future →
      ∀ workerId key, first.Reports workerId key → second.Reports workerId key →
        MovesMeter P build past first →
          ¬ MovesMeter P build (past ++ [first] ++ between) second

theorem Reports.unique {event : Event} {workerId workerId' : String} {key key' : TaskKey}
    (reports : event.Reports workerId key) (reports' : event.Reports workerId' key') :
    workerId = workerId' ∧ key = key' := by
  obtain ⟨metadata, call⟩ := reports
  obtain ⟨metadata', call'⟩ := reports'
  rw [call] at call'
  injection call' with sameWorker sameProof sameTask
  exact ⟨sameWorker, Prod.ext sameProof sameTask⟩

theorem creditsSound (events : List Event) (fresh : Event.FreshIds events) :
    CreditsSound P build events where
  never_down := by
    rintro past future rfl
    exact reach_meter_mono past future
  assigned := by
    rintro past event future rfl moved
    obtain ⟨workerId, key, credits⟩ := credits_of_moves moved
    exact ⟨workerId, key, credits.1,
      reach_tried past fresh.of_append.of_append (tried_of_credits ∅ ∅ credits)⟩
  once := by
    rintro past first between second future rfl workerId key isFirst isSecond movedFirst movedSecond
    obtain ⟨reporter, reported, creditsFirst⟩ := credits_of_moves movedFirst
    obtain ⟨rfl, rfl⟩ := Reports.unique creditsFirst.1 isFirst
    obtain ⟨reporter', reported', creditsSecond⟩ := credits_of_moves movedSecond
    obtain ⟨rfl, rfl⟩ := Reports.unique creditsSecond.1 isSecond
    obtain ⟨transit, issued, -, spent⟩ :=
      reach_spent past between first fresh.of_append.of_append creditsFirst
    exact not_credits_of_spent spent creditsSecond

end CoordinatorState

/-- **GPU busy time is credited soundly**: along every run, under either policy,
the meter never goes down, moves only by reports of workers that were given the
task on a GPU, and moves at most once for each worker and task. -/
theorem gpu_credits_sound (build : Build) (events : List Event) (fresh : Event.FreshIds events) :
    CoordinatorState.CreditsSound DefaultPolicy build events ∧
      CoordinatorState.CreditsSound BalancedPolicy build events :=
  ⟨CoordinatorState.creditsSound events fresh, CoordinatorState.creditsSound events fresh⟩

/-- A run in which the GPU task of a proof is reported twice by its worker. -/
def reportedTwice : List Event :=
  oneShard ++ [(Call.completeTask "g" "p" "u" ⟨70⟩).plain "",
    (Call.completeTask "g" "p" "u" ⟨70⟩).plain ""]

theorem gpu_credits_sound_reportedTwice :
    Event.FreshIds reportedTwice ∧
      (CoordinatorState.reach DefaultPolicy .plain oneShard).gpuBusyMsTotal = 0 ∧
      (CoordinatorState.reach DefaultPolicy .plain reportedTwice).gpuBusyMsTotal = 70 ∧
      CoordinatorState.CreditsSound DefaultPolicy .plain reportedTwice ∧
      CoordinatorState.CreditsSound BalancedPolicy .plain reportedTwice := by
  have fresh : Event.FreshIds reportedTwice := by
    unfold Event.FreshIds
    decide
  exact ⟨fresh, by decide, by decide, gpu_credits_sound .plain reportedTwice fresh⟩

end Sp1Cluster
