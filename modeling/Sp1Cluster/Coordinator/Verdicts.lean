import Sp1Cluster.Coordinator.Notices

/-!
# What calls say about tasks

A task identifier names one task, a succeeded task has no subscribers, and the
status of a finished task stays as it is unless a completion is reported for a
task that has failed fatally. Every notice of a call is about a task that was
unfinished, or finished with the status of the notice, and all notices of one
call carry the same status.
-/

set_option autoImplicit false

namespace Sp1Cluster

open Relation

/-! ## Invariants of the board -/

namespace Board

variable {build : Build} {charges : Bool} {inputs : Inputs} {board board' : Board} {key : TaskKey}

/-- An identifier names one task, and a succeeded task has no subscribers. -/
structure Tidy (board : Board) : Prop where
  distinct : ∀ {first second : TaskKey} {task task' : Task}, first.2 = second.2 →
    board.task first = some task → board.task second = some task' → first = second
  unsubscribed : ∀ {key : TaskKey} {task : Task}, board.task key = some task →
    task.status = .succeeded → task.subscribers = ∅

namespace Tidy

theorem unsubscribed_step (tidy : board.Tidy)
    (step : TaskStep inputs board board' key (board.task key) (board'.task key)) {task' : Task}
    (stored : board'.task key = some task') (succeeded : task'.status = .succeeded) :
    task'.subscribers = ∅ := by
  rw [stored] at step
  generalize record : board.task key = before at step
  cases step with
  | create env data fresh alone => rfl
  | keep => exact tidy.unsubscribed record succeeded
  | complete workerId _ reported =>
    unfold Task.complete
    dsimp only
    split
    · next before => exact tidy.unsubscribed record before
    · rfl
  | @fail retryable task inTransit unfinished reported settled =>
    have status : task.failureStatus retryable = .succeeded := succeeded
    unfold Task.failureStatus at status
    split at status <;> cases status
  | @requeue task =>
    have before : task.status = .succeeded := succeeded
    have empty := tidy.unsubscribed record before
    exact empty
  | @subscribe subId task unfinished asked =>
    have before : task.status = .succeeded := succeeded
    simp [Task.unfinished, before, TaskStatus.isFinal] at unfinished
  | start worker _ unfinished waiting => cases succeeded

/-- A key that was not stored before names a new identifier. -/
theorem stored_or_new
    (step : TaskStep inputs board board' key (board.task key) (board'.task key)) {task' : Task}
    (stored : board'.task key = some task') :
    (∃ task, board.task key = some task) ∨ (key.2 ∉ board.issued ∧
      ∀ other, other.2 = key.2 → other ≠ key → board'.task other = none) := by
  rw [stored] at step
  generalize board.task key = before at step ⊢
  cases step with
  | create env data fresh alone => exact .inr ⟨fresh, alone⟩
  | _ => exact .inl ⟨_, rfl⟩

theorem of_steps (tidy : board.Tidy) (sound : board.Sound build)
    (steps : ∀ key, TaskStep inputs board board' key (board.task key) (board'.task key)) :
    board'.Tidy := by
  refine ⟨?_, fun {key task} => tidy.unsubscribed_step (steps key)⟩
  intro first second task task' sameId storedFirst storedSecond
  rcases stored_or_new (steps first) storedFirst with ⟨before, wasFirst⟩ | ⟨fresh, alone⟩
  · rcases stored_or_new (steps second) storedSecond with ⟨before', wasSecond⟩ | ⟨fresh, -⟩
    · exact tidy.distinct sameId wasFirst wasSecond
    · exact absurd (sameId ▸ sound.task_issued wasFirst) fresh
  · by_contra different
    rw [alone second sameId.symm (Ne.symm different)] at storedSecond
    cases storedSecond

end Tidy

/-- A task that has been finished with a status, whether it is still stored or
not. The inputs of the coming steps complete it only if it has succeeded. -/
structure Verdict (inputs : Inputs) (board : Board) (taskId : String) (status : TaskStatus) :
    Prop where
  issued : taskId ∈ board.issued
  record : ∀ {key : TaskKey} {task : Task}, key.2 = taskId → board.task key = some task →
    task.status = status
  uncompleted : ∀ {key : TaskKey} {task : Task}, key.2 = taskId → board.task key = some task →
    key ∈ inputs.completed → status = .succeeded

namespace Verdict

variable {taskId : String} {status : TaskStatus}

theorem of_steps (verdict : board.Verdict inputs taskId status) (final : status.isFinal = true)
    (issued : board.issued ⊆ board'.issued)
    (steps : ∀ key, TaskStep inputs board board' key (board.task key) (board'.task key)) :
    board'.Verdict inputs taskId status := by
  have before : ∀ {key : TaskKey} {task' : Task}, key.2 = taskId → board'.task key = some task' →
      ∃ task, board.task key = some task := by
    intro key task' sameId stored
    rcases Tidy.stored_or_new (steps key) stored with was | ⟨fresh, -⟩
    · exact was
    · exact absurd verdict.issued (sameId ▸ fresh)
  refine ⟨issued verdict.issued, ?_, ?_⟩
  · intro key task' sameId stored
    obtain ⟨task, was⟩ := before sameId stored
    have same := verdict.record sameId was
    have finished : task.unfinished = false := by simp [Task.unfinished, same, final]
    have step := steps key
    rw [was, stored] at step
    cases step with
    | keep => exact same
    | complete workerId _ reported => exact (verdict.uncompleted sameId was reported).symm
    | fail retryable _ inTransit unfinished reported settled =>
      rw [finished] at unfinished
      cases unfinished
    | requeue => exact same
    | subscribe subId _ unfinished asked => exact same
    | start worker _ unfinished waiting =>
      rw [finished] at unfinished
      cases unfinished
  · intro key task' sameId stored reported
    obtain ⟨task, was⟩ := before sameId stored
    exact verdict.uncompleted sameId was reported

end Verdict

end Board

/-! ## The notices of a call -/

namespace CoordinatorState

open Board

section Sections

variable {P : Type} {origin state state' : CoordinatorState P}

/-- What a notice of a call that starts in a state and ends in another says: the
task was unfinished, or had this status already, and has it afterwards if it is
still stored. -/
structure Tells (origin state : CoordinatorState P) (status : TaskStatus) (notice : Notice) :
    Prop where
  verdict : notice.status = status
  known : ∃ task, taskOf origin.proofs notice.key = some task ∧
    notice.subId ∈ task.subscribers ∧ (task.unfinished = true ∨ task.status = status)
  record : ∀ {task : Task}, taskOf state.proofs notice.key = some task → task.status = status

/-- A notice of a teardown: the task was stored with this subscriber, has not
succeeded, and is stored no more. -/
structure Doomed (origin state : CoordinatorState P) (notice : Notice) : Prop where
  verdict : notice.status = .failedFatal
  known : ∃ task, taskOf origin.proofs notice.key = some task ∧
    notice.subId ∈ task.subscribers ∧ task.status ≠ .succeeded
  gone : taskOf state.proofs notice.key = none

theorem Doomed.tells {notice : Notice} (doomed : Doomed origin state notice) :
    Tells origin state .failedFatal notice where
  verdict := doomed.verdict
  known := by
    obtain ⟨task, stored, subscribed, notSucceeded⟩ := doomed.known
    refine ⟨task, stored, subscribed, ?_⟩
    by_cases fatal : task.status = .failedFatal
    · exact .inr fatal
    · exact .inl ((unfinished_iff task).mpr ⟨notSucceeded, fatal⟩)
  record stored := by
    rw [doomed.gone] at stored
    cases stored

/-- A section that has torn proofs down so far: every notice it has heard is
doomed, and the tasks that are left have the subscribers they had. -/
structure Torn (origin state : CoordinatorState P) : Prop where
  told : ∀ notice ∈ state.heard .notices, Doomed origin state notice
  kept : ∀ {key : TaskKey} {task' : Task}, taskOf state.proofs key = some task' →
    ∃ task, taskOf origin.proofs key = some task ∧ task'.subscribers = task.subscribers

namespace Torn

theorem of_silent (silent : origin.heard .notices = []) : Torn origin origin where
  told notice heard := by
    rw [silent] at heard
    cases heard
  kept stored := ⟨_, stored, rfl⟩

theorem of_frame (torn : Torn origin state)
    (told : ∀ notice ∈ state'.heard .notices, notice ∈ state.heard .notices ∨
      Doomed origin state' notice)
    (kept : ∀ {key : TaskKey} {task' : Task}, taskOf state'.proofs key = some task' →
      ∃ task, taskOf state.proofs key = some task ∧ task'.subscribers = task.subscribers) :
    Torn origin state' where
  told notice member := by
    rcases told notice member with before | doomed
    · obtain ⟨verdict, known, gone⟩ := torn.told notice before
      refine ⟨verdict, known, ?_⟩
      cases stored : taskOf state'.proofs notice.key with
      | none => rfl
      | some task' =>
        obtain ⟨task, was, -⟩ := kept stored
        rw [gone] at was
        cases was
    · exact doomed
  kept stored := by
    obtain ⟨task, was, same⟩ := kept stored
    obtain ⟨original, there, before⟩ := torn.kept was
    exact ⟨original, there, same.trans before⟩

theorem of_proofs (torn : Torn origin state) (heard : state'.heard .notices = state.heard .notices)
    (proofs : state'.proofs = state.proofs) : Torn origin state' := by
  refine torn.of_frame (fun notice member => .inl (heard ▸ member)) ?_
  intro key task' stored
  rw [proofs] at stored
  exact ⟨task', stored, rfl⟩

theorem kept_of_erase {proofId : String} (proofs : state'.proofs = state.proofs.erase proofId)
    {key : TaskKey} {task' : Task} (stored : taskOf state'.proofs key = some task') :
    ∃ task, taskOf state.proofs key = some task ∧ task'.subscribers = task.subscribers := by
  rw [proofs, taskOf.erase_eq] at stored
  split at stored
  · cases stored
  · exact ⟨task', stored, rfl⟩

variable [AssignmentPolicy P] {build : Build} {proofId : String}

/-- A teardown dooms the tasks of its proof that have subscribers; none of them
has succeeded, because a succeeded task has none. -/
theorem tearDown (torn : Torn origin state)
    (unsubscribed : ∀ {key : TaskKey} {task : Task}, taskOf origin.proofs key = some task →
      task.status = .succeeded → task.subscribers = ∅)
    (own : ∀ {key : TaskKey} {task : Task}, taskOf state.proofs key = some task → task.id = key.2)
    (env : Env) (notifySender : Bool) (extraData : Option String)
    (skip : Option (String × String)) :
    Torn origin (state.tearDown build env proofId notifySender extraData skip) := by
  have erased : (state.tearDown build env proofId notifySender extraData skip).proofs =
    state.proofs.erase proofId := proofs_tearDown env notifySender extraData skip
  refine torn.of_frame ?_ (kept_of_erase erased)
  intro notice member
  cases found : state.proofs.lookup proofId with
  | none =>
    rw [heard_tearDown_of_none _ env notifySender extraData skip found] at member
    exact .inl member
  | some proof =>
    rw [heard_tearDown _ env notifySender extraData skip found, List.mem_append,
      mem_teardownNotices] at member
    rcases member with before | ⟨taskId, task, stored, subscribed, inProof, named, verdict⟩
    · exact .inl before
    · have inTable : taskOf state.proofs (proofId, taskId) = some task :=
        (taskOf.of_lookup found).trans stored
      have sameKey : notice.key = (proofId, taskId) :=
        Prod.ext inProof (named.trans (own inTable))
      obtain ⟨original, there, same⟩ := torn.kept inTable
      refine .inr ⟨verdict, ⟨original, sameKey ▸ there, same ▸ subscribed, ?_⟩, ?_⟩
      · intro succeeded
        rw [same, unsubscribed there succeeded] at subscribed
        exact AList.notMem_empty _ subscribed
      · rw [erased, taskOf.erase_eq, sameKey]
        exact if_pos rfl

end Torn

end Sections

section Reports

variable {P : Type} [LawfulPolicy P] {build : Build} {transit : Set TaskKey}
  {issued : Set String} {origin state : CoordinatorState P}
  {workerId proofId taskId : String} {worker : Worker} {proof : Proof} {task : Task}
  {retryable : Bool}

variable (filed : LawfulPolicy.Filed state.policy)
  (sound : (state.board transit issued).Sound build)

include filed sound in
theorem Tells.assignTasks {status : TaskStatus} {notice : Notice}
    (tells : Tells origin state status notice) (final : status.isFinal = true) (env : Env) :
    Tells origin (AssignmentPolicy.assignTasks build env state).1 status notice where
  verdict := tells.verdict
  known := tells.known
  record := by
    intro task' stored
    obtain ⟨task, was, restarted⟩ := task_of_assignTasks filed sound env _ stored
    have same := tells.record was
    have finished : task.unfinished = false := by simp [Task.unfinished, same, final]
    rw [restarted.settled finished]
    exact same

include filed sound in
theorem Torn.assignTasks (torn : Torn origin state) (env : Env) :
    Torn origin (AssignmentPolicy.assignTasks build env state).1 := by
  have silent : (AssignmentPolicy.assignTasks build env state).1.heard .notices =
    state.heard .notices := heard_assignTasks .notices env
  refine torn.of_frame (fun notice member => .inl (silent ▸ member)) ?_
  intro key task' stored
  obtain ⟨task, was, restarted⟩ := task_of_assignTasks filed sound env key stored
  exact ⟨task, was, restarted.subscribers⟩

/-- The part of a failure report under the lock, up to the assignment. -/
theorem Torn.recordFailure (silent : state.heard .notices = [])
    (unsubscribed : ∀ {key : TaskKey} {task : Task}, taskOf state.proofs key = some task →
      task.status = .succeeded → task.subscribers = ∅)
    (sound : (state.board transit issued).Sound build) (env : Env) (workerId : String)
    (retryable : Bool) (found : state.proofs.lookup proofId = some proof)
    (stored : proof.tasks.lookup taskId = some task) :
    Torn state (state.recordFailure build env workerId proofId taskId retryable proof task) := by
  have written : Torn state
      (state.writeRecord proofId taskId (proof.failTask retryable taskId task)) := by
    refine (Torn.of_silent silent).of_frame (fun notice member => .inl ?_) ?_
    · rwa [heard_emit .notices rfl] at member
    · intro key task' there
      have after := (taskOf.set_eq found rfl key).symm.trans there
      split at after
      · next same =>
        cases after
        exact ⟨task, same ▸ (taskOf.of_lookup found).trans stored, rfl⟩
      · exact ⟨task', after, rfl⟩
  refine recordFailure_rule (Q := Torn state) env retryable rfl written ?_ ?_ ?_
  · exact written.tearDown unsubscribed (task_id_of_failTask sound retryable found stored) env true
      none _
  · intro _
    refine written.of_frame ?_ (Torn.kept_of_erase (proofs_releaseRemainingAssignments ..))
    intro notice member
    rw [heard_releaseRemainingAssignments] at member
    exact .inl member
  · exact fun torn proofs sent => torn.of_proofs (congrArg Listener.notices.all sent) proofs

/-- All notices of a call carry one final status. -/
def SpeaksOnce (origin : CoordinatorState P) (outcome : Outcome P Unit) : Prop :=
  ∃ status : TaskStatus, status.isFinal = true ∧
    ∀ notice ∈ outcome.state.heard .notices ++ Listener.notices.all outcome.after,
      Tells origin outcome.state status notice

omit [LawfulPolicy P] in
theorem speaksOnce_of_silent {outcome : Outcome P Unit}
    (silent : outcome.state.heard .notices ++ Listener.notices.all outcome.after = []) :
    SpeaksOnce origin outcome := by
  refine ⟨.succeeded, rfl, ?_⟩
  rw [silent]
  exact fun notice member => (List.not_mem_nil member).elim

theorem mem_notices_assignThen {env : Env} {after : List Effect} {notice : Notice}
    (member : notice ∈ Listener.notices.all (state.assignThen build env () after).after) :
    notice ∈ Listener.notices.all after := by
  unfold assignThen at member
  split at member
  · cases member
  · exact member

theorem eq_of_mem_notifySubscribers {subscribers : KeySet String} {status : TaskStatus}
    {notice : Notice} (member : notice ∈ Listener.notices.all
      [.notifySubscribers subscribers.keys proofId taskId status]) :
    notice.key = (proofId, taskId) ∧ notice.subId ∈ subscribers ∧ notice.status = status := by
  simp only [Listener.all, Listener.notices, List.flatMap_cons, List.flatMap_nil,
    List.append_nil, List.mem_map] at member
  obtain ⟨subId, subscribed, rfl⟩ := member
  exact ⟨rfl, AList.mem_keys.mp subscribed, rfl⟩

include filed sound in
theorem failTask_speaksOnce (silent : state.heard .notices = [])
    (unsubscribed : ∀ {key : TaskKey} {task : Task}, taskOf state.proofs key = some task →
      task.status = .succeeded → task.subscribers = ∅) (env : Env)
    (workerId proofId taskId : String) (retryable : Bool) :
    SpeaksOnce state (state.failTask build env workerId proofId taskId retryable) := by
  have outcome := failTask_outcome filed sound env workerId proofId taskId retryable
  generalize state.failTask build env workerId proofId taskId retryable = result at outcome ⊢
  cases outcome with
  | refused same after =>
    refine speaksOnce_of_silent ?_
    rw [same, after, silent]
    rfl
  | finished _ _ =>
    refine speaksOnce_of_silent (List.append_eq_nil_iff.mpr ⟨?_, ?_⟩)
    · rw [assignThen_state, heard_assignTasks]
      exact silent
    · exact List.eq_nil_iff_forall_not_mem.mpr fun notice member =>
        List.not_mem_nil (mem_notices_assignThen member)
  | @recorded proof task _ _ found stored _ unfinished _ steps =>
    have torn := Torn.recordFailure silent unsubscribed sound env workerId retryable found stored
    refine ⟨.failedFatal, rfl, ?_⟩
    rw [assignThen_state]
    intro notice member
    rcases List.mem_append.mp member with underLock | later
    · exact ((torn.assignTasks (steps.filed filed) (steps.sound sound) env).told notice
        underLock).tells
    · have after := mem_notices_assignThen later
      unfold failureNotices at after
      split at after
      · next fatal =>
        obtain ⟨sameKey, subscribed, verdict⟩ := eq_of_mem_notifySubscribers after
        refine Tells.assignTasks (steps.filed filed) (steps.sound sound) ⟨verdict, ?_, ?_⟩ rfl
          env
        · exact ⟨task, sameKey ▸ (taskOf.of_lookup found).trans stored, subscribed,
            .inl unfinished⟩
        · intro record storedAfter
          rw [sameKey] at storedAfter
          rw [eq_of_written found rfl (proofs_recordFailure env retryable proof task)
            storedAfter]
          exact fatal
      · cases after

include filed sound in
theorem completeTask_speaksOnce (silent : state.heard .notices = []) (env : Env)
    (workerId proofId taskId : String) (metadata : TaskMetadata)
    (notFatal : ∀ task, taskOf state.proofs (proofId, taskId) = some task →
      task.status ≠ .failedFatal) :
    SpeaksOnce state (state.completeTask build env workerId proofId taskId metadata) := by
  have heard : (state.exec build env
      (.completeTask workerId proofId taskId metadata)).state.heard .notices = [] :=
    (heard_exec .notices env rfl rfl).trans silent
  change (state.completeTask build env workerId proofId taskId metadata).state.heard _ = _ at heard
  cases found : state.proofs.lookup proofId with
  | none =>
    refine speaksOnce_of_silent ?_
    rw [heard]
    unfold CoordinatorState.completeTask
    rw [found]
    rfl
  | some proof =>
    cases stored : proof.tasks.lookup taskId with
    | none =>
      refine speaksOnce_of_silent ?_
      rw [heard]
      unfold CoordinatorState.completeTask
      simp only [found, stored]
      rfl
    | some task =>
      have here : taskOf state.proofs (proofId, taskId) = some task :=
        (taskOf.of_lookup found).trans stored
      obtain ⟨inputs, transit', steps⟩ :=
        steps_afterCompletion filed sound env workerId metadata found stored
      refine ⟨.succeeded, rfl, ?_⟩
      rw [heard, List.nil_append]
      have told : ∀ notice ∈ Listener.notices.all (completionNotices proofId taskId task),
          Tells state (state.afterCompletion build env workerId proofId taskId proof task
            metadata) .succeeded notice := by
        intro notice member
        unfold completionNotices at member
        split at member
        · cases member
        · next notSucceeded =>
          obtain ⟨sameKey, subscribed, verdict⟩ := eq_of_mem_notifySubscribers member
          refine ⟨verdict, ⟨task, sameKey ▸ here, subscribed, .inl ?_⟩, ?_⟩
          · exact (unfinished_iff task).mpr ⟨notSucceeded, notFatal task here⟩
          · intro record storedAfter
            rw [sameKey] at storedAfter
            rw [eq_of_written found rfl ((afterCompletion_written sound env workerId metadata found
              stored).imp_right And.left) storedAfter]
            rfl
      rcases completeTask_cases env workerId metadata found stored with assigned | direct
      · rw [assigned, assignThen_state]
        intro notice member
        exact (told notice (mem_notices_assignThen member)).assignTasks (steps.filed filed)
          (steps.sound sound) rfl env
      · rw [direct]
        exact told

omit [LawfulPolicy P] in
theorem torn_speaksOnce {outcome : Outcome P Unit} (torn : Torn origin outcome.state)
    (after : Listener.notices.all outcome.after = []) : SpeaksOnce origin outcome := by
  refine ⟨.failedFatal, rfl, ?_⟩
  rw [after, List.append_nil]
  exact fun notice heard => (torn.told notice heard).tells

/-- Only reports about tasks leave notices for after the lock. -/
theorem notices_after_exec (env : Env) {call : Call} (unreported : call.reports = false) :
    Listener.notices.all (state.exec build env call).after = [] := by
  refine Listener.notices.all_eq_nil ?_
  intro effect member
  obtain ⟨result, rfl, -⟩ := after_exec env unreported effect member
  rfl

include filed sound in
/-- **Every call speaks once**, unless it completes a task that has failed
fatally. -/
theorem exec_speaksOnce (silent : state.heard .notices = [])
    (tidy : (state.board transit issued).Tidy) (event : Event)
    (unsubscribing : event.call.subscribes = false)
    (timely : ∀ key ∈ (event.call.inputs build).completed, ∀ task,
      taskOf state.proofs key = some task → task.status ≠ .failedFatal) :
    SpeaksOnce state (state.exec build event.env event.call) := by
  have unsubscribed : ∀ {key : TaskKey} {task : Task}, taskOf state.proofs key = some task →
      task.status = .succeeded → task.subscribers = ∅ := tidy.unsubscribed
  obtain ⟨env, call⟩ := event
  cases reports : call.reports with
  | true =>
    cases call with
    | completeTask workerId proofId taskId metadata =>
      exact completeTask_speaksOnce filed sound silent env workerId proofId taskId metadata
        (timely (proofId, taskId) rfl)
    | failTask workerId proofId taskId retryable =>
      exact failTask_speaksOnce filed sound silent unsubscribed env workerId proofId taskId
        retryable
    | _ => cases reports
  | false =>
    cases tears : call.tearsDown with
    | true =>
      refine torn_speaksOnce (tearsDown_rule (Q := Torn state) filed sound env ?_ ?_
        (.of_silent silent) tears reports) (notices_after_exec env reports)
      · exact fun _ _ _ sound torn =>
          torn.tearDown unsubscribed (fun stored => sound.task_id stored) env _ _ none
      · exact fun filed sound torn => torn.assignTasks filed sound env
    | false =>
      refine speaksOnce_of_silent (List.append_eq_nil_iff.mpr
        ⟨?_, notices_after_exec env reports⟩)
      exact (heard_exec .notices env tears unsubscribing).trans silent

section Performing

variable {inputs : Inputs} {transit' : Set TaskKey} {issued' : Set String}
  {state' : CoordinatorState P}
  (performs : Performs build inputs transit transit' issued issued' state state')
  (sound : (state.board transit issued).Sound build)
include performs sound

theorem Performs.tidy (tidy : (state.board transit issued).Tidy) :
    (state'.board transit' issued').Tidy := by
  obtain ⟨middle, moves, turns⟩ := performs.plays
  exact plays_rule (Q := Tidy) sound tidy (fun sound _ steps tidy => tidy.of_steps sound steps)
    moves turns

/-- A verdict stands when no completion is reported for a task that has failed
fatally. -/
theorem Performs.verdict {taskId : String} {status : TaskStatus}
    (verdict : (state.board transit issued).Verdict Inputs.none taskId status)
    (final : status.isFinal = true)
    (timely : ∀ key ∈ inputs.completed, ∀ task, taskOf state.proofs key = some task →
      task.status ≠ .failedFatal) :
    (state'.board transit' issued').Verdict Inputs.none taskId status := by
  have foreseen : (state.board transit issued).Verdict inputs taskId status := by
    refine ⟨verdict.issued, verdict.record, ?_⟩
    intro key task sameId stored reported
    have notFatal := timely key reported task stored
    rw [verdict.record sameId stored] at notFatal
    cases status <;> simp_all [TaskStatus.isFinal]
  obtain ⟨middle, moves, turns⟩ := performs.plays
  obtain ⟨issuedAfter, record, -⟩ :=
    plays_rule (Q := fun board => board.Verdict inputs taskId status) sound foreseen
      (fun _ issued steps verdict => verdict.of_steps final issued steps) moves turns
  exact ⟨issuedAfter, record, fun _ _ reported => (Set.notMem_empty _ reported).elim⟩

end Performing

end Reports

end CoordinatorState

end Sp1Cluster
