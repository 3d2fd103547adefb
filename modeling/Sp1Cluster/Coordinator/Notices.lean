import Sp1Cluster.Coordinator.Listening
import Sp1Cluster.Coordinator.Records
import Sp1Cluster.Coordinator.Reachable

/-!
# Waiting subscribers are told

A subscriber waits for a task that is stored, unfinished and has it in its set.
Whatever a call does, a waiting subscriber keeps waiting or is told: by a
teardown inside the section, or by a completion or a fatal failure after it.
-/

set_option autoImplicit false

namespace Sp1Cluster

open Relation Board

/-! ## Subscribers of unfinished tasks -/

namespace Board

variable {build : Build} {charges : Bool} {inputs : Inputs} {board board' : Board} {subId : String}
  {key : TaskKey}

/-- A step that neither finishes nor removes a task keeps it unfinished, with its
subscribers. -/
theorem unfinished_step {task : Task} {record : Option Task}
    (step : TaskStep inputs board board' key (some task) record)
    (uncompleted : key ∉ inputs.completed) (unfailed : ¬ inputs.Fails key)
    (kept : key.1 ∉ inputs.ended) (unfinished : task.unfinished = true) :
    ∃ task', record = some task' ∧ task'.unfinished = true ∧
      ∀ subId ∈ task.subscribers, subId ∈ task'.subscribers := by
  cases step with
  | keep => exact ⟨task, rfl, unfinished, fun _ => id⟩
  | remove _ ended => exact absurd ended kept
  | complete workerId _ reported => exact absurd reported uncompleted
  | fail retryable _ inTransit _ reported settled => exact absurd ⟨retryable, reported⟩ unfailed
  | requeue => exact ⟨_, rfl, unfinished, fun _ => id⟩
  | subscribe other _ _ asked =>
    exact ⟨_, rfl, unfinished, fun _ subscribed => (KeySet.mem_add ..).mpr (.inr subscribed)⟩
  | start worker _ _ waiting => exact ⟨_, rfl, rfl, fun _ => id⟩

def Subscribed (board : Board) (subId : String) (key : TaskKey) : Prop :=
  ∃ task, board.task key = some task ∧ task.unfinished = true ∧ subId ∈ task.subscribers

end Board

namespace CoordinatorState

variable {P : Type} [LawfulPolicy P] {build : Build} {transit transit' : Set TaskKey}
  {issued issued' : Set String} {state state' : CoordinatorState P}
  {subId workerId proofId taskId : String} {key : TaskKey} {worker : Worker} {proof : Proof}
  {task : Task} {retryable : Bool} (filed : LawfulPolicy.Filed state.policy)
  (sound : (state.board transit issued).Sound build)

/-! ## Waiting -/

/-- A subscriber waits for an unfinished task. -/
def Waits (state : CoordinatorState P) (subId : String) (key : TaskKey) : Prop :=
  ∃ task, taskOf state.proofs key = some task ∧ task.unfinished = true ∧ subId ∈ task.subscribers

/-- A subscriber is told the status of a task. -/
def Told (notices : List Notice) (subId : String) (key : TaskKey) : Prop :=
  ∃ status, ⟨subId, key.1, key.2, status⟩ ∈ notices

theorem Told.append_left {first : List Notice} (told : Told first subId key)
    (second : List Notice) : Told (first ++ second) subId key := by
  obtain ⟨status, member⟩ := told
  exact ⟨status, List.mem_append_left _ member⟩

theorem Told.append_right {second : List Notice} (first : List Notice)
    (told : Told second subId key) : Told (first ++ second) subId key := by
  obtain ⟨status, member⟩ := told
  exact ⟨status, List.mem_append_right _ member⟩

theorem told_notifySubscribers {subscribers : KeySet String} (proofId taskId : String)
    (status : TaskStatus) (subscribed : subId ∈ subscribers) :
    Told (Listener.notices.all [.notifySubscribers subscribers.keys proofId taskId status]) subId
      (proofId, taskId) := by
  refine ⟨status, ?_⟩
  simp only [Listener.all, Listener.notices, List.flatMap_cons, List.flatMap_nil,
        List.append_nil]
  exact List.mem_map.mpr ⟨subId, AList.mem_keys.mp subscribed, rfl⟩

omit [LawfulPolicy P] in
theorem Waits.of_same (waits : state.Waits subId key)
    (same : taskOf state'.proofs key = taskOf state.proofs key) : state'.Waits subId key := by
  obtain ⟨task, stored, waiting⟩ := waits
  exact ⟨task, same.trans stored, waiting⟩

theorem Waits.of_performs {inputs : Inputs}
    (performs : Performs build inputs transit transit' issued issued' state state')
    (sound : (state.board transit issued).Sound build) (uncompleted : key ∉ inputs.completed)
    (unfailed : ¬ inputs.Fails key) (kept : key.1 ∉ inputs.ended)
    (waits : state.Waits subId key) : state'.Waits subId key := by
  obtain ⟨middle, moves, turns⟩ := performs.plays
  refine plays_rule (Q := fun board => board.Subscribed subId key) sound waits ?_ moves turns
  rintro first second - - steps ⟨task, stored, unfinished, subscribed⟩
  have step := steps key
  rw [stored] at step
  obtain ⟨task', record, unfinished', still⟩ :=
    unfinished_step step uncompleted unfailed kept unfinished
  exact ⟨task', record, unfinished', still subId subscribed⟩

include filed sound in
theorem Waits.assignTasks (env : Env) (waits : state.Waits subId key) :
    (AssignmentPolicy.assignTasks build env state).1.Waits subId key := by
  have performs : Performs build Inputs.none transit transit issued issued state _ :=
    (Steps.refl ..).assign filed sound env
  exact waits.of_performs performs sound (Set.notMem_empty _) (fun fails => fails.elim fun _ => id)
    (Set.notMem_empty _)

theorem assignThen_after {α : Type} {env : Env} (clock : ∀ read, 0 ≤ env.clock read) (value : α)
    (after : List Effect) : (state.assignThen build env value after).after = after := by
  have ok := LawfulPolicy.assigns_ok build env state clock
  unfold assignThen
  split
  · next result =>
    rw [result] at ok
    cases ok
  · rfl

theorem finished_of_idle {proof : Proof}
    (counted : proof.activeTasks = Table.count Task.unfinished proof.tasks)
    (idle : proof.activeTasks = 0) {taskId : String} {task : Task}
    (stored : proof.tasks.lookup taskId = some task) : task.unfinished = false := by
  by_contra unfinished
  rw [Bool.not_eq_false] at unfinished
  have positive := (Table.count_pos_iff _ _).mpr ⟨taskId, task, stored, unfinished⟩
  omega

omit [LawfulPolicy P] in
theorem taskOf_of_finished {proofs : Table String Proof} {proofId : String} {proof : Proof}
    {task : Task} (found : proofs.lookup proofId = some proof)
    (finished : ∀ other task, proof.tasks.lookup other = some task → task.unfinished = false)
    (stored : taskOf proofs key = some task) (unfinished : task.unfinished = true) :
    taskOf (proofs.erase proofId) key = some task := by
  rw [taskOf.erase_eq]
  split
  · next same =>
    exfalso
    obtain ⟨inProof, taskId⟩ := key
    obtain rfl : inProof = proofId := same
    rw [taskOf.of_lookup found] at stored
    rw [finished taskId task stored] at unfinished
    cases unfinished
  · exact stored

omit [LawfulPolicy P] in
/-- A section that writes the record of one task of a proof, and removes the
proof only if nothing in it is unfinished, keeps the other unfinished tasks. -/
theorem taskOf_of_written {proofId taskId : String} {proof proof' : Proof} {task task' : Task}
    (stored : taskOf state.proofs key = some task) (unfinished : task.unfinished = true)
    (different : key ≠ (proofId, taskId)) (found : state.proofs.lookup proofId = some proof)
    (changed : proof'.tasks = proof.tasks.insert taskId task')
    (written : state'.proofs = state.proofs.insert proofId proof' ∨
      (state'.proofs = (state.proofs.insert proofId proof').erase proofId ∧
        ∀ other task, proof'.tasks.lookup other = some task → task.unfinished = false)) :
    taskOf state'.proofs key = some task := by
  have kept : taskOf (state.proofs.insert proofId proof') key = some task := by
    rw [taskOf.set_eq found changed, if_neg different, stored]
  rcases written with same | ⟨removed, finished⟩
  · rw [same, kept]
  · rw [removed]
    exact taskOf_of_finished (AList.lookup_insert _) finished kept unfinished

omit [LawfulPolicy P] in
theorem Waits.of_written {proofId taskId : String} {proof proof' : Proof} {task' : Task}
    (waits : state.Waits subId key) (different : key ≠ (proofId, taskId))
    (found : state.proofs.lookup proofId = some proof)
    (changed : proof'.tasks = proof.tasks.insert taskId task')
    (written : state'.proofs = state.proofs.insert proofId proof' ∨
      (state'.proofs = (state.proofs.insert proofId proof').erase proofId ∧
        ∀ other task, proof'.tasks.lookup other = some task → task.unfinished = false)) :
    state'.Waits subId key := by
  obtain ⟨task, stored, unfinished, subscribed⟩ := waits
  exact ⟨task, taskOf_of_written stored unfinished different found changed written, unfinished,
    subscribed⟩

/-! ## Completions -/

theorem proofs_afterCompletion (env : Env) (metadata : TaskMetadata) :
    (state.afterCompletion build env workerId proofId taskId proof task metadata).proofs =
      (state.recordCompletion build env workerId proofId taskId proof task metadata).1.proofs := by
  unfold afterCompletion
  dsimp only
  split <;> rfl

include filed sound in
theorem steps_afterCompletion (env : Env) (workerId : String) (metadata : TaskMetadata)
    (found : state.proofs.lookup proofId = some proof)
    (stored : proof.tasks.lookup taskId = some task) :
    ∃ inputs transit', Steps build inputs transit transit' issued issued state
      (state.afterCompletion build env workerId proofId taskId proof task metadata) := by
  have reported : (proofId, taskId) ∈
      ((Call.completeTask workerId proofId taskId metadata).inputs build).completed := rfl
  obtain ⟨transit', -, steps⟩ :=
    steps_completion filed sound env metadata found stored reported rfl rfl
  exact ⟨_, transit', steps⟩

/-- A completion writes the record of its task, and removes the proof if nothing
in it is unfinished. -/
theorem afterCompletion_written (sound : (state.board transit issued).Sound build) (env : Env)
    (workerId : String) (metadata : TaskMetadata)
    (found : state.proofs.lookup proofId = some proof)
    (stored : proof.tasks.lookup taskId = some task) :
    (state.afterCompletion build env workerId proofId taskId proof task metadata).proofs =
        state.proofs.insert proofId (proof.completeTask workerId taskId task) ∨
      ((state.afterCompletion build env workerId proofId taskId proof task metadata).proofs =
          (state.proofs.insert proofId (proof.completeTask workerId taskId task)).erase proofId ∧
        ∀ other record, (proof.completeTask workerId taskId task).tasks.lookup other =
          some record → record.unfinished = false) := by
  rw [proofs_afterCompletion]
  by_cases last : (proof.completeTask workerId taskId task).activeTasks = 0
  · refine .inr ⟨?_, fun other record storedOther => ?_⟩
    · unfold recordCompletion
      simp only [if_pos last]
      split <;> exact proofs_releaseRemainingAssignments ..
    · exact finished_of_idle ((sound.accounted found).active_completeTask stored) last storedOther
  · exact .inl (proofs_recordCompletion env metadata last)

theorem told_completionNotices (proofId taskId : String) (unfinished : task.unfinished = true)
    (subscribed : subId ∈ task.subscribers) :
    Told (Listener.notices.all (completionNotices proofId taskId task)) subId (proofId, taskId) := by
  have notSucceeded : task.status ≠ .succeeded := by
    intro succeeded
    simp [Task.unfinished, succeeded, TaskStatus.isFinal] at unfinished
  unfold completionNotices
  rw [if_neg notSucceeded]
  exact told_notifySubscribers proofId taskId .succeeded subscribed

include filed sound in
theorem completeTask_wakes {env : Env} (clock : ∀ read, 0 ≤ env.clock read)
    (workerId proofId taskId : String) (metadata : TaskMetadata) (waits : state.Waits subId key) :
    (state.completeTask build env workerId proofId taskId metadata).state.Waits subId key ∨
      Told (Listener.notices.all (state.completeTask build env workerId proofId taskId metadata).after)
        subId key := by
  cases found : state.proofs.lookup proofId with
  | none =>
    refine .inl ?_
    unfold completeTask
    rw [found]
    exact waits
  | some proof =>
    cases stored : proof.tasks.lookup taskId with
    | none =>
      refine .inl ?_
      unfold completeTask
      rw [found]
      dsimp only
      rw [stored]
      exact waits
    | some task =>
      by_cases same : key = (proofId, taskId)
      · obtain ⟨record, storedHere, unfinished, subscribed⟩ := waits
        rw [same, taskOf.of_lookup found] at storedHere
        obtain rfl : task = record := Option.some.inj (stored.symm.trans storedHere)
        have told := told_completionNotices proofId taskId unfinished subscribed
        refine .inr (same ▸ ?_)
        rcases completeTask_cases env workerId metadata found stored with assigned | direct
        · rw [assigned, assignThen_after clock]
          exact told
        · rw [direct]
          exact told
      · have recorded := waits.of_written same found rfl
          (afterCompletion_written sound env workerId metadata found stored)
        refine .inl ?_
        rcases completeTask_cases env workerId metadata found stored with assigned | direct
        · obtain ⟨inputs, transit', steps⟩ :=
            steps_afterCompletion filed sound env workerId metadata found stored
          rw [assigned, assignThen_state]
          exact recorded.assignTasks (steps.filed filed) (steps.sound sound) env
        · rw [direct]
          exact recorded

/-! ## Calls that tear proofs down -/

section Rules

variable {Q : CoordinatorState P → Prop} (env : Env)
  (torn : ∀ {next : CoordinatorState P} {transit : Set TaskKey} (proofId : String)
    (notifySender : Bool) (extraData : Option String), (next.board transit issued).Sound build →
      Q next → Q (next.tearDown build env proofId notifySender extraData none))
  (assigned : ∀ {next : CoordinatorState P} {transit : Set TaskKey},
    LawfulPolicy.Filed next.policy → (next.board transit issued).Sound build → Q next →
      Q (AssignmentPolicy.assignTasks build env next).1)
include filed sound torn assigned

/-- The write section of the sweep over expired proofs tears them down one by one. -/
theorem failExpiredProofs_rule (start : Q state) (expired : List String) :
    Q (state.failExpiredProofs build env expired).state := by
  unfold failExpiredProofs
  rw [assignOrPanic_state]
  induction expired generalizing state transit with
  | nil => exact assigned filed sound start
  | cons proofId rest ih =>
    have ended : proofId ∈ ((Call.failProof proofId none false none).inputs build).ended := rfl
    obtain ⟨transit', -, steps⟩ :=
      steps_failProofInternal filed sound env proofId none false none ended
    exact ih (steps.filed filed) (steps.sound sound)
      (failProofInternal_rule env none false none none start (torn proofId false none sound start))

theorem tearsDown_rule (start : Q state) {call : Call} (tears : call.tearsDown = true)
    (unreported : call.reports = false) : Q (state.exec build env call).state := by
  cases call with
  | failProof proofId blamed notifySender extraData =>
    exact failProofInternal_rule env blamed notifySender extraData none start
      (torn proofId notifySender extraData sound start)
  | cleanupCancelExpiredProofs =>
    change Q (state.cleanupCancelExpiredProofs build env).state
    unfold cleanupCancelExpiredProofs
    dsimp only
    split
    · exact start
    · exact failExpiredProofs_rule filed sound env torn assigned start _
  | failExpiredProofs expired =>
    exact failExpiredProofs_rule filed sound env torn assigned start expired
  | failTask => cases unreported
  | _ => cases tears

end Rules

/-! ## Teardowns -/

/-- A subscriber waits for a task, or the current section has told it. -/
def Served (state : CoordinatorState P) (subId : String) (key : TaskKey) : Prop :=
  state.Waits subId key ∨ Told (state.heard .notices) subId key

/-- A teardown tells the subscribers of the proof it removes. -/
theorem Served.tearDown (served : state.Served subId key) (env : Env) (notifySender : Bool)
    (extraData : Option String) (skip : Option (String × String))
    (own : ∀ {task}, taskOf state.proofs key = some task → task.id = key.2) :
    (state.tearDown build env proofId notifySender extraData skip).Served subId key := by
  rcases served with waits | told
  · by_cases same : key.1 = proofId
    · obtain ⟨task, stored, unfinished, subscribed⟩ := waits
      obtain ⟨proof, found, inProof⟩ := taskOf.exists_of_eq_some stored
      rw [same] at found
      refine .inr ?_
      rw [heard_tearDown _ env notifySender extraData skip found]
      refine .append_right _ ⟨.failedFatal, mem_teardownNotices.mpr ?_⟩
      exact ⟨key.2, task, inProof, subscribed, same, (own stored).symm, rfl⟩
    · refine .inl (waits.of_same ?_)
      rw [proofs_tearDown, taskOf.erase_eq, if_neg same]
  · refine .inr ?_
    cases found : state.proofs.lookup proofId with
    | none =>
      rw [heard_tearDown_of_none _ env notifySender extraData skip found]
      exact told
    | some proof =>
      rw [heard_tearDown _ env notifySender extraData skip found]
      exact told.append_left _

include filed sound in
theorem Served.assignTasks (env : Env) (served : state.Served subId key) :
    (AssignmentPolicy.assignTasks build env state).1.Served subId key := by
  rcases served with waits | told
  · exact .inl (waits.assignTasks filed sound env)
  · refine .inr ?_
    rw [heard_assignTasks]
    exact told

/-! ## Failures -/

theorem task_id_of_failTask (sound : (state.board transit issued).Sound build) (retryable : Bool)
    (found : state.proofs.lookup proofId = some proof)
    (stored : proof.tasks.lookup taskId = some task) {record : Task}
    (there : taskOf (state.proofs.insert proofId (proof.failTask retryable taskId task)) key =
      some record) : record.id = key.2 := by
  rw [taskOf.set_eq found rfl] at there
  split at there
  · next same =>
    cases there
    have here := (taskOf.of_lookup found).trans stored
    rw [same]
    exact (sound.task_id here : task.id = taskId)
  · exact sound.task_id there

theorem Served.recordFailure (sound : (state.board transit issued).Sound build) (env : Env)
    (workerId : String) (retryable : Bool) (found : state.proofs.lookup proofId = some proof)
    (stored : proof.tasks.lookup taskId = some task) (unfinished : task.unfinished = true)
    (waits : state.Waits subId key) (different : key ≠ (proofId, taskId)) :
    (state.recordFailure build env workerId proofId taskId retryable proof task).Served subId
      key := by
  have written : Served
      (state.writeRecord proofId taskId (proof.failTask retryable taskId task)) subId key :=
    .inl (waits.of_written different found rfl (.inl rfl))
  refine recordFailure_rule (Q := fun next => next.Served subId key) env retryable rfl written ?_ ?_
    ?_
  · exact written.tearDown env true none _ (task_id_of_failTask sound retryable found stored)
  · intro idle
    rcases written with ⟨record, recorded, unfinishedHere, subscribed⟩ | told
    · refine .inl ⟨record, ?_, unfinishedHere, subscribed⟩
      rw [proofs_releaseRemainingAssignments]
      refine taskOf_of_finished (AList.lookup_insert _) ?_ recorded unfinishedHere
      intro other task there
      exact finished_of_idle ((sound.accounted found).active_failTask stored unfinished) idle there
    · exact .inr (by rwa [heard_releaseRemainingAssignments])
  · exact fun served proofs sent => served.imp (fun waits => waits.of_same (by rw [proofs]))
      fun told => by rwa [heard, sent]

theorem Waits.recordFailure (sound : (state.board transit issued).Sound build) (env : Env)
    (workerId : String) (found : state.proofs.lookup proofId = some proof)
    (stored : proof.tasks.lookup taskId = some task)
    (retried : task.failureStatus retryable = .failedRetryable)
    (subscribed : subId ∈ task.subscribers) :
    (state.recordFailure build env workerId proofId taskId retryable proof task).Waits subId
      (proofId, taskId) := by
  have kept : failureRemoves retryable taskId proof task = false := by
    by_contra removes
    rw [Bool.not_eq_false] at removes
    have fatal := fatal_of_failureRemoves (sound.accounted found) stored removes
    rw [retried] at fatal
    cases fatal
  simp only [failureRemoves, Bool.or_eq_false_iff, beq_eq_false_iff_ne] at kept
  refine ⟨Task.fail retryable task, ?_, ?_, subscribed⟩
  · unfold CoordinatorState.recordFailure
    simp only [removeFailedProof, kept.1, Bool.false_eq_true, if_false, if_neg kept.2]
    rw [if_pos (by simp [Task.fail, retried]), proofs_enqueueTask]
    change taskOf (state.proofs.insert proofId (proof.failTask retryable taskId task)) _ = _
    rw [taskOf.set_eq found rfl, if_pos rfl]
  · simp [Task.fail, Task.unfinished, retried, TaskStatus.isFinal]

include filed sound in
/-- A failure report tells the subscribers of its task if it is fatal, and
serves all others. -/
theorem failTask_wakes {env : Env} (clock : ∀ read, 0 ≤ env.clock read)
    (workerId proofId taskId : String) (retryable : Bool) (waits : state.Waits subId key) :
    (state.failTask build env workerId proofId taskId retryable).state.Served subId key ∨
      Told (Listener.notices.all (state.failTask build env workerId proofId taskId retryable).after)
        subId key := by
  have outcome := failTask_outcome filed sound env workerId proofId taskId retryable
  generalize state.failTask build env workerId proofId taskId retryable = result at outcome ⊢
  cases outcome with
  | refused same _ =>
    rw [same]
    exact .inl (.inl waits)
  | finished _ steps =>
    refine .inl (.inl ?_)
    rw [assignThen_state]
    exact Waits.assignTasks (steps.filed filed) (steps.sound sound) env (waits.of_same rfl)
  | @recorded proof task _ _ found stored _ unfinished _ steps =>
    rw [assignThen_after clock, assignThen_state]
    by_cases same : key = (proofId, taskId)
    · subst same
      obtain ⟨record, storedHere, -, subscribed⟩ := waits
      rw [taskOf.of_lookup found] at storedHere
      obtain rfl : task = record := Option.some.inj (stored.symm.trans storedHere)
      rcases failureStatus_cases retryable task with fatal | retried
      · refine .inr ?_
        unfold failureNotices
        rw [if_pos (show (Task.fail retryable task).status = .failedFatal from fatal)]
        exact told_notifySubscribers proofId taskId .failedFatal subscribed
      · exact .inl (.inl (Waits.assignTasks (steps.filed filed) (steps.sound sound) env
          (.recordFailure sound env workerId found stored retried subscribed)))
    · exact .inl (Served.assignTasks (steps.filed filed) (steps.sound sound) env
        (.recordFailure sound env workerId retryable found stored unfinished waits same))

/-! ## A waiting subscriber keeps waiting, or is told -/

include filed sound in
/-- **No call loses a waiting subscriber**, when the clock is after the epoch. -/
theorem exec_wakes (event : Event) (fresh : ∀ taskId, event.drawn = some taskId → taskId ∉ issued)
    (clock : ∀ read, 0 ≤ event.env.clock read) (waits : state.Waits subId key) :
    (state.exec build event.env event.call).state.Waits subId key ∨
      Told ((state.exec build event.env event.call).state.heard .notices ++
        Listener.notices.all (state.exec build event.env event.call).after) subId key := by
  have inSection : ∀ {outcome : Outcome P Unit}, outcome.state.Served subId key →
      outcome.state.Waits subId key ∨
        Told (outcome.state.heard .notices ++ Listener.notices.all outcome.after) subId key := by
    rintro outcome (waits | told)
    · exact .inl waits
    · exact .inr (told.append_left _)
  obtain ⟨transit', issued', -, -, performs⟩ := performs_exec filed sound event fresh
  obtain ⟨env, call⟩ := event
  have torn : call.tearsDown = true → call.reports = false →
      (state.exec build env call).state.Served subId key :=
    tearsDown_rule (Q := fun next => next.Served subId key) filed sound env
      (fun _ _ _ sound served => served.tearDown env _ _ none fun stored => sound.task_id stored)
      (fun filed sound served => served.assignTasks filed sound env) (.inl waits)
  cases call with
  | completeTask workerId proofId taskId metadata =>
    rcases completeTask_wakes filed sound clock workerId proofId taskId metadata waits with
      waits | told
    · exact .inl waits
    · exact .inr (told.append_right _)
  | failTask workerId proofId taskId retryable =>
    rcases failTask_wakes filed sound clock workerId proofId taskId retryable waits with
      served | told
    · exact inSection served
    · exact .inr (told.append_right _)
  | failProof | cleanupCancelExpiredProofs | failExpiredProofs => exact inSection (torn rfl rfl)
  | _ =>
    exact .inl (waits.of_performs performs sound (Set.notMem_empty _)
      (fun fails => fails.elim fun _ => id) (Set.notMem_empty _))

end CoordinatorState

end Sp1Cluster
