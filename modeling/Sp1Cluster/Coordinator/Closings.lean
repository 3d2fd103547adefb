import Sp1Cluster.Coordinator.Emissions
import Sp1Cluster.Coordinator.Notices

/-!
# Streams end with their tasks

A task is live while it is stored and unfinished. A section under the lock that
ends a live task also ends its message stream. Conversely it ends the streams
only of tasks that are not live afterwards, except for the task of a failure
report that sends it back to its queue.
-/

set_option autoImplicit false

namespace Sp1Cluster

open Relation Board

namespace Board

variable {build : Build} {charges : Bool} {inputs : Inputs} {board board' : Board} {key : TaskKey}

/-- An unfinished task is stored. -/
def Alive (board : Board) (key : TaskKey) : Prop :=
  ∃ task, board.task key = some task ∧ task.unfinished = true

end Board

namespace CoordinatorState

variable {P : Type} [LawfulPolicy P] {build : Build} {transit transit' : Set TaskKey}
  {issued issued' : Set String} {state state' : CoordinatorState P} {key : TaskKey}
  {workerId proofId taskId : String} {proof : Proof} {task : Task} {retryable : Bool}
  (filed : LawfulPolicy.Filed state.policy) (sound : (state.board transit issued).Sound build)

/-! ## Live tasks -/

omit [LawfulPolicy P] in
/-- A task is stored and unfinished. -/
def Alive (state : CoordinatorState P) (key : TaskKey) : Prop :=
  ∃ task, taskOf state.proofs key = some task ∧ task.unfinished = true

omit [LawfulPolicy P] in
theorem Alive.of_same (alive : state.Alive key)
    (same : taskOf state'.proofs key = taskOf state.proofs key) : state'.Alive key := by
  obtain ⟨task, stored, unfinished⟩ := alive
  exact ⟨task, same.trans stored, unfinished⟩

theorem Alive.of_performs {inputs : Inputs} (alive : state.Alive key)
    (performs : Performs build inputs transit transit' issued issued' state state')
    (sound : (state.board transit issued).Sound build) (uncompleted : key ∉ inputs.completed)
    (unfailed : ¬ inputs.Fails key) (kept : key.1 ∉ inputs.ended) : state'.Alive key := by
  obtain ⟨middle, moves, turns⟩ := performs.plays
  refine plays_rule (Q := fun board => board.Alive key) sound alive ?_ moves turns
  rintro first second - - steps ⟨task, stored, unfinished⟩
  have step := steps key
  rw [stored] at step
  obtain ⟨task', record, unfinished', -⟩ :=
    unfinished_step step uncompleted unfailed kept unfinished
  exact ⟨task', record, unfinished'⟩

include filed sound in
theorem Alive.assignTasks (alive : state.Alive key) (env : Env) :
    (AssignmentPolicy.assignTasks build env state).1.Alive key := by
  have performs : Performs build Inputs.none transit transit issued issued state _ :=
    (Steps.refl ..).assign filed sound env
  exact alive.of_performs performs sound (Set.notMem_empty _)
    (fun fails => fails.elim fun _ => id) (Set.notMem_empty _)

/-! ## A section that ends a task ends its stream -/

omit [LawfulPolicy P] in
/-- A task is live, or the current section has ended its stream. -/
def Followed (state : CoordinatorState P) (key : TaskKey) : Prop :=
  state.Alive key ∨ .closeTaskChannel key.2 ∈ state.outbox

include filed sound in
theorem Followed.assignTasks (followed : state.Followed key) (env : Env) :
    (AssignmentPolicy.assignTasks build env state).1.Followed key :=
  followed.imp (fun alive => alive.assignTasks filed sound env)
    fun closed => (toWorkers_assignTasks env).subset closed

theorem closed_tearDown (env : Env) (notifySender : Bool) (extraData : Option String)
    (skip : Option (String × String))
    (stored : taskOf state.proofs (proofId, taskId) = some task) :
    .closeTaskChannel task.id ∈
      (state.tearDown build env proofId notifySender extraData skip).outbox := by
  obtain ⟨proof, (found : state.proofs.lookup proofId = some proof), inProof⟩ :=
    taskOf.exists_of_eq_some stored
  have listed : Effect.closeTaskChannel task.id ∈ ((env.shuffle proof.tasks.entries).map
      fun entry => entry.2).map fun task => Effect.closeTaskChannel task.id := by
    refine List.mem_map.mpr ⟨task, List.mem_map.mpr ⟨⟨taskId, task⟩, ?_, rfl⟩, rfl⟩
    exact (env.mem_shuffle ..).mpr (Table.mem_entries_iff.mpr inProof)
  unfold tearDown
  rw [found]
  dsimp only
  split
  · exact List.mem_append_left _ (List.mem_append_right _ listed)
  · exact List.mem_append_right _ listed

theorem Followed.tearDown (followed : state.Followed key) (env : Env) (notifySender : Bool)
    (extraData : Option String) (skip : Option (String × String))
    (own : ∀ {task}, taskOf state.proofs key = some task → task.id = key.2) :
    (state.tearDown build env proofId notifySender extraData skip).Followed key := by
  have sent : state.outbox ⊆ (state.tearDown build env proofId notifySender extraData
    skip).outbox := (emits_tearDown env notifySender extraData skip).subset
  rcases followed with alive | closed
  · by_cases same : key.1 = proofId
    · obtain ⟨task, stored, -⟩ := alive
      obtain ⟨inProof, taskId⟩ := key
      obtain rfl : inProof = proofId := same
      refine .inr ?_
      rw [← own stored]
      exact closed_tearDown env notifySender extraData skip stored
    · refine .inl (alive.of_same ?_)
      rw [proofs_tearDown, taskOf.erase_eq, if_neg same]
  · exact .inr (sent closed)

include filed sound in
theorem Followed.completeTask (alive : state.Alive key) (env : Env)
    (workerId proofId taskId : String) (metadata : TaskMetadata) :
    (state.completeTask build env workerId proofId taskId metadata).state.Followed key := by
  refine completeTask_rule (Q := fun next => next.Followed key) env workerId metadata (.inl alive)
    ?_ ?_
  · intro proof task found stored
    by_cases same : key = (proofId, taskId)
    · refine .inr ?_
      have sent : (state.emit (.closeTaskChannel taskId)).outbox ⊆
        (state.recordCompletion build env workerId proofId taskId proof task metadata).1.outbox :=
          (emits_recordCompletion env proof task metadata).subset
      have closed := sent (List.mem_append_right _ (List.mem_singleton_self _))
      rw [same]
      unfold afterCompletion
      dsimp only
      split <;> exact closed
    · obtain ⟨record, here, unfinished⟩ := alive
      exact .inl ⟨record, taskOf_of_written here unfinished same found rfl
        (afterCompletion_written sound env workerId metadata found stored), unfinished⟩
  · intro proof task found stored recorded
    obtain ⟨inputs, transit', steps⟩ :=
      steps_afterCompletion filed sound env workerId metadata found stored
    exact recorded.assignTasks (steps.filed filed) (steps.sound sound) env

theorem Followed.recordFailure (alive : state.Alive key)
    (sound : (state.board transit issued).Sound build) (env : Env) (workerId : String)
    (retryable : Bool) (found : state.proofs.lookup proofId = some proof)
    (stored : proof.tasks.lookup taskId = some task) (unfinished : task.unfinished = true) :
    (state.recordFailure build env workerId proofId taskId retryable proof task).Followed key := by
  have written : Followed
      (state.writeRecord proofId taskId (proof.failTask retryable taskId task)) key := by
    by_cases same : key = (proofId, taskId)
    · rw [same]
      exact .inr (List.mem_append_right _ (List.mem_singleton_self _))
    · obtain ⟨record, here, unfinishedHere⟩ := alive
      exact .inl ⟨record, taskOf_of_written here unfinishedHere same found rfl (.inl rfl),
        unfinishedHere⟩
  refine recordFailure_rule (Q := fun next => next.Followed key) env retryable rfl written ?_ ?_ ?_
  · exact written.tearDown env true none _ (task_id_of_failTask sound retryable found stored)
  · intro idle
    rcases written with ⟨record, here, unfinishedHere⟩ | closed
    · refine .inl ⟨record, ?_, unfinishedHere⟩
      rw [proofs_releaseRemainingAssignments]
      refine taskOf_of_finished (AList.lookup_insert _) ?_ here unfinishedHere
      intro other task there
      exact finished_of_idle ((sound.accounted found).active_failTask stored unfinished) idle there
    · exact .inr ((toWorkers_releaseRemainingAssignments ..).subset closed)
  · exact fun followed proofs sent => followed.imp (fun alive => alive.of_same (by rw [proofs]))
      fun closed => sent ▸ closed

include filed sound in
theorem Followed.failTask (alive : state.Alive key) (env : Env) (workerId proofId taskId : String)
    (retryable : Bool) :
    (state.failTask build env workerId proofId taskId retryable).state.Followed key := by
  have outcome := failTask_outcome filed sound env workerId proofId taskId retryable
  generalize state.failTask build env workerId proofId taskId retryable = result at outcome ⊢
  cases outcome with
  | refused same _ =>
    rw [same]
    exact .inl alive
  | finished _ steps =>
    rw [assignThen_state]
    refine .inl (Alive.assignTasks (steps.filed filed) (steps.sound sound) ?_ env)
    exact alive.of_same rfl
  | recorded _ found stored _ unfinished _ steps =>
    rw [assignThen_state]
    exact Followed.assignTasks (steps.filed filed) (steps.sound sound) (.recordFailure alive sound
      env workerId retryable found stored unfinished) env

include filed sound in
/-- **A call that ends a live task ends its stream.** -/
theorem exec_follows (alive : state.Alive key) (event : Event)
    (fresh : ∀ taskId, event.drawn = some taskId → taskId ∉ issued) :
    (state.exec build event.env event.call).state.Followed key := by
  obtain ⟨transit', issued', -, -, performs⟩ := performs_exec filed sound event fresh
  obtain ⟨env, call⟩ := event
  have torn : call.tearsDown = true → call.reports = false →
      (state.exec build env call).state.Followed key :=
    tearsDown_rule (Q := fun next => next.Followed key) filed sound env
      (fun _ _ _ sound followed =>
        followed.tearDown env _ _ none fun stored => sound.task_id stored)
      (fun filed sound followed => followed.assignTasks filed sound env) (.inl alive)
  cases call with
  | completeTask workerId proofId taskId metadata =>
    exact .completeTask filed sound alive env workerId proofId taskId metadata
  | failTask workerId proofId taskId retryable =>
    exact .failTask filed sound alive env workerId proofId taskId retryable
  | failProof | cleanupCancelExpiredProofs | failExpiredProofs => exact torn rfl rfl
  | _ =>
    exact .inl (alive.of_performs performs sound (Set.notMem_empty _)
      (fun fails => fails.elim fun _ => id) (Set.notMem_empty _))

/-! ## A section ends only the streams of tasks that end -/

/-- The task that a call sends back to its queue: that of an accepted failure
report which is not fatal. -/
def sentBack {P : Type} (call : Call) (state : CoordinatorState P) : Option String :=
  match call with
  | .failTask workerId proofId taskId retryable =>
    if state.isHeldBy workerId proofId taskId then
      match state.getTask proofId taskId with
      | none => none
      | some task =>
        if task.status ≠ .succeeded ∧ task.failureStatus retryable = .failedRetryable then
          some taskId
        else none
    else none
  | _ => none

section Cleared

variable {spared : String → Prop} {origin : CoordinatorState P}

omit [LawfulPolicy P] in
/-- Every stream that the current section has ended is that of a task which was
stored when the section started and is not live now, or is spared. -/
structure Cleared (spared : String → Prop) (origin state : CoordinatorState P) : Prop where
  closed : ∀ taskId, .closeTaskChannel taskId ∈ state.outbox → spared taskId ∨
    ∃ proofId task, taskOf origin.proofs (proofId, taskId) = some task ∧
      ¬ state.Alive (proofId, taskId)
  kept : ∀ key task, taskOf state.proofs key = some task →
    ∃ task', taskOf origin.proofs key = some task'

omit [LawfulPolicy P] in
theorem cleared_of_silent (silent : state.outbox = []) : Cleared spared state state where
  closed taskId member := by
    rw [silent] at member
    cases member
  kept key task stored := ⟨task, stored⟩

namespace Cleared

variable (cleared : Cleared spared origin state)
include cleared

omit [LawfulPolicy P] in
theorem step {allowed : Effect → Prop} (emits : Emits allowed state state')
    (older : ∀ key task', taskOf state'.proofs key = some task' →
      ∃ task, taskOf state.proofs key = some task ∧
        (task'.unfinished = true → task.unfinished = true))
    (ends : ∀ taskId, allowed (.closeTaskChannel taskId) → spared taskId ∨
      ∃ proofId task, taskOf origin.proofs (proofId, taskId) = some task ∧
        ¬ state'.Alive (proofId, taskId)) : Cleared spared origin state' where
  closed taskId member := by
    rcases emits.mem member with before | new
    · refine (cleared.closed taskId before).imp_right ?_
      rintro ⟨proofId, task, stored, ended⟩
      refine ⟨proofId, task, stored, ?_⟩
      rintro ⟨record', there, unfinished⟩
      obtain ⟨record, was, still⟩ := older _ record' there
      exact ended ⟨record, was, still unfinished⟩
    · exact ends taskId new
  kept key task stored := by
    obtain ⟨record, was, -⟩ := older key task stored
    exact cleared.kept key record was

omit [LawfulPolicy P] in
theorem of_toWorkers (sent : ToWorkers state state') (proofs : state'.proofs = state.proofs) :
    Cleared spared origin state' := by
  refine cleared.step sent ?_ ?_
  · intro key task stored
    rw [proofs] at stored
    exact ⟨task, stored, id⟩
  · intro taskId toWorker
    cases toWorker

include filed sound in
theorem assignTasks (env : Env) :
    Cleared spared origin (AssignmentPolicy.assignTasks build env state).1 := by
  refine cleared.step (toWorkers_assignTasks env) ?_ ?_
  · intro key task' stored
    obtain ⟨task, was, restarted⟩ := task_of_assignTasks filed sound env key stored
    exact ⟨task, was, fun unfinished => restarted.unfinished.symm.trans unfinished⟩
  · intro taskId toWorker
    cases toWorker

omit [LawfulPolicy P] cleared in
theorem older_of_erase (proofs : state'.proofs = state.proofs.erase proofId) (key : TaskKey)
    (task' : Task) (stored : taskOf state'.proofs key = some task') :
    ∃ task, taskOf state.proofs key = some task ∧
      (task'.unfinished = true → task.unfinished = true) := by
  rw [proofs, taskOf.erase_eq] at stored
  split at stored
  · cases stored
  · exact ⟨task', stored, id⟩

theorem tearDown (own : ∀ {key task}, taskOf state.proofs key = some task → task.id = key.2)
    (env : Env) (notifySender : Bool) (extraData : Option String) (skip : Option (String × String)) :
    Cleared spared origin (state.tearDown build env proofId notifySender extraData skip) := by
  refine cleared.step (emits_tearDown env notifySender extraData skip)
    (older_of_erase (proofs_tearDown ..)) ?_
  rintro taskId ⟨named, task, stored, isId⟩
  obtain rfl : named = taskId := (own stored).symm.trans isId
  obtain ⟨record, was⟩ := cleared.kept _ task stored
  refine .inr ⟨proofId, record, was, ?_⟩
  rintro ⟨task', there, -⟩
  rw [proofs_tearDown, taskOf.erase_eq, if_pos rfl] at there
  cases there

omit [LawfulPolicy P] in
theorem written {proof' : Proof} {task' : Task}
    (found : state.proofs.lookup proofId = some proof)
    (stored : proof.tasks.lookup taskId = some task)
    (changed : proof'.tasks = proof.tasks.insert taskId task')
    (unfinished : task'.unfinished = true → task.unfinished = true)
    (ends : spared taskId ∨ task'.unfinished = false) :
    Cleared spared origin (state.writeRecord proofId taskId proof') := by
  have here : taskOf state.proofs (proofId, taskId) = some task :=
    (taskOf.of_lookup found).trans stored
  have after : ∀ key, taskOf (state.proofs.insert proofId proof') key =
      if key = (proofId, taskId) then some task' else taskOf state.proofs key :=
    taskOf.set_eq found changed
  have emits : Emits (fun effect => effect = .closeTaskChannel taskId) state
      (({ state with proofs := state.proofs.insert proofId proof' }).emit
        (.closeTaskChannel taskId)) := ⟨[.closeTaskChannel taskId], rfl, by simp⟩
  refine cleared.step emits ?_ ?_
  · intro key record there
    change taskOf (state.proofs.insert proofId proof') key = some record at there
    rw [after] at there
    split at there
    · next same =>
      cases there
      exact ⟨task, same ▸ here, unfinished⟩
    · exact ⟨record, there, id⟩
  · intro other isTask
    cases isTask
    refine ends.imp_right fun finished => ?_
    obtain ⟨record, was⟩ := cleared.kept _ task here
    refine ⟨proofId, record, was, ?_⟩
    rintro ⟨record', there, unfinished'⟩
    change taskOf (state.proofs.insert proofId proof') _ = some record' at there
    rw [after, if_pos rfl] at there
    cases there
    rw [finished] at unfinished'
    cases unfinished'

theorem released (env : Env) (proof : Proof)
    (skip : Option (String × String)) :
    Cleared spared origin
      ((state.dropProof proofId).releaseRemainingAssignments build env proof proofId skip).1 := by
  have sent : ToWorkers state ((state.dropProof proofId).releaseRemainingAssignments build env
    proof proofId skip).1 := (toWorkers_releaseRemainingAssignments env proof skip).of_same rfl
  refine cleared.step sent (older_of_erase (proofs_releaseRemainingAssignments ..)) ?_
  intro taskId toWorker
  cases toWorker

theorem afterCompletion (env : Env) (workerId : String)
    (metadata : TaskMetadata) (found : state.proofs.lookup proofId = some proof)
    (stored : proof.tasks.lookup taskId = some task) :
    Cleared spared origin
      (state.afterCompletion build env workerId proofId taskId proof task metadata) := by
  have finished : (Task.complete workerId task).unfinished = false := by
    simp [Task.complete, Task.unfinished, TaskStatus.isFinal]
  have wrote : Cleared spared origin
      (state.writeRecord proofId taskId (proof.completeTask workerId taskId task)) := by
    refine cleared.written found stored rfl ?_ (.inr finished)
    intro unfinished
    rw [finished] at unfinished
    cases unfinished
  have recorded : Cleared spared origin
      (state.recordCompletion build env workerId proofId taskId proof task metadata).1 :=
    recordCompletion_rule (Q := Cleared spared origin) env metadata rfl wrote (wrote.released env _ _)
      fun _ _ cleared => cleared.of_toWorkers (emits_of_outbox_eq rfl) rfl
  unfold CoordinatorState.afterCompletion
  dsimp only
  split
  · exact recorded.of_toWorkers (emits_of_outbox_eq rfl) rfl
  · exact recorded

theorem recordFailure
    (sound : (state.board transit issued).Sound build) (env : Env) (workerId : String)
    (found : state.proofs.lookup proofId = some proof)
    (stored : proof.tasks.lookup taskId = some task) (unfinished : task.unfinished = true)
    (spares : task.failureStatus retryable = .failedRetryable → spared taskId) :
    Cleared spared origin
      (state.recordFailure build env workerId proofId taskId retryable proof task) := by
  have wrote : Cleared spared origin
      (state.writeRecord proofId taskId (proof.failTask retryable taskId task)) := by
    refine cleared.written found stored rfl (fun _ => unfinished) ?_
    rcases failureStatus_cases retryable task with fatal | retried
    · exact .inr (by simp [Task.fail, Task.unfinished, fatal, TaskStatus.isFinal])
    · exact .inl (spares retried)
  refine recordFailure_rule (Q := Cleared spared origin) env retryable rfl wrote ?_ ?_ ?_
  · exact wrote.tearDown (task_id_of_failTask sound retryable found stored) env true none _
  · exact fun _ => wrote.released env _ _
  · exact fun cleared proofs sent => cleared.of_toWorkers (emits_of_outbox_eq sent) proofs

end Cleared

include filed sound in
theorem cleared_completeTask (silent : state.outbox = []) (env : Env)
    (workerId proofId taskId : String) (metadata : TaskMetadata) :
    Cleared spared state
      (state.completeTask build env workerId proofId taskId metadata).state := by
  have start : Cleared spared state state := cleared_of_silent silent
  refine completeTask_rule (Q := Cleared spared state) env workerId metadata start ?_ ?_
  · intro proof task found stored
    exact start.afterCompletion env workerId metadata found stored
  · intro proof task found stored recorded
    obtain ⟨inputs, transit', steps⟩ :=
      steps_afterCompletion filed sound env workerId metadata found stored
    exact recorded.assignTasks (steps.filed filed) (steps.sound sound) env

include filed sound in
theorem cleared_failTask (silent : state.outbox = []) (env : Env) (workerId proofId taskId : String)
    (retryable : Bool) :
    Cleared (fun id => state.sentBack (.failTask workerId proofId taskId retryable) = some id) state
      (state.failTask build env workerId proofId taskId retryable).state := by
  have start : Cleared
      (fun id => state.sentBack (.failTask workerId proofId taskId retryable) = some id) state
      state := cleared_of_silent silent
  have outcome := failTask_outcome filed sound env workerId proofId taskId retryable
  generalize state.failTask build env workerId proofId taskId retryable = result at outcome ⊢
  cases outcome with
  | refused same _ =>
    rw [same]
    exact start
  | finished _ steps =>
    rw [assignThen_state]
    refine Cleared.assignTasks (steps.filed filed) (steps.sound sound) ?_ env
    exact start.of_toWorkers (emits_of_outbox_eq rfl) rfl
  | recorded holds found stored notSucceeded unfinished _ steps =>
    rw [assignThen_state]
    refine Cleared.assignTasks (steps.filed filed) (steps.sound sound)
      (start.recordFailure sound env workerId found stored unfinished ?_) env
    intro retried
    simp only [sentBack, isHeldBy_iff.mpr holds, if_true,
      show state.getTask proofId taskId = _ from (taskOf.of_lookup found).trans stored]
    rw [if_pos ⟨notSucceeded, retried⟩]

include filed sound in
/-- **A call ends only the streams of tasks that are not live afterwards**, except
for a task that it sends back. -/
theorem exec_clears (silent : state.outbox = []) (event : Event) {taskId : String}
    (closed : .closeTaskChannel taskId ∈ (state.exec build event.env event.call).state.outbox) :
    state.sentBack event.call = some taskId ∨
      ∃ proofId task, taskOf state.proofs (proofId, taskId) = some task ∧
        ¬ (state.exec build event.env event.call).state.Alive (proofId, taskId) := by
  obtain ⟨env, call⟩ := event
  cases quiet : call.settles with
  | false =>
    exfalso
    rcases (exec_sends env call).mem closed with before | settles
    · rw [silent] at before
      cases before
    · cases quiet.symm.trans settles
  | true =>
    have start : Cleared (fun id => state.sentBack call = some id) state state :=
      cleared_of_silent silent
    suffices cleared : Cleared (fun id => state.sentBack call = some id) state
        (state.exec build env call).state from cleared.closed taskId closed
    cases call with
    | completeTask workerId proofId taskId metadata =>
      exact cleared_completeTask filed sound silent env workerId proofId taskId metadata
    | failTask workerId proofId taskId retryable =>
      exact cleared_failTask filed sound silent env workerId proofId taskId retryable
    | failProof | cleanupCancelExpiredProofs | failExpiredProofs =>
      refine tearsDown_rule (Q := Cleared _ state) filed sound env ?_ ?_ start rfl rfl
      · exact fun _ _ _ sound cleared =>
          cleared.tearDown (fun stored => sound.task_id stored) env _ _ none
      · exact fun filed sound cleared => cleared.assignTasks filed sound env
    | _ => cases quiet

end Cleared

end CoordinatorState

end Sp1Cluster
