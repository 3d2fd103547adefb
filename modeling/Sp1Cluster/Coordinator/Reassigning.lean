import Sp1Cluster.Coordinator.Saturation

/-!
# Calls that assign and calls that rest

A call ends with an assignment, or it rests: it leaves the fronts of the
queues, the tasks that wait there and the room of the workers as they were. The
exceptions are a failed proof that had tasks on workers or in queues, and the
completion of a task that waited in a queue; they take a waiting task away or
free a worker and do not assign.
-/

set_option autoImplicit false

namespace Sp1Cluster

open Relation Board

namespace CoordinatorState

/-! ## Resting -/

section Resting

variable {P : Type} [QueuePolicy P] {build : Build} {env : Env}
  {state state' state'' : CoordinatorState P}

def queuedTasks (state : CoordinatorState P) : List QueuedTask :=
  AssignmentPolicy.cpuQueued state.policy ++ AssignmentPolicy.gpuQueued state.policy

/-- The fronts of the queues stay, the unfinished tasks that wait stay
unfinished, and no worker has more room. -/
structure Rests (build : Build) (state state' : CoordinatorState P) : Prop where
  gpu_front : ∀ env, (QueuePolicy.gpuLane env).front state'.policy =
    (QueuePolicy.gpuLane env).front state.policy
  cpu_front : ∀ env, (QueuePolicy.cpuLane env).front state'.policy =
    (QueuePolicy.cpuLane env).front state.policy
  tasks : ∀ queued ∈ state.queuedTasks, ∀ task,
    taskOf state.proofs queued.key = some task → task.unfinished = true →
      ∃ task', taskOf state'.proofs queued.key = some task' ∧ task'.unfinished = true ∧
        task'.data = task.data
  workers : ∀ workerId worker', state'.workers.lookup workerId = some worker' →
    ∃ worker, state.workers.lookup workerId = some worker ∧
      ∀ data, state'.HasRoomFor build data worker' → state.HasRoomFor build data worker

theorem Exhausted.rests (exhausted : state.Exhausted build env)
    (filed : LawfulPolicy.Filed state.policy) (rests : state.Rests build state') :
    state'.Exhausted build env where
  gpu := by
    refine exhausted.gpu.of_kept (rests.gpu_front env) ?_ rests.workers
    intro queued task front stored unfinished
    have waiting : queued ∈ (AssignmentPolicy.gpuQueued state.policy : Multiset QueuedTask) :=
      (QueuePolicy.gpu_serves env).waiting filed front
    exact rests.tasks queued (List.mem_append_right _ waiting) task stored unfinished
  cpu := by
    refine exhausted.cpu.of_kept (rests.cpu_front env) ?_ rests.workers
    intro queued task front stored unfinished
    have waiting : queued ∈ (AssignmentPolicy.cpuQueued state.policy : Multiset QueuedTask) :=
      (QueuePolicy.cpu_serves env).waiting filed front
    exact rests.tasks queued (List.mem_append_left _ waiting) task stored unfinished

omit [QueuePolicy P] in
theorem taskWeight_eq_elim (state : CoordinatorState P) (key : TaskKey) :
    state.taskWeight key = ((taskOf state.proofs key).map Task.data).elim 0 TaskData.weight := by
  unfold taskWeight
  rw [show state.getTask key.1 key.2 = taskOf state.proofs key from rfl]
  cases taskOf state.proofs key with
  | none => rfl
  | some task => rfl

omit [QueuePolicy P] in
theorem taskWeight_of_data {key : TaskKey}
    (same : (taskOf state'.proofs key).map Task.data = (taskOf state.proofs key).map Task.data) :
    state'.taskWeight key = state.taskWeight key := by
  rw [taskWeight_eq_elim, taskWeight_eq_elim, same]

theorem Rests.of_tasks (policy : state'.policy = state.policy)
    (workers : state'.workers = state.workers)
    (tasks : ∀ queued ∈ state.queuedTasks, ∀ task,
      taskOf state.proofs queued.key = some task → task.unfinished = true →
        ∃ task', taskOf state'.proofs queued.key = some task' ∧ task'.unfinished = true)
    (data : ∀ key, (taskOf state'.proofs key).map Task.data =
      (taskOf state.proofs key).map Task.data) : state.Rests build state' where
  gpu_front env := by rw [policy]
  cpu_front env := by rw [policy]
  tasks queued member task stored unfinished := by
    obtain ⟨task', stored', unfinished'⟩ := tasks queued member task stored unfinished
    have same := data queued.key
    rw [stored, stored', Option.map_some, Option.map_some] at same
    exact ⟨task', stored', unfinished', Option.some.inj same⟩
  workers workerId worker registered := by
    rw [workers] at registered
    refine ⟨worker, registered, fun _ room => room.of_le id rfl rfl ?_ id⟩
    unfold load
    rw [KeySet.sumOver_congr fun key _ => taskWeight_of_data (data key)]

theorem Rests.of_task {key : TaskKey} {task task' : Task} (policy : state'.policy = state.policy)
    (workers : state'.workers = state.workers) (stored : taskOf state.proofs key = some task)
    (tasks : ∀ other, taskOf state'.proofs other =
      if other = key then some task' else taskOf state.proofs other)
    (data : task'.data = task.data)
    (unfinished : ∀ queued ∈ state.queuedTasks, queued.key = key → task.unfinished = true →
      task'.unfinished = true) : state.Rests build state' := by
  refine .of_tasks policy workers ?_ ?_
  · intro queued member waiting storedWaiting waits
    rw [tasks]
    split
    · next same =>
      cases stored.symm.trans (same ▸ storedWaiting)
      exact ⟨task', rfl, unfinished queued member same waits⟩
    · exact ⟨waiting, storedWaiting, waits⟩
  · intro other
    rw [tasks]
    split
    · next same =>
      rw [same, stored, Option.map_some, Option.map_some, data]
    · rfl

theorem Rests.of_same (policy : state'.policy = state.policy)
    (proofs : state'.proofs = state.proofs) (workers : state'.workers = state.workers) :
    state.Rests build state' := by
  refine .of_tasks policy workers ?_ ?_
  · intro queued _ task stored unfinished
    exact ⟨task, proofs ▸ stored, unfinished⟩
  · intro key
    rw [proofs]

theorem Rests.refl (build : Build) (state : CoordinatorState P) : state.Rests build state :=
  .of_same rfl rfl rfl

theorem Rests.trans (first : state.Rests build state') (second : state'.Rests build state'')
    (queues : state'.queuedTasks = state.queuedTasks) : state.Rests build state'' where
  gpu_front env := (second.gpu_front env).trans (first.gpu_front env)
  cpu_front env := (second.cpu_front env).trans (first.cpu_front env)
  tasks queued member task stored unfinished := by
    obtain ⟨task', stored', unfinished', same'⟩ := first.tasks queued member task stored unfinished
    obtain ⟨task'', stored'', unfinished'', same''⟩ :=
      second.tasks queued (queues ▸ member) task' stored' unfinished'
    exact ⟨task'', stored'', unfinished'', same''.trans same'⟩
  workers workerId worker'' registered'' := by
    obtain ⟨worker', registered', room'⟩ := second.workers workerId worker'' registered''
    obtain ⟨worker, registered, room⟩ := first.workers workerId worker' registered'
    exact ⟨worker, registered, fun data free => room data (room' data free)⟩

theorem Rests.of_worker {workerId : String} {worker : Worker} {change : Worker → Worker}
    (policy : state'.policy = state.policy) (proofs : state'.proofs = state.proofs)
    (workers : state'.workers = Table.modify workerId change state.workers)
    (registered : state.workers.lookup workerId = some worker)
    (opened : (change worker).closed = false → worker.closed = false)
    (type : (change worker).workerType = worker.workerType)
    (capacity : (change worker).maxWeight = worker.maxWeight)
    (holds : (change worker).activeTasks = worker.activeTasks)
    (time : (change worker).nextFreeTime = worker.nextFreeTime) : state.Rests build state' := by
  have loads : ∀ {before after : Worker}, after.activeTasks = before.activeTasks →
      state.load before ≤ state'.load after := by
    intro before after same
    unfold load
    rw [same, KeySet.sumOver_congr fun key _ => taskWeight_of_data (by rw [proofs])]
  refine ⟨fun env => by rw [policy], fun env => by rw [policy], ?_, ?_⟩
  · intro queued _ task stored unfinished
    exact ⟨task, proofs ▸ stored, unfinished, rfl⟩
  · intro otherId worker' registered'
    rw [workers, Table.modify_of_lookup registered] at registered'
    rcases Table.lookup_insert_cases registered' with ⟨same, rfl⟩ | ⟨_, registered'⟩
    · refine ⟨worker, same ▸ registered, fun data room =>
        room.of_le opened type capacity (loads holds) ?_⟩
      rw [time]
      exact id
    · exact ⟨worker', registered', fun data room => room.of_le id rfl rfl (loads rfl) id⟩

/-- A proof is removed of which nothing is held and nothing waits. -/
theorem Rests.of_dropped {proofId : String} (filed : LawfulPolicy.Filed state.policy)
    (policy : state'.policy = AssignmentPolicy.onProofDeleted proofId state.policy)
    (proofs : state'.proofs = state.proofs.erase proofId)
    (workers : state'.workers = state.workers)
    (unheld : ∀ workerId taskId, ¬ state.Holds workerId proofId taskId)
    (unqueued : ∀ queued ∈ state.queuedTasks, queued.proofId ≠ proofId) :
    state.Rests build state' := by
  have kept : ∀ key : TaskKey, key.1 ≠ proofId →
      taskOf state'.proofs key = taskOf state.proofs key := by
    intro key different
    rw [proofs, taskOf.erase_eq, if_neg different]
  refine ⟨?_, ?_, ?_, ?_⟩
  · intro env
    rw [policy]
    refine QueuePolicy.gpu_front_onProofDeleted env filed ?_
    intro queued member
    exact unqueued queued (List.mem_append_right _ member)
  · intro env
    rw [policy]
    exact QueuePolicy.cpu_front_onProofDeleted env _ _
  · intro queued member task stored unfinished
    exact ⟨task, (kept queued.key (unqueued queued member)).trans stored, unfinished, rfl⟩
  · intro workerId worker registered
    rw [workers] at registered
    refine ⟨worker, registered, fun data room => room.of_le id rfl rfl (le_of_eq ?_) id⟩
    refine KeySet.sumOver_congr ?_
    intro key member
    refine (taskWeight_of_data (congrArg _ (kept key ?_))).symm
    rintro rfl
    exact unheld workerId key.2 ⟨worker, registered, member⟩

end Resting

/-! ## Calls that do not assign -/

section Releasing

variable {P : Type} [AssignmentPolicy P] {build : Build} {state : CoordinatorState P}
  {proofId : String}

theorem releaseAssignment_cases (skip : Option (String × String)) (task : Task)
    (released : CoordinatorState P × Bool) :
    releaseAssignment build proofId skip task released = released ∨
      ((releaseAssignment build proofId skip task released).2 = true ∧
        ∃ owner, released.1.Holds owner proofId task.id) := by
  unfold releaseAssignment
  split
  · exact .inl rfl
  · next owner _ =>
    split
    · exact .inl rfl
    · split
      · exact .inl rfl
      · next worker registered =>
        split
        · next held => exact .inr ⟨rfl, owner, worker, registered, held⟩
        · exact .inl rfl

/-- The release loop changes nothing, or it says that it released something,
and then a task of the proof was held. -/
theorem releaseRemainingAssignments_cases (env : Env) (proof : Proof)
    (skip : Option (String × String)) :
    state.releaseRemainingAssignments build env proof proofId skip = (state, false) ∨
      ((state.releaseRemainingAssignments build env proof proofId skip).2 = true ∧
        ∃ owner taskId, state.Holds owner proofId taskId) := by
  unfold releaseRemainingAssignments
  generalize env.shuffle proof.tasks.entries = entries
  have raised : ∀ (entries : List (Sigma fun _ : String => Task))
      (released : CoordinatorState P × Bool), released.2 = true →
      (entries.foldl (fun released entry => releaseAssignment build proofId skip entry.2 released)
        released).2 = true := by
    intro entries
    induction entries with
    | nil => exact fun _ flag => flag
    | cons entry rest ih =>
      intro released flag
      refine ih _ ?_
      change (releaseAssignment build proofId skip entry.2 released).2 = true
      rcases releaseAssignment_cases skip entry.2 released with same | ⟨flagged, -⟩
      · rw [same]
        exact flag
      · exact flagged
  induction entries with
  | nil => exact .inl rfl
  | cons entry rest ih =>
    rw [List.foldl_cons]
    rcases releaseAssignment_cases skip entry.2 (state, false) with same | ⟨flagged, owner, held⟩
    · rw [same]
      exact ih
    · exact .inr ⟨raised rest _ flagged, owner, entry.2.id, held⟩

end Releasing

section Calls

variable {P : Type} [QueuePolicy P] {build : Build} {transit : Set TaskKey} {issued : Set String}
  {state : CoordinatorState P} {workerId proofId taskId : String}

theorem rests_insertProof (env : Env) (expiresAt : ℤ) (absent : proofId ∉ state.proofs) :
    state.Rests build (state.insertProof env proofId expiresAt) := by
  have same : ∀ key, taskOf (state.insertProof env proofId expiresAt).proofs key =
      taskOf state.proofs key := taskOf.insert_empty_eq absent rfl
  refine .of_tasks rfl rfl ?_ ?_
  · intro queued _ task stored unfinished
    exact ⟨task, (same _).trans stored, unfinished⟩
  · intro key
    rw [same]

theorem rests_subscribeTask (subId proofId : String) (channel : Channel) (taskId : String) :
    state.Rests build (subscribeTask subId proofId channel state taskId) := by
  unfold subscribeTask
  split
  · exact .of_same rfl rfl rfl
  · next task got =>
    split
    · exact .of_same rfl rfl rfl
    · have inTable : taskOf state.proofs (proofId, taskId) = some task := got
      obtain ⟨proof, found, stored⟩ := taskOf.exists_of_eq_some inTable
      exact .of_task rfl rfl inTable (taskOf_modifyTask found stored _) rfl fun _ _ _ => id

omit [QueuePolicy P] in
theorem policy_subscribeTask (subId proofId : String) (channel : Channel) (taskId : String) :
    (subscribeTask subId proofId channel state taskId).policy = state.policy := by
  unfold subscribeTask
  split
  · rfl
  · split <;> rfl

theorem rests_addSubscriptions (subId proofId : String) (channel : Channel)
    (taskIds : List String) :
    state.Rests build (state.addSubscriptions subId proofId channel taskIds) := by
  have all : ∀ current : CoordinatorState P,
      current.Rests build (taskIds.foldl (subscribeTask subId proofId channel) current) := by
    induction taskIds with
    | nil => exact fun current => .refl build current
    | cons taskId rest ih =>
      intro current
      refine (rests_subscribeTask subId proofId channel taskId).trans (ih _) ?_
      unfold queuedTasks
      rw [policy_subscribeTask]
  unfold addSubscriptions
  split
  · exact all state
  · exact .of_same rfl rfl rfl

theorem rests_failProof (env : Env) (blamed : Option String) (notifySender : Bool)
    (extraData : Option String) (filed : LawfulPolicy.Filed state.policy)
    (unheld : ∀ workerId taskId, ¬ state.Holds workerId proofId taskId)
    (unqueued : ∀ queued ∈ state.queuedTasks, queued.proofId ≠ proofId) :
    state.Rests build
      (state.failProofInternal build env proofId blamed notifySender extraData none).state := by
  refine failProofInternal_rule (Q := state.Rests build) env blamed notifySender extraData none
    (.refl build state) ?_
  unfold tearDown
  split
  · exact .of_dropped filed rfl rfl rfl unheld unqueued
  · next proof found =>
    dsimp only
    let dropped : CoordinatorState P := (state.dropProof proofId).emitAll
      (((env.shuffle proof.tasks.entries).map fun entry => entry.2).flatMap
        (teardownNotice proofId))
    have nothing : dropped.releaseRemainingAssignments build env proof proofId none =
        (dropped, false) := by
      rcases (releaseRemainingAssignments_cases env proof none :
        dropped.releaseRemainingAssignments build env proof proofId none = _ ∨ _)
        with same | ⟨-, owner, other, held⟩
      · exact same
      · exact absurd held (unheld owner other)
    rw [nothing]
    split <;> exact .of_dropped filed rfl rfl rfl unheld unqueued

omit [QueuePolicy P] in
theorem recordCompletion_dropped [AssignmentPolicy P] (env : Env) (metadata : TaskMetadata)
    {proof : Proof} {task : Task}
    (last : (proof.completeTask workerId taskId task).activeTasks = 0)
    (unreleased : (state.recordCompletion build env workerId proofId taskId proof task
      metadata).2 = false) :
    let next := (state.recordCompletion build env workerId proofId taskId proof task metadata).1
    next.policy = AssignmentPolicy.onProofDeleted proofId state.policy ∧
      next.proofs = state.proofs.erase proofId ∧ next.workers = state.workers := by
  let dropped : CoordinatorState P :=
    (state.writeRecord proofId taskId (proof.completeTask workerId taskId task)).dropProof proofId
  have erased : dropped.proofs = state.proofs.erase proofId := Table.erase_insert ..
  unfold recordCompletion at unreleased ⊢
  simp only [if_pos last] at unreleased ⊢
  rcases (releaseRemainingAssignments_cases env (proof.completeTask workerId taskId task)
    (some (workerId, taskId)) : dropped.releaseRemainingAssignments build env
      (proof.completeTask workerId taskId task) proofId (some (workerId, taskId)) = _ ∨ _)
    with same | ⟨flagged, -⟩
  · rw [same]
    dsimp only
    split <;> exact ⟨rfl, erased, rfl⟩
  · rw [flagged] at unreleased
    cases unreleased

omit [QueuePolicy P] in
theorem workers_recordCompletion [AssignmentPolicy P] (env : Env) (metadata : TaskMetadata)
    {proof : Proof} {task : Task}
    (unreleased : (state.recordCompletion build env workerId proofId taskId proof task
      metadata).2 = false) :
    (state.recordCompletion build env workerId proofId taskId proof task metadata).1.workers =
      state.workers := by
  by_cases last : (proof.completeTask workerId taskId task).activeTasks = 0
  · exact (recordCompletion_dropped env metadata last unreleased).2.2
  · unfold recordCompletion
    simp only [if_neg last]
    split <;> rfl

/-- A completion that does not assign: what waits in the queues are other
unfinished tasks. -/
theorem rests_recordCompletion (env : Env) (metadata : TaskMetadata) {proof : Proof} {task : Task}
    (filed : LawfulPolicy.Filed state.policy) (found : state.proofs.lookup proofId = some proof)
    (stored : proof.tasks.lookup taskId = some task)
    (sound : ((state.recordCompletion build env workerId proofId taskId proof task
      metadata).1.board transit issued).Sound build)
    (unreleased : (state.recordCompletion build env workerId proofId taskId proof task
      metadata).2 = false)
    (unqueued : task.unfinished = true →
      ∀ queued ∈ state.queuedTasks, queued.key ≠ (proofId, taskId))
    (others : (proof.completeTask workerId taskId task).activeTasks = 0 →
      ∀ queued ∈ state.queuedTasks, queued.proofId ≠ proofId) :
    state.Rests build
      (state.recordCompletion build env workerId proofId taskId proof task metadata).1 := by
  by_cases last : (proof.completeTask workerId taskId task).activeTasks = 0
  · obtain ⟨policy, proofs, workers⟩ := recordCompletion_dropped env metadata last unreleased
    refine .of_dropped filed policy proofs workers ?_ (others last)
    -- a held task is stored afterwards too, and the tasks of this proof are not
    rintro holder other ⟨worker, registered, held⟩
    obtain ⟨record, storedAfter, -⟩ := sound.held_task ⟨worker, workers ▸ registered, held⟩
    have gone : taskOf (state.proofs.erase proofId) (proofId, other) = some record :=
      proofs ▸ storedAfter
    rw [taskOf.erase_eq, if_pos rfl] at gone
    cases gone
  · have proofs : (state.recordCompletion build env workerId proofId taskId proof task
        metadata).1.proofs = _ := proofs_recordCompletion env metadata last
    have tasks : ∀ key, taskOf (state.recordCompletion build env workerId proofId taskId proof task
        metadata).1.proofs key = if key = (proofId, taskId) then some (Task.complete workerId task)
          else taskOf state.proofs key := by
      intro key
      rw [proofs]
      exact taskOf.set_eq found rfl key
    refine .of_task ?_ (workers_recordCompletion env metadata unreleased)
      ((taskOf.of_lookup found).trans stored) tasks rfl ?_
    · unfold recordCompletion
      simp only [if_neg last]
      split <;> rfl
    · intro queued member same unfinished
      exact absurd same (unqueued unfinished queued member)

end Calls

/-! ## Every call -/

theorem shuttingDown_of_moves {build : Build} {inputs : Inputs} {board board' : Board}
    (quiet : inputs.stops = false) (moves : Moves build inputs board board') :
    board'.shuttingDown = board.shuttingDown := by
  induction moves with
  | refl => rfl
  | tail _ move ih =>
    rw [← ih]
    cases move with
    | fail found stored inTransit unfinished alive reported =>
      unfold Board.failTask
      dsimp only
      split <;> rfl
    | halt asked =>
      rw [quiet] at asked
      cases asked
    | _ => rfl

section Exec

variable {P : Type} [QueuePolicy P] {build : Build} {transit transit' : Set TaskKey}
  {issued issued' : Set String} {state state' : CoordinatorState P}

theorem Ready.steps {inputs : Inputs} (ready : state.Ready build transit issued)
    (quiet : inputs.stops = false)
    (steps : Steps build inputs transit transit' issued issued' state state') :
    state'.Ready build transit' issued' where
  filed := steps.filed ready.filed
  sound := steps.sound ready.sound
  light := ready.light.moves ready.sound quiet steps.moves
  running := (shuttingDown_of_moves quiet steps.moves).trans ready.running

/-- A completion of an unfinished task comes from the worker that holds it, or
no entry of it waits in a queue, nor one of its proof if this was the last
active task. A proof is only failed when none of its tasks is held or waits in
a queue. -/
def sparesQueues (state : CoordinatorState P) : Call → Bool
  | .completeTask workerId proofId taskId _ =>
    match state.proofs.lookup proofId with
    | none => true
    | some proof =>
      match proof.tasks.lookup taskId with
      | none => true
      | some task =>
        !task.unfinished || state.isHeldBy workerId proofId taskId ||
          (state.queuedTasks.all (fun queued => queued.key ≠ (proofId, taskId)) &&
            ((proof.completeTask workerId taskId task).activeTasks != 0 ||
              state.queuedTasks.all fun queued => queued.proofId ≠ proofId))
  | .failProof proofId _ _ _ =>
    (state.workers.entries.all fun entry =>
      entry.2.activeTasks.keys.all fun key => key.1 ≠ proofId) &&
        state.queuedTasks.all fun queued => queued.proofId ≠ proofId
  | _ => true

/-- A call that spares the queues and does not assign rests. -/
theorem Idles.rests {env : Env} {call : Call} (ready : state.Ready build transit issued)
    (sound : (state'.board transit' issued').Sound build)
    (spares : state.sparesQueues call = true) (idles : Idles build env state call state') :
    state.Rests build state' := by
  cases idles with
  | same policy proofs workers => exact .of_same policy proofs workers
  | insertProof request absent => exact rests_insertProof env request.expiresAt absent
  | @complete workerId proofId taskId metadata proof task found stored unreleased unowned =>
    have unheld : state.isHeldBy workerId proofId taskId = false := by
      rw [← unowned]
      unfold isHeldBy
      rw [workers_recordCompletion env metadata unreleased]
    simp only [sparesQueues, found, stored, unheld, Bool.or_false, Bool.or_eq_true,
      Bool.not_eq_true', Bool.and_eq_true, List.all_eq_true, decide_eq_true_iff,
      bne_iff_ne] at spares
    refine rests_recordCompletion env metadata ready.filed found stored sound unreleased ?_ ?_
    · intro unfinished
      rcases spares with finished | ⟨unqueued, -⟩
      · rw [unfinished] at finished
        cases finished
      · exact unqueued
    · intro last
      rcases spares with finished | ⟨-, alive | unqueued⟩
      · have kept : (proof.completeTask workerId taskId task).activeTasks = proof.activeTasks := by
          simp [Proof.completeTask, finished]
        exact absurd (kept ▸ last) ((ready.sound.accounted found).activeTasks_ne_zero stored)
      · exact absurd last alive
      · exact unqueued
  | failProof proofId taskId notifySender extraData =>
    simp only [sparesQueues, Bool.and_eq_true, List.all_eq_true, decide_eq_true_iff] at spares
    refine rests_failProof env taskId notifySender extraData ready.filed ?_ spares.2
    rintro workerId other ⟨worker, registered, held⟩
    exact spares.1 _ (Table.mem_entries_iff.mpr registered) _ (AList.mem_keys.mp held) rfl
  | changeWorker policy proofs workers registered opened type alike time =>
    exact .of_worker policy proofs workers registered opened type alike.maxWeight
      alike.activeTasks time
  | subscribe subId proofId channel taskIds =>
    exact rests_addSubscriptions subId proofId channel taskIds

/-- **A call assigns or rests**, when it spares the queues. -/
theorem exec_exhausts (ready : state.Ready build transit issued) (event : Event)
    (fresh : ∀ taskId, event.drawn = some taskId → taskId ∉ issued)
    (running : event.call.stops = false) (clock : ∀ read, 0 ≤ event.env.clock read)
    (spares : state.sparesQueues event.call = true) :
    (state.exec build event.env event.call).state.Exhausted build event.env ∨
      state.Rests build (state.exec build event.env event.call).state := by
  have ends := ends_exec ready.filed ready.sound event fresh running
  generalize (state.exec build event.env event.call).state = result at ends ⊢
  cases ends with
  | assigns subset drawn steps =>
    have quiet : (event.call.inputs build).stops = false := (Call.stops_inputs ..).trans running
    exact .inl ((ready.steps quiet steps).exhausted clock)
  | rests subset steps idles =>
    exact .inr (idles.rests ready (steps.sound ready.sound) spares)

theorem Ready.performs {inputs : Inputs} (ready : state.Ready build transit issued)
    (quiet : inputs.stops = false)
    (performs : Performs build inputs transit transit' issued issued' state state') :
    state'.Ready build transit' issued' := by
  obtain ⟨middle, moves, turns⟩ := performs.plays
  have soundMiddle := ready.sound.moves moves
  refine ⟨performs.filed, soundMiddle.assignSteps turns, ?_, ?_⟩
  · exact (ready.light.moves ready.sound quiet moves).assignSteps soundMiddle turns
  · exact ((shuttingDown_of_turns turns).trans (shuttingDown_of_moves quiet moves)).trans
      ready.running

/-! ## Runs -/

/-- Whatever could be assigned has been assigned, for the order in which some
call of the run has found the heaps, or for every order. -/
def SaturatedAfter (build : Build) (events : List Event) (state : CoordinatorState P) : Prop :=
  (∀ env, state.Saturated build env) ∨ ∃ event ∈ events, state.Saturated build event.env

theorem exhausted_new (env : Env) : (new : CoordinatorState P).Exhausted build env := by
  constructor
  · intro queued front
    have waiting := (QueuePolicy.gpu_serves env).waiting LawfulPolicy.filed_empty front
    rw [LawfulPolicy.backlog_empty] at waiting
    cases waiting
  · intro queued front
    have waiting := (QueuePolicy.cpu_serves env).waiting LawfulPolicy.filed_empty front
    rw [LawfulPolicy.backlog_empty] at waiting
    cases waiting

theorem reach_exhausted {events : List Event} (fresh : Event.FreshIds events)
    (running : ∀ event ∈ events, event.call.stops = false)
    (clock : ∀ event ∈ events, ∀ read, 0 ≤ event.env.clock read)
    (spares : Systems.Along (CoordinatorState.step (P := P) build) new
      (fun state event => state.sparesQueues event.call = true) events) :
    (∃ transit issued, (reach P build events).Ready build transit issued ∧
      (reach P build events).Sane build events transit issued) ∧
      ((∀ env, (reach P build events).Exhausted build env) ∨
        ∃ event ∈ events, (reach P build events).Exhausted build event.env) := by
  refine Systems.run_invariant (fun past state => Event.FreshIds past →
    (∀ event ∈ past, event.call.stops = false) →
    (∀ event ∈ past, ∀ read, 0 ≤ event.env.clock read) →
      (∃ transit issued, state.Ready build transit issued ∧
        state.Sane build past transit issued) ∧
        ((∀ env, state.Exhausted build env) ∨ ∃ event ∈ past, state.Exhausted build event.env))
    ?_ ?_ spares fresh running clock
  · intro _ _ _
    have sound : ((new : CoordinatorState P).board ∅ ∅).Sound build := by
      rw [board_new]
      exact Sound.empty build
    refine ⟨⟨∅, ∅, ⟨LawfulPolicy.filed_empty, sound, ?_, rfl⟩,
      ⟨sound, LawfulPolicy.filed_empty, by simp, fun _ => rfl⟩⟩, .inl fun env => exhausted_new env⟩
    intro workerId worker registered
    cases registered
  · intro past state event ih sparesNow freshNow runningNow clockNow
    obtain ⟨⟨transit, issued, ready, sane⟩, exhausted⟩ := ih freshNow.of_append
      (fun earlier member => runningNow earlier (by simp [member]))
      (fun earlier member => clockNow earlier (by simp [member]))
    have runningEvent : event.call.stops = false := runningNow event (by simp)
    have quiet : (event.call.inputs build).stops = false := (Call.stops_inputs ..).trans runningEvent
    obtain ⟨transit', issued', sane', performs⟩ := sane.step event freshNow
    refine ⟨⟨transit', issued', ready.performs quiet performs, sane'⟩, ?_⟩
    have cleared : state.clearOutbox.Ready build transit issued :=
      ⟨ready.filed, ready.sound, ready.light, ready.running⟩
    have drawnFresh : ∀ taskId, event.drawn = some taskId → taskId ∉ issued :=
      fun taskId drawn member => freshNow.drawn_fresh drawn (sane.issued_drawn taskId member)
    rcases exec_exhausts cleared event drawnFresh runningEvent (clockNow event (by simp)) sparesNow
      with exhaustedNow | rests
    · exact .inr ⟨event, by simp, exhaustedNow⟩
    · have kept : ∀ env, state.Exhausted build env → (state.step build event).Exhausted build env :=
        fun env before => Exhausted.rests (⟨before.gpu, before.cpu⟩ :
          state.clearOutbox.Exhausted build env) cleared.filed rests
      rcases exhausted with always | ⟨earlier, member, before⟩
      · exact .inl fun env => kept env (always env)
      · exact .inr ⟨earlier, by simp [member], kept earlier.env before⟩

theorem reach_saturatedAfter {events : List Event} (fresh : Event.FreshIds events)
    (running : ∀ event ∈ events, event.call.stops = false)
    (clock : ∀ event ∈ events, ∀ read, 0 ≤ event.env.clock read)
    (spares : Systems.Along (CoordinatorState.step (P := P) build) new
      (fun state event => state.sparesQueues event.call = true) events) :
    (reach P build events).SaturatedAfter build events := by
  obtain ⟨-, always | ⟨event, member, exhausted⟩⟩ := reach_exhausted fresh running clock spares
  · exact .inl fun env => (always env).saturated
  · exact .inr ⟨event, member, exhausted.saturated⟩

end Exec

end CoordinatorState

/-- Two GPU tasks that each fill the worker; the task of one proof runs and the
task of the other waits. -/
def twoHeavyShards : List Event :=
  [(Call.register "g" .gpu 24).plain "", (Call.claim "p").plain "t",
    (Call.spawn "p" .proveShard 24).plain "u", (Call.claim "q").plain "s",
    (Call.spawn "q" .proveShard 24).plain "v"]

/-- A proof without tasks is failed, and the running task completes. -/
def heavyShardCompleted : List Event :=
  twoHeavyShards ++ [(Call.createDummyProof ⟨"d", 0⟩).plain "",
    (Call.failProof "d" none false none).plain "", (Call.completeTask "g" "p" "u" ⟨0⟩).plain ""]

/-- The proof of the running task is failed. -/
def runningProofFailed : List Event :=
  twoHeavyShards ++ [(Call.failProof "p" none true none).plain ""]

end Sp1Cluster
