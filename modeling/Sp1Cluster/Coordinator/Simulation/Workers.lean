import Sp1Cluster.Coordinator.Simulation.Tasks

/-!
# Simulation: workers, sweeps, subscriptions and every call

The calls about workers are moves of the board, as are the sweeps, the
subscriptions and the shutdown. The code removes the record of a worker first
and requeues its tasks afterwards; on the board the worker gives up its tasks
one by one and is removed when it holds none.
-/

set_option autoImplicit false

namespace Sp1Cluster.CoordinatorState

open Relation Board

variable {P : Type} [LawfulPolicy P] {build : Build} {inputs : Inputs} {transit : Set TaskKey}
  {issued : Set String} {state : CoordinatorState P} (filed : LawfulPolicy.Filed state.policy)
  (sound : (state.board transit issued).Sound build)

include filed sound in
theorem steps_foldl {α : Type} {turn : CoordinatorState P → α → CoordinatorState P}
    {elements : List α}
    (turns : ∀ element ∈ elements, ∀ {transit : Set TaskKey} {state : CoordinatorState P},
      LawfulPolicy.Filed state.policy → (state.board transit issued).Sound build →
      ∃ transit' ⊆ transit,
      Steps build inputs transit transit' issued issued state (turn state element)) :
    ∃ transit' ⊆ transit,
      Steps build inputs transit transit' issued issued state (elements.foldl turn state) := by
  induction elements generalizing state transit with
  | nil => exact ⟨transit, subset_rfl, .refl ..⟩
  | cons element rest ih =>
    obtain ⟨transit₁, subset₁, first⟩ := turns element List.mem_cons_self filed sound
    obtain ⟨transit₂, subset₂, later⟩ := ih (first.filed filed) (first.sound sound)
      fun other member => turns other (List.mem_cons_of_mem _ member)
    exact ⟨transit₂, subset₂.trans subset₁, first.trans later⟩

/-! ## Removing workers -/

section Removing

variable {workerId : String}

def withWorkers (workers : Table String Worker) (state : CoordinatorState P) :
    CoordinatorState P :=
  { state with workers := workers }

theorem enqueueTask_withWorkers (workers : Table String Worker) (task : Task) :
    (state.enqueueTask build task).withWorkers workers =
      (state.withWorkers workers).enqueueTask build task := by
  have same : (state.withWorkers workers).getQueuedTask task = state.getQueuedTask task := rfl
  unfold CoordinatorState.enqueueTask
  rw [same]
  split <;> rfl

/-- One turn of the loop: the worker gives up a task that is marked and put back
into its queue. -/
theorem steps_requeueTask {workers : Table String Worker} {worker : Worker} {key : TaskKey}
    (sound : ((state.withWorkers workers).board transit issued).Sound build)
    (registered : workers.lookup workerId = some worker) (held : key ∈ worker.activeTasks) :
    ∃ transit' ⊆ transit, ∃ weight,
      Steps build inputs transit transit' issued issued (state.withWorkers workers)
        ((requeueTask build state key).withWorkers
          (workers.insert workerId (worker.abandon key weight))) := by
  obtain ⟨proofId, taskId⟩ := key
  obtain ⟨task, stored, -, notFatal, -⟩ := sound.held_task ⟨worker, registered, held⟩
  obtain ⟨proof, found, inProof⟩ := taskOf.exists_of_eq_some stored
  have sameId : task.id = taskId := sound.task_id stored
  have sameProof : task.data.proofId = proofId := sound.task_proofId stored
  let given : CoordinatorState P :=
    ((state.withWorkers workers).postTaskUpdateState build proofId task.data).modifyWorker
      workerId (Worker.abandon (proofId, taskId) task.data.weight)
  have released : Steps build inputs transit _ issued issued (state.withWorkers workers) given :=
    steps_release registered held stored (.inr rfl) true
  have givenFound : given.proofs.lookup proofId = some proof := found
  have marked := released.trans (steps_requeued givenFound inProof)
  have storedMarked : taskOf (given.modifyTask proofId taskId Task.requeue).proofs
      (proofId, taskId) = some task.requeue := by
    rw [taskOf_modifyTask givenFound inProof, if_pos rfl]
  have inTransit : (proofId, taskId) ∈
      (if task.unfinished || true then insert (proofId, taskId) transit else transit) := by simp
  have queued := marked.trans
    (steps_enqueueTask proofId taskId task.requeue storedMarked sameId sameProof inTransit notFatal)
  have sameTurn : (requeueTask build state (proofId, taskId)).withWorkers
      (workers.insert workerId (worker.abandon (proofId, taskId) task.data.weight)) =
        (given.modifyTask proofId taskId Task.requeue).enqueueTask build task.requeue := by
    have got : state.getTask proofId taskId = some task := stored
    simp only [requeueTask, got, enqueueTask_withWorkers]
    simp only [given, withWorkers, modifyTask, postTaskUpdateState, modifyPolicy, modifyWorker,
      Table.modify_of_lookup registered]
  refine ⟨_, ?_, task.data.weight, sameTurn ▸ queued⟩
  rintro other ⟨member, different⟩
  split at member
  · rcases member with rfl | before
    · exact absurd rfl different
    · exact before
  · exact member

theorem workers_enqueueTask (task : Task) :
    (state.enqueueTask build task).workers = state.workers := by
  unfold CoordinatorState.enqueueTask
  split <;> rfl

theorem workers_requeueTask (key : TaskKey) :
    (requeueTask build state key).workers = state.workers := by
  unfold requeueTask
  split
  · rfl
  · rw [workers_enqueueTask]
    rfl

/-- The loop: the worker gives up the tasks it holds one by one. -/
theorem steps_requeueTasks {workers : Table String Worker} {worker : Worker}
    (keys : List TaskKey)
    (filed : LawfulPolicy.Filed state.policy)
    (sound : ((state.withWorkers workers).board transit issued).Sound build)
    (removed : state.workers = workers.erase workerId)
    (registered : workers.lookup workerId = some worker) (distinct : keys.Nodup)
    (holds : ∀ key, key ∈ worker.activeTasks ↔ key ∈ keys) :
    ∃ transit' ⊆ transit,
      Steps build inputs transit transit' issued issued (state.withWorkers workers)
        (keys.foldl (requeueTask build) state) := by
  induction keys generalizing state transit workers worker with
  | nil =>
    refine ⟨transit, subset_rfl, .single ?_, fun _ => filed⟩
    have same : state.board transit issued =
        ((state.withWorkers workers).board transit issued).removeWorker workerId := by
      simp only [board, withWorkers, Board.removeWorker, removed]
    change Move build inputs _ (state.board transit issued)
    rw [same]
    refine .removeWorker registered ?_
    intro key
    rw [holds]
    exact List.not_mem_nil
  | cons key rest ih =>
    obtain ⟨unlisted, distinctRest⟩ := List.nodup_cons.mp distinct
    have held : key ∈ worker.activeTasks := (holds key).mpr List.mem_cons_self
    obtain ⟨transit₁, subset₁, weight, turn⟩ : ∃ transit' ⊆ transit, ∃ weight,
        Steps build inputs transit transit' issued issued (state.withWorkers workers)
          ((requeueTask build state key).withWorkers
            (workers.insert workerId (worker.abandon key weight))) :=
      steps_requeueTask sound registered held
    have filedTurn : LawfulPolicy.Filed (requeueTask build state key).policy := turn.filed filed
    have removedTurn : (requeueTask build state key).workers =
        (workers.insert workerId (worker.abandon key weight)).erase workerId := by
      rw [workers_requeueTask, removed, Table.erase_insert]
    have left : ∀ other, other ∈ (worker.abandon key weight).activeTasks ↔ other ∈ rest := by
      intro other
      rw [mem_of_released (.inr rfl), holds, List.mem_cons]
      constructor
      · rintro ⟨different, same | later⟩
        · exact absurd same different
        · exact later
      · intro later
        refine ⟨?_, .inr later⟩
        rintro rfl
        exact unlisted later
    obtain ⟨transit₂, subset₂, later⟩ := ih filedTurn (turn.sound sound) removedTurn
      (AList.lookup_insert _) distinctRest left
    exact ⟨transit₂, subset₂.trans subset₁, turn.trans later⟩

include filed sound in
theorem steps_removeWorkerInternal (env : Env) (workerId : String) :
    ∃ transit' ⊆ transit, Steps build inputs transit transit' issued issued state
      (state.removeWorkerInternal build env workerId) := by
  unfold removeWorkerInternal
  split
  · exact ⟨transit, subset_rfl, .refl ..⟩
  · next worker registered =>
    have listed : ∀ key, key ∈ worker.activeTasks ↔ key ∈ env.shuffle worker.activeTasks.keys := by
      intro key
      rw [env.mem_shuffle]
      exact AList.mem_keys
    have distinct : (env.shuffle worker.activeTasks.keys).Nodup :=
      (env.shuffle_perm _).nodup_iff.mpr (AList.keys_nodup _)
    let erased : CoordinatorState P := { state with workers := state.workers.erase workerId }
    have filed' : LawfulPolicy.Filed erased.policy := filed
    have sound' : ((erased.withWorkers state.workers).board transit issued).Sound build := sound
    exact steps_requeueTasks (env.shuffle worker.activeTasks.keys) filed' sound' rfl registered
      distinct listed

end Removing

/-! ## Registering workers and heartbeats -/

section Registering

variable {workerId : String} {worker : Worker}

theorem ends_addWorker (env : Env) (workerId : String) (workerType : WorkerType) (maxWeight : ℕ)
    (channel : Channel) (identity : WorkerIdentity) :
    Ends build env (.addWorker workerId workerType maxWeight channel identity) transit issued state
      (state.addWorker build env workerId workerType maxWeight channel identity).state := by
  unfold addWorker
  split
  · next known =>
    obtain ⟨worker, registered⟩ := Table.exists_lookup known
    exact .rests subset_rfl (steps_changeWorker registered ⟨rfl, rfl, rfl⟩ (.inl rfl))
      (.changeWorker rfl rfl rfl registered id rfl ⟨rfl, rfl, rfl⟩ rfl)
  · next unknown =>
    split
    · exact .still rfl rfl rfl rfl
    · next now _ =>
      rw [assignThen_state]
      exact .of_steps ⟨transit, subset_rfl, .single (.addWorker unknown rfl rfl rfl rfl), id⟩

theorem ends_closeWorker (env : Env) (workerId : String) :
    Ends build env (.closeWorker workerId) transit issued state
      (state.closeWorker workerId).state := by
  unfold closeWorker
  split
  · next known =>
    obtain ⟨worker, registered⟩ := Table.exists_lookup known
    exact .rests subset_rfl (steps_changeWorker registered ⟨rfl, rfl, rfl⟩ (.inl rfl))
      (.changeWorker rfl rfl rfl registered nofun rfl ⟨rfl, rfl, rfl⟩ rfl)
  · exact .still rfl rfl rfl rfl

/-- Nothing is removed from a worker by a heartbeat, because everything it holds
is stored. -/
theorem missing_stored (sound : (state.board transit issued).Sound build)
    (registered : state.workers.lookup workerId = some worker) (keys : List TaskKey)
    (held : ∀ key ∈ keys, key ∈ worker.activeTasks) :
    keys.filter (fun key => (state.getTask key.1 key.2).isNone) = [] := by
  refine List.filter_eq_nil_iff.mpr ?_
  intro key member missing
  obtain ⟨task, stored, -⟩ := sound.held_task ⟨worker, registered, held key member⟩
  have got : state.getTask key.1 key.2 = some task := stored
  simp [got] at missing

/-- The record a heartbeat writes. -/
theorem steps_reconcile (effects : List Effect) (now : ℕ)
    (registered : state.workers.lookup workerId = some worker) :
    Steps build inputs transit transit issued issued state
      ((state.emitAll effects).modifyWorker workerId
        (Worker.reconcile now (state.assignedWeight worker.activeTasks) worker.activeTasks)) := by
  have emitted : Steps build inputs transit transit issued issued state (state.emitAll effects) :=
    .of_board_eq _ _ rfl rfl rfl rfl
  refine emitted.trans (steps_changeWorker registered ?_ (.inr ?_))
  · unfold Worker.reconcile
    dsimp only
    split <;> exact ⟨rfl, rfl, rfl⟩
  · unfold Worker.reconcile
    dsimp only
    split
    · next empty =>
      rw [KeySet.sumOver_of_isEmpty _ empty]
      rfl
    · rfl

theorem ends_handleHeartbeat (sound : (state.board transit issued).Sound build) (env : Env)
    (workerId : String) (activeTaskProofIds activeTaskIds : List String) (currentWeight : ℕ) :
    Ends build env (.handleHeartbeat workerId activeTaskProofIds activeTaskIds currentWeight)
      transit issued state (state.handleHeartbeat build env workerId activeTaskProofIds activeTaskIds
        currentWeight).state := by
  unfold handleHeartbeat
  split
  · exact .still rfl rfl rfl rfl
  · next worker registered =>
    split
    · exact .still rfl rfl rfl rfl
    · next now _ =>
      dsimp only
      have held : ∀ key ∈ (env.shuffle worker.activeTasks.keys).filter
          (· ∉ activeTaskProofIds.zip activeTaskIds), key ∈ worker.activeTasks := by
        intro key member
        exact AList.mem_keys.mpr (env.mem_shuffle.mp (List.mem_filter.mp member).1)
      rw [missing_stored sound registered _ held]
      split
      · rw [assignOrPanic_state]
        exact .of_steps ⟨transit, subset_rfl, steps_reconcile _ (asSecs now) registered⟩
      · next busy =>
        rw [Bool.not_eq_true, Bool.or_eq_false_iff] at busy
        refine .rests subset_rfl (steps_reconcile _ (asSecs now) registered)
          (.changeWorker rfl rfl rfl registered ?_ ?_ ?_ ?_)
        all_goals rw [Worker.reconcile, if_neg (by simpa using busy.2)]
        · exact id
        · exact ⟨rfl, rfl, rfl⟩

end Registering

/-! ## Sweeps and subscriptions -/

section Sweeping

include filed sound in
theorem ends_removeDeadWorkers {call : Call} (env : Env) (dead : List String) :
    Ends build env call transit issued state (state.removeDeadWorkers build env dead).state := by
  unfold removeDeadWorkers
  rw [assignOrPanic_state]
  exact .of_steps (steps_foldl filed sound fun workerId _ => fun filed sound =>
    steps_removeWorkerInternal filed sound env workerId)

include filed sound in
theorem ends_failExpiredProofs {call : Call} (env : Env) (expired : List String)
    (ended : ∀ proofId ∈ expired, proofId ∈ (call.inputs build).ended) :
    Ends build env call transit issued state (state.failExpiredProofs build env expired).state := by
  unfold failExpiredProofs
  rw [assignOrPanic_state]
  exact .of_steps (steps_foldl filed sound fun proofId member => fun filed sound =>
    steps_failProofInternal filed sound env proofId none false none (ended proofId member))

theorem steps_subscribeTask {subId proofId taskId : String} (channel : Channel)
    (asked : (subId, (proofId, taskId)) ∈ inputs.subscribed) :
    Steps build inputs transit transit issued issued state
      (subscribeTask subId proofId channel state taskId) := by
  unfold subscribeTask
  split
  · exact .of_board_eq _ _ rfl rfl rfl rfl
  · next task got =>
    have inTable : taskOf state.proofs (proofId, taskId) = some task := got
    obtain ⟨proof, found, stored⟩ := taskOf.exists_of_eq_some inTable
    split
    · exact .of_board_eq _ _ rfl rfl rfl rfl
    · next unfinished =>
      refine ⟨.single ?_, id⟩
      rw [board_modifyTask found stored]
      exact .subscribe found stored (by simp [Task.unfinished, unfinished]) asked

include filed sound in
theorem steps_addSubscriptions {subId proofId : String} (channel : Channel) {taskIds : List String}
    (asked : ∀ taskId ∈ taskIds, (subId, (proofId, taskId)) ∈ inputs.subscribed) :
    ∃ transit' ⊆ transit, Steps build inputs transit transit' issued issued state
      (state.addSubscriptions subId proofId channel taskIds) := by
  unfold addSubscriptions
  split
  · refine steps_foldl filed sound fun taskId member => fun _ _ => ?_
    exact ⟨_, subset_rfl, steps_subscribeTask channel (asked taskId member)⟩
  · exact ⟨transit, subset_rfl, .of_board_eq _ _ rfl rfl rfl rfl⟩

end Sweeping

/-! ## Every call -/

include filed sound in
/-- Every call that does not stop the coordinator assigns after moves of the board, or
idles. -/
theorem ends_exec (event : Event) (fresh : ∀ taskId, event.drawn = some taskId → taskId ∉ issued)
    (running : event.call.stops = false) :
    Ends build event.env event.call transit issued state
      (state.exec build event.env event.call).state := by
  obtain ⟨env, call⟩ := event
  cases call with
  | createProof request => exact ends_createProof env request (fresh env.taskId rfl)
  | createDummyProof request => exact ends_createDummyProof env request
  | createTask data => exact ends_createTask env data (fresh env.taskId rfl)
  | completeTask workerId proofId taskId metadata =>
    exact ends_completeTask filed sound env workerId proofId taskId metadata
  | failTask workerId proofId taskId retryable =>
    exact ends_failTask filed sound env workerId proofId taskId retryable
  | completeProof proofId extraData =>
    change Ends build env _ transit issued state (state.completeProof proofId extraData).state
    unfold completeProof
    split <;> exact .still rfl rfl rfl rfl
  | failProof proofId taskId notifySender extraData =>
    obtain ⟨transit', subset, steps⟩ := steps_failProofInternal filed sound env proofId taskId
      notifySender extraData (show proofId ∈
        ((Call.failProof proofId taskId notifySender extraData).inputs build).ended from rfl)
    exact .rests subset steps (.failProof proofId taskId notifySender extraData)
  | handleHeartbeat workerId activeTaskProofIds activeTaskIds currentWeight =>
    exact ends_handleHeartbeat sound env workerId activeTaskProofIds activeTaskIds currentWeight
  | addWorker workerId workerType maxWeight channel identity =>
    exact ends_addWorker env workerId workerType maxWeight channel identity
  | closeWorker workerId => exact ends_closeWorker env workerId
  | removeWorker workerId =>
    exact .of_steps (steps_removeWorkerInternal filed sound env workerId)
  | cleanupDeadWorkers =>
    change Ends build env _ transit issued state (state.cleanupDeadWorkers build env).state
    unfold cleanupDeadWorkers
    split
    · exact .still rfl rfl rfl rfl
    · dsimp only
      split
      · exact .still rfl rfl rfl rfl
      · exact ends_removeDeadWorkers filed sound env _
  | removeDeadWorkers dead => exact ends_removeDeadWorkers filed sound env dead
  | cleanupCancelExpiredProofs =>
    change Ends build env _ transit issued state (state.cleanupCancelExpiredProofs build env).state
    unfold cleanupCancelExpiredProofs
    dsimp only
    split
    · exact .still rfl rfl rfl rfl
    · exact ends_failExpiredProofs filed sound env _ fun _ _ => trivial
  | failExpiredProofs expired =>
    exact ends_failExpiredProofs filed sound env expired fun _ member => member
  | addSubscriptions subId proofId channel taskIds =>
    obtain ⟨transit', subset, steps⟩ := steps_addSubscriptions filed sound channel
      (show ∀ taskId ∈ taskIds, (subId, (proofId, taskId)) ∈
        (Call.inputs build (.addSubscriptions subId proofId channel taskIds)).subscribed from
          fun taskId member => ⟨taskId, member, rfl⟩)
    exact .rests subset steps (.subscribe subId proofId channel taskIds)
  | shutdown => cases running
  | _ => exact .still rfl rfl rfl rfl

include filed sound in
/-- **Every call is moves of the board and turns of the assignment loop.** It
leaves nothing in transit that was not there before, unless it stops the
coordinator, and it issues at most the identifier it draws. -/
theorem performs_exec (event : Event)
    (fresh : ∀ taskId, event.drawn = some taskId → taskId ∉ issued) :
    ∃ transit' issued', (event.call.stops = false → transit' ⊆ transit) ∧
      (∀ taskId ∈ issued', taskId ∈ issued ∨ event.drawn = some taskId) ∧
      Performs build (event.call.inputs build) transit transit' issued issued' state
        (state.exec build event.env event.call).state := by
  cases stops : event.call.stops with
  | true =>
    obtain ⟨env, call⟩ := event
    cases call with
    | shutdown =>
      exact ⟨_, issued, nofun, fun _ => .inl, Steps.performs filed ⟨.single (.halt rfl), id⟩⟩
    | _ => cases stops
  | false =>
    have ends := ends_exec filed sound event fresh stops
    generalize (state.exec build event.env event.call).state = result at ends ⊢
    cases ends with
    | assigns subset drawn steps =>
      exact ⟨_, _, fun _ => subset, drawn, steps.assign filed sound event.env⟩
    | rests subset steps idles =>
      exact ⟨_, issued, fun _ => subset, fun _ => .inl, steps.performs filed⟩

end Sp1Cluster.CoordinatorState
