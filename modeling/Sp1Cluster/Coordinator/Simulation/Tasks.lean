import Sp1Cluster.Coordinator.Simulation.Teardown
import Sp1Cluster.Coordinator.Frames

/-!
# Simulation: creating, completing and failing

The calls about proofs and tasks are moves of the board followed by turns of
the assignment loop.
-/

set_option autoImplicit false

namespace Sp1Cluster.CoordinatorState

open Relation Board

variable {P : Type} [LawfulPolicy P] {build : Build} {inputs : Inputs} {transit : Set TaskKey}
  {issued : Set String} {state : CoordinatorState P} {transit' : Set TaskKey}
  {state' : CoordinatorState P} {issued' : Set String}

/-- What a whole call does: moves of the board, and then turns of the
assignment loop. -/
structure Performs (build : Build) (inputs : Inputs) (transit transit' : Set TaskKey)
    (issued issued' : Set String) (state state' : CoordinatorState P) : Prop where
  plays : ∃ middle, Moves build inputs (state.board transit issued) middle ∧
    ReflTransGen (AssignStep build (AssignmentPolicy.chargesGpuWeight P)) middle
      (state'.board transit' issued')
  filed : LawfulPolicy.Filed state'.policy

theorem Steps.performs (filed : LawfulPolicy.Filed state.policy)
    (steps : Steps build inputs transit transit' issued issued' state state') :
    Performs build inputs transit transit' issued issued' state state' :=
  ⟨⟨_, steps.moves, .refl⟩, steps.filed filed⟩

theorem Steps.assign (filed : LawfulPolicy.Filed state.policy)
    (sound : (state.board transit issued).Sound build) (env : Env)
    (steps : Steps build inputs transit transit' issued issued' state state') :
    Performs build inputs transit transit' issued issued' state
      (AssignmentPolicy.assignTasks build env state').1 := by
  have coherent := (steps.sound sound).toCoherent
  have assigns := LawfulPolicy.assigns build env (steps.filed filed)
    ⟨coherent.task_id, coherent.task_proofId, coherent.worker_id, coherent.queue_type,
      coherent.entry_type⟩
  exact ⟨⟨_, steps.moves, assigns.turns transit' issued'⟩, assigns.filed⟩

/-- What a call does that does not end with an assignment. -/
inductive Idles (build : Build) (env : Env) (state : CoordinatorState P) :
    Call → CoordinatorState P → Prop where
  | same {call : Call} {result : CoordinatorState P} (policy : result.policy = state.policy)
      (proofs : result.proofs = state.proofs) (workers : result.workers = state.workers) :
      Idles build env state call result
  | insertProof (request : CreateDummyProofRequest) (absent : request.proofId ∉ state.proofs) :
      Idles build env state (.createDummyProof request)
        (state.insertProof env request.proofId request.expiresAt)
  | complete {workerId proofId taskId : String} {metadata : TaskMetadata} {proof : Proof}
      {task : Task} (found : state.proofs.lookup proofId = some proof)
      (stored : proof.tasks.lookup taskId = some task)
      (unreleased : (state.recordCompletion build env workerId proofId taskId proof task
        metadata).2 = false)
      (unowned : (state.recordCompletion build env workerId proofId taskId proof task
        metadata).1.isHeldBy workerId proofId taskId = false) :
      Idles build env state (.completeTask workerId proofId taskId metadata)
        (state.recordCompletion build env workerId proofId taskId proof task metadata).1
  | failProof (proofId : String) (taskId : Option String) (notifySender : Bool)
      (extraData : Option String) :
      Idles build env state (.failProof proofId taskId notifySender extraData)
        (state.failProofInternal build env proofId taskId notifySender extraData none).state
  | changeWorker {call : Call} {result : CoordinatorState P} {workerId : String} {worker : Worker}
      {change : Worker → Worker} (policy : result.policy = state.policy)
      (proofs : result.proofs = state.proofs)
      (workers : result.workers = Table.modify workerId change state.workers)
      (registered : state.workers.lookup workerId = some worker)
      (opened : (change worker).closed = false → worker.closed = false)
      (type : (change worker).workerType = worker.workerType) (alike : worker.Alike (change worker))
      (time : (change worker).nextFreeTime = worker.nextFreeTime) :
      Idles build env state call result
  | subscribe (subId proofId : String) (channel : Channel) (taskIds : List String) :
      Idles build env state (.addSubscriptions subId proofId channel taskIds)
        (state.addSubscriptions subId proofId channel taskIds)

/-- How a call ends: after moves of the board, with the assignment loop or without it. -/
inductive Ends (build : Build) (env : Env) (call : Call) (transit : Set TaskKey)
    (issued : Set String) (state : CoordinatorState P) : CoordinatorState P → Prop where
  | assigns {transit' : Set TaskKey} {issued' : Set String} {prepared : CoordinatorState P}
      (subset : transit' ⊆ transit)
      (drawn : ∀ taskId ∈ issued', taskId ∈ issued ∨ (Event.mk env call).drawn = some taskId)
      (steps : Steps build (call.inputs build) transit transit' issued issued' state prepared) :
      Ends build env call transit issued state (AssignmentPolicy.assignTasks build env prepared).1
  | rests {transit' : Set TaskKey} {result : CoordinatorState P} (subset : transit' ⊆ transit)
      (steps : Steps build (call.inputs build) transit transit' issued issued state result)
      (idles : Idles build env state call result) : Ends build env call transit issued state result

section Ending

variable {env : Env} {call : Call} {result : CoordinatorState P}

theorem Ends.still (proofs : result.proofs = state.proofs) (workers : result.workers = state.workers)
    (policy : result.policy = state.policy) (stopped : result.shuttingDown = state.shuttingDown) :
    Ends build env call transit issued state result :=
  .rests subset_rfl (.of_board_eq _ _ proofs workers policy stopped) (.same policy proofs workers)

theorem Ends.of_steps (prepared : ∃ transit' ⊆ transit,
      Steps build (call.inputs build) transit transit' issued issued state result) :
    Ends build env call transit issued state (AssignmentPolicy.assignTasks build env result).1 := by
  obtain ⟨transit', subset, steps⟩ := prepared
  exact .assigns subset (fun _ => .inl) steps

end Ending

/-! ## Creating -/

section Creating

omit [LawfulPolicy P] in
theorem absent_of_refuseProof {proofId : String} (accepted : state.refuseProof proofId = none) :
    proofId ∉ state.proofs := by
  intro present
  unfold refuseProof at accepted
  split at accepted
  · cases accepted
  · cases accepted

theorem steps_insertProof (env : Env) (proofId : String) (expiresAt : ℤ)
    (absent : proofId ∉ state.proofs) :
    Steps build inputs transit transit issued issued state
      (state.insertProof env proofId expiresAt) := by
  refine ⟨.single ?_, id⟩
  exact .addProof absent rfl rfl

/-- A new task with a fresh identifier, up to the assignment. -/
theorem steps_createTask (env : Env) (data : TaskData) {proof : Proof}
    (found : state.proofs.lookup data.proofId = some proof) (fresh : env.taskId ∉ issued)
    (weight : data.weight ∈ inputs.weights) :
    ∃ transit' ⊆ transit, ∃ issued' ⊆ insert env.taskId issued,
      Steps build inputs transit transit' issued issued' state
        (({ state with
            totalTasks := state.totalTasks + 1
            proofs := state.proofs.insert data.proofId
              (proof.addTask (Task.new env data)) } : CoordinatorState P).enqueueTask build
                (Task.new env data)) := by
  let next : CoordinatorState P :=
    { state with
      totalTasks := state.totalTasks + 1
      proofs := state.proofs.insert data.proofId (proof.addTask (Task.new env data)) }
  have created : Steps build inputs transit (insert (data.proofId, env.taskId) transit) issued
      (insert env.taskId issued) state next :=
    ⟨.single (.addTask env data found fresh weight), id⟩
  have stored : (next.board (insert (data.proofId, env.taskId) transit)
      (insert env.taskId issued)).task (data.proofId, env.taskId) =
        some (Task.new env data) := by
    refine (taskOf.set_eq found rfl _).trans ?_
    exact if_pos rfl
  have queued : Steps build inputs (insert (data.proofId, env.taskId) transit)
      (insert (data.proofId, env.taskId) transit \ {(data.proofId, env.taskId)})
      (insert env.taskId issued) (insert env.taskId issued) next
      (next.enqueueTask build (Task.new env data)) :=
    steps_enqueueTask _ _ _ stored rfl rfl (Set.mem_insert _ _) (by simp [Task.new])
  refine ⟨insert (data.proofId, env.taskId) transit \ {(data.proofId, env.taskId)}, ?_,
    insert env.taskId issued, subset_rfl, created.trans queued⟩
  rintro key ⟨rfl | member, different⟩
  · exact absurd rfl different
  · exact member

theorem ends_createTask (env : Env) (data : TaskData) (fresh : env.taskId ∉ issued) :
    Ends build env (.createTask data) transit issued state
      (state.createTaskInternal build env data).state := by
  unfold createTaskInternal
  dsimp only
  split
  · exact .still rfl rfl rfl rfl
  · next proof found =>
    have weight : data.weight ∈ ((Call.createTask data).inputs build).weights := rfl
    obtain ⟨transit', subset, issued', within, steps⟩ :=
      steps_createTask env data found fresh weight
    rw [assignThen_state]
    exact .assigns subset (fun _ member => (within member).symm.imp_right (congrArg some ·.symm))
      steps

theorem ends_createProof (env : Env) (request : CreateProofRequest)
    (fresh : env.taskId ∉ issued) :
    Ends build env (.createProof request) transit issued state
      (state.createProof build env request).state := by
  unfold createProof
  split
  · exact .still rfl rfl rfl rfl
  · next accepted =>
    have absent := absent_of_refuseProof accepted
    have inserted : Steps build ((Call.createProof request).inputs build) transit transit issued
        issued state (state.insertProof env request.proofId request.expiresAt) :=
      steps_insertProof env request.proofId request.expiresAt absent
    obtain ⟨proof, found⟩ : ∃ proof, (state.insertProof env request.proofId
        request.expiresAt).proofs.lookup request.proofId = some proof :=
      ⟨_, AList.lookup_insert _⟩
    obtain ⟨transit', subset, issued', within, steps⟩ : ∃ transit' ⊆ transit,
        ∃ issued' ⊆ insert env.taskId issued, Steps build ((Call.createProof request).inputs build)
          transit transit' issued issued' _ _ :=
      steps_createTask env (rootTaskData build state.executeOnlyMode request) found fresh rfl
    unfold createTaskInternal
    simp only [rootTaskData, found]
    rw [assignThen_state]
    exact .assigns subset (fun _ member => (within member).symm.imp_right (congrArg some ·.symm))
      (inserted.trans steps)

theorem ends_createDummyProof (env : Env) (request : CreateDummyProofRequest) :
    Ends build env (.createDummyProof request) transit issued state
      (state.createDummyProof env request).state := by
  unfold createDummyProof
  split
  · exact .still rfl rfl rfl rfl
  · next accepted =>
    have absent := absent_of_refuseProof accepted
    exact .rests subset_rfl (steps_insertProof env request.proofId request.expiresAt absent)
      (.insertProof request absent)

end Creating

/-! ## Removing proofs -/

variable (filed : LawfulPolicy.Filed state.policy)
  (sound : (state.board transit issued).Sound build)

section Removing

variable {proofId : String} {start : CoordinatorState P} {skip : Option (String × String)}

theorem undropped_dropProof (filed : LawfulPolicy.Filed start.policy)
    (proofs : state.proofs.erase proofId = start.proofs.erase proofId)
    (workers : state.workers = start.workers) (policy : state.policy = start.policy)
    (stopped : state.shuttingDown = start.shuttingDown) :
    Undropped proofId start (state.dropProof proofId) where
  proofs := proofs
  workers := workers
  backlog := by
    change backlogOf (AssignmentPolicy.onProofDeleted proofId state.policy) = _
    rw [policy]
    exact LawfulPolicy.backlog_onProofDeleted proofId
  stopped := stopped
  filed := by
    change LawfulPolicy.Filed (AssignmentPolicy.onProofDeleted proofId state.policy)
    rw [policy]
    exact LawfulPolicy.filed_onProofDeleted proofId filed

/-- A record that lists the tasks of a proof as its stored record does, as far
as workers are concerned. -/
structure RecordCopy (start : CoordinatorState P) (proofId : String) (record : Proof) : Prop where
  copies : ∀ taskId copy, record.tasks.lookup taskId = some copy →
    TaskCopy start proofId taskId copy ∧ copy.id = taskId
  complete : ∀ taskId task, taskOf start.proofs (proofId, taskId) = some task →
    taskId ∈ record.tasks

omit [LawfulPolicy P] in
theorem RecordCopy.of_lookup {proof : Proof} [AssignmentPolicy P]
    (coherent : (start.board transit issued).Coherent build)
    (found : start.proofs.lookup proofId = some proof) : RecordCopy start proofId proof where
  copies taskId copy stored := by
    have here : taskOf start.proofs (proofId, taskId) = some copy :=
      (taskOf.of_lookup found).trans stored
    exact ⟨⟨copy, here, rfl, rfl, rfl⟩, coherent.task_id here⟩
  complete taskId task stored := by
    rw [taskOf.of_lookup found] at stored
    exact Table.mem_of_lookup stored

omit [LawfulPolicy P] in
/-- Changing one task of the record keeps it a copy, when the task keeps its
identity and its worker. -/
theorem RecordCopy.set {proof record : Proof} {taskId : String} {task task' : Task}
    (copy : RecordCopy start proofId proof) (stored : proof.tasks.lookup taskId = some task)
    (changed : record.tasks = proof.tasks.insert taskId task') (sameId : task'.id = task.id)
    (sameData : task'.data = task.data) (sameWorker : task'.worker = task.worker) :
    RecordCopy start proofId record where
  copies other record' found := by
    rw [changed] at found
    rcases Table.lookup_insert_cases found with ⟨rfl, rfl⟩ | ⟨_, found⟩
    · obtain ⟨⟨original, storedOriginal, idIs, dataIs, workerIs⟩, ownId⟩ :=
        copy.copies other task stored
      exact ⟨⟨original, storedOriginal, sameId.trans idIs, sameData.trans dataIs,
        sameWorker.trans workerIs⟩, sameId.trans ownId⟩
    · exact copy.copies other record' found
  complete other record' found := by
    rw [changed, AList.mem_insert]
    exact .inr (copy.complete other record' found)

/-- Dropping a proof and taking its tasks off the workers. -/
theorem emptying_release (filed : LawfulPolicy.Filed start.policy)
    (sound : (start.board transit issued).Sound build) (env : Env) {record : Proof}
    (copy : RecordCopy start proofId record)
    (proofs : state.proofs.erase proofId = start.proofs.erase proofId)
    (workers : state.workers = start.workers) (policy : state.policy = start.policy)
    (stopped : state.shuttingDown = start.shuttingDown) :
    Emptying build inputs proofId skip transit issued start
      ((state.dropProof proofId).releaseRemainingAssignments build env record proofId skip).1
      (fun workerId taskId => skip = some (workerId, taskId)) :=
  (Emptying.begin (undropped_dropProof filed proofs workers policy
    stopped)).releaseRemainingAssignments sound env copy.copies copy.complete

theorem emptying_tearDown (filed : LawfulPolicy.Filed start.policy)
    (sound : (start.board transit issued).Sound build) (env : Env) {record : Proof}
    (notifySender : Bool) (extraData : Option String)
    (found : state.proofs.lookup proofId = some record) (copy : RecordCopy start proofId record)
    (proofs : state.proofs.erase proofId = start.proofs.erase proofId)
    (workers : state.workers = start.workers) (policy : state.policy = start.policy)
    (stopped : state.shuttingDown = start.shuttingDown) :
    Emptying build inputs proofId skip transit issued start
      (state.tearDown build env proofId notifySender extraData skip)
      (fun workerId taskId => skip = some (workerId, taskId)) := by
  have begun : Emptying build inputs proofId skip transit issued start
      ((state.dropProof proofId).emitAll
        (((env.shuffle record.tasks.entries).map fun entry => entry.2).flatMap
          (teardownNotice proofId)))
      (fun workerId taskId => (start.board transit issued).Holds workerId (proofId, taskId)) :=
    Emptying.congr (Emptying.begin (undropped_dropProof filed proofs workers policy stopped))
      rfl rfl rfl rfl
  have emptied := begun.releaseRemainingAssignments sound env copy.copies copy.complete
  unfold tearDown
  rw [found]
  dsimp only
  split
  · exact Emptying.congr emptied rfl rfl rfl rfl
  · exact Emptying.congr emptied rfl rfl rfl rfl

include filed sound in
/-- The teardown of any proof, with nothing left alone. -/
theorem steps_tearDown (env : Env) (proofId : String) (notifySender : Bool)
    (extraData : Option String) (ended : proofId ∈ inputs.ended) :
    ∃ transit' ⊆ transit, Steps build inputs transit transit' issued issued state
      (state.tearDown build env proofId notifySender extraData none) := by
  cases found : state.proofs.lookup proofId with
  | none =>
    have begun : Emptying build inputs proofId none transit issued state
        (state.tearDown build env proofId notifySender extraData none)
        (fun workerId taskId => (state.board transit issued).Holds workerId (proofId, taskId)) := by
      unfold tearDown
      rw [found]
      exact .begin (undropped_dropProof filed rfl rfl rfl rfl)
    refine ((begun.owned sound).weaken ?_).finish ended
    rintro workerId taskId ⟨-, task, stored, -⟩
    simp [taskOf, found] at stored
  | some proof =>
    have emptied : Emptying build inputs proofId none transit issued state
        (state.tearDown build env proofId notifySender extraData none)
        (fun workerId taskId => none = some (workerId, taskId)) :=
      emptying_tearDown filed sound env notifySender extraData found
        (.of_lookup sound.toCoherent found) rfl rfl rfl rfl
    refine (emptied.weaken ?_).finish ended
    intro workerId taskId skipped
    cases skipped

include filed sound in
theorem steps_failProofInternal (env : Env) (proofId : String) (taskId : Option String)
    (notifySender : Bool) (extraData : Option String) (ended : proofId ∈ inputs.ended) :
    ∃ transit' ⊆ transit, Steps build inputs transit transit' issued issued state
      (state.failProofInternal build env proofId taskId notifySender extraData none).state := by
  exact failProofInternal_rule
    (Q := fun next => ∃ transit' ⊆ transit, Steps build inputs transit transit' issued issued state
      next) env taskId notifySender extraData none ⟨transit, subset_rfl, .refl ..⟩
    (steps_tearDown filed sound env proofId notifySender extraData ended)

end Removing

/-! ## Completing a task -/

section Completing

variable {workerId proofId taskId : String} {proof : Proof} {task : Task}

omit [LawfulPolicy P] in
theorem isHeldBy_iff :
    state.isHeldBy workerId proofId taskId = true ↔
      ∃ worker, state.workers.lookup workerId = some worker ∧
        (proofId, taskId) ∈ worker.activeTasks := by
  unfold isHeldBy
  split
  · next missing => simp [missing]
  · next worker registered => simp [registered]

theorem steps_releaseOwn {worker : Worker}
    (registered : state.workers.lookup workerId = some worker)
    (held : (proofId, taskId) ∈ worker.activeTasks)
    (stored : (state.board transit issued).task (proofId, taskId) = some task) :
    Steps build inputs transit
      (if task.unfinished || false then insert (proofId, taskId) transit else transit) issued issued
      state
      (state.releaseOwn build workerId proofId taskId task.data) :=
  steps_release registered held stored (.inl rfl) false

theorem steps_recordCompletion (env : Env) (metadata : TaskMetadata)
    (found : state.proofs.lookup proofId = some proof)
    (stored : proof.tasks.lookup taskId = some task)
    (alive : (proof.completeTask workerId taskId task).activeTasks ≠ 0)
    (reported : (proofId, taskId) ∈ inputs.completed) :
    Steps build inputs transit (transit \ {(proofId, taskId)}) issued issued state
      (state.recordCompletion build env workerId proofId taskId proof task metadata).1 := by
  have written : Steps build inputs transit (transit \ {(proofId, taskId)}) issued issued state
      (state.writeRecord proofId taskId (proof.completeTask workerId taskId task)) :=
    ⟨.single (.complete found stored alive reported), id⟩
  unfold recordCompletion
  simp only [if_neg alive]
  split
  · exact written.trans (.of_board_eq _ _ rfl rfl rfl rfl)
  · exact written

theorem proofs_recordCompletion (env : Env) (metadata : TaskMetadata)
    (alive : (proof.completeTask workerId taskId task).activeTasks ≠ 0) :
    (state.recordCompletion build env workerId proofId taskId proof task metadata).1.proofs =
      state.proofs.insert proofId (proof.completeTask workerId taskId task) := by
  unfold recordCompletion
  simp only [if_neg alive]
  split <;> rfl

include filed sound in
/-- Recording the completion of the last active task. -/
theorem emptying_recordCompletion (env : Env) (metadata : TaskMetadata)
    (found : state.proofs.lookup proofId = some proof)
    (stored : proof.tasks.lookup taskId = some task)
    (last : (proof.completeTask workerId taskId task).activeTasks = 0) :
    Emptying build inputs proofId (some (workerId, taskId)) transit issued state
      (state.recordCompletion build env workerId proofId taskId proof task metadata).1
      (fun holder other => some (workerId, taskId) = some (holder, other)) := by
  have copy : RecordCopy state proofId (proof.completeTask workerId taskId task) :=
    (RecordCopy.of_lookup sound.toCoherent found).set stored rfl rfl rfl rfl
  have emptied : Emptying build inputs proofId (some (workerId, taskId)) transit issued state
      (((state.writeRecord proofId taskId (proof.completeTask workerId taskId task)).dropProof
        proofId).releaseRemainingAssignments build env (proof.completeTask workerId taskId task)
          proofId (some (workerId, taskId))).1
      (fun holder other => some (workerId, taskId) = some (holder, other)) :=
    emptying_release filed sound env copy (Table.erase_insert ..) rfl rfl rfl
  unfold recordCompletion
  simp only [if_pos last]
  split
  · exact Emptying.congr emptied rfl rfl rfl rfl
  · exact emptied

include filed sound in
theorem steps_completion (env : Env) (metadata : TaskMetadata)
    (found : state.proofs.lookup proofId = some proof)
    (stored : proof.tasks.lookup taskId = some task)
    (reported : (proofId, taskId) ∈ inputs.completed) (ended : proofId ∈ inputs.ended)
    {next : CoordinatorState P} (nextIs : next =
      (state.recordCompletion build env workerId proofId taskId proof task metadata).1) :
    ∃ transit' ⊆ transit, Steps build inputs transit transit' issued issued state
      (if next.isHeldBy workerId proofId taskId then
        next.releaseOwn build workerId proofId taskId task.data else next) := by
  by_cases last : (proof.completeTask workerId taskId task).activeTasks = 0
  · have emptied : Emptying build inputs proofId (some (workerId, taskId)) transit issued state next
        (fun holder other => some (workerId, taskId) = some (holder, other)) := by
      rw [nextIs]
      exact emptying_recordCompletion filed sound env metadata found stored last
    have copied := ((RecordCopy.of_lookup sound.toCoherent found).copies taskId task stored).1
    split
    · next owned =>
      obtain ⟨worker, registered, held⟩ := isHeldBy_iff.mp owned
      refine ((emptied.unskip.release sound copied registered held (.inl rfl)
        (by simp)).weaken ?_).finish ended
      rintro holder other ⟨same, different⟩
      cases same
      exact different rfl
    · next unowned =>
      refine (emptied.still_held.weaken ?_).finish ended
      rintro holder other ⟨same, stillHeld⟩
      cases same
      exact unowned (isHeldBy_iff.mpr stillHeld)
  · have recorded : Steps build inputs transit (transit \ {(proofId, taskId)}) issued issued state
        next := by
      rw [nextIs]
      exact steps_recordCompletion env metadata found stored last reported
    refine ⟨transit \ {(proofId, taskId)}, fun _ member => member.1, ?_⟩
    split
    · next owned =>
      obtain ⟨worker, registered, held⟩ := isHeldBy_iff.mp owned
      have storedNext : (next.board (transit \ {(proofId, taskId)}) issued).task
          (proofId, taskId) = some (Task.complete workerId task) := by
        change taskOf next.proofs (proofId, taskId) = _
        rw [nextIs, proofs_recordCompletion env metadata last, taskOf.set_eq found rfl,
          if_pos rfl]
      exact recorded.trans (steps_releaseOwn registered held storedNext)
    · exact recorded

include filed sound in
theorem ends_completeTask (env : Env) (workerId proofId taskId : String) (metadata : TaskMetadata) :
    Ends build env (.completeTask workerId proofId taskId metadata) transit issued state
      (state.completeTask build env workerId proofId taskId metadata).state := by
  unfold completeTask
  split
  · exact .still rfl rfl rfl rfl
  · next proof found =>
    split
    · exact .still rfl rfl rfl rfl
    · next task stored =>
      have next : (state.recordCompletion build env workerId proofId taskId proof task
        metadata).1 = _ := rfl
      have reported : (proofId, taskId) ∈
          ((Call.completeTask workerId proofId taskId metadata).inputs build).completed := rfl
      have completed :=
        steps_completion filed sound env metadata found stored reported rfl next
      dsimp only
      split
      · rw [assignThen_state]
        exact .of_steps completed
      · next resting =>
        rw [Bool.not_eq_true, Bool.or_eq_false_iff] at resting
        obtain ⟨transit', subset, steps⟩ := completed
        simp only [resting.2, Bool.false_eq_true, if_false] at steps ⊢
        exact .rests subset steps (.complete found stored resting.1 resting.2)

end Completing

/-! ## Failing a task -/

section Failing

variable {workerId proofId taskId : String} {proof : Proof} {task : Task} {worker : Worker}
  {retryable : Bool}

omit [LawfulPolicy P] in
theorem failureStatus_cases (retryable : Bool) (task : Task) :
    task.failureStatus retryable = .failedFatal ∨
      task.failureStatus retryable = .failedRetryable := by
  unfold Task.failureStatus
  split
  · exact .inr rfl
  · exact .inl rfl

theorem unfinished_of_held (sound : (state.board transit issued).Sound build)
    (registered : state.workers.lookup workerId = some worker)
    (held : (proofId, taskId) ∈ worker.activeTasks)
    (stored : (state.board transit issued).task (proofId, taskId) = some task)
    (notSucceeded : task.status ≠ .succeeded) : task.unfinished = true := by
  obtain ⟨same, storedToo, -, notFatal, -⟩ := sound.held_task ⟨worker, registered, held⟩
  obtain rfl : task = same := Option.some.inj (stored.symm.trans storedToo)
  cases status : task.status <;> simp_all [Task.unfinished, TaskStatus.isFinal]

/-- Whether a failure report removes the proof: because the task's type fails
the proof, or because no active task is left. -/
def failureRemoves (retryable : Bool) (taskId : String) (proof : Proof) (task : Task) : Bool :=
  (enableProofFail task.data.taskType && (!retryable || task.retries == maxTaskRetries)) ||
    (proof.failTask retryable taskId task).activeTasks == 0

theorem fatal_of_failureRemoves (accounted : proof.Accounted)
    (stored : proof.tasks.lookup taskId = some task)
    (removes : failureRemoves retryable taskId proof task = true) :
    task.failureStatus retryable = .failedFatal := by
  rcases failureStatus_cases retryable task with fatal | retried
  · exact fatal
  · exfalso
    have manual : (!retryable || task.retries == maxTaskRetries) = false := by
      unfold Task.failureStatus at retried
      cases retryable <;> simp_all
    have kept : (proof.failTask retryable taskId task).activeTasks = proof.activeTasks := by
      simp [Proof.failTask, retried]
    have active := accounted.activeTasks_ne_zero stored
    simp [failureRemoves, manual, kept, active] at removes

/-- A failure that leaves the proof stored: the task is taken off the worker and
its record is written, and after a retryable failure it is in transit. -/
theorem steps_failure_kept (sound : (state.board transit issued).Sound build)
    (registered : state.workers.lookup workerId = some worker)
    (held : (proofId, taskId) ∈ worker.activeTasks)
    (found : state.proofs.lookup proofId = some proof)
    (stored : proof.tasks.lookup taskId = some task) (notSucceeded : task.status ≠ .succeeded)
    (alive : (proof.failTask retryable taskId task).activeTasks ≠ 0)
    (reported : ((proofId, taskId), retryable) ∈ inputs.failed) :
    Steps build inputs transit
      (if task.failureStatus retryable = .failedFatal then
        insert (proofId, taskId) transit \ {(proofId, taskId)}
      else insert (proofId, taskId) transit) issued issued state
      (((state.writeRecord proofId taskId
        (proof.failTask retryable taskId task)).postTaskUpdateState build proofId
          task.data).modifyWorker workerId (Worker.abandon (proofId, taskId) task.data.weight)) := by
  have here : (state.board transit issued).task (proofId, taskId) = some task :=
    (taskOf.of_lookup found).trans stored
  have unfinished := unfinished_of_held sound registered held here notSucceeded
  refine ⟨?_, fun filed => LawfulPolicy.filed_postTaskUpdateState _ _ _ filed⟩
  refine (ReflTransGen.single (Move.release registered held here (.inr rfl) false)).tail ?_
  have inTransit : (proofId, taskId) ∈ ((state.board transit issued).release build workerId
      (worker.abandon (proofId, taskId) task.data.weight) (proofId, taskId) task false).transit := by
    simp [Board.release, unfinished]
  have failed : Move build inputs ((state.board transit issued).release build workerId
      (worker.abandon (proofId, taskId) task.data.weight) (proofId, taskId) task false) _ :=
    Move.fail found stored inTransit unfinished alive reported
  convert failed using 1
  simp only [board, Board.failTask, Board.release, Board.settle, Board.setProof, Board.setWorker,
    Board.withBacklog, modifyWorker, emit, postTaskUpdateState, modifyPolicy,
    Table.modify_of_lookup registered, LawfulPolicy.backlog_postTaskUpdateState, unfinished]
  split <;> rfl

include filed sound in
/-- A failure that removes the proof, up to the failed task itself. -/
theorem emptying_removeFailedProof (running : state.shuttingDown = false) (env : Env)
    (found : state.proofs.lookup proofId = some proof)
    (stored : proof.tasks.lookup taskId = some task)
    (removes : failureRemoves retryable taskId proof task = true) :
    Emptying build inputs proofId (some (workerId, taskId)) transit issued state
      ((state.writeRecord proofId taskId
        (proof.failTask retryable taskId task)).removeFailedProof build env
          (enableProofFail task.data.taskType && (!retryable || task.retries == maxTaskRetries))
          (proof.failTask retryable taskId task) workerId proofId taskId)
      (fun holder other => some (workerId, taskId) = some (holder, other)) := by
  have copy : RecordCopy state proofId (proof.failTask retryable taskId task) :=
    (RecordCopy.of_lookup sound.toCoherent found).set stored rfl rfl rfl rfl
  unfold removeFailedProof
  split
  · unfold failProofInternal
    rw [if_neg (by simp [emit, running])]
    refine emptying_tearDown filed sound env true none ?_ copy (Table.erase_insert ..) rfl rfl rfl
    exact AList.lookup_insert _
  · next manual =>
    have last : (proof.failTask retryable taskId task).activeTasks = 0 := by
      simpa [failureRemoves, manual] using removes
    rw [if_pos last]
    exact emptying_release filed sound env copy (Table.erase_insert ..) rfl rfl rfl

include filed sound in
theorem steps_recordFailure (env : Env) (registered : state.workers.lookup workerId = some worker)
    (held : (proofId, taskId) ∈ worker.activeTasks)
    (found : state.proofs.lookup proofId = some proof)
    (stored : proof.tasks.lookup taskId = some task) (notSucceeded : task.status ≠ .succeeded)
    (reported : ((proofId, taskId), retryable) ∈ inputs.failed) (ended : proofId ∈ inputs.ended) :
    ∃ transit' ⊆ transit, Steps build inputs transit transit' issued issued state
      (state.recordFailure build env workerId proofId taskId retryable proof task) := by
  have heldBoard : (state.board transit issued).Holds workerId (proofId, taskId) :=
    ⟨worker, registered, held⟩
  have running : state.shuttingDown = false := ((sound.spot_ok _).held workerId heldBoard).1
  unfold recordFailure
  by_cases removes : failureRemoves retryable taskId proof task = true
  · have fatal := fatal_of_failureRemoves (sound.accounted found) stored removes
    have notRetried : (Task.fail retryable task).status ≠ .failedRetryable := by
      simp [Task.fail, fatal]
    have emptied : Emptying build inputs proofId (some (workerId, taskId)) transit issued state _
        (fun holder other => some (workerId, taskId) = some (holder, other)) :=
      emptying_removeFailedProof filed sound running env found stored removes
    obtain ⟨worker', registered', held'⟩ := emptied.skipped_held rfl heldBoard
    have copied : TaskCopy state proofId taskId (Task.fail retryable task) :=
      ⟨⟨task, (taskOf.of_lookup found).trans stored, rfl, rfl, rfl⟩⟩
    dsimp only
    rw [if_neg notRetried]
    refine ((emptied.unskip.release sound copied registered' held' (.inr rfl)
      (by simp)).weaken ?_).finish ended
    rintro holder other ⟨same, different⟩
    cases same
    exact different rfl
  · have manual : (enableProofFail task.data.taskType &&
        (!retryable || task.retries == maxTaskRetries)) = false := by
      simp only [failureRemoves, Bool.or_eq_true, not_or, Bool.not_eq_true] at removes
      exact removes.1
    have alive : (proof.failTask retryable taskId task).activeTasks ≠ 0 := by
      simp only [failureRemoves, Bool.or_eq_true, not_or, beq_iff_eq] at removes
      exact removes.2
    have kept : Steps build inputs transit _ issued issued state _ :=
      steps_failure_kept sound registered held found stored notSucceeded alive reported
    simp only [removeFailedProof, manual, Bool.false_eq_true, if_false, if_neg alive]
    rcases failureStatus_cases retryable task with fatal | retried
    · rw [if_neg (by simp [Task.fail, fatal])]
      rw [if_pos fatal] at kept
      refine ⟨_, ?_, kept⟩
      rintro key ⟨rfl | member, different⟩
      · exact absurd rfl different
      · exact member
    · rw [if_pos (by simp [Task.fail, retried])]
      rw [if_neg (by simp [retried])] at kept
      have queued := kept.trans (steps_enqueueTask proofId taskId (Task.fail retryable task) ?_ ?_
        ?_ (Set.mem_insert _ _) (by simp [Task.fail, retried]))
      · refine ⟨_, ?_, queued⟩
        rintro key ⟨rfl | member, different⟩
        · exact absurd rfl different
        · exact member
      · refine (taskOf.set_eq found rfl _).trans ?_
        exact if_pos rfl
      · exact sound.task_id ((taskOf.of_lookup found).trans stored)
      · exact sound.task_proofId ((taskOf.of_lookup found).trans stored)

/-- What a failure report does, from a sound state: it is refused, it takes a task that has
succeeded off its worker, or it is written into the record of an unfinished task. -/
inductive FailureOutcome (build : Build) (env : Env) (workerId proofId taskId : String)
    (retryable : Bool) (transit : Set TaskKey) (issued : Set String) (state : CoordinatorState P) :
    Outcome P Unit → Prop where
  | refused {outcome : Outcome P Unit} (same : outcome.state = state) (silent : outcome.after = []) :
      FailureOutcome build env workerId proofId taskId retryable transit issued state outcome
  | finished {data : TaskData} {transit' : Set TaskKey} (subset : transit' ⊆ transit)
      (steps : Steps build ((Call.failTask workerId proofId taskId retryable).inputs build) transit
        transit' issued issued state (state.releaseOwn build workerId proofId taskId data)) :
      FailureOutcome build env workerId proofId taskId retryable transit issued state
        ((state.releaseOwn build workerId proofId taskId data).assignThen build env () [])
  | recorded {proof : Proof} {task : Task} {transit' : Set TaskKey}
      (holds : state.Holds workerId proofId taskId)
      (found : state.proofs.lookup proofId = some proof)
      (stored : proof.tasks.lookup taskId = some task) (notSucceeded : task.status ≠ .succeeded)
      (unfinished : task.unfinished = true) (subset : transit' ⊆ transit)
      (steps : Steps build ((Call.failTask workerId proofId taskId retryable).inputs build) transit
        transit' issued issued state
        (state.recordFailure build env workerId proofId taskId retryable proof task)) :
      FailureOutcome build env workerId proofId taskId retryable transit issued state
        ((state.recordFailure build env workerId proofId taskId retryable proof task).assignThen
          build env () (failureNotices proofId taskId (Task.fail retryable task)))

include filed sound in
theorem failTask_outcome (env : Env) (workerId proofId taskId : String) (retryable : Bool) :
    FailureOutcome build env workerId proofId taskId retryable transit issued state
      (state.failTask build env workerId proofId taskId retryable) := by
  by_cases holds : state.Holds workerId proofId taskId
  · obtain ⟨worker, registered, held⟩ := holds
    obtain ⟨task, here, -⟩ := sound.held_task ⟨worker, registered, held⟩
    obtain ⟨proof, (found : state.proofs.lookup proofId = some proof),
      (stored : proof.tasks.lookup taskId = some task)⟩ := taskOf.exists_of_eq_some here
    by_cases succeeded : task.status = .succeeded
    · rw [failTask_of_succeeded registered held found stored succeeded]
      refine .finished ?_ (steps_releaseOwn registered held here)
      rw [if_neg (by simp [Task.unfinished, succeeded, TaskStatus.isFinal])]
    · rw [failTask_of_accepted registered held found stored succeeded]
      have reported : ((proofId, taskId), retryable) ∈
          ((Call.failTask workerId proofId taskId retryable).inputs build).failed := rfl
      obtain ⟨transit', subset, steps⟩ :=
        steps_recordFailure filed sound env registered held found stored succeeded reported rfl
      exact .recorded ⟨worker, registered, held⟩ found stored succeeded
        (unfinished_of_held sound registered held here succeeded) subset steps
  · exact .refused (failTask_of_unheld holds).1 (failTask_of_unheld holds).2

include filed sound in
theorem ends_failTask (env : Env) (workerId proofId taskId : String) (retryable : Bool) :
    Ends build env (.failTask workerId proofId taskId retryable) transit issued state
      (state.failTask build env workerId proofId taskId retryable).state := by
  have outcome := failTask_outcome filed sound env workerId proofId taskId retryable
  generalize state.failTask build env workerId proofId taskId retryable = result at outcome
  cases outcome with
  | refused same _ =>
    rw [same]
    exact .still rfl rfl rfl rfl
  | finished subset steps =>
    rw [assignThen_state]
    exact .of_steps ⟨_, subset, steps⟩
  | recorded _ _ _ _ _ subset steps =>
    rw [assignThen_state]
    exact .of_steps ⟨_, subset, steps⟩

end Failing

end Sp1Cluster.CoordinatorState
