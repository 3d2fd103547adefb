import Sp1Cluster.Coordinator.Frames
import Sp1Cluster.Coordinator.Calls

/-!
# What a call writes

Every call is a sequence of a few kinds of writes, one record or one field at a
time, and most kinds are open to few calls or guarded by what the state holds.
The writes say everything that a call can do to the records, the settings and
what is sent, so a fact about all calls is checked against the writes and never
against the calls.
-/

set_option autoImplicit false

namespace Sp1Cluster

open Relation

/-! ## Kinds of calls -/

namespace Call

/-- The proof a call creates. -/
def createsProof : Call → Option String
  | .createProof request => some request.proofId
  | .createDummyProof request => some request.proofId
  | _ => none

def beats : Call → Option String
  | .handleHeartbeat workerId _ _ _ => some workerId
  | _ => none

/-- The worker a call registers. -/
def enrols : Call → Option String
  | .addWorker workerId _ _ _ _ => some workerId
  | _ => none

/-- The worker whose failure report a call delivers. -/
def blames : Call → Option String
  | .failTask workerId _ _ _ => some workerId
  | _ => none

/-- Whether a call writes a setting or the meter. -/
def sets : Call → Bool
  | .setProofsTx | .setExecuteOnlyMode _ | .setWorkerHeartbeatTimeout _ | .shutdown
  | .completeTask .. => true
  | _ => false

/-- Whether a call may tear a proof down. -/
def tearsDown : Call → Bool
  | .failTask .. | .failProof .. | .cleanupCancelExpiredProofs | .failExpiredProofs _ => true
  | _ => false

/-- Whether the section of a call may end the message stream of a task. -/
def settles : Call → Bool
  | .completeTask .. | .failTask .. | .failProof .. | .cleanupCancelExpiredProofs
  | .failExpiredProofs _ => true
  | _ => false

/-- Whether the section of a call may report that a proof failed. -/
def failsProof (proofId : String) : Call → Bool
  | .failTask _ failed _ _ => failed == proofId
  | .failProof failed _ notifySender _ => notifySender && failed == proofId
  | _ => false

/-- Whether a call reports the outcome of a task. -/
def reports : Call → Bool
  | .completeTask .. | .failTask .. => true
  | _ => false

def completes : Call → Bool
  | .completeTask .. => true
  | _ => false

theorem settles_of_tearsDown {call : Call} (tears : call.tearsDown = true) :
    call.settles = true := by
  cases call <;> first | rfl | cases tears

/-- What a call that started in one state may send in another. A task is sent
only while some worker holds a task. -/
def Sends {P : Type} (call : Call) (origin state : CoordinatorState P) : Effect → Prop
  | .toWorker _ _ (.newTask ..) => ∃ workerId proofId taskId, state.Holds workerId proofId taskId
  | .toWorker .. => True
  | .toSubscriber .. => call.subscribes = true
  | .notifySubscribers .. => call.tearsDown = true
  | .closeTaskChannel _ => call.settles = true
  | .proofResult result =>
    call.failsProof result.id = true ∧ result.success = false ∧ result.id ∈ origin.proofs ∧
      state.shuttingDown = false
  | .endStreams => call.stops = true

end Call

/-- How a call changes the record of a worker. -/
inductive Worker.Change (call : Call) (workerId : String) (worker : Worker) : Worker → Prop where
  | take (task : Task) (startTime : ℕ) : Change call workerId worker (worker.take task startTime)
  | release (key : TaskKey) (weight : ℕ) : Change call workerId worker (worker.release key weight)
  | abandon (key : TaskKey) (weight : ℕ) (blamed : call.blames = some workerId) :
      Change call workerId worker (worker.abandon key weight)
  | reconcile (now assigned : ℕ) (activeTasks : KeySet TaskKey)
      (beats : call.beats = some workerId) :
      Change call workerId worker (worker.reconcile now assigned activeTasks)
  | refresh (channel : Channel) (identity : WorkerIdentity) :
      Change call workerId worker { worker with channel := channel, identity := identity }
  | close : Change call workerId worker { worker with closed := true }

/-! ## Writes -/

/-- One write of a call that started in `origin`. -/
inductive CoordinatorState.Write {P : Type} [AssignmentPolicy P] (build : Build) (env : Env)
    (call : Call) (origin state : CoordinatorState P) : CoordinatorState P → Prop where
  | queue (change : P → P) : Write build env call origin state (state.modifyPolicy change)
  | count (totalTasks : ℕ) :
      Write build env call origin state { state with totalTasks := totalTasks }
  | file {proofId : String} {proof proof' : Proof}
      (found : state.proofs.lookup proofId = some proof)
      (deadline : proof'.expiresAt = proof.expiresAt) :
      Write build env call origin state
        { state with proofs := state.proofs.insert proofId proof' }
  | create {proofId : String} (proof : Proof) (creates : call.createsProof = some proofId) :
      Write build env call origin state { state with proofs := state.proofs.insert proofId proof }
  | drop (proofId : String)
      (live : call.completes = true ∨ state.shuttingDown = false ∨
        ∃ workerId taskId, state.Holds workerId proofId taskId) :
      Write build env call origin state (state.dropProof proofId)
  | send (effects : List Effect) (may : ∀ effect ∈ effects, call.Sends origin state effect) :
      Write build env call origin state (state.emitAll effects)
  | worker {workerId : String} {worker worker' : Worker}
      (registered : state.workers.lookup workerId = some worker)
      (change : Worker.Change call workerId worker worker')
      (fewer : ∀ key ∈ worker'.activeTasks, key ∈ worker.activeTasks) :
      Write build env call origin state
        { state with workers := state.workers.insert workerId worker' }
  | enrol {workerId : String} (workerType : WorkerType) (maxWeight : ℕ) (channel : Channel)
      (identity : WorkerIdentity) (lastHeartbeat : ℕ) (absent : workerId ∉ state.workers)
      (enrols : call.enrols = some workerId) :
      Write build env call origin state
        { state with
          workers := state.workers.insert workerId
            (Worker.new workerId workerType maxWeight channel identity lastHeartbeat) }
  | dismiss (workerId : String) :
      Write build env call origin state { state with workers := state.workers.erase workerId }
  | stop (stops : call.stops = true) :
      Write build env call origin state
        { state with
          shuttingDown := true
          workers := Table.mapValues (fun worker => { worker with activeTasks := ∅ })
            state.workers }
  | set (proofsTx executeOnlyMode : Bool) (timeoutSecs gpuBusyMs : ℕ) (sets : call.sets = true) :
      Write build env call origin state
        { state with
          proofsTx := proofsTx
          executeOnlyMode := executeOnlyMode
          workerHeartbeatTimeoutSecs := timeoutSecs
          gpuBusyMsTotal := gpuBusyMs }
  | assign : Write build env call origin state (AssignmentPolicy.assignTasks build env state).1

namespace CoordinatorState

abbrev Writes {P : Type} [AssignmentPolicy P] (build : Build) (env : Env) (call : Call)
    (origin : CoordinatorState P) : CoordinatorState P → CoordinatorState P → Prop :=
  ReflTransGen (Write build env call origin)

variable {P : Type} [AssignmentPolicy P] {build : Build} {env : Env} {call : Call}
  {origin state : CoordinatorState P} {workerId proofId taskId : String}

/-! ## Records -/

theorem writes_emit (effect : Effect) (may : call.Sends origin state effect) :
    Writes build env call origin state (state.emit effect) :=
  .single (.send [effect] (by simpa using may))

theorem writes_modifyWorker (change : Worker → Worker)
    (allowed : ∀ worker, Worker.Change call workerId worker (change worker))
    (fewer : ∀ worker, state.workers.lookup workerId = some worker →
      ∀ key ∈ (change worker).activeTasks, key ∈ worker.activeTasks) :
    Writes build env call origin state (state.modifyWorker workerId change) := by
  cases registered : state.workers.lookup workerId with
  | none =>
    have same : state.modifyWorker workerId change = state := by
      simp [modifyWorker, Table.modify, registered]
    rw [same]
  | some worker =>
    unfold modifyWorker
    rw [Table.modify_of_lookup registered]
    exact .single (.worker registered (allowed worker) (fewer worker registered))

theorem writes_modifyTask (change : Task → Task) :
    Writes build env call origin state (state.modifyTask proofId taskId change) := by
  cases found : state.proofs.lookup proofId with
  | none =>
    have same : state.modifyTask proofId taskId change = state := by
      simp [modifyTask, Table.modify, found]
    rw [same]
  | some proof =>
    unfold modifyTask
    rw [Table.modify_of_lookup found]
    exact .single (.file found rfl)

theorem writes_enqueueTask (task : Task) :
    Writes build env call origin state (state.enqueueTask build task) := by
  unfold CoordinatorState.enqueueTask
  split
  · exact .refl
  · exact .single (.queue _)

theorem writes_foldl {α : Type} {turn : CoordinatorState P → α → CoordinatorState P}
    (turns : ∀ state element, Writes build env call origin state (turn state element))
    (elements : List α) (state : CoordinatorState P) :
    Writes build env call origin state (elements.foldl turn state) := by
  induction elements generalizing state with
  | nil => exact .refl
  | cons element rest ih => exact (turns state element).trans (ih _)

theorem mem_of_mem_release {key released : TaskKey} {weight : ℕ} {worker : Worker}
    (held : key ∈ (worker.release released weight).activeTasks) : key ∈ worker.activeTasks := by
  unfold Worker.release at held
  dsimp only at held
  split at held <;> exact (AList.mem_erase.mp held).2

/-! ## Releasing workers -/

theorem writes_assignThen {α : Type} (value : α) (after : List Effect) :
    Writes build env call origin state (state.assignThen build env value after).state := by
  rw [assignThen_state]
  exact .single .assign

theorem writes_assignOrPanic :
    Writes build env call origin state (state.assignOrPanic build env).state := by
  rw [assignOrPanic_state]
  exact .single .assign

theorem writes_releaseOwn (data : TaskData) :
    Writes build env call origin state
      (state.releaseOwn build workerId proofId taskId data) :=
  ReflTransGen.trans (.single (.queue _))
    (writes_modifyWorker _ (fun _ => .release (proofId, taskId) data.weight)
      fun _ _ _ => mem_of_mem_release)

theorem writes_releaseRemainingAssignments (proof : Proof) (proofId : String)
    (skip : Option (String × String)) :
    Writes build env call origin state
      (state.releaseRemainingAssignments build env proof proofId skip).1 := by
  refine releaseRemainingAssignments_rule (Q := Writes build env call origin state) env proof skip
    .refl ?_
  intro next task owner worker soFar
  have cancelled : Writes build env call origin next
      (next.emit (.toWorker worker.id worker.channel (.cancelTask proofId task.id))) :=
    writes_emit _ trivial
  refine ((soFar.trans cancelled).trans (writes_modifyWorker _ ?_ ?_)).tail (.queue _)
  · exact fun _ => .release (proofId, task.id) task.data.weight
  · exact fun _ _ _ => mem_of_mem_release

/-! ## Failing proofs -/

theorem writes_tearDown (notifySender : Bool) (extraData : Option String)
    (skip : Option (String × String)) (tears : call.tearsDown = true)
    (running : state.shuttingDown = false)
    (fails : notifySender = true →
      call.failsProof proofId = true ∧ (proofId ∈ state.proofs → proofId ∈ origin.proofs)) :
    Writes build env call origin state
      (state.tearDown build env proofId notifySender extraData skip) := by
  have dropped : Writes build env call origin state (state.dropProof proofId) :=
    .single (.drop proofId (.inr (.inl running)))
  unfold tearDown
  split
  · exact dropped
  · next proof found =>
    have told : Writes build env call origin state ((state.dropProof proofId).emitAll
        (((env.shuffle proof.tasks.entries).map fun entry => entry.2).flatMap
          (teardownNotice proofId))) := by
      refine dropped.tail (.send _ ?_)
      intro effect member
      obtain ⟨task, -, inTask⟩ := List.mem_flatMap.mp member
      unfold teardownNotice at inTask
      split at inTask
      · cases inTask
      · rw [List.mem_singleton.mp inTask]
        exact tears
    have runningStill : (((state.dropProof proofId).emitAll
        (((env.shuffle proof.tasks.entries).map fun entry => entry.2).flatMap
          (teardownNotice proofId))).releaseRemainingAssignments build env proof proofId
            skip).1.shuttingDown = false :=
      releaseRemainingAssignments_rule (Q := fun next => next.shuttingDown = false) env proof
        skip running fun _ _ _ _ same => same
    have closed := (told.trans (writes_releaseRemainingAssignments proof proofId skip)).tail
      (.send (((env.shuffle proof.tasks.entries).map fun entry => entry.2).map
        fun task => Effect.closeTaskChannel task.id) (by
          intro effect member
          obtain ⟨task, -, rfl⟩ := List.mem_map.mp member
          exact Call.settles_of_tearsDown tears))
    dsimp only
    split
    · next notified =>
      obtain ⟨failsHere, known⟩ := fails (Bool.and_eq_true_iff.mp notified).1
      exact closed.trans
        (writes_emit _ ⟨failsHere, rfl, known (Table.mem_of_lookup found), runningStill⟩)
    · exact closed

theorem writes_failProofInternal (blamed : Option String) (notifySender : Bool)
    (extraData : Option String) (skip : Option (String × String)) (tears : call.tearsDown = true)
    (fails : notifySender = true →
      call.failsProof proofId = true ∧ (proofId ∈ state.proofs → proofId ∈ origin.proofs)) :
    Writes build env call origin state
      (state.failProofInternal build env proofId blamed notifySender extraData skip).state := by
  cases stopped : state.shuttingDown with
  | true =>
    unfold failProofInternal
    rw [if_pos stopped]
  | false =>
    exact failProofInternal_rule (Q := Writes build env call origin state) env blamed
      notifySender extraData skip .refl
      (writes_tearDown notifySender extraData skip tears stopped fails)

/-- The state of a failure report before the task is taken off the reporter. -/
def reportedFailure (build : Build) (env : Env) (workerId proofId taskId : String)
    (retryable : Bool) (proof : Proof) (task : Task) (state : CoordinatorState P) :
    CoordinatorState P :=
  let written := ({ state with
    proofs := state.proofs.insert proofId (proof.failTask retryable taskId task) }).emit
      (.closeTaskChannel taskId)
  (written.removeFailedProof build env
    (enableProofFail task.data.taskType && (!retryable || task.retries == maxTaskRetries))
    (proof.failTask retryable taskId task) workerId proofId taskId).postTaskUpdateState build
      proofId task.data

theorem writes_reportedFailure (retryable : Bool) {proof : Proof} (task : Task)
    (found : state.proofs.lookup proofId = some proof)
    (held : state.Holds workerId proofId taskId) (tears : call.tearsDown = true)
    (fails : call.failsProof proofId = true) :
    Writes build env call state state
      (state.reportedFailure build env workerId proofId taskId retryable proof task) := by
  have filed : Writes build env call state state
      { state with proofs := state.proofs.insert proofId (proof.failTask retryable taskId task) } :=
    .single (.file found rfl)
  have written := filed.trans (writes_emit (.closeTaskChannel taskId)
    (Call.settles_of_tearsDown tears))
  unfold reportedFailure removeFailedProof
  refine ReflTransGen.tail (written.trans ?_) (.queue _)
  split
  · refine writes_failProofInternal none true none _ tears ?_
    exact fun _ => ⟨fails, fun _ => Table.mem_of_lookup found⟩
  · split
    · refine ReflTransGen.trans (.single (.drop proofId (.inr (.inr ⟨workerId, taskId, held⟩)))) ?_
      exact writes_releaseRemainingAssignments _ proofId _
    · exact .refl

theorem writes_recordFailure (retryable : Bool) {proof : Proof} (task : Task)
    (found : state.proofs.lookup proofId = some proof)
    (held : state.Holds workerId proofId taskId) (tears : call.tearsDown = true)
    (fails : call.failsProof proofId = true) (blamed : call.blames = some workerId) :
    Writes build env call state state
      (state.recordFailure build env workerId proofId taskId retryable proof task) := by
  have abandoned : Writes build env call state state
      ((state.reportedFailure build env workerId proofId taskId retryable proof task).modifyWorker
        workerId (Worker.abandon (proofId, taskId) task.data.weight)) := by
    refine (writes_reportedFailure retryable task found held tears fails).trans
      (writes_modifyWorker _ ?_ ?_)
    · exact fun _ => .abandon _ _ blamed
    · exact fun _ _ _ => fun kept => (AList.mem_erase.mp kept).2
  unfold recordFailure
  dsimp only
  split
  · exact abandoned.trans (writes_enqueueTask _)
  · exact abandoned

theorem writes_failTask (retryable : Bool) (tears : call.tearsDown = true)
    (fails : call.failsProof proofId = true) (blamed : call.blames = some workerId) :
    Writes build env call state state
      (state.failTask build env workerId proofId taskId retryable).state := by
  unfold failTask
  split
  · exact .refl
  · next worker registered =>
    split
    · exact .refl
    · next held =>
      split
      · exact .refl
      · next proof found =>
        split
        · exact .refl
        · next task _ =>
          split
          · exact (writes_releaseOwn task.data).trans (writes_assignThen _ _)
          · exact (writes_recordFailure retryable task found
              ⟨worker, registered, not_not.mp held⟩ tears fails blamed).trans
                (writes_assignThen _ _)

theorem writes_failExpiredProofs (expired : List String) (tears : call.tearsDown = true) :
    Writes build env call origin state (state.failExpiredProofs build env expired).state := by
  unfold failExpiredProofs
  refine (writes_foldl ?_ expired state).trans writes_assignOrPanic
  -- Nobody is told of a result here.
  exact fun _ _ => writes_failProofInternal none false none none tears (by simp)

/-! ## Creating and completing tasks -/

theorem writes_createTaskInternal (data : TaskData) :
    Writes build env call origin state (state.createTaskInternal build env data).state := by
  have counted : Writes build env call origin state
      { state with totalTasks := state.totalTasks + 1 } := .single (.count _)
  unfold createTaskInternal
  dsimp only
  split
  · exact counted
  · next proof found =>
    refine ReflTransGen.trans ?_ (writes_assignThen _ _)
    refine ReflTransGen.trans ?_ (writes_enqueueTask _)
    exact counted.tail (.file found rfl)

theorem writes_recordCompletion {proof : Proof} (task : Task) (metadata : TaskMetadata)
    (found : state.proofs.lookup proofId = some proof) (completes : call.completes = true) :
    Writes build env call origin state
      (state.recordCompletion build env workerId proofId taskId proof task metadata).1 := by
  have settles : call.settles = true := by
    cases call <;> first | rfl | cases completes
  have sets : call.sets = true := by
    cases call <;> first | rfl | cases completes
  have filed : Writes build env call origin state
      { state with proofs := state.proofs.insert proofId (proof.completeTask workerId taskId task) } :=
    .single (.file found rfl)
  have written := filed.trans (writes_emit (.closeTaskChannel taskId) settles)
  have removed := (written.tail (.drop proofId (.inl completes))).trans
    (writes_releaseRemainingAssignments (proof.completeTask workerId taskId task) proofId
      (some (workerId, taskId)))
  exact recordCompletion_rule env metadata rfl written removed
    fun _ _ writes => writes.tail (.set _ _ _ _ sets)

theorem writes_completeTask (metadata : TaskMetadata) (completes : call.completes = true) :
    Writes build env call origin state
      (state.completeTask build env workerId proofId taskId metadata).state := by
  refine completeTask_rule env workerId metadata .refl ?_ ?_
  · intro proof task found _
    have recorded : Writes build env call origin state
        (state.recordCompletion build env workerId proofId taskId proof task metadata).1 :=
      writes_recordCompletion task metadata found completes
    unfold afterCompletion
    dsimp only
    split
    · exact recorded.trans (writes_releaseOwn task.data)
    · exact recorded
  · exact fun _ _ _ _ recorded => recorded.tail .assign

/-! ## Workers -/

theorem mem_of_mem_eraseAll {keys : List TaskKey} {activeTasks : KeySet TaskKey} {key : TaskKey}
    (member : key ∈ keys.foldl (fun keys key => keys.erase key) activeTasks) :
    key ∈ activeTasks := by
  induction keys generalizing activeTasks with
  | nil => exact member
  | cons first rest ih => exact (AList.mem_erase.mp (ih member)).2

theorem writes_handleHeartbeat (activeTaskProofIds activeTaskIds : List String)
    (currentWeight : ℕ) (beats : call.beats = some workerId) :
    Writes build env call origin state
      (state.handleHeartbeat build env workerId activeTaskProofIds activeTaskIds
        currentWeight).state := by
  unfold handleHeartbeat
  split
  · exact .refl
  · next worker registered =>
    split
    · exact .refl
    · next now _ =>
      dsimp only
      generalize listed : (env.shuffle worker.activeTasks.keys).filter
        (· ∉ activeTaskProofIds.zip activeTaskIds) = missing
      have told : Writes build env call origin state (state.emitAll
          ((activeTaskProofIds.zip activeTaskIds).flatMap (cancelUnexpected worker) ++
            missing.flatMap (state.resendTask worker))) := by
        refine .single (.send _ ?_)
        intro effect member
        rcases List.mem_append.mp member with cancelled | resent
        · obtain ⟨key, -, inKey⟩ := List.mem_flatMap.mp cancelled
          unfold cancelUnexpected at inKey
          split at inKey
          · cases inKey
          · rw [List.mem_singleton.mp inKey]
            trivial
        · obtain ⟨key, isMissing, inKey⟩ := List.mem_flatMap.mp resent
          rw [← listed] at isMissing
          have held : key ∈ worker.activeTasks :=
            env.mem_shuffle.mp (List.mem_of_mem_filter isMissing)
          unfold resendTask at inKey
          split at inKey
          · cases inKey
          · rw [List.mem_singleton.mp inKey]
            exact ⟨workerId, key.1, key.2, worker, registered, held⟩
      have reconciled := told.trans (writes_modifyWorker (Worker.reconcile
        (asSecs now) (state.assignedWeight worker.activeTasks)
        ((missing.filter fun key => (state.getTask key.1 key.2).isNone).foldl
          (fun keys key => keys.erase key) worker.activeTasks))
        (fun _ => .reconcile _ _ _ beats) (by
          intro before same key kept
          cases registered.symm.trans same
          unfold Worker.reconcile at kept
          dsimp only at kept
          split at kept <;> exact mem_of_mem_eraseAll kept))
      split
      · exact reconciled.trans writes_assignOrPanic
      · exact reconciled

theorem writes_removeWorkerInternal (state : CoordinatorState P) (workerId : String) :
    Writes build env call origin state (state.removeWorkerInternal build env workerId) := by
  unfold removeWorkerInternal
  split
  · exact .refl
  · refine ReflTransGen.trans (.single (.dismiss workerId)) (writes_foldl ?_ _ _)
    intro next key
    unfold requeueTask
    split
    · exact .refl
    · exact ((writes_modifyTask _).tail (.queue _)).trans (writes_enqueueTask _)

theorem writes_removeDeadWorkers (dead : List String) :
    Writes build env call origin state (state.removeDeadWorkers build env dead).state :=
  (writes_foldl writes_removeWorkerInternal dead state).trans writes_assignOrPanic

theorem writes_addSubscriptions (subId : String) (channel : Channel) (taskIds : List String)
    (subscribes : call.subscribes = true) :
    Writes build env call origin state
      (state.addSubscriptions subId proofId channel taskIds) := by
  unfold addSubscriptions
  split
  · refine writes_foldl ?_ taskIds state
    intro next taskId
    unfold subscribeTask
    split
    · exact writes_emit _ subscribes
    · split
      · exact writes_emit _ subscribes
      · exact writes_modifyTask _
  · refine .single (.send _ ?_)
    intro effect member
    obtain ⟨taskId, -, rfl⟩ := List.mem_map.mp member
    exact subscribes

theorem writes_shutdown (stops : call.stops = true) :
    Writes build env call origin state (state.shutdown env) := by
  have cancelled : Writes build env call origin state (state.emitAll
      ((env.shuffle state.workers.entries).flatMap fun entry => cancelAll env entry.2)) := by
    refine .single (.send _ ?_)
    intro effect member
    obtain ⟨entry, -, inEntry⟩ := List.mem_flatMap.mp member
    obtain ⟨key, -, rfl⟩ := List.mem_map.mp inEntry
    trivial
  exact (cancelled.tail (.stop stops)).trans (writes_emit .endStreams stops)

/-! ## Calls -/

/-- **Every call is a sequence of the writes open to it.** -/
theorem exec_writes (build : Build) (env : Env) (call : Call) (state : CoordinatorState P) :
    Writes build env call state state (state.exec build env call).state := by
  cases call with
  | createProof request =>
    change Writes build env _ state state (state.createProof build env request).state
    unfold createProof
    split
    · exact .refl
    · exact ReflTransGen.trans (.single (.create _ rfl)) (writes_createTaskInternal _)
  | createDummyProof request =>
    change Writes build env _ state state (state.createDummyProof env request).state
    unfold createDummyProof
    split
    · exact .refl
    · exact .single (.create _ rfl)
  | createTask data => exact writes_createTaskInternal data
  | completeTask workerId proofId taskId metadata => exact writes_completeTask metadata rfl
  | failTask workerId proofId taskId retryable =>
    exact writes_failTask retryable rfl (beq_self_eq_true proofId) rfl
  | completeProof proofId extraData =>
    change Writes build env _ state state (state.completeProof proofId extraData).state
    unfold completeProof
    split <;> exact .refl
  | failProof proofId taskId notifySender extraData =>
    refine writes_failProofInternal taskId notifySender extraData none rfl ?_
    intro notified
    exact ⟨by simp [Call.failsProof, notified], id⟩
  | handleHeartbeat workerId activeTaskProofIds activeTaskIds currentWeight =>
    exact writes_handleHeartbeat activeTaskProofIds activeTaskIds currentWeight rfl
  | addWorker workerId workerType maxWeight channel identity =>
    change Writes build env _ state state
      (state.addWorker build env workerId workerType maxWeight channel identity).state
    unfold addWorker
    split
    · exact writes_modifyWorker _ (fun _ => .refresh channel identity) fun _ _ _ => id
    · next absent =>
      split
      · exact .refl
      · next now _ =>
        exact ReflTransGen.trans (.single (.enrol workerType maxWeight channel identity
          (asSecs now) absent rfl)) (writes_assignThen _ _)
  | closeWorker workerId =>
    change Writes build env _ state state (state.closeWorker workerId).state
    unfold closeWorker
    split
    · exact writes_modifyWorker _ (fun _ => .close) fun _ _ _ => id
    · exact .refl
  | removeWorker workerId => exact (writes_removeWorkerInternal state workerId).tail .assign
  | cleanupDeadWorkers =>
    change Writes build env _ state state (state.cleanupDeadWorkers build env).state
    unfold cleanupDeadWorkers
    split
    · exact .refl
    · dsimp only
      split
      · exact .refl
      · exact writes_removeDeadWorkers _
  | removeDeadWorkers dead => exact writes_removeDeadWorkers dead
  | cleanupCancelExpiredProofs =>
    change Writes build env _ state state (state.cleanupCancelExpiredProofs build env).state
    unfold cleanupCancelExpiredProofs
    dsimp only
    split
    · exact .refl
    · exact writes_failExpiredProofs _ rfl
  | failExpiredProofs expired => exact writes_failExpiredProofs expired rfl
  | addSubscriptions subId proofId channel taskIds =>
    exact writes_addSubscriptions subId channel taskIds rfl
  | sendHeartbeats =>
    refine .single (.send _ ?_)
    intro effect member
    obtain ⟨entry, -, rfl⟩ := List.mem_map.mp member
    trivial
  | setProofsTx => exact .single (.set true _ _ _ rfl)
  | setExecuteOnlyMode executeOnlyMode => exact .single (.set _ executeOnlyMode _ _ rfl)
  | setWorkerHeartbeatTimeout secs => exact .single (.set _ _ _ _ rfl)
  | shutdown => exact writes_shutdown rfl

theorem after_assignThen {α : Type} (env : Env) (value : α) :
    (state.assignThen build env value []).after = [] := by
  unfold assignThen
  split <;> rfl

theorem after_assignOrPanic (env : Env) : (state.assignOrPanic build env).after = [] := by
  unfold assignOrPanic
  split <;> rfl

theorem after_createTaskInternal (env : Env) (data : TaskData) :
    (state.createTaskInternal build env data).after = [] := by
  unfold createTaskInternal
  dsimp only
  split
  · rfl
  · exact after_assignThen env _

/-- After the lock, a call that reports no outcome of a task sends at most that a
proof succeeded. -/
theorem after_exec (env : Env) {call : Call} (unreported : call.reports = false) :
    ∀ effect ∈ (state.exec build env call).after,
      ∃ result, effect = .proofResult result ∧ result.success = true := by
  have nothing : ∀ {after : List Effect}, after = [] →
      ∀ effect ∈ after, ∃ result, effect = .proofResult result ∧ result.success = true := by
    rintro after rfl effect member
    cases member
  cases call with
  | completeTask | failTask => cases unreported
  | completeProof proofId extraData =>
    change ∀ effect ∈ (state.completeProof proofId extraData).after, _
    unfold completeProof
    split
    · dsimp only
      split
      · intro effect member
        exact ⟨_, List.mem_singleton.mp member, rfl⟩
      · exact nothing rfl
    · exact nothing rfl
  | createProof request =>
    refine nothing ?_
    change (state.createProof build env request).after = []
    unfold createProof
    split
    · rfl
    · exact after_createTaskInternal env _
  | createDummyProof request =>
    refine nothing ?_
    change (state.createDummyProof env request).after = []
    unfold createDummyProof
    split <;> rfl
  | createTask data => exact nothing (after_createTaskInternal env data)
  | failProof proofId taskId notifySender extraData =>
    refine nothing ?_
    change (state.failProofInternal build env proofId taskId notifySender extraData none).after = []
    unfold failProofInternal
    split
    · rfl
    · split
      · split
        · rfl
        · split <;> rfl
      · rfl
  | handleHeartbeat workerId activeTaskProofIds activeTaskIds currentWeight =>
    refine nothing ?_
    change (state.handleHeartbeat build env workerId activeTaskProofIds activeTaskIds
      currentWeight).after = []
    unfold handleHeartbeat
    split
    · rfl
    · split
      · rfl
      · dsimp only
        split
        · exact after_assignOrPanic env
        · rfl
  | addWorker workerId workerType maxWeight channel identity =>
    refine nothing ?_
    change (state.addWorker build env workerId workerType maxWeight channel identity).after = []
    unfold addWorker
    split
    · rfl
    · split
      · rfl
      · exact after_assignThen env _
  | closeWorker workerId =>
    refine nothing ?_
    change (state.closeWorker workerId).after = []
    unfold closeWorker
    split <;> rfl
  | cleanupDeadWorkers =>
    refine nothing ?_
    change (state.cleanupDeadWorkers build env).after = []
    unfold cleanupDeadWorkers
    split
    · rfl
    · dsimp only
      split
      · rfl
      · exact after_assignOrPanic env
  | removeDeadWorkers dead => exact nothing (after_assignOrPanic env)
  | cleanupCancelExpiredProofs =>
    refine nothing ?_
    change (state.cleanupCancelExpiredProofs build env).after = []
    unfold cleanupCancelExpiredProofs
    dsimp only
    split
    · rfl
    · exact after_assignOrPanic env
  | failExpiredProofs expired => exact nothing (after_assignOrPanic env)
  | _ => exact nothing rfl

end CoordinatorState

end Sp1Cluster
