import Sp1Cluster.Coordinator.Writes
import Sp1Cluster.Coordinator.Turns

/-!
# What calls do to workers and deadlines

The roster of a state keeps the records of its workers and the deadlines of its
proofs. Every call changes it by a few kinds of changes, one record at a time,
and most kinds are open to few calls: only a heartbeat of a worker reconciles it,
only a registration adds one, only a failure report takes a task off without the
policy's hook, and only the creation of a proof sets its deadline.
-/

set_option autoImplicit false

namespace Sp1Cluster

open Relation

/-- The records of the workers, and the deadline of every stored proof. -/
structure Roster where
  workers : Table String Worker
  deadlines : String → Option (Option SystemTime)

namespace Roster

/-- One change of a call to the roster. -/
inductive Change (call : Call) (roster : Roster) : Roster → Prop where
  | worker {workerId : String} {worker worker' : Worker}
      (registered : roster.workers.lookup workerId = some worker)
      (change : Worker.Change call workerId worker worker') :
      Change call roster { roster with workers := roster.workers.insert workerId worker' }
  | enrol {workerId : String} (workerType : WorkerType) (maxWeight : ℕ) (channel : Channel)
      (identity : WorkerIdentity) (lastHeartbeat : ℕ) (absent : workerId ∉ roster.workers)
      (enrols : call.enrols = some workerId) :
      Change call roster
        { roster with
          workers := roster.workers.insert workerId
            (Worker.new workerId workerType maxWeight channel identity lastHeartbeat) }
  | dismiss (workerId : String) :
      Change call roster { roster with workers := roster.workers.erase workerId }
  | stop (stops : call.stops = true) :
      Change call roster
        { roster with
          workers := Table.mapValues (fun worker => { worker with activeTasks := ∅ })
            roster.workers }
  | create {proofId : String} (expiresAt : Option SystemTime)
      (creates : call.createsProof = some proofId) :
      Change call roster
        { roster with deadlines := Function.update roster.deadlines proofId (some expiresAt) }
  | remove (proofId : String) :
      Change call roster
        { roster with deadlines := Function.update roster.deadlines proofId none }

abbrev Changes (call : Call) : Roster → Roster → Prop := ReflTransGen (Change call)

theorem Changes.of_eq {call : Call} {roster roster' : Roster} (same : roster' = roster) :
    Changes call roster roster' := by
  rw [same]

end Roster

namespace CoordinatorState

variable {P : Type}

def deadlinesOf (proofs : Table String Proof) (proofId : String) : Option (Option SystemTime) :=
  (proofs.lookup proofId).map Proof.expiresAt

def roster (state : CoordinatorState P) : Roster where
  workers := state.workers
  deadlines := deadlinesOf state.proofs

theorem deadlinesOf_insert (proofs : Table String Proof) (proofId : String) (proof : Proof) :
    deadlinesOf (proofs.insert proofId proof) =
      Function.update (deadlinesOf proofs) proofId (some proof.expiresAt) := by
  funext other
  unfold deadlinesOf
  rw [Table.lookup_insert_eq, Function.update_apply]
  split <;> rfl

theorem deadlinesOf_erase (proofs : Table String Proof) (proofId : String) :
    deadlinesOf (proofs.erase proofId) = Function.update (deadlinesOf proofs) proofId none := by
  funext other
  unfold deadlinesOf
  rw [Table.lookup_erase_eq, Function.update_apply]
  split <;> rfl

theorem deadlinesOf_set {proofs : Table String Proof} {proofId : String} {proof proof' : Proof}
    (found : proofs.lookup proofId = some proof) (same : proof'.expiresAt = proof.expiresAt) :
    deadlinesOf (proofs.insert proofId proof') = deadlinesOf proofs := by
  rw [deadlinesOf_insert, same]
  refine Function.update_eq_self_iff.mpr ?_
  simp [deadlinesOf, found]

theorem deadlinesOf_modifyTask (state : CoordinatorState P) (proofId taskId : String)
    (change : Task → Task) :
    deadlinesOf (state.modifyTask proofId taskId change).proofs = deadlinesOf state.proofs := by
  change deadlinesOf (Table.modify proofId _ state.proofs) = _
  unfold Table.modify
  cases found : state.proofs.lookup proofId with
  | none => rfl
  | some proof => exact deadlinesOf_set found rfl

/-! ## The records -/

section Records

variable {state : CoordinatorState P} {call : Call} {proofId taskId workerId : String}

theorem roster_modifyTask (state : CoordinatorState P) (proofId taskId : String)
    (change : Task → Task) :
    (state.modifyTask proofId taskId change).roster = state.roster := by
  simp only [roster, deadlinesOf_modifyTask]
  rfl

theorem roster_enqueueTask [AssignmentPolicy P] {build : Build} (task : Task) :
    (state.enqueueTask build task).roster = state.roster := by
  unfold CoordinatorState.enqueueTask
  split <;> rfl

theorem roster_recordFailure [AssignmentPolicy P] {build : Build} (env : Env) (retryable : Bool)
    (proof : Proof) (task : Task) :
    (state.recordFailure build env workerId proofId taskId retryable proof task).roster =
      ((state.reportedFailure build env workerId proofId taskId retryable proof task).modifyWorker
        workerId (Worker.abandon (proofId, taskId) task.data.weight)).roster := by
  unfold recordFailure
  dsimp only
  split
  · exact roster_enqueueTask _
  · rfl

theorem roster_removeWorkerInternal [AssignmentPolicy P] {build : Build} (env : Env)
    (state : CoordinatorState P) (workerId : String) :
    (state.removeWorkerInternal build env workerId).roster =
      { state.roster with workers := state.workers.erase workerId } := by
  unfold removeWorkerInternal
  split
  · next missing =>
    have absent : workerId ∉ state.workers := AList.lookup_eq_none.mp missing
    rw [Table.erase_of_notMem absent]
    rfl
  · next worker registered =>
    refine List.foldlRecOn (motive := fun next : CoordinatorState P => next.roster =
      { state.roster with workers := state.workers.erase workerId }) _ _ rfl ?_
    intro next same key _
    rw [← same]
    unfold requeueTask
    split
    · rfl
    · rw [roster_enqueueTask]
      exact roster_modifyTask next key.1 key.2 Task.requeue

end Records

/-! ## The calls -/

section Calls

variable [QueuePolicy P] {build : Build} {env : Env} {origin state state' : CoordinatorState P}
  {call : Call}

omit [QueuePolicy P] in
/-- A turn of an assignment loop takes a task to one worker, or changes no record. -/
theorem changes_turns (turns : ReflTransGen (Turn build) state state') :
    Roster.Changes call state.roster state'.roster := by
  induction turns with
  | refl => exact .refl
  | @tail middle last _ turn ih =>
    refine ih.trans ?_
    cases turn with
    | discard change => exact .refl
    | @assign proofId taskId workerId task worker bestWorkerTime startTime change stored unfinished
        registered fits =>
        have started : ((middle.startTask workerId worker task startTime).modifyPolicy
            change).roster = { middle.roster with
              workers := middle.workers.insert workerId (worker.take task startTime) } := by
          have taken := roster_modifyTask (middle.modifyWorker workerId
            (Worker.take task startTime)) task.data.proofId task.id (Task.start worker)
          refine taken.trans ?_
          simp only [roster, modifyWorker, Table.modify_of_lookup registered]
        rw [started]
        exact .single (.worker registered (.take task startTime))

theorem Write.changes (write : Write build env call origin state state') :
    Roster.Changes call state.roster state'.roster := by
  cases write with
  | file found deadline =>
    refine .of_eq ?_
    simp only [roster, deadlinesOf_set found deadline]
  | @create proofId proof creates =>
    have created : ({ state with proofs := state.proofs.insert proofId proof }).roster =
        { state.roster with
          deadlines := Function.update state.roster.deadlines proofId (some proof.expiresAt) } := by
      simp only [roster, deadlinesOf_insert]
    rw [created]
    exact .single (.create _ creates)
  | drop proofId live =>
    have dropped : (state.dropProof proofId).roster =
        { state.roster with
          deadlines := Function.update state.roster.deadlines proofId none } := by
      simp only [roster, dropProof, deadlinesOf_erase]
      rfl
    rw [dropped]
    exact .single (.remove proofId)
  | worker registered change fewer => exact .single (.worker registered change)
  | enrol workerType maxWeight channel identity lastHeartbeat absent enrols =>
    exact .single (.enrol workerType maxWeight channel identity lastHeartbeat absent enrols)
  | dismiss workerId => exact .single (.dismiss workerId)
  | stop stops => exact .single (.stop stops)
  | assign => exact changes_turns (assignTasks_turns build env state)
  | _ => exact .refl

theorem Writes.changes (writes : Writes build env call origin state state') :
    Roster.Changes call state.roster state'.roster := by
  induction writes with
  | refl => exact .refl
  | tail _ write ih => exact ih.trans write.changes

/-- **Every call changes the roster by the changes open to it.** -/
theorem changes_exec (env : Env) (call : Call) (state : CoordinatorState P) :
    Roster.Changes call state.roster (state.exec build env call).state.roster :=
  Writes.changes (exec_writes build env call state)

end Calls

end CoordinatorState

end Sp1Cluster
