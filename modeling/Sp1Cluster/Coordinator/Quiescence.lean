import Sp1Cluster.Coordinator.Reachable
import Sp1Cluster.Coordinator.Emissions

/-!
# After a shutdown

`shutdown` sets a flag that only the assignment of tasks and the failure of
proofs test. Redeliveries, retries and requeues do not test it: they are ruled
out because the shutdown takes every task off every worker and no later section
gives one back. `Halted` is that invariant, and `Calm` says what a section can
still do to a halted coordinator.
-/

set_option autoImplicit false

namespace Sp1Cluster

open CoordinatorState

/-- Whether an effect neither hands out a task nor reports a failed proof. -/
def Effect.isQuiet : Effect → Bool
  | .toWorker _ _ (.newTask ..) => false
  | .proofResult result => result.success
  | _ => true

/-- A policy whose `assign_tasks` returns at once during a shutdown. -/
class StoppingPolicy (P : Type) [AssignmentPolicy P] : Prop where
  assignTasks_stopped : ∀ (build : Build) (env : Env) (state : CoordinatorState P),
    state.shuttingDown = true → AssignmentPolicy.assignTasks build env state = (state, .ok ())

instance : StoppingPolicy DefaultPolicy where
  assignTasks_stopped build env state stopped := by
    change DefaultPolicy.assignTasks build env state = _
    unfold DefaultPolicy.assignTasks
    rw [stopped, Bool.true_or, if_pos rfl]

instance : StoppingPolicy BalancedPolicy where
  assignTasks_stopped build env state stopped := by
    change BalancedPolicy.assignTasks build env state = _
    unfold BalancedPolicy.assignTasks
    rw [stopped, Bool.true_or, if_pos rfl]

namespace CoordinatorState

/-- The coordinator is shutting down and no worker holds a task. -/
structure Halted {P : Type} (state : CoordinatorState P) : Prop where
  stopped : state.shuttingDown = true
  idle : ∀ {workerId : String} {worker : Worker},
    state.workers.lookup workerId = some worker → worker.activeTasks = ∅

/-- What a section does to a halted coordinator: it stays halted, only quiet
effects are sent, and a stored proof stays or is one of those that `leaving`
names. -/
structure Calm {P : Type} (leaving : String → Prop) (state state' : CoordinatorState P) :
    Prop where
  halted : state'.Halted
  sent : Emits (fun effect => effect.isQuiet = true) state state'
  kept : ∀ proofId ∈ state.proofs, proofId ∈ state'.proofs ∨ leaving proofId

/-- A calm section that removes no proof. -/
abbrev Still {P : Type} (state state' : CoordinatorState P) : Prop :=
  Calm (fun _ => False) state state'

/-! ## Rules -/

section Rules

variable {P : Type} {leaving : String → Prop} {state state' state'' : CoordinatorState P}

theorem Halted.not_holds (halted : state.Halted) (workerId proofId taskId : String) :
    ¬ state.Holds workerId proofId taskId := by
  rintro ⟨worker, registered, held⟩
  rw [halted.idle registered] at held
  exact absurd held (AList.notMem_empty _)

theorem Halted.of_same (halted : state.Halted) (workers : state'.workers = state.workers)
    (flag : state'.shuttingDown = state.shuttingDown) : state'.Halted where
  stopped := flag.trans halted.stopped
  idle registered := halted.idle (workers ▸ registered)

theorem Calm.refl (halted : state.Halted) : Calm leaving state state where
  halted := halted
  sent := .refl state
  kept _ stored := .inl stored

theorem Calm.mono (still : Still state state') : Calm leaving state state' :=
  { still with kept := fun proofId stored => .inl ((still.kept proofId stored).resolve_right id) }

theorem Calm.trans (first : Still state state') (second : Calm leaving state' state'') :
    Calm leaving state state'' where
  halted := second.halted
  sent := first.sent.trans second.sent
  kept proofId stored := second.kept proofId ((first.kept proofId stored).resolve_right id)

theorem still_of_same (halted : state'.Halted) (outbox : state'.outbox = state.outbox)
    (proofs : ∀ proofId ∈ state.proofs, proofId ∈ state'.proofs) : Still state state' where
  halted := halted
  sent := emits_of_outbox_eq outbox
  kept proofId stored := .inl (proofs proofId stored)

theorem still_emitAll (halted : state.Halted) {effects : List Effect}
    (quiet : ∀ effect ∈ effects, effect.isQuiet = true) : Still state (state.emitAll effects) where
  halted := halted.of_same rfl rfl
  sent := emits_emitAll quiet
  kept _ stored := .inl stored

theorem still_emit (halted : state.Halted) {effect : Effect} (quiet : effect.isQuiet = true) :
    Still state (state.emit effect) :=
  still_emitAll halted (by simpa using quiet)

theorem still_insertProof (halted : state.Halted) (proofId : String) (proof : Proof) :
    Still state { state with proofs := state.proofs.insert proofId proof } :=
  still_of_same (halted.of_same rfl rfl) rfl fun _ stored => (AList.mem_insert _).mpr (.inr stored)

end Rules

/-! ## The sections -/

section Sections

variable {P : Type} [AssignmentPolicy P] [StoppingPolicy P] (build : Build)
  {state : CoordinatorState P} {proofId taskId workerId : String}

omit [StoppingPolicy P] in
theorem releaseRemainingAssignments_halted (halted : state.Halted) (env : Env) (proof : Proof)
    (skip : Option (String × String)) :
    state.releaseRemainingAssignments build env proof proofId skip = (state, false) := by
  unfold releaseRemainingAssignments
  refine List.foldlRecOn
    (motive := fun released : CoordinatorState P × Bool => released = (state, false)) _ _ rfl ?_
  rintro released rfl entry _
  unfold releaseAssignment
  split
  · rfl
  · split
    · rfl
    · split
      · rfl
      · next registered =>
        rw [halted.idle registered, if_neg (AList.notMem_empty _)]

omit [StoppingPolicy P] in
theorem calm_recordCompletion (halted : state.Halted) (env : Env)
    (workerId proofId taskId : String) (proof : Proof) (task : Task) (metadata : TaskMetadata) :
    Calm (fun leaver => leaver = proofId ∧
        (proof.completeTask workerId taskId task).activeTasks = 0) state
      (state.recordCompletion build env workerId proofId taskId proof task metadata).1 ∧
    (state.recordCompletion build env workerId proofId taskId proof task metadata).2 = false := by
  have written : Still state (({ state with
      proofs := state.proofs.insert proofId (proof.completeTask workerId taskId task) }).emit
        (.closeTaskChannel taskId)) := by
    have filed := still_insertProof halted proofId (proof.completeTask workerId taskId task)
    exact filed.trans (still_emit filed.halted rfl)
  unfold recordCompletion
  dsimp only
  generalize ({ state with
      proofs := state.proofs.insert proofId (proof.completeTask workerId taskId task) }).emit
        (.closeTaskChannel taskId) = next at written ⊢
  -- Crediting GPU time writes a field that none of the guarantees reads.
  have credited : ∀ {reached : CoordinatorState P} {leaving : String → Prop},
      Calm leaving state reached → Calm leaving state
        (if task.creditsGpuTime workerId then
          { reached with gpuBusyMsTotal := saturatingAdd64 reached.gpuBusyMsTotal metadata.gpuMs }
        else reached) := by
    intro reached leaving calm
    split
    · exact ⟨calm.halted.of_same rfl rfl, calm.sent, calm.kept⟩
    · exact calm
  by_cases last : (proof.completeTask workerId taskId task).activeTasks = 0
  · have dropped : Calm (fun leaver => leaver = proofId ∧
        (proof.completeTask workerId taskId task).activeTasks = 0) next (next.dropProof proofId) := by
      refine ⟨written.halted.of_same rfl rfl, emits_of_outbox_eq rfl, ?_⟩
      intro stored member
      by_cases same : stored = proofId
      · exact .inr ⟨same, last⟩
      · exact .inl (AList.mem_erase.mpr ⟨same, member⟩)
    rw [if_pos last, releaseRemainingAssignments_halted build dropped.halted]
    exact ⟨credited (written.trans dropped), rfl⟩
  · rw [if_neg last]
    exact ⟨credited (.mono written), rfl⟩

def Completes (call : Call) (state : CoordinatorState P) (proofId : String) : Prop :=
  ∃ workerId taskId metadata proof task, call = .completeTask workerId proofId taskId metadata ∧
    state.proofs.lookup proofId = some proof ∧ proof.tasks.lookup taskId = some task ∧
    (proof.completeTask workerId taskId task).activeTasks = 0

omit [StoppingPolicy P] in
theorem calm_completeTask (halted : state.Halted) (env : Env)
    (workerId proofId taskId : String) (metadata : TaskMetadata) :
    Calm (state.Completes (.completeTask workerId proofId taskId metadata)) state
        (state.completeTask build env workerId proofId taskId metadata).state ∧
      ∀ effect ∈ (state.completeTask build env workerId proofId taskId metadata).after,
        effect.isQuiet = true := by
  unfold completeTask
  split
  · exact ⟨.refl halted, by simp⟩
  · next proof found =>
    split
    · exact ⟨.refl halted, by simp⟩
    · next task stored =>
      obtain ⟨calm, unreleased⟩ := calm_recordCompletion build halted env workerId proofId
        taskId proof task metadata
      have unheld : (state.recordCompletion build env workerId proofId taskId proof task
          metadata).1.isHeldBy workerId proofId taskId = false := by
        unfold isHeldBy
        split
        · rfl
        · next registered =>
          rw [calm.halted.idle registered]
          exact decide_eq_false (AList.notMem_empty _)
      dsimp only
      rw [unheld, unreleased]
      refine ⟨{ calm with kept := ?_ }, ?_⟩
      · intro leaver member
        refine (calm.kept leaver member).imp_right ?_
        rintro ⟨rfl, last⟩
        exact ⟨workerId, taskId, metadata, proof, task, rfl, found, stored, last⟩
      · intro effect member
        change effect ∈ completionNotices proofId taskId task at member
        unfold completionNotices at member
        split at member
        · exact absurd member List.not_mem_nil
        · rw [List.mem_singleton.mp member]
          rfl

omit [AssignmentPolicy P] [StoppingPolicy P] in
theorem idle_of_stopped {worker : Worker}
    (registered : (Table.mapValues (fun worker : Worker => { worker with activeTasks := ∅ })
      state.workers).lookup workerId = some worker) : worker.activeTasks = ∅ := by
  rw [Table.lookup_mapValues] at registered
  obtain ⟨before, -, rfl⟩ := Option.map_eq_some_iff.mp registered
  rfl

omit [AssignmentPolicy P] [StoppingPolicy P] in
theorem isQuiet_of_sends {call : Call} {origin : CoordinatorState P} {effect : Effect}
    (halted : state.Halted) (sends : call.Sends origin state effect) : effect.isQuiet = true := by
  cases effect with
  | toWorker workerId channel message =>
    cases message with
    | newTask taskId data metadata =>
      obtain ⟨holder, proofId, heldId, held⟩ := sends
      exact absurd held (halted.not_holds holder proofId heldId)
    | _ => rfl
  | proofResult result =>
    obtain ⟨-, -, -, running⟩ := sends
    exact absurd (running.symm.trans halted.stopped) Bool.false_ne_true
  | _ => rfl

omit [AssignmentPolicy P] [StoppingPolicy P] in
theorem Halted.insertWorker (halted : state.Halted) {worker : Worker}
    (idle : worker.activeTasks = ∅) :
    Halted { state with workers := state.workers.insert workerId worker } := by
  refine ⟨halted.stopped, ?_⟩
  intro other record registered
  rcases Table.lookup_insert_cases registered with ⟨_, rfl⟩ | ⟨_, registered⟩
  · exact idle
  · exact halted.idle registered

theorem Write.still {env : Env} {call : Call} {origin state' : CoordinatorState P}
    (unreported : call.completes = false) (halted : state.Halted)
    (write : Write build env call origin state state') : Still state state' := by
  cases write with
  | file found deadline => exact still_insertProof halted _ _
  | create proof creates => exact still_insertProof halted _ _
  | drop proofId live =>
    rcases live with completes | running | ⟨workerId, taskId, held⟩
    · exact absurd (unreported.symm.trans completes) Bool.false_ne_true
    · exact absurd (running.symm.trans halted.stopped) Bool.false_ne_true
    · exact absurd held (halted.not_holds workerId proofId taskId)
  | send effects may =>
    exact still_emitAll halted fun effect member => isQuiet_of_sends halted (may effect member)
  | @worker workerId worker worker' registered change fewer =>
    have idle : worker'.activeTasks = ∅ := by
      have nothing : worker'.activeTasks.keys = [] := by
        refine List.eq_nil_iff_forall_not_mem.mpr fun key member => ?_
        have held := fewer key member
        rw [halted.idle registered] at held
        exact AList.notMem_empty _ held
      exact AList.ext (List.map_eq_nil_iff.mp nothing)
    exact still_of_same (halted.insertWorker idle) rfl fun _ stored => stored
  | enrol workerType maxWeight channel identity lastHeartbeat absent enrols =>
    exact still_of_same (halted.insertWorker rfl) rfl fun _ stored => stored
  | dismiss workerId =>
    refine still_of_same ⟨halted.stopped, ?_⟩ rfl fun _ stored => stored
    intro other left stays
    exact halted.idle (Table.lookup_of_erase stays)
  | stop stops => exact still_of_same ⟨rfl, idle_of_stopped⟩ rfl fun _ stored => stored
  | assign =>
    rw [StoppingPolicy.assignTasks_stopped build env state halted.stopped]
    exact .refl halted
  | _ => exact still_of_same (halted.of_same rfl rfl) rfl fun _ stored => stored

theorem Writes.still {env : Env} {call : Call} {origin state' : CoordinatorState P}
    (unreported : call.completes = false) (halted : state.Halted)
    (writes : Writes build env call origin state state') : Still state state' := by
  induction writes with
  | refl => exact .refl halted
  | tail _ write ih => exact ih.trans (write.still build unreported ih.halted)

/-- Every call leaves a halted coordinator halted and sends only quiet effects,
under the lock and after it. -/
theorem calm_exec (halted : state.Halted) (env : Env) (call : Call) :
    Calm (state.Completes call) state (state.exec build env call).state ∧
      ∀ effect ∈ (state.exec build env call).after, effect.isQuiet = true := by
  cases completes : call.completes with
  | true =>
    cases call with
    | completeTask workerId proofId taskId metadata =>
      exact calm_completeTask build halted env workerId proofId taskId metadata
    | _ => cases completes
  | false =>
    refine ⟨.mono (Writes.still build completes halted (exec_writes build env call state)), ?_⟩
    cases reports : call.reports with
    | false =>
      intro effect member
      obtain ⟨result, rfl, success⟩ := after_exec env reports effect member
      exact success
    | true =>
      cases call with
      | failTask workerId proofId taskId retryable =>
        have silent : (state.failTask build env workerId proofId taskId retryable).after =
            [] := (failTask_of_unheld (halted.not_holds workerId proofId taskId)).2
        intro effect member
        change effect ∈ (state.failTask build env workerId proofId taskId retryable).after
          at member
        rw [silent] at member
        cases member
      | completeTask => cases completes
      | _ => cases reports

end Sections

/-! ## Runs -/

section RunsAfterShutdown

variable {P : Type} [LawfulPolicy P] [StoppingPolicy P] (build : Build)

/-- A coordinator that has been shut down is halted from then on. -/
theorem reach_halted (past future : List Event) (env : Env) :
    (reach P build (past ++ ⟨env, .shutdown⟩ :: future)).Halted := by
  have regrouped : past ++ ⟨env, .shutdown⟩ :: future = (past ++ [⟨env, .shutdown⟩]) ++ future := by
    simp
  have stopped : (Systems.run (CoordinatorState.step (P := P) build) new
      (past ++ [⟨env, .shutdown⟩])).Halted := by
    rw [Systems.run_snoc]
    exact ⟨rfl, idle_of_stopped⟩
  unfold reach
  rw [regrouped, Systems.run_append]
  refine Systems.run_preserves Halted stopped ?_ future
  intro state event halted
  have cleared : state.clearOutbox.Halted := halted.of_same rfl rfl
  exact (calm_exec build cleared event.env event.call).1.halted

end RunsAfterShutdown

/-- A task is the only unfinished one of a stored proof. -/
def LastUnfinished {P : Type} (state : CoordinatorState P) (proofId taskId : String) : Prop :=
  ∃ proof task, state.proofs.lookup proofId = some proof ∧
    proof.tasks.lookup taskId = some task ∧ task.unfinished = true ∧
    ∀ other otherTask, proof.tasks.lookup other = some otherTask →
      otherTask.unfinished = true → other = taskId

/-- What an event sends, under the lock and after it. -/
def sentBy {P : Type} [AssignmentPolicy P] (build : Build) (state : CoordinatorState P)
    (event : Event) : List Effect :=
  (state.step build event).outbox ++ (state.clearOutbox.exec build event.env event.call).after

/-- An event hands out no task, reports no failed proof, and removes a proof only
by the completion of its last unfinished task. -/
structure Quiet {P : Type} [AssignmentPolicy P] (build : Build) (state : CoordinatorState P)
    (event : Event) : Prop where
  no_task : ∀ workerId channel taskId data metadata,
    .toWorker workerId channel (.newTask taskId data metadata) ∉ state.sentBy build event
  no_failure : ∀ result, .proofResult result ∈ state.sentBy build event → result.success = true
  removed : ∀ proofId ∈ state.proofs, proofId ∉ (state.step build event).proofs →
    ∃ workerId taskId metadata, event.call = .completeTask workerId proofId taskId metadata ∧
      state.LastUnfinished proofId taskId

theorem quiet_of_halted {P : Type} [LawfulPolicy P] [StoppingPolicy P] {build : Build}
    {state : CoordinatorState P} {transit : Set TaskKey} {issued : Set String}
    (sound : (state.board transit issued).Sound build) (halted : state.Halted) (event : Event) :
    state.Quiet build event := by
  have cleared : state.clearOutbox.Halted := halted.of_same rfl rfl
  obtain ⟨calm, silent⟩ := calm_exec build cleared event.env event.call
  have quiet : ∀ effect ∈ state.sentBy build event, effect.isQuiet = true := by
    intro effect member
    rcases List.mem_append.mp member with under | after
    · exact (calm.sent.mem under).resolve_left List.not_mem_nil
    · exact silent effect after
  refine ⟨?_, fun result member => quiet _ member, ?_⟩
  · intro workerId channel taskId data metadata member
    exact absurd (quiet _ member) Bool.false_ne_true
  · intro proofId stored gone
    obtain ⟨workerId, taskId, metadata, proof, task, isCall, found, inProof, last⟩ :=
      (calm.kept proofId stored).resolve_left gone
    have accounted : proof.Accounted := sound.accounted found
    exact ⟨workerId, taskId, metadata, isCall, proof, task, found, inProof,
      accounted.only_unfinished inProof last⟩

theorem reach_quiet {P : Type} [LawfulPolicy P] [StoppingPolicy P] (build : Build)
    (past future : List Event) (env : Env)
    (fresh : Event.FreshIds (past ++ ⟨env, .shutdown⟩ :: future)) (event : Event) :
    (reach P build (past ++ ⟨env, .shutdown⟩ :: future)).Quiet build event := by
  obtain ⟨transit, issued, sane⟩ := reach_sane P build fresh
  exact quiet_of_halted sane.sound (reach_halted build past future env) event

end CoordinatorState

/-- A shutdown while a worker holds the only task of a proof. -/
def stoppedProof : List Event :=
  [(Call.register "w" .cpu 8).plain "", (Call.claim "p").plain "t", Call.shutdown.plain ""]

end Sp1Cluster
