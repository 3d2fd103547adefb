import Sp1Cluster.Coordinator.Reachable
import Mathlib.Data.List.Infix

/-!
# The counters of the proofs

The code counts the unfinished tasks of a proof in 32 bits. A counter that is raised
at its limit starts again at zero, and the coordinator takes a proof whose counter
is zero for finished.

As long as no proof has 2^32 unfinished tasks, counting in 32 bits is counting
without a bound, so that what is known of the states that calls reach holds of the
code. A proof with more has a counter that is not exact.
-/

set_option autoImplicit false

namespace Sp1Cluster

open CoordinatorState Board Relation

/-! ## Counting in 32 bits -/

namespace Proof

variable {proof : Proof} {task : Task}

def tally (proof : Proof) : ℕ × ℕ := (proof.activeTasks, Table.count Task.unfinished proof.tasks)

theorem tally_addTask [Counter] (unstored : proof.tasks.lookup task.id = none)
    (unfinished : task.unfinished = true) :
    (proof.addTask task).tally = (Counter.raise proof.tally.1, proof.tally.2 + 1) := by
  have absent : task.id ∉ proof.tasks := AList.lookup_eq_none.mp unstored
  simp only [tally, addTask, Table.count_insert, unfinished, if_true, Table.erase_of_notMem absent]

theorem addTask_u32 (room : proof.activeTasks + 1 < 2 ^ 32) :
    @addTask .u32 task proof = proof.addTask task := by
  have raised : @Counter.raise .u32 proof.activeTasks = proof.activeTasks + 1 :=
    Nat.mod_eq_of_lt room
  simp only [addTask, raised, Counter.raise_unbounded]

theorem lower_u32 (positive : 0 < proof.activeTasks) (fits : proof.activeTasks < 2 ^ 32) :
    @Counter.lower .u32 proof.activeTasks = proof.activeTasks - 1 := by
  change (proof.activeTasks + (2 ^ 32 - 1)) % 2 ^ 32 = proof.activeTasks - 1
  omega

variable {taskId : String} (accounted : proof.Accounted) (fits : proof.activeTasks < 2 ^ 32)
  (stored : proof.tasks.lookup taskId = some task)
include accounted fits stored

theorem completeTask_u32 (workerId : String) :
    @completeTask .u32 workerId taskId task proof = proof.completeTask workerId taskId task := by
  by_cases unfinished : task.unfinished = true
  · have lowered := lower_u32 (accounted.activeTasks_pos stored unfinished) fits
    simp only [completeTask, if_pos unfinished, lowered, Counter.lower_unbounded]
  · simp only [completeTask, if_neg unfinished]

theorem failTask_u32 (retryable : Bool) (notSucceeded : task.status ≠ .succeeded) :
    @failTask .u32 retryable taskId task proof = proof.failTask retryable taskId task := by
  by_cases fatal : task.failureStatus retryable = .failedFatal ∧ task.status ≠ .failedFatal
  · have unfinished := (unfinished_iff task).mpr ⟨notSucceeded, fatal.2⟩
    have lowered := lower_u32 (accounted.activeTasks_pos stored unfinished) fits
    simp only [failTask, if_pos fatal, lowered, Counter.lower_unbounded]
  · simp only [failTask, if_neg fatal]

end Proof

namespace CoordinatorState

variable {P : Type}

/-- No stored proof has 2^32 unfinished tasks. -/
abbrev Narrow (state : CoordinatorState P) : Prop :=
  ∀ entry ∈ state.proofs.entries, entry.2.tally.2 < 2 ^ 32

def stepU32 [AssignmentPolicy P] (build : Build) (state : CoordinatorState P) (event : Event) :
    CoordinatorState P :=
  @step P _ .u32 build state event

/-- The state that the code reaches by a list of events. -/
def reachU32 (P : Type) [AssignmentPolicy P] (build : Build) (events : List Event) :
    CoordinatorState P :=
  Systems.run (stepU32 build) new events

/-- The counters are right, and they are numbers of 32 bits. -/
structure CountsFit (state : CoordinatorState P) : Prop where
  accounted : ∀ {proofId proof}, state.proofs.lookup proofId = some proof → proof.Accounted
  fit : ∀ {proofId proof}, state.proofs.lookup proofId = some proof → proof.activeTasks < 2 ^ 32

theorem Narrow.lt {state : CoordinatorState P} (narrow : state.Narrow) {proofId : String}
    {proof : Proof} (found : state.proofs.lookup proofId = some proof) : proof.tally.2 < 2 ^ 32 :=
  narrow ⟨proofId, proof⟩ (Table.mem_entries_iff.mpr found)

section Exec

variable [AssignmentPolicy P] {build : Build} {state : CoordinatorState P}

theorem createTaskInternal_u32 (env : Env) {data : TaskData}
    (room : ∀ proof ∈ state.proofs.lookup data.proofId, proof.activeTasks + 1 < 2 ^ 32) :
    @createTaskInternal P _ .u32 build env data state =
      state.createTaskInternal build env data := by
  simp only [createTaskInternal]
  cases found : state.proofs.lookup data.proofId with
  | none => rfl
  | some proof =>
    dsimp only
    rw [Proof.addTask_u32 (room proof found)]

/-- **A call does with the code's counters what it does without a bound**, unless it creates a
task for a proof whose counter is at its limit. -/
theorem CountsFit.exec_u32 (counted : state.CountsFit) (env : Env) (call : Call)
    (room : ∀ data proof, call = .createTask data →
      state.proofs.lookup data.proofId = some proof → proof.activeTasks + 1 < 2 ^ 32) :
    @exec P _ .u32 build env call state = state.exec build env call := by
  cases call with
  | createProof request =>
    simp only [exec, createProof]
    cases state.refuseProof request.proofId with
    | some status => rfl
    | none =>
      -- the proof is new and its counter is zero
      dsimp only
      rw [createTaskInternal_u32 env]
      intro proof found
      change (state.proofs.insert _ _).lookup request.proofId = some proof at found
      rw [AList.lookup_insert] at found
      cases found
      exact Nat.one_lt_two_pow (by decide)
  | createTask data =>
    simp only [exec, createTask]
    rw [createTaskInternal_u32 env fun proof found => room data proof rfl found]
  | completeTask workerId proofId taskId metadata =>
    unfold exec completeTask
    dsimp only
    cases found : state.proofs.lookup proofId with
    | none => rfl
    | some proof =>
      dsimp only
      cases stored : proof.tasks.lookup taskId with
      | none => rfl
      | some task =>
        have recorded : @recordCompletion P _ .u32 build env workerId proofId taskId proof task
            metadata state =
              state.recordCompletion build env workerId proofId taskId proof task metadata := by
          unfold recordCompletion
          rw [Proof.completeTask_u32 (counted.accounted found) (counted.fit found) stored]
        dsimp only
        rw [recorded]
  | failTask workerId proofId taskId retryable =>
    unfold exec failTask
    dsimp only
    cases state.workers.lookup workerId with
    | none => rfl
    | some worker =>
      dsimp only
      cases found : state.proofs.lookup proofId with
      | none => rfl
      | some proof =>
        dsimp only
        cases stored : proof.tasks.lookup taskId with
        | none => rfl
        | some task =>
          dsimp only
          by_cases succeeded : task.status = .succeeded
          · rw [if_pos succeeded, if_pos succeeded]
          · have recorded : @recordFailure P _ .u32 build env workerId proofId taskId retryable
                proof task state =
                  state.recordFailure build env workerId proofId taskId retryable proof task := by
              unfold recordFailure
              rw [Proof.failTask_u32 (counted.accounted found) (counted.fit found) stored
                retryable succeeded]
            rw [if_neg succeeded, if_neg succeeded, recorded]
  | _ => rfl

end Exec

end CoordinatorState

/-! ## Counters along the moves -/

namespace Board

variable {build : Build} {charges : Bool} {board board' : Board}

theorem Placed.moves {inputs : Inputs} (placed : board.Placed build)
    (moves : Moves build inputs board board') : board'.Placed build := by
  induction moves with
  | refl => exact placed
  | tail _ move ih => exact ih.move move

theorem tally_assignStep (placed : board.Placed build) (turn : AssignStep build charges board board')
    (proofId : String) :
    (board'.proofs.lookup proofId).map Proof.tally =
      (board.proofs.lookup proofId).map Proof.tally := by
  cases turn with
  | discard waiting stale => rfl
  | @assign queued proof task workerId worker bestWorkerTime startTime running waiting found stored
      unfinished registered fits =>
    have sameId : task.id = queued.id := placed.task_id ((taskOf.of_lookup found).trans stored)
    change ((board.proofs.insert queued.proofId _).lookup proofId).map Proof.tally = _
    rw [Table.lookup_insert_eq]
    split
    · next same =>
      have started : (Task.start worker task).unfinished = task.unfinished := unfinished.symm
      have stored : proof.tasks.lookup task.id = some task := sameId ▸ stored
      have counted := Table.count_of_lookup Task.unfinished stored
      rw [same, found]
      simp only [Option.map_some, Proof.tally, Table.count_insert, started]
      rw [counted]
    · rfl

theorem tally_assignSteps (placed : board.Placed build)
    (turns : ReflTransGen (AssignStep build charges) board board') (proofId : String) :
    (board'.proofs.lookup proofId).map Proof.tally =
      (board.proofs.lookup proofId).map Proof.tally := by
  have both : board'.Placed build ∧ (board'.proofs.lookup proofId).map Proof.tally =
      (board.proofs.lookup proofId).map Proof.tally := by
    induction turns with
    | refl => exact ⟨placed, rfl⟩
    | tail _ turn ih =>
      exact ⟨ih.1.assignStep turn, (tally_assignStep ih.1 turn proofId).trans ih.2⟩
  exact both.2

end Board

namespace CoordinatorState

variable {P : Type} [LawfulPolicy P] {build : Build} {state : CoordinatorState P}
  {transit : Set TaskKey} {issued : Set String}

/-- **A creation raises the tally of its proof** and no other, with any counter. -/
theorem tally_createTaskInternal [Counter] (env : Env) {data : TaskData} {proof : Proof}
    (placed : (state.board transit issued).Placed build)
    (filed : LawfulPolicy.Filed state.policy)
    (found : state.proofs.lookup data.proofId = some proof) (fresh : env.taskId ∉ issued)
    (proofId : String) :
    ((state.createTaskInternal build env data).state.proofs.lookup proofId).map Proof.tally =
      if proofId = data.proofId then some (Counter.raise proof.tally.1, proof.tally.2 + 1)
      else (state.proofs.lookup proofId).map Proof.tally := by
  let next : CoordinatorState P :=
    { state with
      totalTasks := state.totalTasks + 1
      proofs := state.proofs.insert data.proofId (proof.addTask (Task.new env data)) }
  have added : (next.board (insert (data.proofId, env.taskId) transit)
      (insert env.taskId issued)).Placed build := placed.addTask env data found fresh
  have stored : (next.board (insert (data.proofId, env.taskId) transit)
      (insert env.taskId issued)).task (data.proofId, env.taskId) =
        some (Task.new env data) := (taskOf.set_eq found rfl _).trans (if_pos rfl)
  have queued : Steps build Inputs.none _ _ _ _ next (next.enqueueTask build (Task.new env data)) :=
    steps_enqueueTask _ _ _ stored rfl rfl (Set.mem_insert _ _) (by simp [Task.new])
  have queuedPlaced := added.moves queued.moves
  have assigns := LawfulPolicy.assigns build env (queued.filed filed)
    ⟨queuedPlaced.task_id, queuedPlaced.task_proofId, queuedPlaced.worker_id,
      queuedPlaced.queue_type, queuedPlaced.entry_type⟩
  have unstored : proof.tasks.lookup env.taskId = none :=
    (taskOf.of_lookup found).symm.trans (placed.fresh_unused data.proofId fresh).1
  have kept : (next.enqueueTask build (Task.new env data)).proofs = next.proofs := by
    unfold enqueueTask
    split <;> rfl
  simp only [createTaskInternal, found, assignThen_state]
  refine (tally_assignSteps queuedPlaced (assigns.turns _ _) proofId).trans ?_
  change ((next.enqueueTask build (Task.new env data)).proofs.lookup proofId).map _ = _
  rw [kept, Table.lookup_insert_eq]
  split
  · rw [Option.map_some, Proof.tally_addTask unstored rfl]
  · rfl

/-! ## Runs -/

theorem tally_stepU32 {past : List Event} {env : Env} {data : TaskData} {proof : Proof}
    (fresh : Event.FreshIds (past ++ [⟨env, .createTask data⟩]))
    (found : (reach P build past).proofs.lookup data.proofId = some proof) (proofId : String) :
    (((reach P build past).stepU32 build ⟨env, .createTask data⟩).proofs.lookup
      proofId).map Proof.tally =
        if proofId = data.proofId then some ((proof.tally.1 + 1) % 2 ^ 32, proof.tally.2 + 1)
        else ((reach P build past).proofs.lookup proofId).map Proof.tally := by
  obtain ⟨transit, issued, sane⟩ := reach_sane P build fresh.of_append
  have placed : ((reach P build past).clearOutbox.board transit issued).Placed build :=
    sane.sound.toPlaced
  exact @tally_createTaskInternal P _ build _ transit issued .u32 env data proof placed sane.filed
    found (fun member => fresh.drawn_fresh rfl (sane.issued_drawn _ member)) proofId

theorem Narrow.countsFit {past : List Event} (fresh : Event.FreshIds past)
    (narrow : (reach P build past).Narrow) : (reach P build past).CountsFit := by
  obtain ⟨transit, issued, sane⟩ := reach_sane P build fresh
  refine ⟨sane.sound.accounted, fun found => ?_⟩
  rw [(sane.sound.accounted found).active]
  exact narrow.lt found

/-- Between narrow states an event acts with the code's counters as without a bound. -/
theorem Narrow.step_eq {past : List Event} {event : Event}
    (fresh : Event.FreshIds (past ++ [event])) (narrow : (reach P build past).Narrow)
    (after : ((reach P build past).stepU32 build event).Narrow) :
    (reach P build past).stepU32 build event = reach P build (past ++ [event]) := by
  have counted := narrow.countsFit fresh.of_append
  have cleared : (reach P build past).clearOutbox.CountsFit := ⟨counted.accounted, counted.fit⟩
  obtain ⟨env, call⟩ := event
  rw [reach_snoc]
  refine congrArg Outcome.state (cleared.exec_u32 env call ?_)
  rintro data proof rfl found
  -- the task is among the unfinished ones afterwards
  obtain ⟨record, recorded, tally⟩ := Option.map_eq_some_iff.mp
    ((tally_stepU32 fresh found data.proofId).trans (if_pos rfl))
  have total : record.tally.2 = proof.tally.2 + 1 := congrArg Prod.snd tally
  have small := after.lt recorded
  have active : proof.activeTasks = proof.tally.2 := (counted.accounted found).active
  omega

/-- **The run of the code is the run without a bound** as long as its proofs are narrow. -/
theorem reachU32_eq {events : List Event} (fresh : Event.FreshIds events)
    (narrow : ∀ past, past <+: events → (reachU32 P build past).Narrow) :
    reachU32 P build events = reach P build events := by
  induction events using List.reverseRecOn with
  | nil => rfl
  | append_singleton past event ih =>
    have same := ih fresh.of_append fun earlier isPrefix =>
      narrow earlier (isPrefix.trans (List.prefix_append _ _))
    have before := narrow past (List.prefix_append _ _)
    have after := narrow (past ++ [event]) (List.prefix_refl _)
    have last : reachU32 P build (past ++ [event]) =
        (reachU32 P build past).stepU32 build event := Systems.run_snoc _ _ _ _
    rw [same] at before last
    rw [last] at after ⊢
    exact before.step_eq fresh after

/-! ## Exactness -/

/-- The counter of every stored proof is the number of its unfinished tasks,
every report that finishes a task takes exactly one off it, and a proof with
tasks has an unfinished one. -/
structure CountersExact (state : CoordinatorState P) : Prop where
  active : ∀ {proofId : String} {proof : Proof}, state.proofs.lookup proofId = some proof →
    proof.activeTasks = proof.tasks.entries.countP fun entry =>
      decide (entry.2.status ≠ .succeeded ∧ entry.2.status ≠ .failedFatal)
  complete_exact : ∀ {proofId taskId : String} {proof : Proof} {task : Task} (workerId : String),
    state.proofs.lookup proofId = some proof → proof.tasks.lookup taskId = some task →
      proof.activeTasks = (@Proof.completeTask .u32 workerId taskId task proof).activeTasks +
        if task.unfinished then 1 else 0
  fail_exact : ∀ {proofId taskId : String} {proof : Proof} {task : Task} (retryable : Bool),
    state.proofs.lookup proofId = some proof → proof.tasks.lookup taskId = some task →
      task.status ≠ .succeeded →
      proof.activeTasks = (@Proof.failTask .u32 retryable taskId task proof).activeTasks +
        if task.failureStatus retryable = .failedFatal ∧ task.status ≠ .failedFatal then 1 else 0
  some_unfinished : ∀ {proofId : String} {proof : Proof},
    state.proofs.lookup proofId = some proof → proof.tasks ≠ ∅ →
      ∃ taskId task, proof.tasks.lookup taskId = some task ∧ task.status ≠ .succeeded ∧
        task.status ≠ .failedFatal

omit [LawfulPolicy P] in
theorem countP_unfinished (proof : Proof) :
    (proof.tasks.entries.countP fun entry =>
      decide (entry.2.status ≠ .succeeded ∧ entry.2.status ≠ .failedFatal)) = proof.tally.2 := by
  unfold Proof.tally Table.count
  congr 1
  funext entry
  rw [Bool.eq_iff_iff, unfinished_iff, decide_eq_true_iff]

omit [LawfulPolicy P] in
theorem CountsFit.countersExact (counted : state.CountsFit) : state.CountersExact where
  active found := (counted.accounted found).active.trans (countP_unfinished _).symm
  complete_exact := by
    intro proofId taskId proof task workerId found stored
    have accounted := counted.accounted found
    have positive := accounted.activeTasks_pos stored
    rw [Proof.completeTask_u32 accounted (counted.fit found) stored]
    simp only [Proof.completeTask, Counter.lower_unbounded]
    split
    · next unfinished =>
      have := positive unfinished
      omega
    · rfl
  fail_exact := by
    intro proofId taskId proof task retryable found stored notSucceeded
    have accounted := counted.accounted found
    have positive := accounted.activeTasks_pos stored
    rw [Proof.failTask_u32 accounted (counted.fit found) stored retryable notSucceeded]
    simp only [Proof.failTask, Counter.lower_unbounded]
    split
    · next fatal =>
      have := positive ((unfinished_iff task).mpr ⟨notSucceeded, fatal.2⟩)
      omega
    · rfl
  some_unfinished := by
    intro proofId proof found nonempty
    have accounted := counted.accounted found
    have active : 0 < proof.activeTasks :=
      Nat.pos_of_ne_zero fun none => nonempty (accounted.alive none)
    rw [accounted.active, Table.count_pos_iff] at active
    obtain ⟨taskId, task, stored, unfinished⟩ := active
    exact ⟨taskId, task, stored, (unfinished_iff task).mp unfinished⟩

/-- The counters are exact all along a run whose proofs are narrow. -/
theorem reachU32_countersExact {events : List Event} (fresh : Event.FreshIds events)
    (narrow : ∀ past, past <+: events → (reachU32 P build past).Narrow) :
    ∀ past, past <+: events → (reachU32 P build past).CountersExact := by
  rintro past ⟨rest, rfl⟩
  have here := narrow past (List.prefix_append _ _)
  rw [reachU32_eq fresh.of_append fun earlier isPrefix =>
    narrow earlier (isPrefix.trans (List.prefix_append _ _))] at here ⊢
  exact (here.countsFit fresh.of_append).countersExact

end CoordinatorState

/-- **The counters of the proofs are exact** all along a run, also after a shutdown, if no
stored proof ever has 2^32 unfinished tasks, under both policies. -/
theorem active_tasks_exact (build : Build) (events : List Event)
    (fresh : Event.FreshIds events) :
    ((∀ past, past <+: events → (reachU32 DefaultPolicy build past).Narrow) →
        ∀ past, past <+: events → (reachU32 DefaultPolicy build past).CountersExact) ∧
      ((∀ past, past <+: events → (reachU32 BalancedPolicy build past).Narrow) →
        ∀ past, past <+: events → (reachU32 BalancedPolicy build past).CountersExact) :=
  ⟨reachU32_countersExact fresh, reachU32_countersExact fresh⟩

theorem active_tasks_exact_twiceCompleted :
    Event.FreshIds twiceCompleted ∧
      ((reachU32 DefaultPolicy .plain twiceCompleted).proofs.lookup "p").map (·.activeTasks) =
        some 1 ∧
      (reachU32 DefaultPolicy .plain twiceCompleted).CountersExact ∧
      (reachU32 BalancedPolicy .plain twiceCompleted).CountersExact := by
  have fresh : Event.FreshIds twiceCompleted := by
    unfold Event.FreshIds
    decide
  obtain ⟨ofDefault, ofBalanced⟩ := active_tasks_exact .plain twiceCompleted fresh
  have narrow : (∀ past ∈ twiceCompleted.inits, (reachU32 DefaultPolicy .plain past).Narrow) ∧
      ∀ past ∈ twiceCompleted.inits, (reachU32 BalancedPolicy .plain past).Narrow := by decide
  simp only [List.mem_inits] at narrow
  exact ⟨fresh, by decide, ofDefault narrow.1 _ (List.prefix_refl _),
    ofBalanced narrow.2 _ (List.prefix_refl _)⟩

/-! ## A run that wraps -/

/-- The identifier of the task of this number. -/
def numbered (index : ℕ) : String := String.ofList (List.replicate index 't')

def creation (index : ℕ) : Event := (Call.spawn "p" .proveShard 1).plain (numbered index)

/-- A proof without tasks, and creations of tasks for it that no worker takes. -/
def creations (count : ℕ) : List Event :=
  (Call.createDummyProof ⟨"p", 0⟩).plain "" :: (List.range count).map creation

theorem creations_succ (count : ℕ) : creations (count + 1) = creations count ++ [creation count] := by
  simp only [creations, List.range_succ, List.map_append, List.map_cons, List.map_nil,
    List.cons_append]

theorem fresh_creations (count : ℕ) : Event.FreshIds (creations count) := by
  have drawn : (creations count).filterMap Event.drawn = (List.range count).map numbered := by
    change ((List.range count).map creation).filterMap Event.drawn = _
    rw [List.filterMap_map]
    exact congrFun (List.filterMap_eq_map' (f := numbered)) _
  unfold Event.FreshIds
  rw [drawn]
  refine List.nodup_range.map fun first second same => ?_
  have lengths := congrArg (fun text : String => text.toList.length) same
  simpa [numbered] using lengths

/-- The proof is the only one, and all its tasks are unfinished. -/
def Holding (count : ℕ) (state : CoordinatorState DefaultPolicy) : Prop :=
  ∀ proofId, (state.proofs.lookup proofId).map Proof.tally =
    if proofId = "p" then some (count % 2 ^ 32, count) else none

theorem Holding.narrow {count : ℕ} {state : CoordinatorState DefaultPolicy}
    (holding : Holding count state) (small : count < 2 ^ 32) : state.Narrow := by
  rintro ⟨proofId, proof⟩ member
  have tally := holding proofId
  rw [Table.mem_entries_iff.mp member, Option.map_some] at tally
  split at tally
  · rw [Option.some.inj tally]
    exact small
  · cases tally

theorem Holding.creation {count : ℕ}
    (holding : Holding count (reach DefaultPolicy .plain (creations count))) :
    Holding (count + 1)
      ((reach DefaultPolicy .plain (creations count)).stepU32 .plain (creation count)) := by
  intro proofId
  have fresh := fresh_creations (count + 1)
  rw [creations_succ] at fresh
  obtain ⟨proof, found, tally⟩ :=
    Option.map_eq_some_iff.mp ((holding "p").trans (if_pos rfl))
  refine (tally_stepU32 fresh found proofId).trans ?_
  rw [tally, Nat.mod_add_mod, holding proofId]
  split <;> rfl

theorem holding_creations (count : ℕ) (small : count < 2 ^ 32) :
    reachU32 DefaultPolicy .plain (creations count) = reach DefaultPolicy .plain (creations count) ∧
      Holding count (reach DefaultPolicy .plain (creations count)) := by
  induction count with
  | zero =>
    refine ⟨rfl, fun proofId => ?_⟩
    change (((∅ : Table String Proof).insert "p" (Proof.new "p" none 1000000000)).lookup
      proofId).map Proof.tally = _
    rw [Table.lookup_insert_eq]
    split <;> rfl
  | succ count ih =>
    obtain ⟨same, holding⟩ := ih (by omega)
    have fresh := fresh_creations (count + 1)
    have next := holding.creation
    rw [creations_succ] at fresh ⊢
    have equal := (holding.narrow (by omega)).step_eq fresh (next.narrow small)
    refine ⟨?_, equal ▸ next⟩
    refine (Systems.run_snoc _ _ _ _).trans ?_
    change (reachU32 DefaultPolicy .plain (creations count)).stepU32 .plain _ = _
    rw [same, equal]

theorem tally_creations {limit : ℕ} (full : limit = 2 ^ 32) :
    ((reachU32 DefaultPolicy .plain (creations limit)).proofs.lookup "p").map Proof.tally =
      some (0, limit) := by
  obtain ⟨count, rfl⟩ : ∃ count, limit = count + 1 := ⟨2 ^ 32 - 1, by omega⟩
  obtain ⟨same, holding⟩ := holding_creations count (by omega)
  have last : reachU32 DefaultPolicy .plain (creations (count + 1)) =
      (reachU32 DefaultPolicy .plain (creations count)).stepU32 .plain (creation count) := by
    rw [creations_succ]
    exact Systems.run_snoc _ _ _ _
  rw [last, same, holding.creation "p", if_pos rfl, full, Nat.mod_self]

/-- **A counter wraps.** After 2^32 creations the counter of the proof is zero although none
of its tasks is finished. -/
theorem counter_wraps :
    Event.FreshIds (creations (2 ^ 32)) ∧
      ((reachU32 DefaultPolicy .plain (creations (2 ^ 32))).proofs.lookup "p").map Proof.tally =
        some (0, 2 ^ 32) ∧
      ¬ (reachU32 DefaultPolicy .plain (creations (2 ^ 32))).CountersExact := by
  have tallied := tally_creations rfl
  refine ⟨fresh_creations _, tallied, fun exact => ?_⟩
  obtain ⟨record, recorded, tally⟩ := Option.map_eq_some_iff.mp tallied
  have active := (exact.active recorded).trans (countP_unfinished record)
  have counter : record.activeTasks = 0 := congrArg Prod.fst tally
  have total : record.tally.2 = 2 ^ 32 := congrArg Prod.snd tally
  omega

end Sp1Cluster
