import Sp1Cluster.Coordinator.Simulation.Workers
import Sp1Cluster.Coordinator.Policy.Laws

/-!
# Reachable states

Every state that calls reach from an empty coordinator has a sound board, under
any lawful policy. For the two policies of the source this says that no task is
lost, queued twice or held twice. Their runs are runs of the board.
-/

set_option autoImplicit false

namespace Sp1Cluster

open CoordinatorState Board Relation

/-! ## Freshness along a run -/

namespace Event

theorem FreshIds.of_append {past future : List Event}
    (fresh : FreshIds (past ++ future)) : FreshIds past := by
  unfold FreshIds at fresh
  rw [List.filterMap_append] at fresh
  exact (List.nodup_append.mp fresh).1

theorem FreshIds.drawn_fresh {past : List Event} {event : Event}
    (fresh : FreshIds (past ++ [event])) {taskId : String} (drawn : event.drawn = some taskId) :
    taskId ∉ past.filterMap Event.drawn := by
  intro earlier
  unfold FreshIds at fresh
  rw [List.filterMap_append] at fresh
  have here : taskId ∈ [event].filterMap Event.drawn := by simp [drawn]
  exact (List.nodup_append.mp fresh).2.2 taskId earlier taskId here rfl

end Event

namespace CoordinatorState

variable {P : Type} [LawfulPolicy P] {build : Build} {state : CoordinatorState P}
  {past : List Event} {issued : Set String} {transit : Set TaskKey}

theorem board_new : (new : CoordinatorState P).board ∅ ∅ =
    Board.mk ∅ ∅ ⟨0, 0, fun _ => none⟩ false ∅ ∅ := by
  simp only [board, new]
  rw [LawfulPolicy.backlog_empty]

/-- A state with a sound board, whose identifiers are among those drawn in the
past and which has nothing in transit unless it was stopped. -/
structure Sane (build : Build) (past : List Event) (state : CoordinatorState P)
    (transit : Set TaskKey) (issued : Set String) : Prop where
  sound : (state.board transit issued).Sound build
  filed : LawfulPolicy.Filed state.policy
  issued_drawn : ∀ taskId ∈ issued, taskId ∈ past.filterMap Event.drawn
  resting : (∀ event ∈ past, event.call.stops = false) → transit = ∅

/-- A state stays sane when events are added to the past that did nothing. -/
theorem Sane.mono (sane : state.Sane build past transit issued) (idle : List Event) :
    state.Sane build (past ++ idle) transit issued where
  sound := sane.sound
  filed := sane.filed
  issued_drawn taskId member := by
    rw [List.filterMap_append]
    exact List.mem_append_left _ (sane.issued_drawn taskId member)
  resting running := sane.resting fun event member => running event (List.mem_append_left _ member)

/-- One event keeps a state sane, and acts on its board by moves and turns. -/
theorem Sane.step (sane : state.Sane build past transit issued) (event : Event)
    (fresh : Event.FreshIds (past ++ [event])) :
    ∃ transit' issued',
      (state.step build event).Sane build (past ++ [event]) transit' issued' ∧
      Performs build (event.call.inputs build) transit transit' issued issued' state
        (state.step build event) := by
  have filed : LawfulPolicy.Filed state.clearOutbox.policy := sane.filed
  have sound : (state.clearOutbox.board transit issued).Sound build := sane.sound
  obtain ⟨transit', issued', subset, within, performs⟩ :=
    performs_exec filed sound event fun taskId drawn member =>
      fresh.drawn_fresh drawn (sane.issued_drawn taskId member)
  obtain ⟨middle, moves, turns⟩ := performs.plays
  refine ⟨transit', issued', ⟨(sound.moves moves).assignSteps turns, performs.filed, ?_, ?_⟩,
    performs.plays, performs.filed⟩
  · intro taskId member
    rw [List.filterMap_append, List.mem_append]
    rcases within taskId member with before | drawn
    · exact .inl (sane.issued_drawn taskId before)
    · exact .inr (by simp [drawn])
  · intro running
    have still := subset (running event (by simp))
    rw [sane.resting fun earlier member => running earlier (by simp [member])] at still
    exact Set.subset_empty_iff.mp still

theorem sane_new : (new : CoordinatorState P).Sane build [] ∅ ∅ := by
  refine ⟨?_, LawfulPolicy.filed_empty, by simp, fun _ => rfl⟩
  rw [board_new]
  exact Sound.empty build

/-- **The invariant rule for boards**: what holds of the board of a sane state, and is kept by
every call from a sane state, holds of the boards of all later states. -/
theorem Sane.run_rule (Q : List Event → Board → Prop)
    (preserved : ∀ {past : List Event} {state : CoordinatorState P} {event : Event}
      {transit transit' : Set TaskKey} {issued issued' : Set String},
      state.Sane build past transit issued →
      Performs build (event.call.inputs build) transit transit' issued issued' state
        (state.step build event) →
      Q past (state.board transit issued) →
        Q (past ++ [event]) ((state.step build event).board transit' issued'))
    (sane : state.Sane build past transit issued) (holds : Q past (state.board transit issued))
    {future : List Event} (fresh : Event.FreshIds (past ++ future)) :
    ∃ transit' issued',
      (Systems.run (CoordinatorState.step build) state future).Sane build (past ++ future) transit'
        issued' ∧
      Q (past ++ future)
        ((Systems.run (CoordinatorState.step build) state future).board transit' issued') := by
  induction future using List.reverseRecOn with
  | nil => exact ⟨transit, issued, by rwa [List.append_nil], by rwa [List.append_nil]⟩
  | append_singleton between event ih =>
    rw [← List.append_assoc] at fresh ⊢
    rw [Systems.run_snoc]
    obtain ⟨transit₁, issued₁, saneNow, holdsNow⟩ := ih fresh.of_append
    obtain ⟨transit₂, issued₂, saneNext, performs⟩ := saneNow.step event fresh
    exact ⟨transit₂, issued₂, saneNext, preserved saneNow performs holdsNow⟩

theorem reach_sane (P : Type) [LawfulPolicy P] (build : Build) {events : List Event}
    (fresh : Event.FreshIds events) :
    ∃ transit issued, (reach P build events).Sane build events transit issued := by
  obtain ⟨transit, issued, sane, -⟩ := (sane_new (P := P)).run_rule (fun _ _ => True)
    (fun _ _ => id) trivial fresh
  exact ⟨transit, issued, sane⟩

/-! ## No task is lost, queued twice or held twice -/

/-- The number of queue entries of a task. -/
def queueEntries (state : CoordinatorState P) (proofId taskId : String) : ℕ :=
  (AssignmentPolicy.cpuQueued state.policy ++ AssignmentPolicy.gpuQueued state.policy).countP
    fun queued => decide (queued.proofId = proofId ∧ queued.id = taskId)

theorem count_board (state : CoordinatorState P) (transit : Set TaskKey) (issued : Set String)
    (proofId taskId : String) :
    (state.board transit issued).backlog.count (proofId, taskId) =
      state.queueEntries proofId taskId := by
  have listed : (state.board transit issued).backlog.cpu + (state.board transit issued).backlog.gpu =
      ((AssignmentPolicy.cpuQueued state.policy ++ AssignmentPolicy.gpuQueued state.policy :
        List QueuedTask) : Multiset QueuedTask) := Multiset.coe_add _ _
  unfold Backlog.count queueEntries
  rw [listed, Multiset.coe_countP]
  congr 1
  funext queued
  simp [QueuedTask.key]

theorem unfinished_iff (task : Task) :
    task.unfinished = true ↔ task.status ≠ .succeeded ∧ task.status ≠ .failedFatal := by
  cases status : task.status <;> simp [Task.unfinished, status, TaskStatus.isFinal]

/-- Every unfinished task that some worker can run is in exactly one place, and
workers hold only stored tasks that name them. -/
structure TasksInPlace (build : Build) (state : CoordinatorState P) : Prop where
  one_place : ∀ {proofId taskId : String} {task : Task}, state.getTask proofId taskId = some task →
    task.status ≠ .succeeded → task.status ≠ .failedFatal →
    build.schedulable task.data.taskType →
      (state.queueEntries proofId taskId = 1 ∧ ∀ workerId, ¬ state.Holds workerId proofId taskId) ∨
      (state.queueEntries proofId taskId = 0 ∧ ∃! workerId, state.Holds workerId proofId taskId)
  held_stored : ∀ {workerId proofId taskId : String}, state.Holds workerId proofId taskId →
    ∃ proof task, state.proofs.lookup proofId = some proof ∧
      proof.tasks.lookup taskId = some task ∧ task.worker = some workerId

theorem tasksInPlace_of_sound (sound : (state.board ∅ issued).Sound build) :
    state.TasksInPlace build where
  one_place := by
    intro proofId taskId task got notSucceeded notFatal runnable
    have stored : (state.board ∅ issued).task (proofId, taskId) = some task := got
    have unfinished : task.unfinished = true :=
      (unfinished_iff task).mpr ⟨notSucceeded, notFatal⟩
    rw [← count_board state ∅ issued]
    rcases sound.placed stored unfinished runnable (Set.notMem_empty _) with ⟨workerId, held⟩ | once
    · refine .inr ⟨sound.held_unqueued held stored unfinished, workerId, held, ?_⟩
      intro other heldByOther
      exact sound.holder_unique heldByOther held
    · refine .inl ⟨once, ?_⟩
      intro workerId held
      have none := sound.held_unqueued held stored unfinished
      omega
  held_stored := by
    intro workerId proofId taskId held
    obtain ⟨task, stored, owner, -⟩ := sound.held_task held
    obtain ⟨proof, found, inProof⟩ := taskOf.exists_of_eq_some stored
    exact ⟨proof, task, found, inProof, owner⟩

theorem reach_tasksInPlace (events : List Event) (fresh : Event.FreshIds events)
    (running : ∀ event ∈ events, event.call.stops = false) :
    (reach P build events).TasksInPlace build := by
  obtain ⟨transit, issued, sane⟩ := reach_sane P build fresh
  have sound := sane.sound
  rw [sane.resting running] at sound
  exact tasksInPlace_of_sound sound

end CoordinatorState

/-- **No task is lost, queued twice or held twice**, in any state that calls
without a shutdown reach, under both policies. -/
theorem no_task_lost (build : Build) (events : List Event) (fresh : Event.FreshIds events)
    (running : ∀ event ∈ events, event.call.stops = false) :
    (reach DefaultPolicy build events).TasksInPlace build ∧
      (reach BalancedPolicy build events).TasksInPlace build :=
  ⟨reach_tasksInPlace events fresh running, reach_tasksInPlace events fresh running⟩

/-- A worker, a proof with its controller, and a GPU task that waits. -/
def oneProof : List Event :=
  [(Call.register "w" .cpu 8).plain "", (Call.claim "p").plain "t",
    (Call.spawn "p" .proveShard 3).plain "u"]

/-- A run in which a CPU worker holds the controller of a proof and a GPU worker a
task of weight 4. -/
def oneShard : List Event :=
  [(Call.register "g" .gpu 24).plain "", (Call.register "c" .cpu 8).plain "",
    (Call.claim "p").plain "t", (Call.spawn "p" .proveShard 4).plain "u"]

/-- The run in which the controller is held and the GPU task waits. -/
theorem no_task_lost_oneProof :
    Event.FreshIds oneProof ∧ (∀ event ∈ oneProof, event.call.stops = false) ∧
      (reach DefaultPolicy .plain oneProof).isHeldBy "w" "p" "t" = true ∧
      (reach DefaultPolicy .plain oneProof).queueEntries "p" "u" = 1 ∧
      (reach DefaultPolicy .plain oneProof).TasksInPlace .plain ∧
      (reach BalancedPolicy .plain oneProof).TasksInPlace .plain := by
  have fresh : Event.FreshIds oneProof := by
    unfold Event.FreshIds
    decide
  have running : ∀ event ∈ oneProof, event.call.stops = false := by decide
  exact ⟨fresh, running, by decide, by decide, no_task_lost .plain oneProof fresh running⟩

/-- One task of two is finished, and its completion is reported again. -/
def twiceCompleted : List Event :=
  oneProof ++ [(Call.completeTask "w" "p" "t" ⟨0⟩).plain "",
    (Call.completeTask "w" "p" "t" ⟨0⟩).plain ""]

/-! ## The coordinator refines the board -/

/-- How the board answers a call: by moves that the inputs of the call allow, and then by turns
of the assignment loop. -/
def Board.Answers (build : Build) (charges : Bool) (board : Board) (event : Event)
    (next : Board) : Prop :=
  ∃ middle, Moves build (event.call.inputs build) board middle ∧
    ReflTransGen (AssignStep build charges) middle next

namespace CoordinatorState

variable {P : Type} [LawfulPolicy P] {build : Build}

/-- A board that the abstract coordinator reaches by events. -/
def Follows (build : Build) (P : Type) [AssignmentPolicy P] : List Event → Board → Prop :=
  Systems.Follows (Board.Answers build (AssignmentPolicy.chargesGpuWeight P))
    ⟨∅, ∅, ⟨0, 0, fun _ => none⟩, false, ∅, ∅⟩

/-- The state that events reach stands for a board that the abstract coordinator reaches by the
same events. Nothing is in transit unless the coordinator was stopped. -/
def Refines (build : Build) (state : CoordinatorState P) (events : List Event) : Prop :=
  ∃ transit issued, Follows build P events (state.board transit issued) ∧
    ((∀ event ∈ events, event.call.stops = false) → transit = ∅)

theorem reach_refines (events : List Event) (fresh : Event.FreshIds events) :
    (reach P build events).Refines build events := by
  have initial : Follows build P [] ((new : CoordinatorState P).board ∅ ∅) := by
    rw [board_new]
    exact .nil
  obtain ⟨transit, issued, sane, follows⟩ := sane_new.run_rule (Follows build P)
    (fun _ performs follows => follows.snoc performs.plays) initial fresh
  exact ⟨transit, issued, follows, sane.resting⟩

end CoordinatorState

/-- **The coordinator refines the board**, under both policies: every run makes, call by call,
the moves and turns of the board. -/
theorem coordinator_refines_board (build : Build) (events : List Event)
    (fresh : Event.FreshIds events) :
    (reach DefaultPolicy build events).Refines build events ∧
      (reach BalancedPolicy build events).Refines build events :=
  ⟨reach_refines events fresh, reach_refines events fresh⟩

theorem coordinator_refines_board_twiceCompleted :
    Event.FreshIds twiceCompleted ∧
      (reach BalancedPolicy .plain twiceCompleted).Refines .plain twiceCompleted := by
  have fresh : Event.FreshIds twiceCompleted := by
    unfold Event.FreshIds
    decide
  exact ⟨fresh, (coordinator_refines_board .plain twiceCompleted fresh).2⟩

end Sp1Cluster
