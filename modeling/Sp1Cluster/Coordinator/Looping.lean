import Sp1Cluster.Coordinator.Reachable
import Sp1Cluster.Coordinator.Turns

/-!
# The loops of an assignment end

`assign_tasks` runs two `while` loops. The model bounds their turns by the length of
the queue. Here the loops are taken without a bound, with any reading of the clock in
each turn. A turn leaves the loop or removes exactly one entry from the queue of the
loop, so there is no endless run, and the bound of the model is never what stops a
loop.

A turn pops the queue that belongs to the type of the task, not the queue that the
entry was found in. That these are the same queue rests on the entries being filed by
their type, and in the balanced policy by their proof.
-/

set_option autoImplicit false

namespace Sp1Cluster

open CoordinatorState Relation

/-! ## Loops without a bound -/

section Loop

variable {P : Type}

variable (build : Build) (env : Env) (settle : WorkerType → Task → P → P) (lane : Lane P)

def GoesOn (state next : CoordinatorState P) : Prop :=
  ∃ now, loopBody build env settle lane now state = .goesOn next

/-- A turn may leave the loop with a result. -/
def Leaves (state : CoordinatorState P) (result : CoordinatorState P × Except Status Unit) : Prop :=
  ∃ now, loopBody build env settle lane now state = .leaves result

/-- A result of the loop without a bound. -/
def LoopResult (start : CoordinatorState P) (result : CoordinatorState P × Except Status Unit) :
    Prop :=
  ∃ last, ReflTransGen (GoesOn build env settle lane) start last ∧
    Leaves build env settle lane last result

/-- The loop over the queue for a type of worker ends: every turn that goes on removes
one entry, and no run of turns is endless. -/
structure LoopEnds [AssignmentPolicy P] (workerType : WorkerType) (start : CoordinatorState P) :
    Prop where
  removes : ∀ {state next : CoordinatorState P},
    ReflTransGen (GoesOn build env settle lane) start state →
      GoesOn build env settle lane state next → RemovesOne workerType state next
  halts : Acc (fun next state => GoesOn build env settle lane state next) start

end Loop

/-! ## Turns that go on -/

section Turning

variable {P : Type} [AssignmentPolicy P] {build : Build} {env : Env}
  {settle : WorkerType → Task → P → P} {lane : Lane P} {workerType : WorkerType}
  {Filed : P → Prop} {state next : CoordinatorState P}

omit [AssignmentPolicy P] in
theorem Leaves.state_eq {result : CoordinatorState P × Except Status Unit}
    (leaves : Leaves build env settle lane state result) : result.1 = state := by
  obtain ⟨now, turn⟩ := leaves
  have turned := turned_loopBody build env settle lane now state
  rw [turn] at turned
  cases turned <;> rfl

variable (ready : Loopable build Filed state) (serves : lane.Serves settle workerType Filed)
include ready serves

theorem Loopable.goesOn (goes : GoesOn build env settle lane state next) :
    RemovesOne workerType state next ∧ Loopable build Filed next := by
  obtain ⟨now, turn⟩ := goes
  have turned := turned_loopBody build env settle lane now state
  rw [turn] at turned
  exact ready.turned serves turned

/-! ## Whole loops -/

theorem Loopable.turns (turns : ReflTransGen (GoesOn build env settle lane) state next) :
    Loopable build Filed next := by
  induction turns with
  | refl => exact ready
  | tail _ goes ih => exact (ih.goesOn serves goes).2

/-- There is no endless run of turns, by the length of the queue. -/
theorem Loopable.halts : Acc (fun next state => GoesOn build env settle lane state next) state := by
  induction length : ((backlogOf state.policy).queue workerType).card generalizing state with
  | zero =>
    refine .intro state fun next goes => ?_
    have shorter := (ready.goesOn serves goes).1.card
    omega
  | succ rest ih =>
    refine .intro state fun next goes => ?_
    obtain ⟨removes, ready'⟩ := ready.goesOn serves goes
    have shorter := removes.card
    exact ih ready' (by omega)

theorem Loopable.loopEnds : LoopEnds build env settle lane workerType state where
  removes turns goes := ((ready.turns serves turns).goesOn serves goes).1
  halts := ready.halts serves

/-- As many turns as the queue has entries are enough: the loop of the model is the
loop without a bound. -/
theorem Loopable.loopResult (site : ℕ → ClockRead) {turns : ℕ}
    (enough : ((backlogOf state.policy).queue workerType).card ≤ turns) :
    LoopResult build env settle lane state (assignLoop build env settle lane site turns state) := by
  induction turns generalizing state with
  | zero =>
    have front : lane.front state.policy = none := by
      cases found : lane.front state.policy with
      | none => rfl
      | some queued =>
        have waiting := serves.waiting ready.filed found
        rw [Multiset.card_eq_zero.mp (Nat.le_zero.mp enough)] at waiting
        cases waiting
    refine ⟨state, .refl, 0, ?_⟩
    unfold loopBody
    rw [front]
    rfl
  | succ following ih =>
    rw [assignLoop_succ]
    cases turn : loopBody build env settle lane (env.clock (site following)) state with
    | leaves result => exact ⟨state, .refl, _, turn⟩
    | goesOn next =>
      have goes : GoesOn build env settle lane state next := ⟨_, turn⟩
      obtain ⟨removes, ready'⟩ := ready.goesOn serves goes
      have shorter := removes.card
      obtain ⟨last, turns, leaves⟩ := ih ready' (by omega)
      exact ⟨last, .head goes turns, leaves⟩

theorem Loopable.ended {result : CoordinatorState P × Except Status Unit}
    (ends : LoopResult build env settle lane state result) : Loopable build Filed result.1 := by
  obtain ⟨last, turns, leaves⟩ := ends
  rw [leaves.state_eq]
  exact ready.turns serves turns

end Turning

/-! ## Whole passes -/

section Pass

variable {P : Type} [QueuePolicy P]

/-- A result of `assign_tasks` without a bound on the turns of its loops. -/
inductive PassResult (build : Build) (env : Env) (state : CoordinatorState P) :
    CoordinatorState P × Except Status Unit → Prop where
  | rests (idle : (state.shuttingDown || QueuePolicy.idle state.policy) = true) :
      PassResult build env state (state, .ok ())
  | fails {middle : CoordinatorState P} {status : Status}
      (busy : (state.shuttingDown || QueuePolicy.idle state.policy) = false)
      (gpu : LoopResult build env (QueuePolicy.settle env) (QueuePolicy.gpuLane env) state
        (middle, .error status)) :
      PassResult build env state (middle, .error status)
  | passes {middle : CoordinatorState P} {result : CoordinatorState P × Except Status Unit}
      (busy : (state.shuttingDown || QueuePolicy.idle state.policy) = false)
      (gpu : LoopResult build env (QueuePolicy.settle env) (QueuePolicy.gpuLane env) state
        (middle, .ok ()))
      (cpu : LoopResult build env (QueuePolicy.settle env) (QueuePolicy.cpuLane env) middle
        result) :
      PassResult build env state result

/-- Both loops of `assign_tasks` end, over entries of the right type, and the result of
the model is one without a bound. -/
structure PassEnds (build : Build) (env : Env) (state : CoordinatorState P) : Prop where
  gpu_type : ∀ queued ∈ AssignmentPolicy.gpuQueued state.policy,
    build.workerTypeFromTaskType queued.taskType = .gpu
  cpu_type : ∀ queued ∈ AssignmentPolicy.cpuQueued state.policy,
    build.workerTypeFromTaskType queued.taskType = .cpu
  gpu_loop : state.shuttingDown = false →
    LoopEnds build env (QueuePolicy.settle env) (QueuePolicy.gpuLane env) .gpu state
  cpu_loop : state.shuttingDown = false → ∀ middle,
    LoopResult build env (QueuePolicy.settle env) (QueuePolicy.gpuLane env) state
      (middle, .ok ()) →
    LoopEnds build env (QueuePolicy.settle env) (QueuePolicy.cpuLane env) .cpu middle
  result : PassResult build env state (AssignmentPolicy.assignTasks build env state)

/-- A state in which tasks are assigned: one that the coordinator has reached, after
some of the moves of a call. -/
def Assigning (build : Build) (state : CoordinatorState P) : Prop :=
  ∃ events inputs transit transit' issued issued', Event.FreshIds events ∧
    (reach P build events).Sane build events transit issued ∧
      Steps build inputs transit transit' issued issued' (reach P build events) state

theorem reach_assigning (build : Build) (events : List Event) (fresh : Event.FreshIds events) :
    Assigning build (reach P build events) := by
  obtain ⟨transit, issued, sane⟩ := reach_sane P build fresh
  exact ⟨events, Inputs.none, transit, transit, issued, issued, fresh, sane, .refl ..⟩

theorem Assigning.filed_coherent {build : Build} {state : CoordinatorState P}
    (assigning : Assigning build state) :
    LawfulPolicy.Filed state.policy ∧ (state.board ∅ ∅).Coherent build := by
  obtain ⟨events, inputs, transit, transit', issued, issued', -, sane, steps⟩ := assigning
  have coherent := (steps.sound sane.sound).toCoherent
  exact ⟨steps.filed sane.filed, coherent.task_id, coherent.task_proofId, coherent.worker_id,
    coherent.queue_type, coherent.entry_type⟩

theorem Assigning.passEnds {build : Build} {state : CoordinatorState P}
    (assigning : Assigning build state) (env : Env) : PassEnds build env state := by
  obtain ⟨filed, coherent⟩ := assigning.filed_coherent
  have ready : state.shuttingDown = false → Loopable build LawfulPolicy.Filed state :=
    fun running => ⟨filed, coherent, running⟩
  have gpuServes := QueuePolicy.gpu_serves (P := P) env
  have cpuServes := QueuePolicy.cpu_serves (P := P) env
  refine {
    gpu_type := fun queued waiting =>
      coherent.queue_type (show queued ∈ (state.board ∅ ∅).backlog.queue .gpu from waiting)
    cpu_type := fun queued waiting =>
      coherent.queue_type (show queued ∈ (state.board ∅ ∅).backlog.queue .cpu from waiting)
    gpu_loop := fun running => (ready running).loopEnds gpuServes
    cpu_loop := fun running middle ends => ((ready running).ended gpuServes ends).loopEnds cpuServes
    result := ?_ }
  rw [QueuePolicy.assignTasks_eq]
  split
  · next idle => exact .rests idle
  · next busy =>
    rw [Bool.not_eq_true] at busy
    have running : state.shuttingDown = false := (Bool.or_eq_false_iff.mp busy).1
    have gpu : LoopResult build env _ _ state (assignLoop build env (QueuePolicy.settle env)
        (QueuePolicy.gpuLane env) .gpuTurn (AssignmentPolicy.gpuQueued state.policy).length
          state) := (ready running).loopResult gpuServes .gpuTurn (Multiset.coe_card _).le
    unfold assignLoops
    split
    · next middle status result =>
      rw [result] at gpu
      exact .fails busy gpu
    · next middle result =>
      rw [result] at gpu
      exact .passes busy gpu (((ready running).ended gpuServes gpu).loopResult cpuServes
        .cpuTurn (Multiset.coe_card _).le)

end Pass

/-- **An assignment always ends.** For both policies, in every state in which tasks are
assigned, each turn of either loop leaves it or removes exactly one entry of its queue,
no run of turns is endless, and every entry waits in the queue of its type, under the
balanced policy in the queue of its proof. -/
theorem assignTasks_ends (build : Build) (env : Env) :
    (∀ state : CoordinatorState DefaultPolicy, Assigning build state →
      PassEnds build env state) ∧
    ∀ state : CoordinatorState BalancedPolicy, Assigning build state →
      PassEnds build env state ∧
        ∀ proofId queue, state.policy.gpuQueues.lookup proofId = some queue →
          ∀ queued ∈ queue, queued.proofId = proofId :=
  ⟨fun _ assigning => assigning.passEnds env,
    fun _ assigning => ⟨assigning.passEnds env, assigning.filed_coherent.1⟩⟩

/-- A controller is held and a GPU task waits. -/
theorem assignTasks_ends_oneProof :
    (reach DefaultPolicy .plain oneProof).queueEntries "p" "u" = 1 ∧
      PassEnds .plain (.plain 1000000000 "") (reach DefaultPolicy .plain oneProof) ∧
      PassEnds .plain (.plain 1000000000 "") (reach BalancedPolicy .plain oneProof) := by
  have fresh : Event.FreshIds oneProof := by
    unfold Event.FreshIds
    decide
  obtain ⟨default, balanced⟩ := assignTasks_ends .plain (.plain 1000000000 "")
  exact ⟨by decide, default _ (reach_assigning .plain oneProof fresh),
    (balanced _ (reach_assigning .plain oneProof fresh)).1⟩

end Sp1Cluster
