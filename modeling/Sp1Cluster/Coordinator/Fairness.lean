import Sp1Cluster.Coordinator.Reachable
import Sp1Cluster.Systems.Balancing
import Mathlib.Algebra.Order.BigOperators.Group.List
import Mathlib.Algebra.Order.Group.Nat

/-!
# The balanced policy is fair within a pass

The balanced policy takes each GPU task from a proof whose allocated weight is
the least among the proofs that still have tasks waiting. So a pass over its
queues is a pass that gives work to the least loaded: entries of finished or
missing tasks only make proofs stop waiting, an assignment gives a task to a
proof with the least allocated weight, and the CPU queue has no part in it.
Allocated weights are 32-bit words, so this needs that what is allocated to a
proof and what waits for it fit together into a word.
-/

set_option autoImplicit false

namespace Sp1Cluster

open CoordinatorState

/-! ## What a pass hands out -/

/-- The GPU task of a proof that an effect hands to a worker. -/
def Effect.gpuTask (build : Build) (proofId : String) : Effect → Option TaskData
  | .toWorker _ _ (.newTask _ data _) =>
    if data.proofId = proofId ∧ build.workerTypeFromTaskType data.taskType = .gpu then some data
    else none
  | _ => none

/-- The GPU tasks of a proof among effects, in the order in which they were handed out. -/
def gpuTasks (build : Build) (proofId : String) (effects : List Effect) : List TaskData :=
  effects.filterMap (Effect.gpuTask build proofId)

namespace BalancedPolicy

def allocated (policy : BalancedPolicy) (proofId : String) : ℕ :=
  (policy.proofGpuWeights.lookup proofId).getD 0

def queueOf (policy : BalancedPolicy) (proofId : String) : List QueuedTask :=
  (policy.gpuQueues.lookup proofId).getD []

def queuedWeight (state : CoordinatorState BalancedPolicy) (proofId : String) : ℕ :=
  ((state.policy.queueOf proofId).map fun queued => state.taskWeight queued.key).sum

/-- What is allocated to a proof and what waits for it fit into a 32-bit word. -/
def FitsWord (state : CoordinatorState BalancedPolicy) : Prop :=
  ∀ proofId, state.policy.allocated proofId + queuedWeight state proofId < 2 ^ 32

/-- The GPU tasks that a proof has received since the first `sent` effects. -/
def received (build : Build) (sent : ℕ) (state : CoordinatorState BalancedPolicy)
    (proofId : String) : List TaskData :=
  gpuTasks build proofId (state.outbox.drop sent)

/-- A state in the course of a pass, as a pass over the proofs. -/
def passOf (build : Build) (sent : ℕ) (state : CoordinatorState BalancedPolicy) :
    Balancing.Pass String where
  load := state.policy.allocated
  waiting := { proofId | state.policy.queueOf proofId ≠ [] }
  last proofId := (received build sent state proofId).getLast?.map TaskData.weight

/-! ## The search -/

section Search

variable {env : Env} {policy : BalancedPolicy}

/-- The search has found the least allocated weight among the queues it has seen, and the
front of a queue with that weight. -/
structure Candidate.Least (env : Env) (policy : BalancedPolicy)
    (seen : List (Sigma fun _ : String => List QueuedTask)) (candidate : Candidate) : Prop where
  le : ∀ entry ∈ seen, entry.2 ≠ [] → candidate.lowestWeight ≤ policy.allocated entry.1
  best : ∀ queued, candidate.best = some queued →
    ∃ entry ∈ seen, peek env entry.2 = some queued ∧
      candidate.lowestWeight = policy.allocated entry.1

theorem peek_eq_none_iff (env : Env) (queue : List QueuedTask) :
    peek env queue = none ↔ queue = [] := by
  unfold peek
  rw [PriorityQueue.least_eq_none_iff]
  constructor
  · intro empty
    have perm := env.shuffle_perm queue
    rw [empty] at perm
    exact perm.symm.eq_nil
  · rintro rfl
    exact (env.shuffle_perm []).eq_nil

theorem Candidate.Least.consider {seen : List (Sigma fun _ : String => List QueuedTask)}
    {candidate : Candidate} (least : candidate.Least env policy seen)
    (entry : Sigma fun _ : String => List QueuedTask) :
    (candidate.consider env policy entry).Least env policy (seen ++ [entry]) := by
  have earlier : ∀ queued, candidate.best = some queued →
      ∃ other ∈ seen ++ [entry], peek env other.2 = some queued ∧
        candidate.lowestWeight = policy.allocated other.1 := by
    intro queued found
    obtain ⟨other, member, front, weight⟩ := least.best queued found
    exact ⟨other, List.mem_append_left _ member, front, weight⟩
  unfold Candidate.consider
  split
  · next empty =>
    refine ⟨fun other member nonempty => ?_, earlier⟩
    rcases List.mem_append.mp member with before | now
    · exact least.le other before nonempty
    · rw [List.mem_singleton.mp now] at nonempty
      exact absurd ((peek_eq_none_iff env entry.2).mp empty) nonempty
  · next queued front =>
    dsimp only
    split
    · next better =>
      have lower : policy.allocated entry.1 ≤ candidate.lowestWeight := by
        rcases better with less | ⟨same, -⟩
        · exact le_of_lt less
        · exact le_of_eq same
      refine ⟨fun other member nonempty => ?_, fun chosen found => ?_⟩
      · rcases List.mem_append.mp member with before | now
        · exact lower.trans (least.le other before nonempty)
        · rw [List.mem_singleton.mp now]
          exact le_rfl
      · cases found
        exact ⟨entry, by simp, front, rfl⟩
    · next worse =>
      refine ⟨fun other member nonempty => ?_, earlier⟩
      rcases List.mem_append.mp member with before | now
      · exact least.le other before nonempty
      · rw [List.mem_singleton.mp now]
        exact not_lt.mp fun less => worse (.inl less)

/-- **The search finds a proof with the least allocated weight** among those that wait. -/
theorem findNextBalancedTask_least {queued : QueuedTask} (filed : policy.Filed)
    (found : findNextBalancedTask env policy = some queued) {other : String}
    (waits : policy.queueOf other ≠ []) :
    policy.allocated queued.proofId ≤ policy.allocated other := by
  have least : ∀ entries : List (Sigma fun _ : String => List QueuedTask),
      (entries.foldl (Candidate.consider env policy)
        { best := none, lowestWeight := 2 ^ 32 - 1, oldestTime := 0 }).Least env policy entries := by
    intro entries
    induction entries using List.reverseRecOn with
    | nil => exact ⟨nofun, nofun⟩
    | append_singleton seen entry ih =>
      rw [List.foldl_append]
      exact ih.consider entry
  obtain ⟨⟨proofId, queue⟩, member, front, weight⟩ :=
    (least (env.shuffle policy.gpuQueues.entries)).best queued found
  have lookup : policy.gpuQueues.lookup proofId = some queue :=
    Table.mem_entries_iff.mp (env.mem_shuffle.mp member)
  have own : queued.proofId = proofId := filed proofId queue lookup queued (peek_mem front)
  obtain ⟨otherQueue, otherLookup⟩ : ∃ queue, policy.gpuQueues.lookup other = some queue := by
    cases stored : policy.gpuQueues.lookup other with
    | none => simp [queueOf, stored] at waits
    | some queue => exact ⟨queue, rfl⟩
  have nonempty : otherQueue ≠ [] := by simpa [queueOf, otherLookup] using waits
  have listed : ⟨other, otherQueue⟩ ∈ env.shuffle policy.gpuQueues.entries :=
    env.mem_shuffle.mpr (Table.mem_entries_iff.mpr otherLookup)
  rw [own, ← weight]
  exact (least _).le _ listed nonempty

end Search

/-! ## Turns of the GPU queue -/

section Turns

variable {env : Env} {policy : BalancedPolicy} {proofId : String} {queue : List QueuedTask}
  {queued : QueuedTask}

theorem queueOf_popGpu (found : policy.gpuQueues.lookup proofId = some queue)
    (front : peek env queue = some queued) (other : String) :
    (popGpu env proofId policy).queueOf other =
      if other = proofId then (policy.queueOf proofId).erase queued else policy.queueOf other := by
  have whole : policy.queueOf proofId = queue := by simp [queueOf, found]
  rw [whole]
  simp only [popGpu, found, pop_of_peek front, queueOf]
  by_cases emptied : (queue.erase queued).isEmpty = true
  · have nothing : queue.erase queued = [] := List.isEmpty_iff.mp emptied
    rw [if_pos emptied, Table.lookup_erase_eq, nothing]
    split <;> rfl
  · rw [if_neg emptied, Table.lookup_insert_eq]
    split <;> rfl

theorem allocated_popGpu (other : String) :
    (popGpu env proofId policy).allocated other = policy.allocated other := by
  unfold popGpu
  split <;> rfl

theorem queueOf_popGpu_sublist (found : policy.gpuQueues.lookup proofId = some queue)
    (front : peek env queue = some queued) (other : String) :
    ((popGpu env proofId policy).queueOf other).Sublist (policy.queueOf other) := by
  rw [queueOf_popGpu found front]
  split
  · next same =>
    rw [same]
    exact List.erase_sublist
  · exact List.Sublist.refl _

theorem allocated_charge (task : Task) (other : String) :
    (charge .gpu task policy).allocated other =
      if other = task.data.proofId then
        wrappingAdd32 (policy.allocated task.data.proofId) task.data.weight
      else policy.allocated other := by
  simp only [charge, if_true, allocated, Table.getD_lookup_insert]

theorem received_emit {build : Build} {sent : ℕ} {state after : CoordinatorState BalancedPolicy}
    {effect : Effect} (within : sent ≤ state.outbox.length)
    (emitted : after.outbox = state.outbox ++ [effect]) (other : String) :
    received build sent after other =
      received build sent state other ++ (effect.gpuTask build other).toList := by
  unfold received gpuTasks
  rw [emitted, List.drop_append_of_le_length within, List.filterMap_append]
  cases given : effect.gpuTask build other <;> simp [given]

end Turns

section Passing

variable {build : Build} {env : Env} {sent : ℕ} {state : CoordinatorState BalancedPolicy}
  {queued : QueuedTask} {task : Task}

/-- A state in the course of a pass that has been fair so far. -/
structure Fair (build : Build) (sent : ℕ) (state : CoordinatorState BalancedPolicy) : Prop where
  fair : (passOf build sent state).Fair
  fits : FitsWord state
  within : sent ≤ state.outbox.length

theorem Fair.discard (holds : Fair build sent state) (filed : state.policy.Filed)
    (front : findNextBalancedTask env state.policy = some queued) :
    Fair build sent (state.modifyPolicy (popGpu env queued.proofId)) := by
  obtain ⟨queue, found, peeked⟩ := findNextBalancedTask_spec filed front
  have fewer := queueOf_popGpu_sublist found peeked
  refine ⟨?_, fun proofId => ?_, holds.within⟩
  · have same : passOf build sent (state.modifyPolicy (popGpu env queued.proofId)) =
        { passOf build sent state with
          waiting := { proofId | (popGpu env queued.proofId state.policy).queueOf proofId ≠ [] } } := by
      unfold passOf
      congr 1
      funext proofId
      exact allocated_popGpu proofId
    rw [same]
    refine holds.fair.turn (.leave ?_)
    intro proofId waits empty
    have nothing := fewer proofId
    rw [empty, List.sublist_nil] at nothing
    exact waits nothing
  · have lighter : queuedWeight (state.modifyPolicy (popGpu env queued.proofId)) proofId ≤
        queuedWeight state proofId :=
      ((fewer proofId).map fun entry : QueuedTask => state.taskWeight entry.key).sum_le_sum
        fun _ _ => Nat.zero_le _
    have fits := holds.fits proofId
    change (popGpu env queued.proofId state.policy).allocated proofId + _ < 2 ^ 32
    rw [allocated_popGpu]
    omega

theorem taskWeight_startTask {P : Type} [AssignmentPolicy P] {state : CoordinatorState P}
    (stored : taskOf state.proofs (task.data.proofId, task.id) = some task) (workerId : String)
    (worker : Worker) (startTime : ℕ) (key : TaskKey) :
    (state.startTask workerId worker task startTime).taskWeight key = state.taskWeight key := by
  obtain ⟨proof, found, inProof⟩ := taskOf.exists_of_eq_some stored
  have tasks : (state.startTask workerId worker task startTime).getTask key.1 key.2 =
      if key = (task.data.proofId, task.id) then some (Task.start worker task)
      else state.getTask key.1 key.2 := taskOf_modifyTask found inProof (Task.start worker) key
  unfold taskWeight
  rw [tasks]
  by_cases same : key = (task.data.proofId, task.id)
  · rw [if_pos same, same, show state.getTask task.data.proofId task.id = some task from stored]
    rfl
  · rw [if_neg same]

theorem settle_gpu (sameProof : task.data.proofId = queued.proofId) (policy : BalancedPolicy) :
    settle env .gpu task policy = popGpu env queued.proofId (charge .gpu task policy) := by
  rw [← sameProof]
  rfl

theorem last_startTask (within : sent ≤ state.outbox.length)
    (gpu : build.workerTypeFromTaskType task.data.taskType = .gpu) (workerId : String)
    (worker : Worker) (startTime : ℕ) (change : BalancedPolicy → BalancedPolicy) :
    (passOf build sent
      ((state.startTask workerId worker task startTime).modifyPolicy change)).last =
      Function.update (passOf build sent state).last task.data.proofId
        (some task.data.weight) := by
  funext other
  have emitted : ((state.startTask workerId worker task startTime).modifyPolicy change).outbox =
      state.outbox ++ [.toWorker worker.id worker.channel (.newTask task.id task.data "null")] :=
    rfl
  change (received build sent _ other).getLast?.map TaskData.weight = _
  rw [received_emit within emitted, Function.update_apply]
  by_cases own : other = task.data.proofId
  · simp [Effect.gpuTask, own, gpu]
  · simp [Effect.gpuTask, own, Ne.symm own, passOf]

/-- The weight that waits for a proof is that of one entry and that of the others. -/
theorem queuedWeight_of_mem (state : CoordinatorState BalancedPolicy) {proofId : String}
    (waiting : queued ∈ state.policy.queueOf proofId) :
    queuedWeight state proofId = state.taskWeight queued.key +
      (((state.policy.queueOf proofId).erase queued).map fun queued =>
        state.taskWeight queued.key).sum := by
  unfold queuedWeight
  rw [((List.perm_cons_erase waiting).map _).sum_eq, List.map_cons, List.sum_cons]

theorem Fair.start (holds : Fair build sent state) (filed : state.policy.Filed)
    (front : findNextBalancedTask env state.policy = some queued)
    (stored : taskOf state.proofs queued.key = some task) (sameId : task.id = queued.id)
    (sameProof : task.data.proofId = queued.proofId)
    (gpu : build.workerTypeFromTaskType task.data.taskType = .gpu) (workerId : String)
    (worker : Worker) (startTime : ℕ) :
    Fair build sent ((state.startTask workerId worker task startTime).modifyPolicy
      (settle env .gpu task)) := by
  obtain ⟨queue, found, peeked⟩ := findNextBalancedTask_spec filed front
  have waiting : queued ∈ state.policy.queueOf queued.proofId := by
    simpa [queueOf, found] using peek_mem peeked
  have weight : state.taskWeight queued.key = task.data.weight := by
    unfold taskWeight
    rw [show state.getTask queued.key.1 queued.key.2 = some task from stored]
  have split := queuedWeight_of_mem state waiting
  have fits := holds.fits queued.proofId
  have queues : ∀ other, (settle env .gpu task state.policy).queueOf other =
      if other = queued.proofId then (state.policy.queueOf queued.proofId).erase queued
      else state.policy.queueOf other := by
    intro other
    have charged : (charge .gpu task state.policy).gpuQueues.lookup queued.proofId = some queue :=
      found
    rw [settle_gpu sameProof]
    exact queueOf_popGpu charged peeked other
  have added : ∀ other, (settle env .gpu task state.policy).allocated other =
      if other = queued.proofId then state.policy.allocated queued.proofId + task.data.weight
      else state.policy.allocated other := by
    intro other
    rw [settle_gpu sameProof, allocated_popGpu, allocated_charge, sameProof, wrappingAdd32,
      Nat.mod_eq_of_lt (by omega)]
  refine ⟨?_, fun proofId => ?_, ?_⟩
  · have least : ∀ other ∈ (passOf build sent state).waiting,
        (passOf build sent state).load queued.proofId ≤ (passOf build sent state).load other :=
      fun other waits => findNextBalancedTask_least filed front waits
    have subset : { other | (settle env .gpu task state.policy).queueOf other ≠ [] } ⊆
        (passOf build sent state).waiting := by
      intro other waits empty
      apply waits
      rw [queues]
      split
      · next same => rw [← same, show state.policy.queueOf other = [] from empty, List.erase_nil]
      · exact empty
    have given := holds.fair.turn (.give queued.proofId task.data.weight subset least)
    have last := last_startTask holds.within gpu workerId worker startTime (settle env .gpu task)
    rw [sameProof] at last
    have loads : (settle env .gpu task state.policy).allocated =
        Function.update state.policy.allocated queued.proofId
          (state.policy.allocated queued.proofId + task.data.weight) := by
      funext other
      rw [Function.update_apply]
      exact added other
    rw [show (passOf build sent ((state.startTask workerId worker task startTime).modifyPolicy
      (settle env .gpu task))) = Balancing.Pass.mk _ _ _ from
        congrArg₂ (fun load last => Balancing.Pass.mk load _ last) loads last]
    exact given
  · have weights : ∀ key : TaskKey, (state.startTask workerId worker task startTime).taskWeight key =
        state.taskWeight key := by
      intro key
      refine taskWeight_startTask ?_ workerId worker startTime key
      rw [sameProof, sameId]
      exact stored
    have queued' : queuedWeight ((state.startTask workerId worker task startTime).modifyPolicy
        (settle env .gpu task)) proofId =
          (((settle env .gpu task state.policy).queueOf proofId).map fun queued =>
            state.taskWeight queued.key).sum := by
      unfold queuedWeight
      congr 1
      exact List.map_congr_left fun queued _ => weights queued.key
    change (settle env .gpu task state.policy).allocated proofId + _ < 2 ^ 32
    rw [queued', added, queues]
    split
    · omega
    · exact holds.fits proofId
  · change sent ≤ (state.outbox ++ [_]).length
    rw [List.length_append]
    exact Nat.le_add_right_of_le holds.within

/-! ## Turns of the CPU queue -/

theorem passOf_startCpu (within : sent ≤ state.outbox.length)
    (cpu : build.workerTypeFromTaskType task.data.taskType = .cpu) (workerId : String)
    (worker : Worker) (startTime : ℕ) :
    passOf build sent ((state.startTask workerId worker task startTime).modifyPolicy
      (settle env .cpu task)) = passOf build sent state := by
  have emitted : ((state.startTask workerId worker task startTime).modifyPolicy
      (settle env .cpu task)).outbox =
      state.outbox ++ [.toWorker worker.id worker.channel (.newTask task.id task.data "null")] :=
    rfl
  have nothing : ∀ other, Effect.gpuTask build other (.toWorker worker.id worker.channel
      (.newTask task.id task.data "null")) = none := by
    intro other
    simp [Effect.gpuTask, cpu]
  unfold passOf
  congr 1
  funext other
  rw [received_emit within emitted, nothing, Option.toList_none, List.append_nil]

/-- The CPU queue is served to the end without a turn of the pass. -/
theorem fair_cpuLoop (turns : ℕ) (filed : state.policy.Filed)
    (coherent : (state.board ∅ ∅).Coherent build) (running : state.shuttingDown = false)
    (fair : (passOf build sent state).Fair) (within : sent ≤ state.outbox.length) :
    (passOf build sent
      (assignLoop build env (settle env) (cpuLane env) .cpuTurn turns state).1).Fair := by
  refine (assignLoop_preserves (fun state : CoordinatorState BalancedPolicy =>
    (passOf build sent state).Fair ∧ sent ≤ state.outbox.length) env (cpuLane_serves env) ?_ ?_
      .cpuTurn turns filed coherent running ⟨fair, within⟩).1
  · intro state queued _ _ _ holds
    exact holds
  · intro state queued task workerId worker startTime _ _ _ _ _ cpu _ holds
    refine ⟨?_, ?_⟩
    · rw [passOf_startCpu holds.2 cpu]
      exact holds.1
    · change sent ≤ (state.outbox ++ [_]).length
      rw [List.length_append]
      exact Nat.le_add_right_of_le holds.2

end Passing

/-! ## A whole pass -/

/-- The keys of the tables agree with the records, and every entry waits in the queue of its
proof and of its type. -/
structure WellFiled (build : Build) (state : CoordinatorState BalancedPolicy) : Prop where
  filed : state.policy.Filed
  coherent : (state.board ∅ ∅).Coherent build

theorem reach_wellFiled (build : Build) (events : List Event) (fresh : Event.FreshIds events) :
    WellFiled build (reach BalancedPolicy build events) := by
  obtain ⟨transit, issued, sane⟩ := reach_sane BalancedPolicy build fresh
  exact ⟨sane.filed, sane.sound.task_id, sane.sound.task_proofId, sane.sound.worker_id,
    sane.sound.queue_type, sane.sound.entry_type⟩

theorem fair_gpuLoop {build : Build} (env : Env) {state : CoordinatorState BalancedPolicy}
    (wellFiled : WellFiled build state) (running : state.shuttingDown = false)
    (fits : FitsWord state) (turns : ℕ) :
    Fair build state.outbox.length
      (assignLoop build env (settle env) (gpuLane env) .gpuTurn turns state).1 := by
  have start : Fair build state.outbox.length state := by
    refine ⟨Balancing.Pass.fair_of_nothing_given fun proofId => ?_, fits, le_rfl⟩
    simp [passOf, received, gpuTasks]
  refine assignLoop_preserves (Fair build state.outbox.length) env (gpuLane_serves env) ?_ ?_
    .gpuTurn turns wellFiled.filed wellFiled.coherent running start
  · intro state queued filed front _ holds
    exact holds.discard filed front
  · intro state queued task workerId worker startTime filed front stored sameId sameProof gpu _ holds
    exact holds.start filed front stored sameId sameProof gpu workerId worker startTime

/-- **A pass of the balanced policy is fair.** At its end, no proof that received a GPU task in
the pass is ahead of a proof whose GPU queue is not empty by more than the last task it
received. -/
theorem assignTasks_fair (build : Build) (env : Env) {state : CoordinatorState BalancedPolicy}
    (wellFiled : WellFiled build state) (fits : FitsWord state) {proofId other : String}
    {data : TaskData}
    (last : (received build state.outbox.length (assignTasks build env state).1
      proofId).getLast? = some data)
    (waits : (assignTasks build env state).1.policy.queueOf other ≠ []) :
    (assignTasks build env state).1.policy.allocated proofId ≤
      (assignTasks build env state).1.policy.allocated other + data.weight := by
  suffices fair : (passOf build state.outbox.length (assignTasks build env state).1).Fair by
    refine fair proofId data.weight ?_ other waits
    change (received build state.outbox.length _ proofId).getLast?.map TaskData.weight = _
    rw [last, Option.map_some]
  unfold assignTasks
  split
  · refine Balancing.Pass.fair_of_nothing_given fun proofId => ?_
    simp [passOf, received, gpuTasks]
  · next busy =>
      have running : state.shuttingDown = false := by
        simp only [Bool.or_eq_true, not_or, Bool.not_eq_true] at busy
        exact busy.1
      have first := fair_gpuLoop env wellFiled running fits state.policy.gpuQueued.length
      have turns := assignLoop_assigns env (gpuLane_serves env) .gpuTurn
        state.policy.gpuQueued.length wellFiled.filed wellFiled.coherent running
      unfold assignLoops
      split
      · next ended status result =>
          rw [result] at first
          exact first.fair
      · next ended result =>
          rw [result] at first turns
          refine fair_cpuLoop _ turns.filed ?_ ?_ first.fair first.within
          · exact wellFiled.coherent.assignSteps (turns.turns ∅ ∅)
          · exact (Board.shuttingDown_of_turns (turns.turns ∅ ∅)).trans running

/-- A proof for which nothing is allocated and nothing waits fits, so the proofs of the two
tables decide. -/
theorem fitsWord_iff (state : CoordinatorState BalancedPolicy) :
    FitsWord state ↔ ∀ proofId ∈ state.policy.gpuQueues.keys ++ state.policy.proofGpuWeights.keys,
      state.policy.allocated proofId + queuedWeight state proofId < 2 ^ 32 := by
  refine ⟨fun fits proofId _ => fits proofId, fun fits proofId => ?_⟩
  by_cases listed : proofId ∈ state.policy.gpuQueues.keys ++ state.policy.proofGpuWeights.keys
  · exact fits proofId listed
  · rw [List.mem_append, not_or] at listed
    have unqueued : state.policy.gpuQueues.lookup proofId = none :=
      AList.lookup_eq_none.mpr listed.1
    have uncharged : state.policy.proofGpuWeights.lookup proofId = none :=
      AList.lookup_eq_none.mpr listed.2
    simp [allocated, queuedWeight, queueOf, unqueued, uncharged]

instance (state : CoordinatorState BalancedPolicy) : Decidable (FitsWord state) :=
  decidable_of_iff _ (fitsWord_iff state).symm

/-- Two proofs with two GPU tasks each, and no worker. -/
def twoQueues : List Event :=
  [(Call.claim "p").plain "s", (Call.claim "q").plain "t", (Call.spawn "p" .proveShard 4).plain "a",
    (Call.spawn "p" .proveShard 4).plain "b", (Call.spawn "q" .proveShard 4).plain "c",
    (Call.spawn "q" .proveShard 4).plain "d"]

/-- A worker with room for three of these tasks has registered, and the tasks are to be
assigned. -/
def workerJoins : CoordinatorState BalancedPolicy :=
  { reach BalancedPolicy .plain twoQueues with
    workers := (reach BalancedPolicy .plain twoQueues).workers.insert "g"
      (Worker.new "g" .gpu 12 0 ⟨"", "", "", "", 0, ""⟩ 1) }

/-- The state after the pass. -/
def workerJoined : CoordinatorState BalancedPolicy :=
  (assignTasks .plain (.plain 1000000000 "") workerJoins).1

theorem workerJoins_wellFiled : WellFiled .plain workerJoins := by
  have fresh : Event.FreshIds twoQueues := by
    unfold Event.FreshIds
    decide
  have before := reach_wellFiled .plain twoQueues fresh
  refine ⟨before.filed, before.coherent.task_id, before.coherent.task_proofId, ?_,
    before.coherent.queue_type, before.coherent.entry_type⟩
  intro workerId worker registered
  change ((reach BalancedPolicy .plain twoQueues).workers.insert "g" _).lookup workerId =
    some worker at registered
  rcases Table.lookup_insert_cases registered with ⟨same, rfl⟩ | ⟨_, registered⟩
  · exact same.symm
  · exact before.coherent.worker_id registered

/-- One proof gets two tasks, and the other one gets one and has one left. -/
theorem assignTasks_fair_workerJoins :
    FitsWord workerJoins ∧
      (received .plain workerJoins.outbox.length workerJoined "p").map TaskData.weight = [4, 4] ∧
      (received .plain workerJoins.outbox.length workerJoined "q").map TaskData.weight = [4] ∧
      workerJoined.policy.queueOf "q" ≠ [] ∧
      workerJoined.policy.allocated "p" ≤ workerJoined.policy.allocated "q" + 4 := by
  have fits : FitsWord workerJoins := by decide
  have last : (received .plain workerJoins.outbox.length workerJoined "p").getLast? =
      some ⟨.proveShard, [], [], "", "p", none, 4, ""⟩ := by decide
  have waits : workerJoined.policy.queueOf "q" ≠ [] := by decide
  exact ⟨fits, by decide, by decide, waits,
    assignTasks_fair .plain (.plain 1000000000 "") workerJoins_wellFiled fits last waits⟩

end BalancedPolicy

end Sp1Cluster
