import Sp1Cluster.Coordinator.Reachable
import Sp1Cluster.Coordinator.Turns

/-!
# Which worker gets a task

`assign_task` gives a task to an open worker of a matching type with room for it, and
among these to one that is free soonest. The code tests the room on 32-bit words. A sum
that leaves the range of a word looks small, so a worker with such a sum passes the test,
and is given the task if it is free no later than the workers that have room.
-/

set_option autoImplicit false

namespace Sp1Cluster

open CoordinatorState

/-- A worker that is open and of a type that matches a task. A task without a type of
worker has no matching worker. -/
structure Worker.Accepts (build : Build) (data : TaskData) (worker : Worker) : Prop where
  opened : worker.closed = false
  typed : build.workerTypeFromTaskType data.taskType ≠ .none
  matching : worker.workerType = .all ∨
    worker.workerType = build.workerTypeFromTaskType data.taskType

/-- A worker that can take a task, with room for its weight. -/
structure Worker.Suits (build : Build) (data : TaskData) (worker : Worker) : Prop
    extends worker.Accepts build data where
  room : worker.weight + data.weight ≤ worker.maxWeight

/-- A worker whose weight with that of a task is not a word. -/
structure Worker.Overflows (build : Build) (data : TaskData) (worker : Worker) : Prop
    extends worker.Accepts build data where
  wraps : 2 ^ 32 ≤ worker.weight + data.weight

/-- The weights of a worker are words, and it is free at some time. -/
structure Worker.InRange (worker : Worker) : Prop where
  weight : worker.weight ≤ worker.maxWeight
  maxWeight : worker.maxWeight < 2 ^ 32
  free : worker.nextFreeTime < 2 ^ 128 - 1

/-- A registered worker that can take a task and is free no later than any other that
can. -/
structure BestSuited {P : Type} (build : Build) (data : TaskData) (state : CoordinatorState P)
    (workerId : String) (worker : Worker) : Prop where
  registered : state.workers.lookup workerId = some worker
  suits : worker.Suits build data
  soonest : ∀ otherId other, state.workers.lookup otherId = some other →
    other.Suits build data → worker.nextFreeTime ≤ other.nextFreeTime

/-- The choice of a worker is right: the task is given to a best suited worker; or it is given
to none, and no worker suits; or the clock is before the epoch, and there is a best suited
worker. -/
def ChoosesBest {P : Type} [QueuePolicy P] (build : Build) (env : Env) (task : Task)
    (now : SystemTime) (state : CoordinatorState P) : Prop :=
  (∃ workerId worker startTime, BestSuited build task.data state workerId worker ∧
    assignTask build env (QueuePolicy.settle env) task now state =
      ((state.startTask workerId worker task startTime).modifyPolicy
        (QueuePolicy.settle env (build.workerTypeFromTaskType task.data.taskType) task),
        .ok (some worker.id))) ∨
  ((∀ workerId worker, state.workers.lookup workerId = some worker →
      ¬ worker.Suits build task.data) ∧
    assignTask build env (QueuePolicy.settle env) task now state = (state, .ok none)) ∨
  (now < 0 ∧ (∃ workerId worker, BestSuited build task.data state workerId worker) ∧
    assignTask build env (QueuePolicy.settle env) task now state = (state, .error .clock))

/-! ## The test of the code -/

section Test

variable {build : Build} {data : TaskData} {worker : Worker} (inRange : worker.InRange)
include inRange

theorem Worker.Suits.eligible (suits : worker.Suits build data) :
    worker.Eligible (build.workerTypeFromTaskType data.taskType) data.weight := by
  refine ⟨suits.opened, suits.matching, ?_⟩
  rw [wrappingAdd32, Nat.mod_eq_of_lt (suits.room.trans_lt inRange.maxWeight)]
  exact suits.room

theorem Worker.Overflows.eligible (word : data.weight < 2 ^ 32)
    (overflows : worker.Overflows build data) :
    worker.Eligible (build.workerTypeFromTaskType data.taskType) data.weight := by
  refine ⟨overflows.opened, overflows.matching, ?_⟩
  have held := inRange.weight
  have capacity := inRange.maxWeight
  have wraps := overflows.wraps
  unfold wrappingAdd32
  omega

omit inRange in
theorem Worker.Eligible.suits_or_overflows
    (typed : build.workerTypeFromTaskType data.taskType ≠ .none)
    (eligible : worker.Eligible (build.workerTypeFromTaskType data.taskType) data.weight) :
    worker.Suits build data ∨ worker.Overflows build data := by
  obtain ⟨opened, matching, room⟩ := eligible
  rcases Nat.lt_or_ge (worker.weight + data.weight) (2 ^ 32) with fits | wraps
  · rw [wrappingAdd32, Nat.mod_eq_of_lt fits] at room
    exact .inl ⟨⟨opened, typed, matching⟩, room⟩
  · exact .inr ⟨⟨opened, typed, matching⟩, wraps⟩

theorem Worker.Overflows.not_suits (overflows : worker.Overflows build data) :
    ¬ worker.Suits build data := by
  intro suits
  exact absurd (overflows.wraps.trans suits.room) (not_le.mpr inRange.maxWeight)

end Test

/-! ## Orders of the workers -/

theorem exists_shuffle_head {α : Type} {element : α} {elements : List α}
    (member : element ∈ elements) : ∃ (env : Env) (rest : List α),
      env.shuffle elements = element :: rest := by
  obtain ⟨position, inside, rfl⟩ := List.getElem_of_mem member
  let env : Env :=
    { Env.plain 0 "" with
      shuffle := fun elements => elements.drop position ++ elements.take position
      shuffle_perm := fun elements => List.perm_append_comm.trans
        (.of_eq (List.take_append_drop position elements)) }
  refine ⟨env, elements.drop (position + 1) ++ elements.take position, ?_⟩
  change elements.drop position ++ elements.take position = _
  rw [List.drop_eq_getElem_cons inside]
  rfl

/-- The loop over the workers keeps a choice that no worker is preferred to. -/
theorem bestWorkerOf_of_not_preferred {workerType : WorkerType} {taskWeight : ℕ}
    {best : Option (String × Worker) × ℕ} (entries : List (Sigma fun _ : String => Worker))
    (kept : ∀ entry ∈ entries, entry.2.preferred workerType taskWeight best.2 = false) :
    bestWorkerOf workerType taskWeight entries best = best := by
  induction entries with
  | nil => rfl
  | cons entry rest ih =>
    rw [bestWorkerOf, kept entry List.mem_cons_self, if_neg Bool.false_ne_true]
    exact ih fun other member => kept other (List.mem_cons_of_mem entry member)

section Orders

variable {P : Type} {state : CoordinatorState P} {workerType : WorkerType} {taskWeight : ℕ}
  {workerId : String} {worker : Worker}

/-- A worker that passes the test and is free no later than any other that does is chosen in
some order. -/
theorem exists_bestWorker (registered : state.workers.lookup workerId = some worker)
    (free : worker.nextFreeTime < 2 ^ 128 - 1) (eligible : worker.Eligible workerType taskWeight)
    (soonest : ∀ otherId other, state.workers.lookup otherId = some other →
      other.Eligible workerType taskWeight → worker.nextFreeTime ≤ other.nextFreeTime) :
    ∃ env : Env, bestWorker env workerType taskWeight state = some (workerId, worker) := by
  obtain ⟨env, rest, order⟩ := exists_shuffle_head (Table.mem_entries_iff.mpr registered)
  refine ⟨env, ?_⟩
  have preferred : worker.preferred workerType taskWeight (2 ^ 128 - 1) = true :=
    Worker.preferred_iff.mpr ⟨eligible, free⟩
  unfold bestWorker
  rw [order, bestWorkerOf, if_pos preferred, bestWorkerOf_of_not_preferred rest]
  intro entry member
  have later : entry ∈ state.workers.entries :=
    env.mem_shuffle.mp (order ▸ List.mem_cons_of_mem _ member)
  by_contra sooner
  obtain ⟨otherEligible, otherSooner⟩ :=
    Worker.preferred_iff.mp (Bool.not_eq_false _ ▸ sooner)
  exact absurd otherSooner
    (not_lt.mpr (soonest entry.1 entry.2 (Table.mem_entries_iff.mp later) otherEligible))

/-- Among registered workers with a property, one is free soonest. -/
theorem exists_soonest (property : Worker → Prop)
    (registered : state.workers.lookup workerId = some worker) (has : property worker) :
    ∃ soonestId soonest, state.workers.lookup soonestId = some soonest ∧ property soonest ∧
      soonest.nextFreeTime ≤ worker.nextFreeTime ∧
      ∀ otherId other, state.workers.lookup otherId = some other → property other →
        soonest.nextFreeTime ≤ other.nextFreeTime := by
  induction time : worker.nextFreeTime using Nat.strongRecOn generalizing workerId worker with
  | ind time ih =>
    by_cases first : ∀ otherId other, state.workers.lookup otherId = some other →
        property other → worker.nextFreeTime ≤ other.nextFreeTime
    · exact ⟨workerId, worker, registered, has, time ▸ le_rfl, first⟩
    · push Not at first
      obtain ⟨otherId, other, otherRegistered, otherHas, sooner⟩ := first
      obtain ⟨soonestId, soonest, here, holds, before, least⟩ :=
        ih other.nextFreeTime (time ▸ sooner) otherRegistered otherHas rfl
      exact ⟨soonestId, soonest, here, holds, before.trans (time ▸ sooner.le), least⟩

end Orders

/-! ## The choice -/

/-- Every open, matching worker whose sum with the weight of a task overflows is free later than
some worker that suits. With a clock before the epoch nothing is given, and it is enough that
some worker suits. -/
def OverflowsOutrun {P : Type} (build : Build) (data : TaskData) (now : SystemTime)
    (state : CoordinatorState P) : Prop :=
  ∀ workerId worker, state.workers.lookup workerId = some worker → worker.Overflows build data →
    ∃ otherId other, state.workers.lookup otherId = some other ∧ other.Suits build data ∧
      (0 ≤ now → other.nextFreeTime < worker.nextFreeTime)

section Choice

variable {P : Type} [QueuePolicy P] {build : Build} {env : Env} {task : Task} {now : SystemTime}
  {state : CoordinatorState P} {workerId : String} {worker : Worker}

omit [QueuePolicy P] in
theorem assignTask_of_bestWorker (settle : WorkerType → Task → P → P) (now : SystemTime)
    (typed : build.workerTypeFromTaskType task.data.taskType ≠ .none)
    (chosen : bestWorker env (build.workerTypeFromTaskType task.data.taskType) task.data.weight
      state = some (workerId, worker)) :
    (now < 0 ∧ assignTask build env settle task now state = (state, .error .clock)) ∨
      (0 ≤ now ∧ ∃ startTime, assignTask build env settle task now state =
        ((state.startTask workerId worker task startTime).modifyPolicy
          (settle (build.workerTypeFromTaskType task.data.taskType) task),
          .ok (some worker.id))) := by
  unfold assignTask
  simp only [if_neg typed, chosen]
  rcases lt_or_ge now 0 with early | late
  · rw [SystemTime.sinceEpoch, if_neg (not_le.mpr early)]
    exact .inl ⟨early, rfl⟩
  · rw [SystemTime.sinceEpoch, if_pos late]
    exact .inr ⟨late, _, rfl⟩

variable (workers : ∀ workerId worker, state.workers.lookup workerId = some worker →
  worker.id = workerId ∧ worker.InRange)
include workers

/-- A choice of a worker that overflows is wrong, unless the clock fails and another suits. -/
theorem ChoosesBest.suits_of_overflows (right : ChoosesBest build env task now state)
    (overflows : worker.Overflows build task.data)
    (chosen : bestWorker env (build.workerTypeFromTaskType task.data.taskType) task.data.weight
      state = some (workerId, worker)) :
    now < 0 ∧ ∃ otherId other, BestSuited build task.data state otherId other := by
  have registered := (bestWorker_spec chosen).1
  rcases assignTask_of_bestWorker (QueuePolicy.settle env) now overflows.typed chosen with
    ⟨early, failed⟩ | ⟨late, startTime, given⟩
  · rcases right with ⟨_, _, _, -, other⟩ | ⟨-, other⟩ | ⟨-, best, -⟩
    · cases congrArg Prod.snd (failed.symm.trans other)
    · cases congrArg Prod.snd (failed.symm.trans other)
    · exact ⟨early, best⟩
  · rcases right with ⟨otherId, other, _, best, otherGiven⟩ | ⟨-, none⟩ | ⟨early, -⟩
    · have sameId : other.id = worker.id :=
        Option.some.inj (Except.ok.inj (congrArg Prod.snd (otherGiven.symm.trans given)))
      rw [(workers _ _ best.registered).1, (workers _ _ registered).1] at sameId
      subst sameId
      obtain rfl := Option.some.inj (best.registered.symm.trans registered)
      exact absurd best.suits (overflows.not_suits (workers _ _ registered).2)
    · cases congrArg Prod.snd (none.symm.trans given)
    · exact absurd early (not_lt.mpr late)

theorem overflowsOutrun_of_choosesBest (word : task.data.weight < 2 ^ 32)
    (chooses : ∀ env, ChoosesBest build env task now state) :
    OverflowsOutrun build task.data now state := by
  intro workerId worker registered overflows
  by_contra unmatched
  have suitsLater : ∀ otherId other, state.workers.lookup otherId = some other →
      other.Suits build task.data → 0 ≤ now ∧ worker.nextFreeTime ≤ other.nextFreeTime := by
    intro otherId other otherRegistered suits
    by_contra sooner
    exact unmatched ⟨otherId, other, otherRegistered, suits,
      fun late => not_le.mp fun later => sooner ⟨late, later⟩⟩
  -- The soonest of the workers whose sum overflows is chosen in some order.
  obtain ⟨soonestId, soonest, here, overflowsHere, before, least⟩ :=
    exists_soonest (Worker.Overflows build task.data) registered overflows
  obtain ⟨env, chosen⟩ := exists_bestWorker here (workers _ _ here).2.free
    (overflowsHere.eligible (workers _ _ here).2 word) (by
      intro otherId other otherRegistered eligible
      rcases eligible.suits_or_overflows overflows.typed with suits | otherOverflows
      · exact before.trans (suitsLater otherId other otherRegistered suits).2
      · exact least otherId other otherRegistered otherOverflows)
  obtain ⟨early, otherId, other, best⟩ :=
    (chooses env).suits_of_overflows workers overflowsHere chosen
  exact absurd early (not_lt.mpr (suitsLater otherId other best.registered best.suits).1)

theorem choosesBest_of_overflowsOutrun (outrun : OverflowsOutrun build task.data now state)
    (env : Env) : ChoosesBest build env task now state := by
  by_cases typed : build.workerTypeFromTaskType task.data.taskType = .none
  · refine .inr (.inl ⟨fun _ _ _ suits => suits.typed typed, ?_⟩)
    unfold assignTask
    simp only [if_pos typed]
  · cases chosen : bestWorker env (build.workerTypeFromTaskType task.data.taskType)
        task.data.weight state with
    | none =>
      refine .inr (.inl ⟨?_, ?_⟩)
      · intro workerId worker registered suits
        exact not_eligible_of_bestWorker_none chosen registered
          (workers _ _ registered).2.free (suits.eligible (workers _ _ registered).2)
      · unfold assignTask
        simp only [if_neg typed, chosen]
    | some best =>
      obtain ⟨workerId, worker⟩ := best
      obtain ⟨registered, bestWorkerTime, preferred⟩ := bestWorker_spec chosen
      have soonest : ∀ otherId other, state.workers.lookup otherId = some other →
          other.Suits build task.data → worker.nextFreeTime ≤ other.nextFreeTime := by
        intro otherId other otherRegistered suits
        exact nextFreeTime_bestWorker_le chosen otherRegistered
          (suits.eligible (workers _ _ otherRegistered).2)
      have fits := (Worker.preferred_iff.mp preferred).1.suits_or_overflows typed
      rcases assignTask_of_bestWorker (QueuePolicy.settle env) now typed chosen with
        ⟨early, failed⟩ | ⟨late, startTime, given⟩
      · obtain ⟨otherId, other, otherRegistered, suits⟩ : ∃ otherId other,
            state.workers.lookup otherId = some other ∧ other.Suits build task.data := by
          rcases fits with suits | overflows
          · exact ⟨workerId, worker, registered, suits⟩
          · obtain ⟨otherId, other, otherRegistered, suits, -⟩ := outrun _ _ registered overflows
            exact ⟨otherId, other, otherRegistered, suits⟩
        obtain ⟨firstId, first, here, suitsHere, -, least⟩ :=
          exists_soonest (Worker.Suits build task.data) otherRegistered suits
        exact .inr (.inr ⟨early, ⟨firstId, first, here, suitsHere, least⟩, failed⟩)
      · rcases fits with suits | overflows
        · exact .inl ⟨workerId, worker, startTime, ⟨registered, suits, soonest⟩, given⟩
        · obtain ⟨otherId, other, otherRegistered, suits, sooner⟩ :=
            outrun _ _ registered overflows
          exact absurd (sooner late) (not_lt.mpr (soonest _ _ otherRegistered suits))

end Choice

/-- **When the choice of a worker is exact.** For workers whose weights are words and a task
whose weight is one, the choice is right in every order of the workers if and only if every
open, matching worker whose sum with the weight of the task overflows is free later than some
worker that suits. -/
theorem assignTask_exact {P : Type} [QueuePolicy P] (build : Build) (task : Task)
    (now : SystemTime) (state : CoordinatorState P) (word : task.data.weight < 2 ^ 32)
    (workers : ∀ workerId worker, state.workers.lookup workerId = some worker →
      worker.id = workerId ∧ worker.InRange) :
    (∀ env, ChoosesBest build env task now state) ↔ OverflowsOutrun build task.data now state :=
  ⟨overflowsOutrun_of_choosesBest workers word, choosesBest_of_overflowsOutrun workers⟩

/-! ## A sum that overflows -/

/-- A GPU worker with room for 10 holds a task of weight 1. -/
def oneHeld : List Event :=
  [(Call.register "g" .gpu 10).plain "", (Call.claim "p").plain "t",
    (Call.spawn "p" .proveShard 1).plain "u"]

/-- A task of the same proof with the given weight. -/
def shardOfWeight (weight : ℕ) : Task :=
  Task.new (.plain 1000000000 "v") ⟨.proveShard, [], [], "", "p", none, weight, ""⟩

/-- The state inside of `create_task`, when the task is stored and queued and before it is
assigned. -/
def shardStored (P : Type) [AssignmentPolicy P] (weight : ℕ) : CoordinatorState P :=
  enqueueTask .plain (shardOfWeight weight)
    { reach P .plain oneHeld with
      totalTasks := (reach P .plain oneHeld).totalTasks + 1
      proofs := Table.modify "p" (·.addTask (shardOfWeight weight))
        (reach P .plain oneHeld).proofs }

/-- `assign_task` for that task, one second after the epoch. -/
def assignShard (P : Type) [QueuePolicy P] (weight : ℕ) :
    CoordinatorState P × Except Status (Option String) :=
  assignTask .plain (.plain 1000000000 "") (QueuePolicy.settle (.plain 1000000000 ""))
    (shardOfWeight weight) 1000000000 (shardStored P weight)

/-- A task of weight 9 fits in, and is given to the worker. -/
theorem assignTask_exact_oneHeld :
    ChoosesBest .plain (.plain 1000000000 "") (shardOfWeight 9) 1000000000
        (shardStored BalancedPolicy 9) ∧
      (assignShard BalancedPolicy 9).2 = .ok (some "g") := by
  have entries : ∀ entry ∈ (shardStored BalancedPolicy 9).workers.entries,
      entry.2.id = entry.1 ∧ entry.2.weight ≤ entry.2.maxWeight ∧ entry.2.maxWeight < 2 ^ 32 ∧
        entry.2.nextFreeTime < 2 ^ 128 - 1 ∧ entry.2.weight + 9 < 2 ^ 32 := by decide
  refine ⟨(assignTask_exact .plain (shardOfWeight 9) 1000000000 (shardStored BalancedPolicy 9)
    (by decide) ?_).mpr ?_ _, by decide⟩
  · intro workerId worker registered
    obtain ⟨own, weight, maxWeight, free, -⟩ := entries _ (Table.mem_entries_iff.mpr registered)
    exact ⟨own, weight, maxWeight, free⟩
  · intro workerId worker registered overflows
    obtain ⟨-, -, -, -, fits⟩ := entries _ (Table.mem_entries_iff.mpr registered)
    exact absurd overflows.wraps (not_le.mpr fits)

/-- **A worker is given a task of the largest weight.** The worker holds 1 of 10, and the
sum with the weight of the task is zero as a word. -/
theorem overweight_assigned :
    (∀ worker ∈ (shardStored DefaultPolicy (2 ^ 32 - 1)).workers.lookup "g",
      worker.weight = 1 ∧ worker.maxWeight = 10 ∧ worker.nextFreeTime < 2 ^ 128 - 1) ∧
    (∀ worker ∈ (shardStored BalancedPolicy (2 ^ 32 - 1)).workers.lookup "g",
      worker.weight = 1 ∧ worker.maxWeight = 10 ∧ worker.nextFreeTime < 2 ^ 128 - 1) ∧
    10 < 1 + (shardOfWeight (2 ^ 32 - 1)).data.weight ∧
    (assignShard DefaultPolicy (2 ^ 32 - 1)).2 = .ok (some "g") ∧
    (assignShard BalancedPolicy (2 ^ 32 - 1)).2 = .ok (some "g") := by
  decide

end Sp1Cluster
