import Sp1Cluster.Coordinator.Reachable
import Sp1Cluster.Coordinator.Records

/-!
# The weights of the workers

As long as no capacity and no task weight together leave the range of a 32-bit
word, the weight of every worker is the sum of the weights of the tasks it
holds and stays within its capacity. So nothing is ever subtracted from it that
it does not have.
-/

set_option autoImplicit false

namespace Sp1Cluster

open Relation

/-- Every capacity and every task weight add up within a 32-bit word. -/
def Inputs.Bounded (inputs : Inputs) : Prop :=
  ∀ maxWeight ∈ inputs.capacities, ∀ weight ∈ inputs.weights, maxWeight + weight < 2 ^ 32

namespace Board

variable {build : Build} {charges : Bool} {inputs : Inputs} {board board' : Board}

/-- The weight of a worker is the sum of the weights of its tasks, within its
capacity. -/
structure Weighed (inputs : Inputs) (board : Board) : Prop where
  weight : ∀ {workerId : String} {worker : Worker},
    board.workers.lookup workerId = some worker →
      worker.weight = KeySet.sumOver board.taskWeight worker.activeTasks
  capacity : ∀ {workerId : String} {worker : Worker},
    board.workers.lookup workerId = some worker → worker.weight ≤ worker.maxWeight
  registered : ∀ {workerId : String} {worker : Worker},
    board.workers.lookup workerId = some worker → worker.maxWeight ∈ inputs.capacities
  created : ∀ {key : TaskKey} {task : Task},
    board.task key = some task → task.data.weight ∈ inputs.weights

namespace Weighed

theorem of_records (created : ∀ key task, board'.task key = some task →
      task.data.weight ∈ inputs.weights)
    (loads : ∀ workerId worker, board'.workers.lookup workerId = some worker →
      KeySet.sumOver board'.taskWeight worker.activeTasks =
        KeySet.sumOver board.taskWeight worker.activeTasks)
    (records : ∀ workerId worker, board'.workers.lookup workerId = some worker →
      worker.weight = KeySet.sumOver board.taskWeight worker.activeTasks ∧
        worker.weight ≤ worker.maxWeight ∧ worker.maxWeight ∈ inputs.capacities) :
    board'.Weighed inputs where
  weight registered := (records _ _ registered).1.trans (loads _ _ registered).symm
  capacity registered := (records _ _ registered).2.1
  registered registered := (records _ _ registered).2.2
  created := created _ _

theorem sum_mod (weighed : board.Weighed inputs) (sound : board.Sound build)
    (bounded : inputs.Bounded) {workerId : String} {worker : Worker}
    (registered : board.workers.lookup workerId = some worker) :
    KeySet.sumOver board.taskWeight worker.activeTasks % 2 ^ 32 = worker.weight := by
  rw [← weighed.weight registered]
  refine Nat.mod_eq_of_lt ?_
  by_cases empty : worker.activeTasks.entries = []
  · have nothing : worker.weight = 0 := by
      rw [weighed.weight registered]
      exact KeySet.sumOver_of_isEmpty _ (by simp [KeySet.isEmpty, empty])
    omega
  · obtain ⟨⟨key, value⟩, member⟩ := List.exists_mem_of_ne_nil _ empty
    have held : key ∈ worker.activeTasks := Table.mem_of_lookup (Table.mem_entries_iff.mp member)
    obtain ⟨task, stored, -⟩ := sound.held_task ⟨worker, registered, held⟩
    have inRange := bounded _ (weighed.registered registered) _ (weighed.created stored)
    have capacity := weighed.capacity registered
    omega

end Weighed

theorem Move.created (move : Move build inputs board board') {key : TaskKey} {task' : Task}
    (before : board.task key = none) (after : board'.task key = some task') :
    task'.data.weight ∈ inputs.weights := by
  have kept : ∀ {proofId taskId : String} {proof proof' : Proof} {task changed : Task},
      board.proofs.lookup proofId = some proof → proof.tasks.lookup taskId = some task →
        proof'.tasks = proof.tasks.insert taskId changed →
          taskOf (board.proofs.insert proofId proof') key = none := by
    intro proofId taskId proof proof' task changed found stored tasks
    rw [taskOf.set_eq found tasks, if_neg]
    · exact before
    · rintro rfl
      cases before.symm.trans ((taskOf.of_lookup found).trans stored)
  cases move with
  | addProof absent empty =>
    cases ((taskOf.insert_empty_eq absent empty key).trans before).symm.trans after
  | addTask env data found fresh weight =>
    rw [task_addTask (Task.new env data) found] at after
    split at after
    · cases after
      exact weight
    · cases before.symm.trans after
  | fail found stored =>
    unfold task at after
    rw [proofs_failTask] at after
    cases (kept found stored rfl).symm.trans after
  | complete found stored | requeued found stored | subscribe found stored =>
    cases (kept found stored rfl).symm.trans after
  | removeProof =>
    have erased := (taskOf.erase_eq key).symm.trans after
    split at erased
    · cases erased
    · cases before.symm.trans erased
  | _ => cases before.symm.trans after

theorem Weighed.move (weighed : board.Weighed inputs) (sound : board.Sound build)
    (bounded : inputs.Bounded) (running : inputs.stops = false)
    (move : Move build inputs board board') : board'.Weighed inputs := by
  refine .of_records ?_ (fun _ _ => move.load_eq sound) fun workerId worker' registered' => ?_
  · intro key task' after
    cases before : board.task key with
    | none => exact move.created before after
    | some task =>
      rw [(move.taskStep sound key).data_eq before after]
      exact weighed.created before
  cases move.workerStep registered' with
  | keep registered =>
    exact ⟨weighed.weight registered, weighed.capacity registered,
      weighed.registered registered⟩
  | add empty weightless capacity =>
    rw [weightless, empty]
    exact ⟨(KeySet.sumOver_empty _).symm, Nat.zero_le _, capacity⟩
  | change registered alike weight =>
    have same := weight.elim id fun recomputed =>
      recomputed.trans (weighed.sum_mod sound bounded registered)
    rw [same, alike.activeTasks, alike.maxWeight]
    exact ⟨weighed.weight registered, weighed.capacity registered,
      weighed.registered registered⟩
  | release registered held stored released =>
    have split := weighed.weight registered
    have capacity := weighed.capacity registered
    rw [KeySet.sumOver_of_mem _ held, taskWeight_of_task stored] at split
    rw [maxWeight_of_released released, activeTasks_of_released released]
    refine ⟨?_, ?_, weighed.registered registered⟩
    · rcases weight_of_released released with less | ⟨empty, nothing⟩
      · omega
      · rw [activeTasks_of_released released] at empty
        rw [nothing, KeySet.sumOver_of_isEmpty _ empty]
    · rcases weight_of_released released with less | ⟨-, nothing⟩ <;> omega
  | halt _ asked => exact absurd (running.symm.trans asked) nofun

theorem Weighed.assignStep (weighed : board.Weighed inputs) (sound : board.Sound build)
    (bounded : inputs.Bounded) (turn : AssignStep build charges board board') :
    board'.Weighed inputs := by
  refine .of_records ?_ (fun _ _ _ => KeySet.sumOver_congr fun key _ =>
    turn.taskWeight_eq sound key) fun workerId worker' registered' => ?_
  · intro key task' after
    obtain ⟨task, before, -⟩ := turn.restarted sound after
    rw [(turn.taskStep Inputs.none sound key).data_eq before after]
    exact weighed.created before
  rcases turn.worker_cases sound registered' with registered | ⟨worker, task, startTime, registered,
    stored, unheld, ⟨workerType, bestWorkerTime, fits⟩, rfl⟩
  · exact ⟨weighed.weight registered, weighed.capacity registered, weighed.registered registered⟩
  · have inRange := bounded _ (weighed.registered registered) _ (weighed.created stored)
    have capacity := weighed.capacity registered
    have exactSum : wrappingAdd32 worker.weight task.data.weight =
        worker.weight + task.data.weight := Nat.mod_eq_of_lt (by omega)
    unfold Worker.preferred at fits
    simp only [Bool.and_eq_true, decide_eq_true_iff, exactSum] at fits
    change wrappingAdd32 worker.weight task.data.weight =
      KeySet.sumOver board.taskWeight (KeySet.add _ worker.activeTasks) ∧
        wrappingAdd32 worker.weight task.data.weight ≤ worker.maxWeight ∧ _
    rw [KeySet.sumOver_add _ unheld, exactSum, taskWeight_of_task stored,
      ← weighed.weight registered, Nat.add_comm]
    have known : worker.maxWeight ∈ inputs.capacities := weighed.registered registered
    exact ⟨rfl, Nat.add_comm .. ▸ fits.2, known⟩

end Board

/-! ## Reachable states -/

/-- The capacity of the worker a call registers. -/
def Call.registers : Call → Option ℕ
  | .addWorker _ _ maxWeight _ _ => some maxWeight
  | _ => none

/-- The weight of the task a call creates. -/
def Call.creates (build : Build) : Call → Option ℕ
  | .createProof _ => some (build.controllerWeight % 2 ^ 32)
  | .createTask data => some data.weight
  | _ => none

/-- The capacity of every worker and the weight of every task of a run add up
within a 32-bit word. -/
def Event.WeightsFit (build : Build) (events : List Event) : Prop :=
  ∀ maxWeight ∈ events.filterMap (fun event => event.call.registers),
    ∀ weight ∈ events.filterMap (fun event => event.call.creates build),
      maxWeight + weight < 2 ^ 32

namespace Event

variable {build : Build}

/-- What the calls of a run bring, when none of them stops the coordinator. -/
def inputs (build : Build) (events : List Event) : Inputs where
  weights := {weight | weight ∈ events.filterMap fun event => event.call.creates build}
  capacities := {maxWeight | maxWeight ∈ events.filterMap fun event => event.call.registers}
  completed := Set.univ
  failed := Set.univ
  ended := Set.univ
  subscribed := Set.univ
  stops := false

theorem inputs_le {events : List Event} {event : Event} (member : event ∈ events)
    (running : event.call.stops = false) :
    (event.call.inputs build).Le (inputs build events) where
  weights := by
    intro weight brought
    refine List.mem_filterMap.mpr ⟨event, member, ?_⟩
    cases call : event.call <;> simp_all [Call.inputs, Call.creates, Inputs.none]
  capacities := by
    intro maxWeight brought
    refine List.mem_filterMap.mpr ⟨event, member, ?_⟩
    cases call : event.call <;> simp_all [Call.inputs, Call.registers, Inputs.none]
  completed := Set.subset_univ _
  failed := Set.subset_univ _
  ended := Set.subset_univ _
  subscribed := Set.subset_univ _
  stops := by
    intro asked
    rw [Call.stops_inputs, running] at asked
    cases asked

end Event

namespace CoordinatorState

variable {P : Type} [LawfulPolicy P] {build : Build}

/-- The weight of every worker is the sum of the weights of the tasks it holds,
within its capacity, and taking any of them off it never saturates. -/
structure WeightsExact (state : CoordinatorState P) : Prop where
  weight : ∀ {workerId : String} {worker : Worker}, state.workers.lookup workerId = some worker →
    worker.weight = (worker.activeTasks.keys.map state.taskWeight).sum
  capacity : ∀ {workerId : String} {worker : Worker}, state.workers.lookup workerId = some worker →
    worker.weight ≤ worker.maxWeight
  unsaturated : ∀ {workerId : String} {worker : Worker} {released : List (String × String)},
    state.workers.lookup workerId = some worker → released.Nodup →
    (∀ key ∈ released, key ∈ worker.activeTasks) →
      (released.map state.taskWeight).sum ≤ worker.weight

/-- Any of the keys of a set sum up to at most the whole. -/
theorem sum_le_sumOver (weight : TaskKey → ℕ) {keys : KeySet TaskKey} {some : List TaskKey}
    (distinct : some.Nodup) (members : ∀ key ∈ some, key ∈ keys) :
    (some.map weight).sum ≤ KeySet.sumOver weight keys := by
  induction some generalizing keys with
  | nil => exact Nat.zero_le _
  | cons key rest ih =>
    obtain ⟨unlisted, distinctRest⟩ := List.nodup_cons.mp distinct
    rw [KeySet.sumOver_of_mem weight (members key List.mem_cons_self), List.map_cons,
      List.sum_cons]
    refine Nat.add_le_add_left (ih distinctRest ?_) _
    intro other member
    refine AList.mem_erase.mpr ⟨?_, members other (List.mem_cons_of_mem _ member)⟩
    rintro rfl
    exact unlisted member

theorem weightsExact_of_weighed {state : CoordinatorState P} {inputs : Inputs}
    {transit : Set TaskKey} {issued : Set String}
    (weighed : (state.board transit issued).Weighed inputs) : state.WeightsExact where
  weight := by
    intro workerId worker registered
    rw [show worker.weight = KeySet.sumOver state.taskWeight worker.activeTasks from
      weighed.weight registered]
    simp only [KeySet.sumOver, Table.total, AList.keys, List.keys, List.map_map]
    rfl
  capacity := by
    intro workerId worker registered
    exact weighed.capacity registered
  unsaturated := by
    intro workerId worker released registered distinct members
    rw [show worker.weight = KeySet.sumOver state.taskWeight worker.activeTasks from
      weighed.weight registered]
    exact sum_le_sumOver _ distinct members

theorem reach_weightsExact (events : List Event) (fresh : Event.FreshIds events)
    (fit : Event.WeightsFit build events)
    (running : ∀ event ∈ events, event.call.stops = false) :
    (reach P build events).WeightsExact := by
  have empty : ((new : CoordinatorState P).board ∅ ∅).Weighed (Event.inputs build events) := by
    have noWorker : ∀ {workerId worker},
        (new : CoordinatorState P).workers.lookup workerId ≠ some worker := by
      intro workerId worker registered
      cases registered
    exact
      { weight := fun registered => absurd registered noWorker
        capacity := fun registered => absurd registered noWorker
        registered := fun registered => absurd registered noWorker
        created := by
          intro key task stored
          cases stored }
  have weighed : ∃ transit issued,
      (reach P build events).Sane build events transit issued ∧ (events ⊆ events →
      ((reach P build events).board transit issued).Weighed (Event.inputs build events)) := by
    refine sane_new.run_rule (fun past board => past ⊆ events → board.Weighed _) ?_
      (fun _ => empty) fresh
    intro past state event _ _ _ _ sane performs weighed within
    have member : event ∈ events := within (by simp)
    obtain ⟨middle, moves, turns⟩ := performs.plays
    have widened := Board.Moves.mono (Event.inputs_le member (running event member)) moves
    exact Board.moves_turns_rule (Q := fun board => board.Weighed _) sane.sound
      (weighed fun _ listed => within (List.mem_append_left _ listed))
      (fun sound move weighed => weighed.move sound fit rfl move)
      (fun sound turn weighed => weighed.assignStep sound fit turn) widened turns
  obtain ⟨transit, issued, -, exact_weights⟩ := weighed
  exact weightsExact_of_weighed (exact_weights (List.Subset.refl _))

end CoordinatorState

/-- **The weights of the workers are exact** in every state that calls without a
shutdown reach, under both policies, when capacities and task weights fit into
32-bit words. -/
theorem worker_weights_exact (build : Build) (events : List Event)
    (fresh : Event.FreshIds events) (fit : Event.WeightsFit build events)
    (running : ∀ event ∈ events, event.call.stops = false) :
    (CoordinatorState.reach DefaultPolicy build events).WeightsExact ∧
      (CoordinatorState.reach BalancedPolicy build events).WeightsExact :=
  ⟨CoordinatorState.reach_weightsExact events fresh fit running,
    CoordinatorState.reach_weightsExact events fresh fit running⟩

theorem worker_weights_exact_oneProof :
    Event.FreshIds oneProof ∧ Event.WeightsFit .plain oneProof ∧
      (∀ event ∈ oneProof, event.call.stops = false) ∧
      ((CoordinatorState.reach DefaultPolicy .plain oneProof).workers.lookup "w").map (·.weight) =
        some 4 ∧
      (CoordinatorState.reach DefaultPolicy .plain oneProof).WeightsExact ∧
      (CoordinatorState.reach BalancedPolicy .plain oneProof).WeightsExact := by
  have fresh : Event.FreshIds oneProof := by
    unfold Event.FreshIds
    decide
  have fit : Event.WeightsFit .plain oneProof := by
    unfold Event.WeightsFit
    decide
  have running : ∀ event ∈ oneProof, event.call.stops = false := by decide
  exact ⟨fresh, fit, running, by decide, worker_weights_exact .plain oneProof fresh fit running⟩

end Sp1Cluster
