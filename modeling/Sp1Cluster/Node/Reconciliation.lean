import Sp1Cluster.Node.Loop
import Sp1Cluster.Coordinator.Turns
import Sp1Cluster.Coordinator.Reachable

/-!
# One heartbeat reconciles a node with the coordinator

The coordinator answers a heartbeat by cancelling what the node should not work
on and sending again what it should, and it may assign new tasks in the same
call. When the node then takes these messages in order, its tasks are those the
coordinator has recorded for it, whatever it worked on before.
-/

set_option autoImplicit false

namespace Sp1Cluster

open Relation CoordinatorState

namespace CoordinatorState

variable {P : Type} {build : Build} {state state' : CoordinatorState P} {workerId : String}

/-- The node works on what the coordinator has recorded for a worker. -/
def Agrees (state : CoordinatorState P) (workerId : String) (node : Node) : Prop :=
  ∀ key, key ∈ node.tasks ↔ state.Holds workerId key.1 key.2

/-- Every worker is registered under its own identifier. -/
def OwnIds (state : CoordinatorState P) : Prop :=
  ∀ workerId worker, state.workers.lookup workerId = some worker → worker.id = workerId

/-! ## Assignments -/

theorem holds_startTask {worker : Worker} {taker : String} {task : Task} (startTime : ℕ)
    (registered : state.workers.lookup taker = some worker) (key : TaskKey) :
    (state.startTask taker worker task startTime).Holds workerId key.1 key.2 ↔
      (workerId = taker ∧ key = (task.data.proofId, task.id)) ∨
        state.Holds workerId key.1 key.2 := by
  have workers : (state.startTask taker worker task startTime).workers =
      state.workers.insert taker (worker.take task startTime) :=
    Table.modify_of_lookup registered _
  unfold Holds
  rw [workers]
  simp only [Table.lookup_insert_eq]
  by_cases same : workerId = taker
  · subst same
    simp [registered, Worker.take, Prod.ext_iff]
  · simp [same]

theorem OwnIds.turn (ownIds : state.OwnIds) (turn : Turn build state state') : state'.OwnIds := by
  cases turn with
  | discard change => exact ownIds
  | @assign proofId taskId taker task worker bestWorkerTime startTime change stored unfinished
      registered fits =>
      intro workerId record found
      change (Table.modify taker (Worker.take task startTime) state.workers).lookup workerId =
        some record at found
      rw [Table.modify_of_lookup registered] at found
      rcases Table.lookup_insert_cases found with ⟨same, rfl⟩ | ⟨_, found⟩
      · exact (ownIds taker worker registered).trans same.symm
      · exact ownIds workerId record found

theorem Agrees.turn {node : Node} (agrees : state.Agrees workerId node)
    (opened : node.closed = false) (ownIds : state.OwnIds) (turn : Turn build state state') :
    ∃ sent, state'.outbox = state.outbox ++ sent ∧
      state'.Agrees workerId (node.receiveAll (messagesTo workerId sent)) := by
  cases turn with
  | discard change => exact ⟨[], (List.append_nil _).symm, agrees⟩
  | @assign proofId taskId taker task worker bestWorkerTime startTime change stored unfinished
      registered fits =>
      refine ⟨[.toWorker worker.id worker.channel (.newTask task.id task.data "null")], rfl, ?_⟩
      rw [ownIds taker worker registered]
      intro key
      change _ ↔ (state.startTask taker worker task startTime).Holds workerId key.1 key.2
      rw [holds_startTask startTime registered]
      by_cases same : taker = workerId
      · have received : messagesTo workerId [.toWorker taker worker.channel
            (.newTask task.id task.data "null")] = [.newTask task.id task.data "null"] := by
          simp [messagesTo, same]
        rw [received]
        change key ∈ (node.receive (.newTask task.id task.data "null")).tasks ↔ _
        rw [Node.mem_receive_newTask opened, agrees key]
        simp [same]
      · have received : messagesTo workerId [.toWorker taker worker.channel
            (.newTask task.id task.data "null")] = [] := by
          simp [messagesTo, same]
        rw [received]
        change key ∈ node.tasks ↔ _
        rw [agrees key]
        have other : workerId ≠ taker := fun equal => same equal.symm
        simp [other]

theorem Agrees.turns {node : Node} (agrees : state.Agrees workerId node)
    (opened : node.closed = false) (ownIds : state.OwnIds)
    (turns : ReflTransGen (Turn build) state state') :
    ∃ sent, state'.outbox = state.outbox ++ sent ∧
      state'.Agrees workerId (node.receiveAll (messagesTo workerId sent)) := by
  induction turns using ReflTransGen.head_induction_on generalizing node with
  | refl => exact ⟨[], (List.append_nil _).symm, agrees⟩
  | head turn _ ih =>
    obtain ⟨sent, outbox, agreesNext⟩ := agrees.turn opened ownIds turn
    obtain ⟨more, outboxLast, agreesLast⟩ :=
      ih agreesNext ((Node.closed_receiveAll ..).trans opened) (ownIds.turn turn)
    refine ⟨sent ++ more, ?_, ?_⟩
    · rw [outboxLast, outbox, List.append_assoc]
    · rw [messagesTo_append, Node.receiveAll_append]
      exact agreesLast

/-! ## The answer to a heartbeat -/

section Answer

variable {worker : Worker} {node : Node}

theorem messagesTo_cancelUnexpected (ownId : worker.id = workerId) (reported : List TaskKey) :
    messagesTo workerId (reported.flatMap (cancelUnexpected worker)) =
      (reported.filter fun key => key ∉ worker.activeTasks).map fun key =>
        .cancelTask key.1 key.2 := by
  induction reported with
  | nil => rfl
  | cons key rest ih =>
    rw [List.flatMap_cons, messagesTo_append, ih]
    by_cases held : key ∈ worker.activeTasks
    · simp [cancelUnexpected, held, messagesTo]
    · simp [cancelUnexpected, held, messagesTo, ownId]

def storedTasks (state : CoordinatorState P) (keys : List TaskKey) : List Task :=
  keys.filterMap fun key => state.getTask key.1 key.2

theorem messagesTo_resendTask (ownId : worker.id = workerId) (missing : List TaskKey) :
    messagesTo workerId (missing.flatMap (state.resendTask worker)) =
      (state.storedTasks missing).map (Node.startMessage "\"\"") := by
  induction missing with
  | nil => rfl
  | cons key rest ih =>
    rw [List.flatMap_cons, messagesTo_append, ih]
    cases stored : state.getTask key.1 key.2 with
    | none => simp [resendTask, storedTasks, stored, messagesTo]
    | some task => simp [resendTask, storedTasks, stored, messagesTo, ownId, Node.startMessage]

theorem mem_reconciled (opened : node.closed = false) (ownId : worker.id = workerId)
    {reported missing : List TaskKey} (reports : ∀ key, key ∈ reported ↔ key ∈ node.tasks)
    (misses : ∀ key, key ∈ missing ↔ key ∈ worker.activeTasks ∧ key ∉ reported)
    (stored : ∀ key ∈ worker.activeTasks, ∃ task, state.getTask key.1 key.2 = some task ∧
      (task.data.proofId, task.id) = key) (key : TaskKey) :
    key ∈ (node.receiveAll (messagesTo workerId (reported.flatMap (cancelUnexpected worker) ++
        missing.flatMap (state.resendTask worker)))).tasks ↔ key ∈ worker.activeTasks := by
  rw [messagesTo_append, Node.receiveAll_append, messagesTo_cancelUnexpected ownId,
    messagesTo_resendTask ownId,
    Node.mem_receiveAll_newTasks _ ((Node.closed_receiveAll ..).trans opened),
    Node.mem_receiveAll_cancelTasks]
  have kept : key ∉ (reported.filter fun key => key ∉ worker.activeTasks) ↔
      (key ∈ reported → key ∈ worker.activeTasks) := by
    simp
  have resent : (∃ task ∈ state.storedTasks missing, key = (task.data.proofId, task.id)) ↔
      key ∈ missing := by
    constructor
    · rintro ⟨task, member, rfl⟩
      obtain ⟨source, listed, found⟩ := List.mem_filterMap.mp member
      obtain ⟨same, storedSource, sameKey⟩ := stored source ((misses source).mp listed).1
      obtain rfl : task = same := Option.some.inj (found.symm.trans storedSource)
      rw [sameKey]
      exact listed
    · intro listed
      obtain ⟨task, storedKey, sameKey⟩ := stored key ((misses key).mp listed).1
      exact ⟨task, List.mem_filterMap.mpr ⟨key, listed, storedKey⟩, sameKey.symm⟩
  rw [kept, resent, misses, ← reports]
  tauto

end Answer

section Heartbeat

variable [QueuePolicy P] {transit : Set TaskKey} {issued : Set String} {worker : Worker}
  {node : Node}

theorem activeTasks_reconcile (now assigned : ℕ) (activeTasks : KeySet TaskKey) (worker : Worker) :
    (worker.reconcile now assigned activeTasks).activeTasks = activeTasks := by
  unfold Worker.reconcile
  dsimp only
  split <;> rfl

theorem id_reconcile (now assigned : ℕ) (activeTasks : KeySet TaskKey) (worker : Worker) :
    (worker.reconcile now assigned activeTasks).id = worker.id := by
  unfold Worker.reconcile
  dsimp only
  split <;> rfl

/-- A heartbeat that is handled: its answer is sent, the record of the worker is
refreshed, and turns may follow. -/
theorem handleHeartbeat_answers (sound : (state.board transit issued).Sound build) (env : Env)
    (registered : state.workers.lookup workerId = some worker)
    (activeTaskProofIds activeTaskIds : List String) (currentWeight : ℕ)
    (handled : (state.handleHeartbeat build env workerId activeTaskProofIds activeTaskIds
      currentWeight).reply = .ok ()) :
    ∃ (now : ℕ) (missing : List TaskKey),
      (∀ key, key ∈ missing ↔
        key ∈ worker.activeTasks ∧ key ∉ activeTaskProofIds.zip activeTaskIds) ∧
      ReflTransGen (Turn build)
        ((state.emitAll ((activeTaskProofIds.zip activeTaskIds).flatMap (cancelUnexpected worker)
          ++ missing.flatMap (state.resendTask worker))).modifyWorker workerId
            (Worker.reconcile now (state.assignedWeight worker.activeTasks) worker.activeTasks))
        (state.handleHeartbeat build env workerId activeTaskProofIds activeTaskIds
          currentWeight).state := by
  unfold handleHeartbeat at handled ⊢
  rw [registered] at handled ⊢
  dsimp only at handled ⊢
  cases clock : (env.clock .call).sinceEpoch with
  | none =>
    rw [clock] at handled
    cases handled
  | some now =>
    have misses : ∀ key, key ∈ (env.shuffle worker.activeTasks.keys).filter
        (· ∉ activeTaskProofIds.zip activeTaskIds) ↔
          key ∈ worker.activeTasks ∧ key ∉ activeTaskProofIds.zip activeTaskIds := by
      intro key
      rw [List.mem_filter, env.mem_shuffle, decide_eq_true_iff]
      rfl
    refine ⟨asSecs now, _, misses, ?_⟩
    dsimp only
    rw [missing_stored sound registered _ fun key listed => ((misses key).mp listed).1]
    split
    · rw [assignOrPanic_state]
      exact assignTasks_turns build env _
    · exact .refl

/-- **A heartbeat and its answer make a node agree with the coordinator.** -/
theorem agrees_of_heartbeat (sound : (state.board transit issued).Sound build) (env nodeEnv : Env)
    (opened : node.closed = false) (quiet : state.outbox = [])
    (registered : state.workers.lookup node.workerId = some worker)
    (handled : (state.exec build env (node.buildHeartbeatRequest nodeEnv)).reply = .ok ()) :
    (state.exec build env (node.buildHeartbeatRequest nodeEnv)).state.Agrees node.workerId
      (node.receiveAll (messagesTo node.workerId
        (state.exec build env (node.buildHeartbeatRequest nodeEnv)).state.outbox)) := by
  obtain ⟨now, missing, misses, turns⟩ :=
    handleHeartbeat_answers sound env registered _ _
      (((nodeEnv.shuffle node.tasks.entries).map fun entry => entry.2.weight).sum % 2 ^ 32) handled
  have ownId : worker.id = node.workerId := sound.worker_id registered
  have stored : ∀ key ∈ worker.activeTasks, ∃ task, state.getTask key.1 key.2 = some task ∧
      (task.data.proofId, task.id) = key := by
    intro key held
    obtain ⟨task, storedTask, -⟩ := sound.held_task ⟨worker, registered, held⟩
    exact ⟨task, storedTask, Prod.ext (sound.task_proofId storedTask) (sound.task_id storedTask)⟩
  let answered := (state.emitAll ((((nodeEnv.shuffle node.tasks.entries).map
    fun entry => entry.1.1).zip ((nodeEnv.shuffle node.tasks.entries).map
      fun entry => entry.1.2)).flatMap (cancelUnexpected worker) ++
        missing.flatMap (state.resendTask worker))).modifyWorker node.workerId
          (Worker.reconcile now (state.assignedWeight worker.activeTasks) worker.activeTasks)
  have workers : answered.workers = state.workers.insert node.workerId
      (worker.reconcile now (state.assignedWeight worker.activeTasks) worker.activeTasks) :=
    Table.modify_of_lookup registered _
  have ownIds : answered.OwnIds := by
    intro workerId record found
    rw [workers] at found
    rcases Table.lookup_insert_cases found with ⟨same, rfl⟩ | ⟨_, found⟩
    · rw [id_reconcile, same]
      exact ownId
    · exact sound.worker_id found
  have agrees : answered.Agrees node.workerId
      (node.receiveAll (messagesTo node.workerId answered.outbox)) := by
    intro key
    change key ∈ (node.receiveAll (messagesTo node.workerId (state.outbox ++ _))).tasks ↔ _
    rw [quiet, List.nil_append,
      mem_reconciled opened ownId (mem_reported nodeEnv) misses stored]
    unfold Holds
    rw [workers]
    simp only [AList.lookup_insert, Option.some.injEq, exists_eq_left', activeTasks_reconcile]
  obtain ⟨sent, outbox, agreesLast⟩ :=
    agrees.turns ((Node.closed_receiveAll ..).trans opened) ownIds turns
  have all : (state.exec build env (node.buildHeartbeatRequest nodeEnv)).state.outbox =
    answered.outbox ++ sent := outbox
  rw [all, messagesTo_append, Node.receiveAll_append]
  exact agreesLast

end Heartbeat

/-- A worker that is registered and not draining agrees with the coordinator
once it has taken the messages that answer its heartbeat, in order. -/
def Reconciles (P : Type) [QueuePolicy P] (build : Build) (events : List Event) : Prop :=
  ∀ (node : Node) (env nodeEnv : Env), node.closed = false →
    node.workerId ∈ (reach P build events).workers →
    ((reach P build events).clearOutbox.exec build env
      (node.buildHeartbeatRequest nodeEnv)).reply = .ok () →
    (reach P build (events ++ [⟨env, node.buildHeartbeatRequest nodeEnv⟩])).Agrees node.workerId
      (node.receiveAll (messagesTo node.workerId
        (reach P build (events ++ [⟨env, node.buildHeartbeatRequest nodeEnv⟩])).outbox))

theorem reach_reconciles [QueuePolicy P] (events : List Event) (fresh : Event.FreshIds events) :
    Reconciles P build events := by
  intro node env nodeEnv opened member handled
  obtain ⟨transit, issued, sane⟩ := reach_sane P build fresh
  have sound : ((reach P build events).clearOutbox.board transit issued).Sound build := sane.sound
  obtain ⟨worker, registered⟩ := Table.exists_lookup member
  rw [reach_snoc]
  exact agrees_of_heartbeat sound env nodeEnv opened rfl registered handled

end CoordinatorState

/-- **Heartbeats reconcile workers and the coordinator in one round**, in every
state that calls reach, under both policies. -/
theorem heartbeats_reconcile (build : Build) (events : List Event)
    (fresh : Event.FreshIds events) :
    CoordinatorState.Reconciles DefaultPolicy build events ∧
      CoordinatorState.Reconciles BalancedPolicy build events :=
  ⟨CoordinatorState.reach_reconciles events fresh, CoordinatorState.reach_reconciles events fresh⟩

/-- A node that has lost its task and still works on one of another proof. -/
def confusedNode : Node where
  workerId := "g"
  tasks := (∅ : Table (String × String) TaskData).insert ("q", "v")
    ⟨.proveShard, [], [], "", "q", none, 4, ""⟩
  closed := false

/-- The state after its heartbeat. -/
def afterConfusedBeat : CoordinatorState DefaultPolicy :=
  reach DefaultPolicy .plain (oneShard ++ [⟨.plain 1000000000 "",
    confusedNode.buildHeartbeatRequest (.plain 1000000000 "")⟩])

/-- The node drops the other task and starts its own again. -/
theorem heartbeats_reconcile_confusedNode :
    Event.FreshIds oneShard ∧ confusedNode.closed = false ∧
      afterConfusedBeat.Agrees "g"
        (confusedNode.receiveAll (messagesTo "g" afterConfusedBeat.outbox)) ∧
      (confusedNode.receiveAll (messagesTo "g" afterConfusedBeat.outbox)).tasks.keys =
        [("p", "u")] := by
  have fresh : Event.FreshIds oneShard := by
    unfold Event.FreshIds
    decide
  refine ⟨fresh, rfl, ?_, by decide⟩
  exact (heartbeats_reconcile .plain oneShard fresh).1 confusedNode (.plain 1000000000 "")
    (.plain 1000000000 "") rfl (by decide) (by decide)

end Sp1Cluster
