import Mathlib.Algebra.BigOperators.Group.List.Lemmas
import Mathlib.Data.List.Sort
import Mathlib.Data.Prod.Lex
import Mathlib.Data.String.Basic
import Sp1Cluster.Coordinator.Rosters

/-!
# Connected GPU nodes

The capacity report counts the GPU workers whose heartbeat has not expired, and the
reaper removes the workers whose heartbeat has. The two tests are written with
different arithmetic: the report subtracts with saturation, the reaper adds in a 64-bit
word. They agree exactly if the sum does not leave the word, or is still not before the
current time when it has.

The report groups the nodes by the name and memory of their GPU. The nodes come from a
hash table, so the groups are sorted. The result depends on the nodes alone, and a count
is the number of nodes of its class in a 32-bit word.
-/

set_option autoImplicit false

namespace Sp1Cluster

open CoordinatorState Relation

/-! ## The report and the reaper -/

/-- `is_connected_gpu_node`. -/
def isConnectedGpuNode (workerType : WorkerType) (lastHeartbeat now heartbeatTimeoutSecs : ℕ) :
    Bool :=
  (workerType == .gpu || workerType == .all) && decide (now - lastHeartbeat ≤ heartbeatTimeoutSecs)

/-- `connected_gpu_nodes`, in the order of the hash table. -/
def CoordinatorState.connectedGpuNodes {P : Type} (env : Env) (now : ℕ)
    (state : CoordinatorState P) : List Worker :=
  ((env.shuffle state.workers.entries).map fun entry => entry.2).filter fun worker =>
    isConnectedGpuNode worker.workerType worker.lastHeartbeat now state.workerHeartbeatTimeoutSecs

/-- The two tests agree on words exactly if the sum of the reaper fits in one, or has wrapped
around and is not before the current time. -/
theorem isConnectedGpuNode_iff {worker : Worker} {now timeoutSecs : ℕ}
    (gpu : worker.workerType = .gpu ∨ worker.workerType = .all)
    (heartbeatWord : worker.lastHeartbeat < 2 ^ 64) (timeoutWord : timeoutSecs < 2 ^ 64)
    (nowWord : now < 2 ^ 64) :
    (isConnectedGpuNode worker.workerType worker.lastHeartbeat now timeoutSecs = true ↔
        isDead timeoutSecs now worker = false) ↔
      worker.lastHeartbeat + timeoutSecs < 2 ^ 64 ∨
        now ≤ worker.lastHeartbeat + timeoutSecs - 2 ^ 64 := by
  have typed : (worker.workerType == .gpu || worker.workerType == .all) = true := by
    simpa using gpu
  unfold isConnectedGpuNode isDead
  rw [typed, Bool.true_and, decide_eq_true_iff, decide_eq_false_iff_not]
  rcases Nat.lt_or_ge (worker.lastHeartbeat + timeoutSecs) (2 ^ 64) with fits | wraps
  · rw [Nat.mod_eq_of_lt fits]
    omega
  · have wrapped : (worker.lastHeartbeat + timeoutSecs) % 2 ^ 64 =
        worker.lastHeartbeat + timeoutSecs - 2 ^ 64 := by
      rw [Nat.mod_eq_sub_mod wraps, Nat.mod_eq_of_lt (by omega)]
    rw [wrapped]
    omega

namespace CoordinatorState

variable {P : Type} [QueuePolicy P] {build : Build} {state : CoordinatorState P}

omit [QueuePolicy P] in
theorem Turn.mem_workers {next : CoordinatorState P} (turn : Turn build state next)
    (workerId : String) : workerId ∈ next.workers ↔ workerId ∈ state.workers := by
  cases turn with
  | discard => rfl
  | assign change stored unfinished registered fits =>
    change workerId ∈ Table.modify _ _ state.workers ↔ workerId ∈ state.workers
    rw [Table.modify_of_lookup registered, AList.mem_insert]
    exact or_iff_right_of_imp fun same => same ▸ Table.mem_of_lookup registered

theorem mem_workers_assignTasks (env : Env) (state : CoordinatorState P) (workerId : String) :
    workerId ∈ (AssignmentPolicy.assignTasks build env state).1.workers ↔
      workerId ∈ state.workers := by
  have kept : ∀ next, ReflTransGen (Turn build) state next →
      (workerId ∈ next.workers ↔ workerId ∈ state.workers) := by
    intro next turns
    induction turns with
    | refl => rfl
    | tail _ turn ih => exact (turn.mem_workers workerId).trans ih
  exact kept _ (assignTasks_turns build env state)

theorem mem_workers_removeDeadWorkers (env : Env) (dead : List String) (workerId : String) :
    workerId ∈ (state.removeDeadWorkers build env dead).state.workers ↔
      workerId ∈ state.workers ∧ workerId ∉ dead := by
  unfold removeDeadWorkers
  rw [assignOrPanic_state, mem_workers_assignTasks]
  induction dead generalizing state with
  | nil => simp
  | cons first rest ih =>
    have erased : (state.removeWorkerInternal build env first).workers =
        state.workers.erase first :=
      congrArg Roster.workers (roster_removeWorkerInternal env state first)
    rw [List.foldl_cons, ih, erased, AList.mem_erase, List.mem_cons, not_or]
    constructor
    · rintro ⟨⟨different, here⟩, later⟩
      exact ⟨here, different, later⟩
    · rintro ⟨here, different, later⟩
      exact ⟨⟨different, here⟩, later⟩

omit [QueuePolicy P] in
theorem mem_deadWorkers (env : Env) {now : ℕ} {workerId : String} {worker : Worker}
    (registered : state.workers.lookup workerId = some worker) :
    workerId ∈ state.deadWorkers env now ↔
      isDead state.workerHeartbeatTimeoutSecs now worker = true := by
  unfold deadWorkers
  rw [List.mem_filterMap]
  constructor
  · rintro ⟨entry, member, chosen⟩
    split at chosen
    · next dead =>
      cases chosen
      have same : state.workers.lookup entry.1 = some entry.2 :=
        Table.mem_entries_iff.mp (env.mem_shuffle.mp member)
      obtain rfl : worker = entry.2 := Option.some.inj (registered.symm.trans same)
      exact dead
    · cases chosen
  · intro dead
    exact ⟨⟨workerId, worker⟩, env.mem_shuffle.mpr (Table.mem_entries_iff.mpr registered),
      if_pos dead⟩

theorem mem_workers_cleanupDeadWorkers {env : Env} {now : ℕ} {workerId : String} {worker : Worker}
    (clock : (env.clock .call).sinceEpoch = some now)
    (registered : state.workers.lookup workerId = some worker) :
    workerId ∈ (state.cleanupDeadWorkers build env).state.workers ↔
      isDead state.workerHeartbeatTimeoutSecs (asSecs now) worker = false := by
  have here : workerId ∈ state.workers := Table.mem_of_lookup registered
  rw [← Bool.not_eq_true, ← mem_deadWorkers env registered]
  unfold cleanupDeadWorkers
  rw [clock]
  dsimp only
  split
  · next nobody =>
    rw [List.isEmpty_iff] at nobody
    simp [nobody, here]
  · rw [mem_workers_removeDeadWorkers]
    exact and_iff_right here

end CoordinatorState

theorem setWorkerHeartbeatTimeout_lt {P : Type} (state : CoordinatorState P) {secs : ℕ}
    (word : secs < 2 ^ 64) :
    (state.setWorkerHeartbeatTimeout secs).workerHeartbeatTimeoutSecs < 2 ^ 64 := by
  unfold setWorkerHeartbeatTimeout
  dsimp only
  split
  · decide
  · exact word

/-- **When who is counted is who is kept.** For every heartbeat, timeout and instant that are
64-bit words, a GPU worker is counted as connected exactly when the reaper, run at the same
instant, does not remove it, if and only if the last heartbeat plus the timeout is a word or,
wrapped around, is not before the instant. -/
theorem connected_iff_kept {P : Type} [QueuePolicy P] (build : Build) (env : Env)
    (state : CoordinatorState P) (secs : ℕ) {now : ℕ} {workerId : String} {worker : Worker}
    (clock : (env.clock .call).sinceEpoch = some now)
    (registered : state.workers.lookup workerId = some worker)
    (gpu : worker.workerType = .gpu ∨ worker.workerType = .all)
    (heartbeatWord : worker.lastHeartbeat < 2 ^ 64) (secsWord : secs < 2 ^ 64)
    (nowWord : asSecs now < 2 ^ 64) :
    (isConnectedGpuNode worker.workerType worker.lastHeartbeat (asSecs now)
          (state.setWorkerHeartbeatTimeout secs).workerHeartbeatTimeoutSecs = true ↔
        workerId ∈
          ((state.setWorkerHeartbeatTimeout secs).cleanupDeadWorkers build env).state.workers) ↔
      worker.lastHeartbeat + (state.setWorkerHeartbeatTimeout secs).workerHeartbeatTimeoutSecs <
          2 ^ 64 ∨
        asSecs now ≤ worker.lastHeartbeat +
          (state.setWorkerHeartbeatTimeout secs).workerHeartbeatTimeoutSecs - 2 ^ 64 := by
  have kept : workerId ∈
      ((state.setWorkerHeartbeatTimeout secs).cleanupDeadWorkers build env).state.workers ↔
        isDead (state.setWorkerHeartbeatTimeout secs).workerHeartbeatTimeoutSecs (asSecs now)
          worker = false := mem_workers_cleanupDeadWorkers clock registered
  rw [kept]
  exact isConnectedGpuNode_iff gpu heartbeatWord (setWorkerHeartbeatTimeout_lt state secsWord)
    nowWord

def oneNode : CoordinatorState BalancedPolicy :=
  reach BalancedPolicy .plain [(Call.register "g" .gpu 8).plain ""]

/-- With a timeout of 30 seconds the worker is counted and kept. -/
theorem connected_iff_kept_oneNode :
    isConnectedGpuNode .gpu 1 1 30 = true ∧
      "g" ∈ ((oneNode.setWorkerHeartbeatTimeout 30).cleanupDeadWorkers .plain
        (.plain 1000000000 "")).state.workers := by
  have registered : oneNode.workers.lookup "g" =
      some (Worker.new "g" .gpu 8 0 ⟨"", "", "", "", 0, ""⟩ 1) := rfl
  have counted : isConnectedGpuNode .gpu 1 1 30 = true := by decide
  exact ⟨counted, ((connected_iff_kept .plain (.plain 1000000000 "") oneNode 30 rfl
    registered (.inl rfl) (by decide) (by decide) (by decide)).mpr (.inl (by decide))).mp counted⟩

/-- **A worker that has just been heard of is counted and removed**, when the timeout is
the largest that the setter takes: the sum of the reaper is zero as a word. -/
theorem heard_worker_removed :
    (oneNode.workers.lookup "g").map (fun worker => (worker.workerType, worker.lastHeartbeat)) =
        some (.gpu, 1) ∧
      (oneNode.setWorkerHeartbeatTimeout (2 ^ 64 - 1)).workerHeartbeatTimeoutSecs = 2 ^ 64 - 1 ∧
      isConnectedGpuNode .gpu 1 1 (2 ^ 64 - 1) = true ∧
      "g" ∉ ((oneNode.setWorkerHeartbeatTimeout (2 ^ 64 - 1)).cleanupDeadWorkers .plain
        (.plain 1000000000 "")).state.workers := by
  decide

/-! ## The classes of GPUs -/

/-- `GpuClassCount`. -/
structure GpuClassCount where
  name : String
  memoryTotalBytes : ℕ
  nodeCount : ℕ
deriving DecidableEq, Repr

/-- The name and the memory of a GPU. -/
def GpuClassCount.gpuClass (count : GpuClassCount) : String × ℕ :=
  (count.name, count.memoryTotalBytes)

/-- The comparison of `group_gpu_classes`. -/
def GpuClassCount.cmp (first second : GpuClassCount) : Ordering :=
  (compare first.name second.name).then (compare first.memoryTotalBytes second.memoryTotalBytes)

abbrev GpuClassCount.Precedes (first second : GpuClassCount) : Prop := (first.cmp second).isLE

/-- The loop of `group_gpu_classes` over the nodes. -/
def countNodes (nodes : List (String × ℕ)) : Table (String × ℕ) ℕ :=
  nodes.foldl (fun counts node =>
    counts.insert node (wrappingAdd32 ((counts.lookup node).getD 0) 1)) ∅

/-- `group_gpu_classes`. -/
def groupGpuClasses (env : Env) (nodes : List (String × ℕ)) : List GpuClassCount :=
  ((env.shuffle (countNodes nodes).entries).map fun entry =>
    { name := entry.1.1, memoryTotalBytes := entry.1.2, nodeCount := entry.2 }).insertionSort
      GpuClassCount.Precedes

/-- The sum of the counts, as a 32-bit word. -/
def sumNodeCounts (groups : List GpuClassCount) : ℕ :=
  (groups.map GpuClassCount.nodeCount).foldl wrappingAdd32 0

/-- `ClusterCapacitySnapshot`. -/
structure ClusterCapacitySnapshot where
  observedAt : ℕ
  countersSince : ℕ
  gpuNodes : ℕ
  gpuAvailableMsTotal : ℕ
  gpuBusyMsTotal : ℕ
  gpus : List GpuClassCount

namespace CoordinatorState

variable {P : Type}

/-- The GPUs that `get_cluster_info` groups. -/
def connectedGpus (env : Env) (observedAt : ℕ) (state : CoordinatorState P) : List (String × ℕ) :=
  (state.connectedGpuNodes env observedAt).map fun worker =>
    (worker.identity.gpuName, worker.identity.gpuMemoryTotalBytes)

/-- The capacity snapshot of `get_cluster_info`. The start of the counters and the
available time are fields of the source's state that the model leaves out. -/
def capacity (env : Env) (observedAt countersSince gpuAvailableMsTotal : ℕ)
    (state : CoordinatorState P) : ClusterCapacitySnapshot where
  observedAt := observedAt
  countersSince := countersSince
  gpuNodes := sumNodeCounts (groupGpuClasses env (state.connectedGpus env observedAt))
  gpuAvailableMsTotal := gpuAvailableMsTotal
  gpuBusyMsTotal := state.gpuBusyMsTotal
  gpus := groupGpuClasses env (state.connectedGpus env observedAt)

end CoordinatorState

/-- The table of counts has the classes of the nodes, with their numbers as words. -/
theorem lookup_countNodes (nodes : List (String × ℕ)) (node : String × ℕ) :
    (countNodes nodes).lookup node =
      if node ∈ nodes then some (nodes.count node % 2 ^ 32) else none := by
  induction nodes using List.reverseRecOn with
  | nil => rfl
  | append_singleton earlier last ih =>
    have unfolded : countNodes (earlier ++ [last]) = (countNodes earlier).insert last
        (wrappingAdd32 (((countNodes earlier).lookup last).getD 0) 1) := by
      simp [countNodes]
    rw [unfolded, Table.lookup_insert_eq]
    by_cases same : node = last
    · subst same
      have member : node ∈ earlier ++ [node] := by simp
      rw [if_pos rfl, ih, if_pos member, List.count_append, List.count_singleton_self]
      by_cases before : node ∈ earlier
      · rw [if_pos before]
        simp [wrappingAdd32]
      · rw [if_neg before, List.count_eq_zero_of_not_mem before]
        rfl
    · rw [if_neg same, ih]
      simp [same, Ne.symm same]

namespace GpuClassCount

theorem precedes_iff {first second : GpuClassCount} :
    first.Precedes second ↔ toLex first.gpuClass ≤ toLex second.gpuClass := by
  unfold Precedes
  have same : first.cmp second = compare (toLex first.gpuClass) (toLex second.gpuClass) := rfl
  rw [same, Ordering.isLE_iff_ne_gt]
  exact compare_le_iff_le

/-- Strictly before in the order of the classes. -/
def Before (first second : GpuClassCount) : Prop := first.cmp second = .lt

theorem before_iff {first second : GpuClassCount} :
    first.Before second ↔ toLex first.gpuClass < toLex second.gpuClass := by
  unfold Before
  have same : first.cmp second = compare (toLex first.gpuClass) (toLex second.gpuClass) := rfl
  rw [same]
  exact compare_lt_iff_lt

instance : Std.Total Precedes where
  total first second := by
    rw [precedes_iff, precedes_iff]
    exact le_total _ _

instance : IsTrans GpuClassCount Precedes where
  trans first second third before after := by
    rw [precedes_iff] at before after ⊢
    exact before.trans after

instance : Std.Irrefl Before where
  irrefl _ before := lt_irrefl _ (before_iff.mp before)

instance : Std.Antisymm Before where
  antisymm _ _ before after :=
    absurd (before_iff.mp after) (before_iff.mp before).asymm

end GpuClassCount

section Groups

variable (env : Env) (nodes : List (String × ℕ))

theorem mem_groupGpuClasses (count : GpuClassCount) :
    count ∈ groupGpuClasses env nodes ↔
      count.gpuClass ∈ nodes ∧ count.nodeCount = nodes.count count.gpuClass % 2 ^ 32 := by
  have entry : count ∈ groupGpuClasses env nodes ↔
      (countNodes nodes).lookup count.gpuClass = some count.nodeCount := by
    unfold groupGpuClasses
    rw [List.mem_insertionSort, List.mem_map, ← Table.mem_entries_iff]
    constructor
    · rintro ⟨entry, member, rfl⟩
      exact env.mem_shuffle.mp member
    · intro member
      exact ⟨_, env.mem_shuffle.mpr member, rfl⟩
  rw [entry, lookup_countNodes]
  split
  · next member => simp [member, eq_comm]
  · next absent => simp [absent]

theorem nodup_gpuClass : ((groupGpuClasses env nodes).map GpuClassCount.gpuClass).Nodup := by
  have keys : ((env.shuffle (countNodes nodes).entries).map Sigma.fst).Nodup :=
    ((env.shuffle_perm _).map _).nodup_iff.mpr (countNodes nodes).nodupKeys
  have sorted := (List.perm_insertionSort GpuClassCount.Precedes
    ((env.shuffle (countNodes nodes).entries).map fun entry =>
      { name := entry.1.1, memoryTotalBytes := entry.1.2, nodeCount := entry.2 })).map
        GpuClassCount.gpuClass
  rw [List.map_map] at sorted
  exact sorted.nodup_iff.mpr keys

theorem pairwise_groupGpuClasses :
    (groupGpuClasses env nodes).Pairwise GpuClassCount.Before := by
  have ordered : (groupGpuClasses env nodes).Pairwise GpuClassCount.Precedes :=
    List.pairwise_insertionSort _ _
  have distinct := List.pairwise_map.mp (nodup_gpuClass env nodes)
  refine (ordered.and distinct).imp ?_
  rintro first second ⟨before, different⟩
  rw [GpuClassCount.before_iff]
  exact lt_of_le_of_ne (GpuClassCount.precedes_iff.mp before) different

/-- The groups depend on the nodes only, and not on their order or that of the table. -/
theorem groupGpuClasses_perm (other : Env) {shuffled : List (String × ℕ)}
    (same : shuffled.Perm nodes) : groupGpuClasses other shuffled = groupGpuClasses env nodes := by
  refine (pairwise_groupGpuClasses other shuffled).eq_of_mem_iff
    (pairwise_groupGpuClasses env nodes) ?_
  intro count
  rw [mem_groupGpuClasses, mem_groupGpuClasses, same.mem_iff, same.count_eq]

/-- The classes of the groups are the nodes without repetition. -/
theorem perm_gpuClass :
    ((groupGpuClasses env nodes).map GpuClassCount.gpuClass).Perm nodes.dedup := by
  refine (List.perm_ext_iff_of_nodup (nodup_gpuClass env nodes) (List.nodup_dedup nodes)).mpr ?_
  intro node
  rw [List.mem_map, List.mem_dedup]
  constructor
  · rintro ⟨count, member, rfl⟩
    exact ((mem_groupGpuClasses env nodes count).mp member).1
  · intro member
    exact ⟨⟨node.1, node.2, nodes.count node % 2 ^ 32⟩,
      (mem_groupGpuClasses env nodes _).mpr ⟨member, rfl⟩, rfl⟩

variable {nodes}

theorem count_lt (few : nodes.length < 2 ^ 32) (node : String × ℕ) :
    nodes.count node % 2 ^ 32 = nodes.count node :=
  Nat.mod_eq_of_lt (List.count_le_length.trans_lt few)

theorem sum_nodeCount (few : nodes.length < 2 ^ 32) :
    ((groupGpuClasses env nodes).map GpuClassCount.nodeCount).sum = nodes.length := by
  have counts : (groupGpuClasses env nodes).map GpuClassCount.nodeCount =
      ((groupGpuClasses env nodes).map GpuClassCount.gpuClass).map (nodes.count ·) := by
    rw [List.map_map]
    refine List.map_congr_left ?_
    intro count member
    rw [((mem_groupGpuClasses env nodes count).mp member).2, count_lt few]
    rfl
  rw [counts, ((perm_gpuClass env nodes).map _).sum_eq]
  have lawful : (instBEqProd : BEq (String × ℕ)) = instBEqOfDecidableEq :=
    lawful_beq_subsingleton _ _
  rw [lawful]
  exact List.sum_map_count_dedup_eq_length nodes

end Groups

theorem foldl_wrappingAdd32 (counts : List ℕ) (start : ℕ) (few : start + counts.sum < 2 ^ 32) :
    counts.foldl wrappingAdd32 start = start + counts.sum := by
  induction counts generalizing start with
  | nil => rfl
  | cons first rest ih =>
    rw [List.sum_cons, ← Nat.add_assoc] at few ⊢
    have fits : wrappingAdd32 start first = start + first :=
      Nat.mod_eq_of_lt (Nat.lt_of_le_of_lt (Nat.le_add_right _ _) few)
    rw [List.foldl_cons, fits, ih _ few]

theorem sumNodeCounts_lt (groups : List GpuClassCount) : sumNodeCounts groups < 2 ^ 32 := by
  unfold sumNodeCounts
  induction groups using List.reverseRecOn with
  | nil => decide
  | append_singleton groups last ih =>
    rw [List.map_append, List.foldl_append]
    exact Nat.mod_lt _ (by decide)

/-- The sum of the counts is the number of nodes exactly if that is a word. -/
theorem sumNodeCounts_groupGpuClasses (env : Env) (nodes : List (String × ℕ)) :
    sumNodeCounts (groupGpuClasses env nodes) = nodes.length ↔ nodes.length < 2 ^ 32 := by
  constructor
  · intro total
    rw [← total]
    exact sumNodeCounts_lt _
  · intro few
    have total := sum_nodeCount env few
    unfold sumNodeCounts
    rw [foldl_wrappingAdd32 _ _ (by rw [total, Nat.zero_add]; exact few), total, Nat.zero_add]

/-- **The groups of GPUs are canonical.** They are the same for every order of the nodes,
sorted, one for each class. Each count is the number of nodes of the class, the counts add up to
the nodes and so does their sum as a word, exactly if there are fewer nodes than a 32-bit word
counts; and under the same condition the snapshot reports the number of connected GPU nodes. -/
theorem gpu_classes_canonical (env : Env) (nodes : List (String × ℕ)) :
    (∀ (other : Env) (shuffled : List (String × ℕ)), shuffled.Perm nodes →
      groupGpuClasses other shuffled = groupGpuClasses env nodes) ∧
    (groupGpuClasses env nodes).Pairwise GpuClassCount.Before ∧
    ((groupGpuClasses env nodes).map GpuClassCount.gpuClass).Nodup ∧
    ((∀ count, count ∈ groupGpuClasses env nodes ↔
        count.gpuClass ∈ nodes ∧ count.nodeCount = nodes.count count.gpuClass) ∧
      ((groupGpuClasses env nodes).map GpuClassCount.nodeCount).sum = nodes.length ∧
      sumNodeCounts (groupGpuClasses env nodes) = nodes.length ↔ nodes.length < 2 ^ 32) ∧
    ∀ {P : Type} (state : CoordinatorState P) (observedAt countersSince availableMs : ℕ),
      (state.capacity env observedAt countersSince availableMs).gpuNodes =
          (state.connectedGpuNodes env observedAt).length ↔
        (state.connectedGpuNodes env observedAt).length < 2 ^ 32 := by
  refine ⟨fun other shuffled same => groupGpuClasses_perm env nodes other same,
    pairwise_groupGpuClasses env nodes, nodup_gpuClass env nodes, ?_, ?_⟩
  · constructor
    · exact fun exact_counts => (sumNodeCounts_groupGpuClasses env nodes).mp exact_counts.2.2
    · intro few
      refine ⟨?_, sum_nodeCount env few, (sumNodeCounts_groupGpuClasses env nodes).mpr few⟩
      intro count
      rw [mem_groupGpuClasses, count_lt few]
  · intro P state observedAt countersSince availableMs
    have reported := sumNodeCounts_groupGpuClasses env (state.connectedGpus env observedAt)
    rwa [connectedGpus, List.length_map] at reported

/-- Two nodes of one class and one of another. -/
theorem gpu_classes_canonical_threeNodes :
    groupGpuClasses (.plain 0 "") [("b", 2), ("a", 1), ("b", 2)] = [⟨"a", 1, 1⟩, ⟨"b", 2, 2⟩] ∧
      ((groupGpuClasses (.plain 0 "") [("b", 2), ("a", 1), ("b", 2)]).map
        GpuClassCount.nodeCount).sum = 3 := by
  refine ⟨by decide, ?_⟩
  exact ((gpu_classes_canonical (.plain 0 "") [("b", 2), ("a", 1), ("b", 2)]).2.2.2.1.mpr
    (by decide)).2.1

/-! ## A count that overflows -/

/-- As many nodes of one class as a word has values. -/
@[irreducible] def allAlike : List (String × ℕ) := List.replicate (2 ^ 32) ("", 0)

theorem length_allAlike : allAlike.length = 2 ^ 32 := by
  unfold allAlike
  exact List.length_replicate

theorem count_allAlike : allAlike.count ("", 0) = 2 ^ 32 := by
  unfold allAlike
  exact List.count_replicate_self

theorem mem_allAlike {node : String × ℕ} : node ∈ allAlike ↔ node = ("", 0) := by
  unfold allAlike
  rw [List.mem_replicate]
  exact and_iff_right (by decide)

/-- **A class of as many nodes as a word has values is reported with none.** -/
theorem count_wraps :
    allAlike.count ("", 0) = 2 ^ 32 ∧ allAlike.length = 2 ^ 32 ∧
      groupGpuClasses (.plain 0 "") allAlike = [⟨"", 0, 0⟩] := by
  refine ⟨count_allAlike, length_allAlike, ?_⟩
  refine (pairwise_groupGpuClasses _ _).eq_of_mem_iff (List.pairwise_singleton _ _) ?_
  intro count
  rw [mem_groupGpuClasses, mem_allAlike, List.mem_singleton]
  constructor
  · rintro ⟨gpuClass, number⟩
    rw [gpuClass, count_allAlike] at number
    obtain ⟨name, memory, nodeCount⟩ := count
    obtain ⟨rfl, rfl⟩ := Prod.mk.inj gpuClass
    obtain rfl : nodeCount = 0 := number
    rfl
  · rintro rfl
    have gpuClass : (⟨"", 0, 0⟩ : GpuClassCount).gpuClass = ("", 0) := rfl
    rw [gpuClass, count_allAlike]
    exact ⟨rfl, rfl⟩

end Sp1Cluster
