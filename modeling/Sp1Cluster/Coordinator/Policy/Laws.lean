import Sp1Cluster.Coordinator.Contract
import Sp1Cluster.Coordinator.Policy.Default
import Sp1Cluster.Coordinator.Policy.Balanced

/-!
# Both policies keep the contract

The default policy stores the backlog as it is. The balanced policy spreads the
GPU queue over one queue for each proof, so its representation has to keep
every entry in the queue of the proof it belongs to; that is what makes the
entry it pops the entry it found.
-/

set_option autoImplicit false

namespace Sp1Cluster

open CoordinatorState

/-! ## The default policy -/

namespace DefaultPolicy

theorem peek_mem {env : Env} {queue : List QueuedTask} {queued : QueuedTask}
    (front : peek env queue = some queued) : queued ∈ queue :=
  env.mem_shuffle.mp (PriorityQueue.least_mem cmp front)

theorem pop_of_peek {env : Env} {queue : List QueuedTask} {queued : QueuedTask}
    (front : peek env queue = some queued) : pop env queue = queue.erase queued := by
  simp [pop, front, PriorityQueue.remove]

theorem gpuLane_serves (env : Env) :
    (gpuLane env).Serves (settle env) .gpu (fun _ => True) where
  waiting _ front := Multiset.mem_coe.mpr (peek_mem front)
  filed_discard _ _ := trivial
  discard := by
    intro policy queued _ front
    change backlogOf { policy with gpuQueue := pop env policy.gpuQueue } = _
    rw [pop_of_peek front]
    rfl
  filed_settle _ _ _ := trivial
  settle := by
    intro policy queued task _ front _
    change backlogOf { policy with gpuQueue := pop env policy.gpuQueue } = _
    rw [pop_of_peek front]
    rfl

theorem cpuLane_serves (env : Env) :
    (cpuLane env).Serves (settle env) .cpu (fun _ => True) where
  waiting _ front := Multiset.mem_coe.mpr (peek_mem front)
  filed_discard _ _ := trivial
  discard := by
    intro policy queued _ front
    change backlogOf { policy with cpuQueue := pop env policy.cpuQueue } = _
    rw [pop_of_peek front]
    rfl
  filed_settle _ _ _ := trivial
  settle := by
    intro policy queued task _ front _
    change backlogOf { policy with cpuQueue := pop env policy.cpuQueue } = _
    rw [pop_of_peek front]
    rfl

end DefaultPolicy

instance : LawfulPolicy DefaultPolicy where
  Filed _ := True
  filed_empty := trivial
  backlog_empty := rfl
  filed_enqueueTask _ _ _ := trivial
  backlog_enqueueTask workerType _ := by cases workerType <;> rfl
  filed_postTaskUpdateState _ _ _ _ := trivial
  backlog_postTaskUpdateState taskWeight proofId workerType := by
    -- nothing is ever charged, so giving weight back changes nothing
    unfold Backlog.discharge
    split
    · simp [backlogOf, AssignmentPolicy.proofGpuWeight, AssignmentPolicy.postTaskUpdateState]
    · rfl
  filed_onProofDeleted _ _ := trivial
  backlog_onProofDeleted proofId := by
    simp [backlogOf, Backlog.forget, AssignmentPolicy.proofGpuWeight,
      AssignmentPolicy.onProofDeleted]
  assigns _ env _ filed := assignLoops_assigns _ env (DefaultPolicy.gpuLane_serves env)
    (DefaultPolicy.cpuLane_serves env) _ _ filed
  sends _ _ state := assignLoops_sends _ _ _ _ _ state
  assigns_ok _ _ state := assignLoops_ok _ _ _ _ _ state

/-! ## The balanced policy -/

namespace BalancedPolicy

variable {queued : QueuedTask} {queue : List QueuedTask} {policy : BalancedPolicy} {env : Env}

/-- Every entry is in the queue of its own proof. -/
def Filed (policy : BalancedPolicy) : Prop :=
  ∀ proofId queue, policy.gpuQueues.lookup proofId = some queue →
    ∀ queued ∈ queue, queued.proofId = proofId

theorem peek_mem (front : peek env queue = some queued) : queued ∈ queue :=
  env.mem_shuffle.mp (PriorityQueue.least_mem cmp front)

theorem pop_of_peek (front : peek env queue = some queued) :
    pop env queue = queue.erase queued := by
  simp [pop, front, PriorityQueue.remove]

/-- The entries of all GPU queues but one. -/
def othersQueued (policy : BalancedPolicy) (proofId : String) : List QueuedTask :=
  (policy.gpuQueues.erase proofId).entries.flatMap fun entry => entry.2

theorem gpuQueued_of_lookup {proofId : String}
    (found : policy.gpuQueues.lookup proofId = some queue) :
    (policy.gpuQueued : Multiset QueuedTask) = ↑queue + ↑(policy.othersQueued proofId) := by
  rw [Multiset.coe_add]
  exact Multiset.coe_eq_coe.mpr ((Table.entries_perm_of_lookup found).flatMap_right _)

theorem gpuQueued_insert (policy : BalancedPolicy) (proofId : String) (queue : List QueuedTask) :
    (gpuQueued { policy with gpuQueues := policy.gpuQueues.insert proofId queue } :
      Multiset QueuedTask) = ↑queue + ↑(policy.othersQueued proofId) := by
  rw [Multiset.coe_add]
  rfl

theorem gpuQueued_split (policy : BalancedPolicy) (proofId : String) :
    (policy.gpuQueued : Multiset QueuedTask) =
      ↑((policy.gpuQueues.lookup proofId).getD []) + ↑(policy.othersQueued proofId) := by
  cases found : policy.gpuQueues.lookup proofId with
  | some queue => exact gpuQueued_of_lookup found
  | none =>
    have absent : proofId ∉ policy.gpuQueues := AList.lookup_eq_none.mp found
    simp [othersQueued, Table.erase_of_notMem absent, gpuQueued]

/-! ### Enqueueing -/

theorem backlog_enqueueTask (policy : BalancedPolicy) (workerType : WorkerType)
    (queued : QueuedTask) :
    backlogOf (enqueueTask workerType queued policy) =
      (backlogOf policy).add workerType queued := by
  cases workerType with
  | gpu =>
    have grown : (gpuQueued (enqueueTask .gpu queued policy) : Multiset QueuedTask) =
        queued ::ₘ ↑policy.gpuQueued := by
      rw [gpuQueued_split policy queued.proofId]
      exact gpuQueued_insert policy queued.proofId _
    simp only [backlogOf, Backlog.add, AssignmentPolicy.gpuQueued, grown]
    rfl
  | cpu => rfl
  | _ => rfl

theorem filed_enqueueTask (workerType : WorkerType) (queued : QueuedTask) (filed : policy.Filed) :
    (enqueueTask workerType queued policy).Filed := by
  cases workerType with
  | gpu =>
    intro proofId queue found entry member
    change (policy.gpuQueues.insert queued.proofId _).lookup proofId = some queue at found
    rcases Table.lookup_insert_cases found with ⟨same, rfl⟩ | ⟨_, found⟩
    · rcases List.mem_cons.mp member with rfl | earlier
      · exact same.symm
      · cases before : policy.gpuQueues.lookup queued.proofId with
        | none => simp [before] at earlier
        | some queueBefore =>
          simp only [before, Option.getD_some] at earlier
          rw [same]
          exact filed _ _ before entry earlier
    · exact filed proofId queue found entry member
  | cpu => exact filed
  | _ => exact filed

/-! ### Charges -/

theorem backlog_withCharges (policy : BalancedPolicy) {table : Table String ℕ}
    {charged : String → Option ℕ} (lookups : ∀ other, table.lookup other = charged other) :
    backlogOf { policy with proofGpuWeights := table } =
      { backlogOf policy with charged := charged } := by
  obtain rfl : (fun other => table.lookup other) = charged := funext lookups
  rfl

theorem backlog_postTaskUpdateState (policy : BalancedPolicy) (taskWeight : ℕ) (proofId : String)
    (workerType : WorkerType) :
    backlogOf (postTaskUpdateState taskWeight proofId workerType policy) =
      (backlogOf policy).discharge workerType proofId taskWeight := by
  unfold postTaskUpdateState Backlog.discharge
  split
  · cases found : policy.proofGpuWeights.lookup proofId with
    | none =>
      refine policy.backlog_withCharges ?_
      intro other
      by_cases same : other = proofId
      · subst same
        simp [backlogOf, AssignmentPolicy.proofGpuWeight, found]
      · simp [same, backlogOf, AssignmentPolicy.proofGpuWeight]
    | some current =>
      refine policy.backlog_withCharges ?_
      intro other
      by_cases spent : current - taskWeight = 0
      · simp [spent, found, backlogOf, AssignmentPolicy.proofGpuWeight, Table.lookup_erase_eq,
          Function.update_apply]
      · simp [spent, found, backlogOf, AssignmentPolicy.proofGpuWeight, Table.lookup_insert_eq,
          Function.update_apply]
  · rfl

theorem backlog_onProofDeleted (policy : BalancedPolicy) (proofId : String) :
    backlogOf (onProofDeleted proofId policy) = (backlogOf policy).forget proofId := by
  refine policy.backlog_withCharges ?_
  intro other
  rw [Table.lookup_erase_eq, Function.update_apply]
  rfl

theorem filed_postTaskUpdateState (taskWeight : ℕ) (proofId : String) (workerType : WorkerType)
    (filed : policy.Filed) : (postTaskUpdateState taskWeight proofId workerType policy).Filed := by
  unfold postTaskUpdateState
  split
  · split <;> exact filed
  · exact filed

theorem backlog_charge (policy : BalancedPolicy) (workerType : WorkerType) (task : Task) :
    backlogOf (charge workerType task policy) =
      (backlogOf policy).charge true workerType task.data.proofId task.data.weight := by
  unfold charge Backlog.charge
  by_cases gpu : workerType = .gpu
  · simp only [gpu, and_self, if_true]
    refine policy.backlog_withCharges ?_
    intro other
    rw [Table.lookup_insert_eq, Function.update_apply]
    rfl
  · simp [gpu]

theorem filed_charge (workerType : WorkerType) (task : Task) (filed : policy.Filed) :
    (charge workerType task policy).Filed := by
  unfold charge
  split <;> exact filed

/-! ### Popping -/

section Popping

variable {env : Env} {policy : BalancedPolicy} {proofId : String} {queue : List QueuedTask}
  {queued : QueuedTask}

theorem backlog_popGpu (found : policy.gpuQueues.lookup proofId = some queue)
    (front : peek env queue = some queued) :
    backlogOf (popGpu env proofId policy) = (backlogOf policy).remove .gpu queued := by
  have member : queued ∈ (↑queue : Multiset QueuedTask) := Multiset.mem_coe.mpr (peek_mem front)
  have shrunk : (gpuQueued (popGpu env proofId policy) : Multiset QueuedTask) =
      (policy.gpuQueued : Multiset QueuedTask).erase queued := by
    rw [gpuQueued_of_lookup found, Multiset.erase_add_left_pos _ member, Multiset.coe_erase]
    simp only [popGpu, found, pop_of_peek front]
    split
    · next emptied =>
      have nothing : queue.erase queued = [] := by simpa using emptied
      rw [nothing]
      simp [gpuQueued, othersQueued]
    · exact gpuQueued_insert policy proofId _
  have cpuKept : (popGpu env proofId policy).cpuQueue = policy.cpuQueue := by
    simp only [popGpu, found]
  have chargesKept : (popGpu env proofId policy).proofGpuWeights = policy.proofGpuWeights := by
    simp only [popGpu, found]
  simp only [backlogOf, Backlog.remove, AssignmentPolicy.cpuQueued, AssignmentPolicy.gpuQueued,
    AssignmentPolicy.proofGpuWeight, shrunk, cpuKept, chargesKept]

theorem filed_popGpu (filed : policy.Filed) : (popGpu env proofId policy).Filed := by
  unfold popGpu
  split
  · exact filed
  · next queue found =>
    intro otherId otherQueue otherFound entry member
    dsimp only at otherFound
    split at otherFound
    · exact filed otherId otherQueue (Table.lookup_of_erase otherFound) entry member
    · rcases Table.lookup_insert_cases otherFound with ⟨same, rfl⟩ | ⟨_, otherFound⟩
      · rw [same]
        refine filed proofId queue found entry ?_
        unfold pop PriorityQueue.remove at member
        split at member
        · exact member
        · exact List.mem_of_mem_erase member
      · exact filed otherId otherQueue otherFound entry member

end Popping

/-- What the search finds is at the front of the queue of some proof. -/
theorem consider_best (env : Env) (policy : BalancedPolicy)
    (entries : List (Sigma fun _ : String => List QueuedTask)) (candidate : Candidate)
    {queued : QueuedTask}
    (found : (entries.foldl (Candidate.consider env policy) candidate).best = some queued) :
    candidate.best = some queued ∨ ∃ entry ∈ entries, peek env entry.2 = some queued := by
  induction entries generalizing candidate with
  | nil => exact .inl found
  | cons entry rest ih =>
    rcases ih _ found with earlier | ⟨later, member, front⟩
    · unfold Candidate.consider at earlier
      split at earlier
      · exact .inl earlier
      · next front =>
        dsimp only at earlier
        split at earlier
        · cases earlier
          exact .inr ⟨entry, List.mem_cons_self, front⟩
        · exact .inl earlier
    · exact .inr ⟨later, List.mem_cons_of_mem _ member, front⟩

theorem findNextBalancedTask_spec {env : Env} {policy : BalancedPolicy} {queued : QueuedTask}
    (filed : policy.Filed) (found : findNextBalancedTask env policy = some queued) :
    ∃ queue, policy.gpuQueues.lookup queued.proofId = some queue ∧
      peek env queue = some queued := by
  rcases consider_best env policy _ _ found with initial | ⟨⟨proofId, queue⟩, member, front⟩
  · cases initial
  · have lookup : policy.gpuQueues.lookup proofId = some queue :=
      Table.mem_entries_iff.mp (env.mem_shuffle.mp member)
    have own : queued.proofId = proofId := filed proofId queue lookup queued (peek_mem front)
    exact ⟨queue, own ▸ lookup, front⟩

theorem gpuLane_serves (env : Env) : (gpuLane env).Serves (settle env) .gpu Filed where
  waiting := by
    intro policy queued filed front
    obtain ⟨queue, lookup, peeked⟩ := findNextBalancedTask_spec filed front
    change queued ∈ (policy.gpuQueued : Multiset QueuedTask)
    rw [gpuQueued_of_lookup lookup]
    exact Multiset.mem_add.mpr (.inl (peek_mem peeked))
  filed_discard filed _ := filed_popGpu filed
  discard := by
    intro policy queued filed front
    obtain ⟨queue, lookup, peeked⟩ := findNextBalancedTask_spec filed front
    exact backlog_popGpu lookup peeked
  filed_settle filed _ _ := filed_popGpu (filed_charge .gpu _ filed)
  settle := by
    intro policy queued task filed front sameProof
    obtain ⟨queue, lookup, peeked⟩ := findNextBalancedTask_spec filed front
    have lookup' : (charge .gpu task policy).gpuQueues.lookup queued.proofId = some queue := lookup
    change backlogOf (popGpu env task.data.proofId (charge .gpu task policy)) = _
    rw [sameProof, backlog_popGpu lookup' peeked, backlog_charge, sameProof]
    rfl

theorem cpuLane_serves (env : Env) : (cpuLane env).Serves (settle env) .cpu Filed where
  waiting _ front := Multiset.mem_coe.mpr (peek_mem front)
  filed_discard filed _ := filed
  discard := by
    intro policy queued _ front
    change backlogOf { policy with cpuQueue := pop env policy.cpuQueue } = _
    rw [pop_of_peek front]
    rfl
  filed_settle filed _ _ := filed
  settle := by
    intro policy queued task _ front _
    change backlogOf { policy with cpuQueue := pop env policy.cpuQueue } = _
    rw [pop_of_peek front]
    rfl

end BalancedPolicy

instance : LawfulPolicy BalancedPolicy where
  Filed := BalancedPolicy.Filed
  filed_empty := by
    intro proofId queue found
    cases found
  backlog_empty := rfl
  filed_enqueueTask := BalancedPolicy.filed_enqueueTask
  backlog_enqueueTask := BalancedPolicy.backlog_enqueueTask _
  filed_postTaskUpdateState := BalancedPolicy.filed_postTaskUpdateState
  backlog_postTaskUpdateState := BalancedPolicy.backlog_postTaskUpdateState _
  filed_onProofDeleted _ filed := filed
  backlog_onProofDeleted := BalancedPolicy.backlog_onProofDeleted _
  assigns _ env _ filed := assignLoops_assigns _ env (BalancedPolicy.gpuLane_serves env)
    (BalancedPolicy.cpuLane_serves env) _ _ filed
  sends _ _ state := assignLoops_sends _ _ _ _ _ state
  assigns_ok _ _ state := assignLoops_ok _ _ _ _ _ state

end Sp1Cluster
