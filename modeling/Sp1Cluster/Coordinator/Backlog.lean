import Sp1Cluster.Coordinator.Policy
import Mathlib.Data.Multiset.AddSub

/-!
# What an assignment policy is for

An assignment policy keeps a backlog: the tasks that wait for a CPU worker, the
tasks that wait for a GPU worker, and the GPU weight charged to each proof. How
the waiting tasks are stored does not matter to the coordinator, so a queue is
a multiset here. The two policies are shown elsewhere to be implementations of
this backlog.
-/

set_option autoImplicit false

namespace Sp1Cluster

/-- A proof identifier and a task identifier. -/
abbrev TaskKey := String × String

/-- The key of the task an entry stands for. -/
def QueuedTask.key (queued : QueuedTask) : TaskKey := (queued.proofId, queued.id)

/-- A worker type that tasks are queued for. -/
def WorkerType.Queues (workerType : WorkerType) : Prop := workerType = .cpu ∨ workerType = .gpu

structure Backlog where
  cpu : Multiset QueuedTask
  gpu : Multiset QueuedTask
  charged : String → Option ℕ

namespace Backlog

variable {workerType other : WorkerType} {backlog : Backlog} {queued entry : QueuedTask}

def queue (backlog : Backlog) : WorkerType → Multiset QueuedTask
  | .cpu => backlog.cpu
  | .gpu => backlog.gpu
  | _ => 0

def add (workerType : WorkerType) (queued : QueuedTask) (backlog : Backlog) : Backlog :=
  match workerType with
  | .cpu => { backlog with cpu := queued ::ₘ backlog.cpu }
  | .gpu => { backlog with gpu := queued ::ₘ backlog.gpu }
  | _ => backlog

def remove (workerType : WorkerType) (queued : QueuedTask) (backlog : Backlog) : Backlog :=
  match workerType with
  | .cpu => { backlog with cpu := backlog.cpu.erase queued }
  | .gpu => { backlog with gpu := backlog.gpu.erase queued }
  | _ => backlog

/-- Charge the weight of an assigned GPU task to its proof, under a policy that
charges. -/
def charge (charges : Bool) (workerType : WorkerType) (proofId : String) (weight : ℕ)
    (backlog : Backlog) : Backlog :=
  if charges = true ∧ workerType = .gpu then
    { backlog with
      charged := Function.update backlog.charged proofId
        (some (wrappingAdd32 ((backlog.charged proofId).getD 0) weight)) }
  else backlog

/-- Give back the weight of a GPU task; a charge that reaches zero is dropped. -/
def discharge (workerType : WorkerType) (proofId : String) (weight : ℕ) (backlog : Backlog) :
    Backlog :=
  if workerType = .gpu then
    { backlog with
      charged := Function.update backlog.charged proofId
        ((backlog.charged proofId).bind fun current =>
          if current - weight = 0 then none else some (current - weight)) }
  else backlog

def forget (proofId : String) (backlog : Backlog) : Backlog :=
  { backlog with charged := Function.update backlog.charged proofId none }

def count (backlog : Backlog) (key : TaskKey) : ℕ :=
  (backlog.cpu + backlog.gpu).countP fun queued => queued.key = key

/-! ## Waiting tasks -/

theorem mem_queue_add (member : entry ∈ (backlog.add workerType queued).queue other) :
    (entry = queued ∧ other = workerType) ∨ entry ∈ backlog.queue other := by
  cases workerType <;> cases other <;> simp_all [add, queue]

theorem mem_queue_remove (member : entry ∈ (backlog.remove workerType queued).queue other) :
    entry ∈ backlog.queue other := by
  cases workerType <;> cases other <;>
    first
    | exact member
    | exact Multiset.mem_of_mem_erase member

theorem queues_of_mem (member : queued ∈ backlog.queue workerType) : workerType.Queues := by
  cases workerType <;> simp_all [queue, WorkerType.Queues]

theorem count_add (queues : workerType.Queues) (queued : QueuedTask) (backlog : Backlog)
    (key : TaskKey) :
    (backlog.add workerType queued).count key =
      backlog.count key + if queued.key = key then 1 else 0 := by
  rcases queues with rfl | rfl
  · simp only [add, count, Multiset.cons_add, Multiset.countP_cons]
  · simp only [add, count, Multiset.add_cons, Multiset.countP_cons]

theorem add_of_not_queues (other : ¬ workerType.Queues) (queued : QueuedTask) (backlog : Backlog) :
    backlog.add workerType queued = backlog := by
  cases workerType <;> simp_all [add, WorkerType.Queues]

theorem count_remove (member : queued ∈ backlog.queue workerType) (key : TaskKey) :
    backlog.count key =
      (backlog.remove workerType queued).count key + if queued.key = key then 1 else 0 := by
  have split : ∀ queue : Multiset QueuedTask, queued ∈ queue →
      queue.countP (fun entry => entry.key = key) =
        (queue.erase queued).countP (fun entry => entry.key = key) +
          if queued.key = key then 1 else 0 := by
    intro queue present
    conv_lhs => rw [← Multiset.cons_erase present, Multiset.countP_cons]
  rcases queues_of_mem member with rfl | rfl
  · simp only [count, remove, Multiset.countP_add, split backlog.cpu member]
    omega
  · simp only [count, remove, Multiset.countP_add, split backlog.gpu member]
    omega

theorem exists_mem_of_count_pos {key : TaskKey} (positive : 0 < backlog.count key) :
    ∃ workerType, ∃ queued ∈ backlog.queue workerType, queued.key = key := by
  obtain ⟨queued, member, same⟩ := Multiset.countP_pos.mp positive
  rcases Multiset.mem_add.mp member with inCpu | inGpu
  · exact ⟨.cpu, queued, inCpu, same⟩
  · exact ⟨.gpu, queued, inGpu, same⟩

theorem count_pos_of_mem (member : queued ∈ backlog.queue workerType) :
    0 < backlog.count queued.key := by
  have split := count_remove member queued.key
  simp only [if_true] at split
  omega

/-! ## Charges -/

section Frame

variable (backlog : Backlog) (charges : Bool) (workerType other : WorkerType) (proofId : String)
  (weight : ℕ) (queued : QueuedTask) (key : TaskKey)

@[simp] theorem queue_charge :
    (backlog.charge charges workerType proofId weight).queue other = backlog.queue other := by
  unfold charge
  split <;> rfl

@[simp] theorem queue_discharge :
    (backlog.discharge workerType proofId weight).queue other = backlog.queue other := by
  unfold discharge
  split <;> rfl

@[simp] theorem count_charge :
    (backlog.charge charges workerType proofId weight).count key = backlog.count key := by
  unfold charge
  split <;> rfl

@[simp] theorem count_discharge :
    (backlog.discharge workerType proofId weight).count key = backlog.count key := by
  unfold discharge
  split <;> rfl

@[simp] theorem charged_add :
    (backlog.add workerType queued).charged = backlog.charged := by
  cases workerType <;> rfl

@[simp] theorem charged_remove :
    (backlog.remove workerType queued).charged = backlog.charged := by
  cases workerType <;> rfl

theorem getD_charge (other : String) :
    ((backlog.charge true workerType proofId weight).charged other).getD 0 =
      if other = proofId ∧ workerType = .gpu then
        wrappingAdd32 ((backlog.charged other).getD 0) weight
      else (backlog.charged other).getD 0 := by
  unfold charge
  by_cases gpu : workerType = .gpu
  · by_cases same : other = proofId
    · simp [gpu, same]
    · simp [gpu, same]
  · simp [gpu]

theorem getD_discharge (other : String) :
    ((backlog.discharge workerType proofId weight).charged other).getD 0 =
      (backlog.charged other).getD 0 -
        if other = proofId ∧ workerType = .gpu then weight else 0 := by
  unfold discharge
  split
  · next gpu =>
    by_cases same : other = proofId
    · subst same
      cases found : backlog.charged other with
      | none => simp
      | some current => by_cases empty : current - weight = 0 <;> simp [gpu, empty]
    · simp [same]
  · next other => simp [other]

theorem charged_discharge {other : String} (none : backlog.charged other = none) :
    (backlog.discharge workerType proofId weight).charged other = Option.none := by
  unfold discharge
  split
  · by_cases same : other = proofId
    · subst same
      simp [none]
    · simp [same, none]
  · exact none

theorem count_take {backlog : Backlog} {workerType : WorkerType} {queued : QueuedTask}
    (waiting : queued ∈ backlog.queue workerType) (charges : Bool) (proofId : String) (weight : ℕ)
    (key : TaskKey) :
    backlog.count key =
      ((backlog.charge charges workerType proofId weight).remove workerType queued).count key +
        if queued.key = key then 1 else 0 := by
  rw [← count_remove (by rw [queue_charge]; exact waiting), count_charge]

theorem mem_queue_take {backlog : Backlog} {charges : Bool} {workerType other : WorkerType}
    {proofId : String} {weight : ℕ} {queued entry : QueuedTask}
    (member : entry ∈ ((backlog.charge charges workerType proofId weight).remove workerType
      queued).queue other) : entry ∈ backlog.queue other := by
  have before := mem_queue_remove member
  rwa [queue_charge] at before

/-- Giving weight back to a proof and then dropping its charge is dropping the
charge first. -/
theorem forget_discharge :
    (backlog.discharge workerType proofId weight).forget proofId =
      (backlog.forget proofId).discharge workerType proofId weight := by
  unfold discharge
  split
  · simp [forget]
  · rfl

end Frame

end Backlog

end Sp1Cluster
