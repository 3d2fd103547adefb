import Mathlib.Data.Prod.Lex
import Sp1Cluster.Coordinator.Policy.Balanced
import Sp1Cluster.Coordinator.Policy.Default
import Sp1Cluster.Data.BinaryHeap

/-!
# The order of the queues

Both policies keep their queues in binary heaps, ordered by `QueuedTask::cmp`, of
which each has a copy. The comparison is written as a table of cases on the two task
types. It is the lexicographic order of four numbers of a task, so it is lawful on
any mix of task types, and a heap ordered by it has a task of least priority at its front.

The model reads a queue in an arbitrary storage order. A heap is one such order, and its
front is the task that the model finds.
-/

set_option autoImplicit false

namespace Sp1Cluster

namespace QueuedTask

/-- What a queue is ordered by: vkey setups first, then the age of the proof, then
shards first, then the age of the task. -/
def priority (queued : QueuedTask) : Bool ×ₗ SystemTime ×ₗ Bool ×ₗ SystemTime :=
  toLex (decide (queued.taskType ≠ .setupVkey), toLex (queued.proofCreatedAt,
    toLex (decide (queued.taskType ≠ .proveShard), queued.createdAt)))

theorem compare_priority (self other : QueuedTask) :
    compare self.priority other.priority =
      (compare (decide (self.taskType ≠ .setupVkey)) (decide (other.taskType ≠ .setupVkey))).then
        ((compare self.proofCreatedAt other.proofCreatedAt).then
          ((compare (decide (self.taskType ≠ .proveShard))
            (decide (other.taskType ≠ .proveShard))).then
              (compare self.createdAt other.createdAt))) := by
  unfold priority
  simp only [Prod.Lex.compare_def, compareLex, compareOn]
  rfl

end QueuedTask

theorem DefaultPolicy.cmp_eq_compare_priority (self other : QueuedTask) :
    cmp self other = compare self.priority other.priority := by
  rw [QueuedTask.compare_priority]
  obtain ⟨_, selfType, _, _, _⟩ := self
  obtain ⟨_, otherType, _, _, _⟩ := other
  cases selfType <;> cases otherType <;> rfl

theorem BalancedPolicy.cmp_eq_compare_priority (self other : QueuedTask) :
    cmp self other = compare self.priority other.priority := by
  rw [QueuedTask.compare_priority]
  obtain ⟨_, selfType, _, _, _⟩ := self
  obtain ⟨_, otherType, _, _, _⟩ := other
  cases selfType <;> cases otherType <;> rfl

/-! ## What the order gives -/

/-- A comparison of queued tasks that is the one of their priorities, and a way to look at the
front of a queue that is a heap by it. -/
structure OrdersByPriority (cmp : QueuedTask → QueuedTask → Ordering)
    (peek : Env → List QueuedTask → Option QueuedTask) : Prop where
  lexicographic : ∀ self other, cmp self other = compare self.priority other.priority
  total : ∀ self other, (cmp self other).isLE ∨ (cmp other self).isLE
  antisymmetric : ∀ self other, (cmp self other).isLE → (cmp other self).isLE →
    self.priority = other.priority
  transitive : ∀ first second third, (cmp first second).isLE → (cmp second third).isLE →
    (cmp first third).isLE
  heap_empty : ∀ heap : BinaryHeap.Heap cmp, heap.peek = none ↔ heap.elements = []
  heap_least : ∀ (heap : BinaryHeap.Heap cmp) (front : QueuedTask), heap.peek = some front →
    front ∈ heap.elements ∧ ∀ queued ∈ heap.elements, front.priority ≤ queued.priority
  peek_heap : ∀ (env : Env) (queue : List QueuedTask) (heap : BinaryHeap.Heap cmp),
    env.shuffle queue = heap.elements → peek env queue = heap.peek
  peek_empty : ∀ (env : Env) (queue : List QueuedTask), peek env queue = none ↔ queue = []
  peek_least : ∀ (env : Env) (queue : List QueuedTask) (front : QueuedTask),
    peek env queue = some front → front ∈ queue ∧ ∀ queued ∈ queue, front.priority ≤ queued.priority

section Order

variable {cmp : QueuedTask → QueuedTask → Ordering}

theorem transCmp_of_priority
    (lexicographic : ∀ self other, cmp self other = compare self.priority other.priority) :
    Std.TransCmp cmp := by
  obtain rfl : cmp = compareOn QueuedTask.priority := by
    funext self other
    exact lexicographic self other
  infer_instance

/-- A comparison by priorities is lawful, and reading a queue in any order by it finds a
task of least priority. -/
theorem OrdersByPriority.of_priority {peek : Env → List QueuedTask → Option QueuedTask}
    (lexicographic : ∀ self other, cmp self other = compare self.priority other.priority)
    (reads : ∀ env queue, peek env queue = PriorityQueue.least cmp (env.shuffle queue)) :
    OrdersByPriority cmp peek := by
  have lawful := transCmp_of_priority lexicographic
  have le_iff : ∀ self other, (cmp self other).isLE ↔ self.priority ≤ other.priority := by
    intro self other
    rw [lexicographic, Ordering.isLE_iff_ne_gt]
    exact compare_le_iff_le
  refine {
    lexicographic := lexicographic
    total := ?_
    antisymmetric := ?_
    transitive := fun first second third => Std.TransCmp.isLE_trans
    heap_empty := fun heap => BinaryHeap.Heap.peek_eq_none_iff
    heap_least := ?_
    peek_heap := ?_
    peek_empty := ?_
    peek_least := ?_ }
  · intro self other
    rw [le_iff, le_iff]
    exact le_total _ _
  · intro self other before after
    exact le_antisymm ((le_iff _ _).mp before) ((le_iff _ _).mp after)
  · intro heap front first
    obtain ⟨member, least⟩ := BinaryHeap.Heap.peek_least first
    exact ⟨member, fun queued here => (le_iff _ _).mp (least queued here)⟩
  · intro env queue heap storage
    rw [reads, storage, BinaryHeap.Heap.least_elements]
  · intro env queue
    rw [reads, PriorityQueue.least_eq_none_iff]
    constructor
    · intro empty
      exact List.perm_nil.mp (empty ▸ (env.shuffle_perm queue).symm)
    · rintro rfl
      exact List.perm_nil.mp (env.shuffle_perm [])
  · intro env queue front first
    rw [reads] at first
    refine ⟨env.mem_shuffle.mp (PriorityQueue.least_mem cmp first), ?_⟩
    intro queued here
    exact (le_iff _ _).mp (PriorityQueue.least_isLE first queued (env.mem_shuffle.mpr here))

end Order

/-- **The priority of a queue is a lawful order.** Each copy of the comparison is the
lexicographic one of the priorities, the copies agree, and a queue yields a task of least
priority, read as a heap or in any other order. -/
theorem priority_lawful :
    OrdersByPriority DefaultPolicy.cmp DefaultPolicy.peek ∧
      OrdersByPriority BalancedPolicy.cmp BalancedPolicy.peek ∧
      ∀ self other, DefaultPolicy.cmp self other = BalancedPolicy.cmp self other := by
  refine ⟨.of_priority DefaultPolicy.cmp_eq_compare_priority fun _ _ => rfl,
    .of_priority BalancedPolicy.cmp_eq_compare_priority fun _ _ => rfl, ?_⟩
  intro self other
  rw [DefaultPolicy.cmp_eq_compare_priority, BalancedPolicy.cmp_eq_compare_priority]

end Sp1Cluster
