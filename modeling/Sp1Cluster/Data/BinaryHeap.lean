import Mathlib.Data.Nat.Init
import Mathlib.Order.Compare
import Sp1Cluster.Data.PriorityQueue

/-!
# Binary heaps

A binary heap keeps its elements in an array, the children of position `i` at
`2 * i + 1` and `2 * i + 2`, and no child strictly before its parent. Its front is
the element at position `0`.
-/

set_option autoImplicit false

namespace Sp1Cluster.BinaryHeap

variable {α : Type} {cmp : α → α → Ordering}

/-- `below` is the position of a child of `above`. -/
def Child (above below : ℕ) : Prop := below = 2 * above + 1 ∨ below = 2 * above + 2

/-- No child is strictly before its parent. -/
def Ordered (cmp : α → α → Ordering) (storage : Array α) : Prop :=
  ∀ above below (_ : above < storage.size) (_ : below < storage.size), Child above below →
    (cmp storage[above] storage[below]).isLE

/-- The first element of a heap is not after any element. -/
theorem Ordered.first [Std.TransCmp cmp] {storage : Array α} (ordered : Ordered cmp storage)
    (position : ℕ) (inside : position < storage.size) (nonempty : 0 < storage.size) :
    (cmp storage[0] storage[position]).isLE := by
  induction position using Nat.strongRecOn with
  | ind position ih =>
    rcases Nat.eq_zero_or_pos position with rfl | later
    · exact Std.ReflCmp.isLE_rfl
    · have within : (position - 1) / 2 < storage.size := by omega
      have child : Child ((position - 1) / 2) position := by
        unfold Child
        omega
      exact Std.TransCmp.isLE_trans (ih _ (by omega) within)
        (ordered _ position within inside child)

/-- `BinaryHeap`, the least element at the front. -/
structure Heap (cmp : α → α → Ordering) where
  storage : Array α
  ordered : Ordered cmp storage

namespace Heap

def elements (heap : Heap cmp) : List α := heap.storage.toList

/-- `peek`. -/
def peek (heap : Heap cmp) : Option α := heap.storage[0]?

theorem peek_eq_none_iff {heap : Heap cmp} : heap.peek = none ↔ heap.elements = [] := by
  simp [peek, elements]

variable [Std.TransCmp cmp]

/-- **The front of a heap is one of its least elements.** -/
theorem peek_least {heap : Heap cmp} {front : α} (first : heap.peek = some front) :
    front ∈ heap.elements ∧ ∀ element ∈ heap.elements, (cmp front element).isLE := by
  obtain ⟨nonempty, rfl⟩ := Array.getElem?_eq_some_iff.mp first
  refine ⟨Array.mem_toList_iff.mpr (Array.getElem_mem nonempty), ?_⟩
  intro element member
  obtain ⟨position, inside, rfl⟩ := Array.mem_iff_getElem.mp (Array.mem_toList_iff.mp member)
  exact heap.ordered.first position inside nonempty

/-- In storage order the front is the least element. -/
theorem least_elements (heap : Heap cmp) :
    PriorityQueue.least cmp heap.elements = heap.peek := by
  cases first : heap.peek with
  | none => rw [peek_eq_none_iff.mp first, PriorityQueue.least]
  | some front =>
    obtain ⟨others, shape⟩ : ∃ others, heap.elements = front :: others := by
      rw [← List.head?_eq_some_iff, ← first]
      simp [elements, peek, List.head?_eq_getElem?]
    rw [shape]
    refine PriorityQueue.least_cons_of_first ?_
    intro element member
    refine PriorityQueue.isLE_iff_ne_lt.mp ((peek_least first).2 element ?_)
    rw [shape]
    exact List.mem_cons_of_mem front member

end Heap

end Sp1Cluster.BinaryHeap
