import Mathlib.Data.List.Perm.Basic

/-!
# Priority queues with an unspecified order among equals

A priority queue is the list of its elements in storage order. Looking at the
front gives an element that no other element precedes; popping removes the
element that looking gives. Which of several equally urgent elements is at the
front depends on the storage order only, so a statement about every storage
order covers every implementation.
-/

set_option autoImplicit false

namespace Sp1Cluster.PriorityQueue

variable {α : Type}

/-- The first element of a list that no other element strictly precedes. -/
def least (cmp : α → α → Ordering) : List α → Option α
  | [] => none
  | first :: rest =>
    match least cmp rest with
    | none => some first
    | some best => if cmp best first = .lt then some best else some first

theorem least_mem (cmp : α → α → Ordering) {elements : List α} {best : α}
    (found : least cmp elements = some best) : best ∈ elements := by
  induction elements generalizing best with
  | nil => simp [least] at found
  | cons first rest ih =>
    simp only [least] at found
    split at found
    · simp_all
    · next candidate later =>
      have inRest := ih later
      split at found <;> simp_all

theorem least_eq_none_iff (cmp : α → α → Ordering) (elements : List α) :
    least cmp elements = none ↔ elements = [] := by
  cases elements with
  | nil => simp [least]
  | cons first rest =>
    simp only [least, reduceCtorEq, iff_false]
    split
    · simp
    · split <;> simp

/-- A first element that no later one strictly precedes is the front. -/
theorem least_cons_of_first {cmp : α → α → Ordering} {first : α} {rest : List α}
    (unpreceded : ∀ element ∈ rest, cmp element first ≠ .lt) :
    least cmp (first :: rest) = some first := by
  simp only [least]
  split
  · rfl
  · next best found => rw [if_neg (unpreceded best (least_mem cmp found))]

section Order

variable {cmp : α → α → Ordering} [Std.TransCmp cmp]

omit [Std.TransCmp cmp] in
theorem isLE_iff_ne_lt [Std.OrientedCmp cmp] {first second : α} :
    (cmp first second).isLE ↔ cmp second first ≠ .lt := by
  have swapped : cmp second first = (cmp first second).swap := Std.OrientedCmp.eq_swap
  rw [swapped]
  cases cmp first second <;> simp

/-- The front of a queue is not after any element. -/
theorem least_isLE {elements : List α} {best : α} (found : least cmp elements = some best) :
    ∀ element ∈ elements, (cmp best element).isLE := by
  induction elements generalizing best with
  | nil => simp [least] at found
  | cons first rest ih =>
    intro element member
    simp only [least] at found
    split at found
    · next empty =>
      cases found
      rw [(least_eq_none_iff cmp rest).mp empty, List.mem_singleton] at member
      rw [member]
      exact Std.ReflCmp.isLE_rfl
    · next candidate later =>
      split at found
      · next sooner =>
        cases found
        rcases List.mem_cons.mp member with rfl | inRest
        · rw [sooner]
          rfl
        · exact ih later element inRest
      · next notSooner =>
        cases found
        rcases List.mem_cons.mp member with rfl | inRest
        · exact Std.ReflCmp.isLE_rfl
        · exact Std.TransCmp.isLE_trans (isLE_iff_ne_lt.mpr notSooner)
            (ih later element inRest)

end Order

def remove [DecidableEq α] (front : Option α) (elements : List α) : List α :=
  match front with
  | none => elements
  | some element => elements.erase element

end Sp1Cluster.PriorityQueue
