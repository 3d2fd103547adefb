import Mathlib.Logic.Function.Basic
import Mathlib.Order.Nat
import Mathlib.Data.Set.Defs
import Mathlib.Data.Nat.Notation

/-!
# Giving work to the least loaded

A pass hands out pieces of work among parties that wait for it. Each piece goes
to a waiting party with the least load, whose load grows by the weight of the
piece, and parties stop waiting as the pass goes on. Nobody who was given
something is then ahead of somebody who still waits by more than the last piece
it was given.
-/

set_option autoImplicit false

namespace Sp1Cluster.Balancing

variable {κ : Type}

/-- A pass in progress: the loads, the parties that wait, and the weight of the
last piece each party was given in this pass. -/
structure Pass (κ : Type) where
  load : κ → ℕ
  waiting : Set κ
  last : κ → Option ℕ

/-- One turn: parties stop waiting, or a party with the least load is given a
piece of work. -/
inductive Turn [DecidableEq κ] (pass : Pass κ) : Pass κ → Prop where
  | leave {fewer : Set κ} (subset : fewer ⊆ pass.waiting) :
      Turn pass { pass with waiting := fewer }
  | give {fewer : Set κ} (party : κ) (weight : ℕ) (subset : fewer ⊆ pass.waiting)
      (least : ∀ other ∈ pass.waiting, pass.load party ≤ pass.load other) :
      Turn pass
        { load := Function.update pass.load party (pass.load party + weight)
          waiting := fewer
          last := Function.update pass.last party (some weight) }

/-- Nobody is ahead of a waiting party by more than the last piece it was given. -/
def Pass.Fair (pass : Pass κ) : Prop :=
  ∀ party weight, pass.last party = some weight →
    ∀ other ∈ pass.waiting, pass.load party ≤ pass.load other + weight

theorem Pass.fair_of_nothing_given {pass : Pass κ} (nothing : ∀ party, pass.last party = none) :
    pass.Fair := by
  intro party weight given
  rw [nothing party] at given
  cases given

/-- **A turn keeps a pass fair.** -/
theorem Pass.Fair.turn [DecidableEq κ] {pass next : Pass κ} (fair : pass.Fair)
    (turn : Turn pass next) : next.Fair := by
  cases turn with
  | leave subset =>
    intro party weight given other waits
    exact fair party weight given other (subset waits)
  | give receiver piece subset least =>
    intro party weight given other waits
    -- loads only grow, so it is enough to compare with the load before
    have grown : pass.load other ≤
        Function.update pass.load receiver (pass.load receiver + piece) other := by
      rw [Function.update_apply]
      split
      · next same => rw [same]; exact Nat.le_add_right _ _
      · exact le_rfl
    dsimp only at given ⊢
    by_cases same : party = receiver
    · subst same
      rw [Function.update_self, Option.some.injEq] at given
      rw [Function.update_self, ← given]
      exact Nat.add_le_add_right ((least other (subset waits)).trans grown) piece
    · rw [Function.update_of_ne same] at given ⊢
      exact (fair party weight given other (subset waits)).trans
        (Nat.add_le_add_right grown weight)

end Sp1Cluster.Balancing
