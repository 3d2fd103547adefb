import Mathlib.Data.List.Induction

/-!
# Runs of a system

A system takes events one after the other. A run is described by its events in
order, the state it reaches is a fold, and an event that a state does not allow
leaves the state as it is. An invariant may mention the events taken so far,
and the steps of a run may be restricted by a condition on the state before
each event. An abstract system answers an event in one of several ways, and a
system refines it if its runs are among the abstract ones.
-/

set_option autoImplicit false

namespace Sp1Cluster.Systems

universe u v

variable {σ : Type u} {ε : Type v} {step : σ → ε → σ} {start : σ} {condition : σ → ε → Prop}

/-- The state reached by a list of events. -/
def run (step : σ → ε → σ) (start : σ) (events : List ε) : σ :=
  events.foldl step start

theorem run_snoc (step : σ → ε → σ) (start : σ) (past : List ε) (event : ε) :
    run step start (past ++ [event]) = step (run step start past) event := by
  simp [run]

theorem run_append (step : σ → ε → σ) (start : σ) (past future : List ε) :
    run step start (past ++ future) = run step (run step start past) future := by
  simp [run]

/-- Every step of a run meets a condition on the state before it and its
event. -/
def Along (step : σ → ε → σ) (start : σ) (condition : σ → ε → Prop) (events : List ε) : Prop :=
  ∀ past event future, events = past ++ event :: future →
    condition (run step start past) event

theorem along_nil (step : σ → ε → σ) (start : σ) (condition : σ → ε → Prop) :
    Along step start condition [] := by
  intro past event future split
  simp at split

theorem along_cons {event : ε} {future : List ε} :
    Along step start condition (event :: future) ↔
      condition start event ∧ Along step (step start event) condition future := by
  constructor
  · intro met
    refine ⟨met [] event future rfl, ?_⟩
    intro past between later split
    exact met (event :: past) between later (by simp [split])
  · rintro ⟨metFirst, metLater⟩ past between later split
    cases past with
    | nil =>
      cases split
      exact metFirst
    | cons first rest =>
      cases split
      exact metLater rest between later rfl

/-- Whether a run meets a condition that can be tested can be tested. -/
instance decidableAlong (step : σ → ε → σ) (condition : σ → ε → Prop)
    [∀ state event, Decidable (condition state event)] :
    (start : σ) → (events : List ε) → Decidable (Along step start condition events)
  | start, [] => isTrue (along_nil step start condition)
  | start, event :: future =>
    have := decidableAlong step condition (step start event) future
    decidable_of_iff _ along_cons.symm

theorem along_snoc {past : List ε} {event : ε} :
    Along step start condition (past ++ [event]) ↔
      Along step start condition past ∧ condition (run step start past) event := by
  constructor
  · intro met
    refine ⟨?_, met past event [] rfl⟩
    intro earlier between future split
    exact met earlier between (future ++ [event]) (by simp [split])
  · rintro ⟨metBefore, metLast⟩ earlier between future split
    rcases List.eq_nil_or_concat future with rfl | ⟨middle, last, rfl⟩
    · obtain ⟨rfl, same⟩ := List.append_inj' split rfl
      obtain rfl : event = between := by simpa using same
      exact metLast
    · have regrouped : past ++ [event] = (earlier ++ between :: middle) ++ [last] := by
        simpa using split
      obtain ⟨rfl, _⟩ := List.append_inj' regrouped rfl
      exact metBefore earlier between middle rfl

theorem Along.of_append {past future : List ε} (met : Along step start condition (past ++ future)) :
    Along step start condition past := by
  intro earlier event later split
  exact met earlier event (later ++ future) (by simp [split])

/-- **The invariant rule.** What holds at the start and is preserved by every
step that meets the condition holds after every run whose steps meet it. -/
theorem run_invariant (invariant : List ε → σ → Prop) (initial : invariant [] start)
    (preserved : ∀ past state event, invariant past state → condition state event →
      invariant (past ++ [event]) (step state event)) {events : List ε}
    (met : Along step start condition events) : invariant events (run step start events) := by
  induction events using List.reverseRecOn with
  | nil => exact initial
  | append_singleton past event ih =>
    rw [run_snoc]
    obtain ⟨metBefore, metLast⟩ := along_snoc.mp met
    exact preserved past _ event (ih metBefore) metLast

/-- The invariant rule without a condition. -/
theorem run_invariant_always (invariant : List ε → σ → Prop) (initial : invariant [] start)
    (preserved : ∀ past state event, invariant past state →
      invariant (past ++ [event]) (step state event)) (events : List ε) :
    invariant events (run step start events) := by
  have along : Along step start (fun _ _ => True) events := fun _ _ _ _ => trivial
  exact run_invariant invariant initial
    (fun past state event holds _ => preserved past state event holds) along

/-- What holds at the start and is preserved by every step holds after every run. -/
theorem run_preserves (invariant : σ → Prop) (initial : invariant start)
    (preserved : ∀ state event, invariant state → invariant (step state event)) (events : List ε) :
    invariant (run step start events) :=
  run_invariant_always (fun _ => invariant) initial (fun _ => preserved) events

/-- The runs of an abstract system, whose steps are a relation labelled by the events. -/
inductive Follows {α : Type*} (answers : α → ε → α → Prop) (start : α) : List ε → α → Prop where
  | nil : Follows answers start [] start
  | snoc {past : List ε} {event : ε} {state next : α} (before : Follows answers start past state)
      (last : answers state event next) : Follows answers start (past ++ [event]) next

end Sp1Cluster.Systems
