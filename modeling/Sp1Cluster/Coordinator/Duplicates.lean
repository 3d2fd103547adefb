import Sp1Cluster.Coordinator.LifeCycle

/-!
# Repeated deliveries of a failure report

The client repeats a failure report whose reply was lost, so the coordinator can
receive the report of one execution several times. It recognises a repetition
only by the reporter no longer holding the task. The first delivery of a
retryable report puts the task back into its queue, and the assignment at the
end of the same call may give it to the reporter again; a repetition that
arrives then is taken for the failure of the new execution.

The deliveries of one report are counted along a run of the coordinator, with
what they add to the counter of the task. When every repetition arrives while
the reporter does not hold the task, the deliveries together add at most one and
no repetition makes the task fail fatally.
-/

set_option autoImplicit false

namespace Sp1Cluster

open CoordinatorState

/-- A retryable failure report of one execution of a task. -/
structure FailureReport where
  workerId : String
  proofId : String
  taskId : String
deriving DecidableEq, Repr

def FailureReport.call (report : FailureReport) : Call :=
  .failTask report.workerId report.proofId report.taskId true

/-- What arrives at the coordinator: a delivery of the report, or anything
else, further reports of other executions included. -/
inductive Arrival where
  | delivery (env : Env)
  | other (event : Event)

def Arrival.event (report : FailureReport) : Arrival → Event
  | .delivery env => ⟨env, report.call⟩
  | .other event => event

namespace CoordinatorState

variable {P : Type}

/-- The counter of retries of a task, zero when it is not stored. -/
def retriesOf (state : CoordinatorState P) (proofId taskId : String) : ℕ :=
  match state.getTask proofId taskId with
  | none => 0
  | some task => task.retries

/-- Whether a task that had not failed fatally has done so: its status says it,
or it went with its proof. -/
def turnsFatal (before after : CoordinatorState P) (proofId taskId : String) : Bool :=
  match before.getTask proofId taskId, after.getTask proofId taskId with
  | none, _ => false
  | some task, none => task.status != .failedFatal
  | some task, some task' => task.status != .failedFatal && task'.status == .failedFatal

theorem retriesOf_of_same {before after : CoordinatorState P} {proofId taskId : String}
    (same : after.getTask proofId taskId = before.getTask proofId taskId) :
    after.retriesOf proofId taskId = before.retriesOf proofId taskId := by
  unfold retriesOf
  rw [same]

theorem turnsFatal_of_same {before after : CoordinatorState P} {proofId taskId : String}
    (same : after.getTask proofId taskId = before.getTask proofId taskId) :
    before.turnsFatal after proofId taskId = false := by
  unfold turnsFatal
  rw [same]
  cases before.getTask proofId taskId with
  | none => rfl
  | some task => cases status : task.status <;> simp

end CoordinatorState

/-- The coordinator and what the deliveries of one report have done so far:
whether there was one, what they have added to the counter of the task, and
whether a delivery after the first has made the task fail fatally. -/
structure Audit (P : Type) where
  coordinator : CoordinatorState P
  delivered : Bool
  raised : ℕ
  lateFatal : Bool

namespace Audit

section Model

variable {P : Type} [AssignmentPolicy P]

def new : Audit P where
  coordinator := .new
  delivered := false
  raised := 0
  lateFatal := false

def step (build : Build) (report : FailureReport) (audit : Audit P) (arrival : Arrival) :
    Audit P :=
  let after := audit.coordinator.step build (arrival.event report)
  match arrival with
  | .other _ => { audit with coordinator := after }
  | .delivery _ =>
    { coordinator := after
      delivered := true
      raised := audit.raised + (after.retriesOf report.proofId report.taskId -
        audit.coordinator.retriesOf report.proofId report.taskId)
      lateFatal := audit.lateFatal || (audit.delivered &&
        audit.coordinator.turnsFatal after report.proofId report.taskId) }

def reach (P : Type) [AssignmentPolicy P] (build : Build) (report : FailureReport)
    (arrivals : List Arrival) : Audit P :=
  Systems.run (step build report) new arrivals

/-- A repetition of the report arrives only while the reporter does not hold the
task. -/
def Spaced (report : FailureReport) (audit : Audit P) : Arrival → Prop
  | .delivery _ => audit.delivered = true →
      audit.coordinator.isHeldBy report.workerId report.proofId report.taskId = false
  | .other _ => True

instance (report : FailureReport) (audit : Audit P) (arrival : Arrival) :
    Decidable (audit.Spaced report arrival) := by
  unfold Spaced
  split <;> infer_instance

/-- The deliveries together have cost at most one retry, and no repetition has
made the task fail fatally. -/
structure CostsOneRetry (audit : Audit P) : Prop where
  raised_le : audit.raised ≤ 1
  not_lateFatal : audit.lateFatal = false

instance (audit : Audit P) : Decidable audit.CostsOneRetry :=
  decidable_of_iff (audit.raised ≤ 1 ∧ audit.lateFatal = false)
    ⟨fun both => ⟨both.1, both.2⟩, fun costs => ⟨costs.raised_le, costs.not_lateFatal⟩⟩

end Model

variable {P : Type} [LawfulPolicy P] {build : Build} {report : FailureReport}

theorem coordinator_reach (arrivals : List Arrival) :
    (reach P build report arrivals).coordinator =
      CoordinatorState.reach P build (arrivals.map (Arrival.event report)) := by
  induction arrivals using List.reverseRecOn with
  | nil => rfl
  | append_singleton past arrival ih =>
    have audited : reach P build report (past ++ [arrival]) =
        (reach P build report past).step build report arrival := Systems.run_snoc _ _ _ _
    have stepped : CoordinatorState.reach P build
        (past.map (Arrival.event report) ++ [arrival.event report]) =
        (CoordinatorState.reach P build (past.map (Arrival.event report))).step build
          (arrival.event report) := Systems.run_snoc _ _ _ _
    rw [audited, List.map_append, List.map_singleton, stepped, ← ih]
    cases arrival <;> rfl

/-- A delivery from a worker that does not hold the task changes nothing. -/
theorem getTask_of_unheld {state : CoordinatorState P} (env : Env)
    (unheld : ¬ state.Holds report.workerId report.proofId report.taskId) :
    (state.step build ⟨env, report.call⟩).getTask report.proofId report.taskId =
      state.getTask report.proofId report.taskId := by
  have refused : (state.clearOutbox.failTask build env report.workerId report.proofId report.taskId
      true).state = state.clearOutbox :=
    (failTask_of_unheld (show ¬ state.clearOutbox.Holds _ _ _ from unheld)).1
  change (state.clearOutbox.failTask build env report.workerId report.proofId report.taskId
    true).state.getTask report.proofId report.taskId = _
  rw [refused]
  rfl

/-- A delivery raises the counter of the task by at most one. -/
theorem raised_by_delivery_le (P : Type) [LawfulPolicy P] (build : Build) (past : List Event)
    (env : Env) (fresh : Event.FreshIds (past ++ [⟨env, report.call⟩])) :
    ((CoordinatorState.reach P build past).step build ⟨env, report.call⟩).retriesOf report.proofId
        report.taskId -
      (CoordinatorState.reach P build past).retriesOf report.proofId report.taskId ≤ 1 := by
  obtain ⟨transit, issued, sane, orderly⟩ : ∃ transit issued,
      (CoordinatorState.reach P build past).Sane build past transit issued ∧
        ((CoordinatorState.reach P build past).board transit issued).Orderly :=
    reach_orderly past fresh.of_append
  by_cases held : (CoordinatorState.reach P build past).Holds report.workerId report.proofId
      report.taskId
  · obtain ⟨task, stored, -⟩ := sane.sound.held_task held
    have storedNow : (CoordinatorState.reach P build past).getTask report.proofId report.taskId =
        some task := stored
    unfold retriesOf
    rw [storedNow]
    cases storedAfter : ((CoordinatorState.reach P build past).step build
        ⟨env, report.call⟩).getTask report.proofId report.taskId with
    | none => simp
    | some task' =>
      have counted := sane.counted orderly ⟨env, report.call⟩ fresh storedNow storedAfter
      by_cases sendsBack : SendsBack ⟨env, report.call⟩ (CoordinatorState.reach P build past)
          report.proofId report.taskId task
      · have up := counted.up sendsBack
        dsimp only
        omega
      · have same := counted.same sendsBack
        dsimp only
        omega
  · rw [retriesOf_of_same (getTask_of_unheld env held)]
    omega

/-- The deliveries so far, as the audit has counted them. -/
structure Counts (audit : Audit P) : Prop where
  undelivered : audit.delivered = false → audit.raised = 0
  costs : audit.CostsOneRetry

theorem Counts.step {past : List Arrival} (counts : (reach P build report past).Counts)
    (arrival : Arrival)
    (fresh : Event.FreshIds ((past ++ [arrival]).map (Arrival.event report)))
    (spaced : (reach P build report past).Spaced report arrival) :
    ((reach P build report past).step build report arrival).Counts := by
  cases arrival with
  | other event => exact ⟨counts.undelivered, counts.costs.raised_le, counts.costs.not_lateFatal⟩
  | delivery env =>
    rw [List.map_append, List.map_singleton] at fresh
    have bounded := raised_by_delivery_le P build (past.map (Arrival.event report)) env fresh
    rw [← coordinator_reach] at bounded
    cases delivered : (reach P build report past).delivered with
    | false =>
      refine ⟨?_, ?_, ?_⟩
      · intro undelivered
        cases undelivered
      · change (reach P build report past).raised + _ ≤ 1
        rw [counts.undelivered delivered, Nat.zero_add]
        exact bounded
      · change ((reach P build report past).lateFatal ||
          ((reach P build report past).delivered && _)) = false
        rw [counts.costs.not_lateFatal, delivered]
        rfl
    | true =>
      have unheld : ¬ (reach P build report past).coordinator.Holds report.workerId
          report.proofId report.taskId := by
        intro held
        exact Bool.false_ne_true ((spaced delivered).symm.trans (isHeldBy_iff.mpr held))
      have same : ((reach P build report past).coordinator.step build
          ((Arrival.delivery env).event report)).getTask report.proofId report.taskId =
          (reach P build report past).coordinator.getTask report.proofId report.taskId :=
        getTask_of_unheld env unheld
      refine ⟨?_, ?_, ?_⟩
      · intro undelivered
        cases undelivered
      · change (reach P build report past).raised + (retriesOf _ _ _ - retriesOf _ _ _) ≤ 1
        rw [retriesOf_of_same same, Nat.sub_self]
        exact counts.costs.raised_le
      · change ((reach P build report past).lateFatal ||
          ((reach P build report past).delivered && turnsFatal _ _ _ _)) = false
        rw [counts.costs.not_lateFatal, turnsFatal_of_same same, Bool.and_false]
        rfl

theorem reach_counts {arrivals : List Arrival}
    (fresh : Event.FreshIds (arrivals.map (Arrival.event report)))
    (spaced : Systems.Along (step (P := P) build report) new (Spaced report) arrivals) :
    (reach P build report arrivals).Counts := by
  induction arrivals using List.reverseRecOn with
  | nil => exact ⟨fun _ => rfl, Nat.zero_le _, rfl⟩
  | append_singleton past arrival ih =>
    obtain ⟨spacedBefore, spacedNow⟩ := Systems.along_snoc.mp spaced
    have freshBefore : Event.FreshIds (past.map (Arrival.event report)) := by
      rw [List.map_append] at fresh
      exact fresh.of_append
    have audited : reach P build report (past ++ [arrival]) =
        (reach P build report past).step build report arrival := Systems.run_snoc _ _ _ _
    rw [audited]
    exact (ih freshBefore spacedBefore).step arrival fresh spacedNow

end Audit

/-- **One execution costs at most one retry**, under both policies, in every
state of a run in which every repetition of its report arrives while the reporter
does not hold the task. -/
theorem one_retry_per_execution (build : Build) (report : FailureReport) (arrivals : List Arrival)
    (fresh : Event.FreshIds (arrivals.map (Arrival.event report))) :
    (Systems.Along (Audit.step (P := DefaultPolicy) build report) .new (Audit.Spaced report)
        arrivals →
      (Audit.reach DefaultPolicy build report arrivals).CostsOneRetry) ∧
    (Systems.Along (Audit.step (P := BalancedPolicy) build report) .new (Audit.Spaced report)
        arrivals →
      (Audit.reach BalancedPolicy build report arrivals).CostsOneRetry) :=
  ⟨fun spaced => (Audit.reach_counts fresh spaced).costs,
    fun spaced => (Audit.reach_counts fresh spaced).costs⟩

/-- The failure of a GPU task at its worker. -/
def shardReport : FailureReport := ⟨"g", "p", "u"⟩

def shardDelivery : Arrival := .delivery (.plain 1000000000 "")

/-- The worker is removed between two deliveries, so that the second one is
refused. -/
def repeatedWhenGone : List Arrival :=
  oneShard.map .other ++
    [shardDelivery, .other ((Call.removeWorker "g").plain ""), shardDelivery]

theorem one_retry_per_execution_repeatedWhenGone :
    Event.FreshIds (repeatedWhenGone.map (Arrival.event shardReport)) ∧
      (Audit.reach DefaultPolicy .plain shardReport repeatedWhenGone).raised = 1 ∧
      (Audit.reach DefaultPolicy .plain shardReport repeatedWhenGone).CostsOneRetry ∧
      (Audit.reach BalancedPolicy .plain shardReport repeatedWhenGone).CostsOneRetry := by
  have fresh : Event.FreshIds (repeatedWhenGone.map (Arrival.event shardReport)) := by
    unfold Event.FreshIds
    decide
  obtain ⟨default, balanced⟩ := one_retry_per_execution .plain shardReport repeatedWhenGone fresh
  exact ⟨fresh, by decide, default (by decide), balanced (by decide)⟩

/-- The first delivery puts the task back into its queue and the assignment gives
it to the same worker, which then seems to have failed again. -/
def repeatedAtOnce : List Arrival :=
  oneShard.map .other ++ [shardDelivery, shardDelivery]

/-- Two deliveries cost two retries, and the fourth one is fatal. -/
theorem repeated_report_counts_again :
    Event.FreshIds (repeatedAtOnce.map (Arrival.event shardReport)) ∧
      (Audit.reach DefaultPolicy .plain shardReport repeatedAtOnce).raised = 2 ∧
      (Audit.reach DefaultPolicy .plain shardReport
        (repeatedAtOnce ++ [shardDelivery, shardDelivery])).lateFatal = true ∧
      ¬ (Audit.reach DefaultPolicy .plain shardReport repeatedAtOnce).CostsOneRetry := by
  have fresh : Event.FreshIds (repeatedAtOnce.map (Arrival.event shardReport)) := by
    unfold Event.FreshIds
    decide
  exact ⟨fresh, by decide, by decide, by decide⟩

end Sp1Cluster
