import Sp1Cluster.Client.Retries

/-!
# Reports that the worker client repeats

The worker client repeats the calls that report a task, and the call that closes
the worker, with the policy `retry::infinite()`. The policy sets an initial
interval and no maximum elapsed time. A builder of the backoff library that is
not told a maximum elapsed time has one of 15 minutes, so the policy has that
limit too: an outage that lasts longer ends the call with the last transient
error. Up to the limit a call ends with the first answer that is not transient.
-/

set_option autoImplicit false

namespace Sp1Cluster

/-! ## The backoff library -/

/-- `ExponentialBackoff`, as far as the policies set it. Times are milliseconds. -/
structure ExponentialBackoff where
  initialInterval : ℕ
  maxElapsedTime : Option ℕ

/-- What one attempt of a call comes to, with the time since the call was made and
the interval that the library draws after it. -/
structure Attempted (α : Type) where
  answer : Except RpcCode α
  elapsed : ℕ
  interval : ℕ

namespace ExponentialBackoff

/-- The maximum elapsed time of the library: 15 minutes. -/
def defaultMaxElapsedTime : ℕ := 15 * 60 * 1000

/-- `ExponentialBackoffBuilder::new`. -/
def builder : ExponentialBackoff := ⟨500, some defaultMaxElapsedTime⟩

def withInitialInterval (interval : ℕ) (policy : ExponentialBackoff) : ExponentialBackoff :=
  { policy with initialInterval := interval }

/-- `next_backoff`: how long to wait for the next attempt, if there is one. -/
def nextBackoff (policy : ExponentialBackoff) (elapsed interval : ℕ) : Option ℕ :=
  match policy.maxElapsedTime with
  | none => some interval
  | some limit => if elapsed + interval ≤ limit then some interval else none

/-- `backoff::future::retry` over the attempts that it makes: nothing as long as it
has not returned. -/
def retryCall {α : Type} (policy : ExponentialBackoff) :
    List (Attempted α) → Option (Except RpcCode α)
  | [] => none
  | attempt :: later =>
    match retry attempt.answer with
    | some result => some result
    | none =>
      match policy.nextBackoff attempt.elapsed attempt.interval with
      | some _ => policy.retryCall later
      | none => some attempt.answer

/-- The attempts before the first answer that is not transient. -/
def outage {α : Type} (attempts : List (Attempted α)) : List (Attempted α) :=
  attempts.takeWhile fun attempt => (retry attempt.answer).isNone

def firstFinal {α : Type} (attempts : List (Attempted α)) : Option (Except RpcCode α) :=
  attempts.findSome? fun attempt => retry attempt.answer

/-- A policy sits an outage out, or gives up with a transient error during it. -/
theorem retryCall_cases {α : Type} (policy : ExponentialBackoff) (attempts : List (Attempted α)) :
    ((∀ attempt ∈ outage attempts,
          policy.nextBackoff attempt.elapsed attempt.interval ≠ none) ∧
        policy.retryCall attempts = firstFinal attempts) ∨
      ∃ attempt ∈ outage attempts,
        policy.nextBackoff attempt.elapsed attempt.interval = none ∧
          retry attempt.answer = none ∧ policy.retryCall attempts = some attempt.answer := by
  induction attempts with
  | nil => exact .inl ⟨nofun, rfl⟩
  | cons attempt later ih =>
    cases final : retry attempt.answer with
    | some result => exact .inl (by simp [outage, firstFinal, retryCall, final])
    | none =>
      have longer : outage (attempt :: later) = attempt :: outage later := by
        simp [outage, final]
      rw [longer]
      cases waits : policy.nextBackoff attempt.elapsed attempt.interval with
      | none =>
        refine .inr ⟨attempt, List.mem_cons_self, waits, final, ?_⟩
        simp only [retryCall, final, waits]
      | some interval =>
        have next : policy.retryCall (attempt :: later) = policy.retryCall later := by
          simp only [retryCall, final, waits]
        have same : firstFinal (attempt :: later) = firstFinal later := by
          simp [firstFinal, final]
        rw [next, same]
        rcases ih with ⟨patient, returns⟩ | ⟨last, member, givesUp⟩
        · refine .inl ⟨List.forall_mem_cons.mpr ⟨?_, patient⟩, returns⟩
          rw [waits]
          exact Option.some_ne_none _
        · exact .inr ⟨last, List.mem_cons_of_mem _ member, givesUp⟩

theorem firstFinal_eq_some {α : Type} {attempts : List (Attempted α)} {result : Except RpcCode α}
    (first : firstFinal attempts = some result) :
    retry result = some result ∧ ∃ attempt ∈ attempts, attempt.answer = result := by
  obtain ⟨attempt, member, final⟩ := List.exists_of_findSome?_eq_some first
  obtain rfl := retry_eq_some final
  exact ⟨final, attempt, member, rfl⟩

end ExponentialBackoff

/-! ## The policies and the calls -/

namespace WorkerServiceClient

open ExponentialBackoff

/-- `retry::INITIAL_INTERVAL`. -/
def initialInterval : ℕ := 100

/-- `retry::infinite`. -/
def infinite : ExponentialBackoff := builder.withInitialInterval initialInterval

def close (attempts : List (Attempted Unit)) : Option (Except RpcCode Unit) :=
  infinite.retryCall attempts

def completeTask (attempts : List (Attempted Unit)) : Option (Except RpcCode Unit) :=
  infinite.retryCall attempts

def failTask (attempts : List (Attempted Unit)) : Option (Except RpcCode Unit) :=
  infinite.retryCall attempts

/-- The calls that must eventually land. -/
inductive Report where
  | close
  | completeTask
  | failTask

/-- What a report returns, given what its attempts come to. -/
def Report.call : Report → List (Attempted Unit) → Option (Except RpcCode Unit)
  | .close => WorkerServiceClient.close
  | .completeTask => WorkerServiceClient.completeTask
  | .failTask => WorkerServiceClient.failTask

theorem Report.call_eq (report : Report) : report.call = infinite.retryCall := by
  cases report <;> rfl

/-- The attempt, with the interval after it, ends within the limit of the library. -/
abbrev InTime (attempt : Attempted Unit) : Prop :=
  attempt.elapsed + attempt.interval ≤ defaultMaxElapsedTime

theorem nextBackoff_infinite {attempt : Attempted Unit} :
    infinite.nextBackoff attempt.elapsed attempt.interval ≠ none ↔ InTime attempt := by
  change (if InTime attempt then some attempt.interval else none) ≠ none ↔ InTime attempt
  split <;> simp_all

/-- **A report fails only if it is rejected, exactly if every attempt of the outage is in time.**
The outage are the attempts before the first answer that is not transient. If each of them, with
the interval after it, ends within the limit of the library, then the report returns the first
answer that is not transient, and nothing during the outage. If one does not, the report returns
a transient error. -/
theorem report_rejected (report : Report) (attempts : List (Attempted Unit)) :
    ((∀ code, report.call attempts = some (.error code) →
        code.isTransient = false ∧ ∃ attempt ∈ attempts, attempt.answer = .error code) ↔
      ∀ attempt ∈ outage attempts, InTime attempt) ∧
    ((∀ attempt ∈ outage attempts, InTime attempt) ↔
      report.call attempts = firstFinal attempts) := by
  rw [report.call_eq]
  simp only [← nextBackoff_infinite]
  rcases infinite.retryCall_cases attempts with
    ⟨patient, returns⟩ | ⟨attempt, member, givesUp, transient, returns⟩
  · refine ⟨iff_of_true ?_ patient, iff_of_true patient returns⟩
    intro code returned
    obtain ⟨final, answered⟩ := firstFinal_eq_some (returns.symm.trans returned)
    refine ⟨?_, answered⟩
    by_contra transient
    rw [Bool.not_eq_false] at transient
    exact absurd final (by simp [retry, transient])
  · have late : ¬ ∀ attempt ∈ outage attempts,
        infinite.nextBackoff attempt.elapsed attempt.interval ≠ none :=
      fun patient => patient attempt member givesUp
    rw [returns]
    refine ⟨iff_of_false ?_ late, iff_of_false late ?_⟩
    · intro rejected
      cases answered : attempt.answer with
      | ok value => simp [answered, retry] at transient
      | error code =>
        have once := (rejected code (by rw [answered])).1
        simp [answered, retry, once] at transient
    · intro first
      have final := (firstFinal_eq_some first.symm).1
      rw [transient] at final
      cases final

/-- An attempt in each minute, as long as the coordinator is down. -/
def downFor (minutes : ℕ) : List (Attempted Unit) :=
  (List.range minutes).map fun minute => ⟨.error .unavailable, minute * 60000, 60000⟩

/-- An outage of ten minutes is sat out. -/
theorem report_rejected_tenMinutes :
    Report.completeTask.call (downFor 10 ++ [⟨.ok (), 600000, 60000⟩]) = some (.ok ()) :=
  (report_rejected .completeTask (downFor 10 ++ [⟨.ok (), 600000, 60000⟩])).2.mp
    (by decide)

/-- **An outage of sixteen minutes makes every report fail**: no attempt is rejected with a
status that is not transient, and the call gives up before the attempt that would succeed. -/
theorem outage_ends_reports :
    (∀ attempt ∈ downFor 16, ∃ code, attempt.answer = .error code ∧ code.isTransient = true) ∧
    ∀ report : Report,
      report.call (downFor 16 ++ [⟨.ok (), 960000, 60000⟩]) = some (.error .unavailable) := by
  constructor
  · intro attempt member
    obtain ⟨minute, -, rfl⟩ := List.mem_map.mp member
    exact ⟨.unavailable, rfl, rfl⟩
  · intro report
    rw [report.call_eq]
    rfl

end WorkerServiceClient

end Sp1Cluster
