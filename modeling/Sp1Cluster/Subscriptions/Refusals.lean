import Sp1Cluster.Coordinator.Policy.Laws
import Sp1Cluster.Coordinator.Frames
import Sp1Cluster.Subscriptions.Service

/-!
# Refused requests

An operation looks up what it needs and refuses the request when something is
missing. A refusal is meant to come before the first change. `create_task` does
it in the other order: it counts the task before it looks for the proof, so a
request for a proof that is not stored moves the counter of tasks.
-/

set_option autoImplicit false

namespace Sp1Cluster

open CoordinatorState

/-- The requests of clients and workers that can be refused. `addSubscriptions`
stands for the whole operation: its section under the lock cannot fail. -/
inductive Request where
  | createProof (request : CreateProofRequest)
  | createTask (data : TaskData)
  | completeTask (workerId proofId taskId : String) (metadata : TaskMetadata)
  | failTask (workerId proofId taskId : String) (retryable : Bool)
  | failProof (proofId : String) (taskId : Option String) (notifySender : Bool)
      (extraData : Option String)
  | handleHeartbeat (workerId : String) (activeTaskProofIds activeTaskIds : List String)
      (currentWeight : ℕ)
  | closeWorker (workerId : String)
  | addSubscriptions (subId : String) (taskIds : List String)

/-- A request other than a `create_task` for a proof that is not stored. -/
def Request.NamesProof {P : Type} (state : CoordinatorState P) : Request → Prop
  | .createTask data => data.proofId ∈ state.proofs
  | _ => True

namespace Coordinator

variable {P : Type} [AssignmentPolicy P]

/-- A call with what the caller gets. -/
def answer (build : Build) (env : Env) (call : Call) (coordinator : Coordinator P) :
    Coordinator P × Except Fault Unit :=
  (coordinator.call build ⟨env, call⟩, (coordinator.state.clearOutbox.exec build env call).reply)

/-- Serve a request: the coordinator after it, and what the caller gets. -/
def serve (build : Build) (env : Env) (coordinator : Coordinator P) :
    Request → Coordinator P × Except Fault Unit
  | .createProof request => coordinator.answer build env (.createProof request)
  | .createTask data => coordinator.answer build env (.createTask data)
  | .completeTask workerId proofId taskId metadata =>
    coordinator.answer build env (.completeTask workerId proofId taskId metadata)
  | .failTask workerId proofId taskId retryable =>
    coordinator.answer build env (.failTask workerId proofId taskId retryable)
  | .failProof proofId taskId notifySender extraData =>
    coordinator.answer build env (.failProof proofId taskId notifySender extraData)
  | .handleHeartbeat workerId activeTaskProofIds activeTaskIds currentWeight =>
    coordinator.answer build env
      (.handleHeartbeat workerId activeTaskProofIds activeTaskIds currentWeight)
  | .closeWorker workerId => coordinator.answer build env (.closeWorker workerId)
  | .addSubscriptions subId taskIds =>
    (coordinator.addSubscriptions subId taskIds (env.clock .call),
      if subId ∈ coordinator.subscribers then .ok ()
      else .error (.status (.notFound s!"subscriber {subId} not found")))

omit [AssignmentPolicy P] in
/-- A coordinator without the record of what its last section sent. -/
def atRest (coordinator : Coordinator P) : Coordinator P :=
  { coordinator with state := coordinator.state.clearOutbox }

end Coordinator

/-! ## Behind the lock -/

namespace CoordinatorState

variable {P : Type} [LawfulPolicy P] {build : Build} {state : CoordinatorState P} {env : Env}
  (late : ∀ read, 0 ≤ env.clock read)
include late

theorem assignThen_reply {α : Type} (value : α) (after : List Effect) :
    (state.assignThen build env value after).reply = .ok value := by
  have assigned := LawfulPolicy.assigns_ok build env state late
  unfold assignThen
  split
  · next result =>
    rw [result] at assigned
    cases assigned
  · rfl

theorem assignOrPanic_reply : (state.assignOrPanic build env).reply = .ok () := by
  have assigned := LawfulPolicy.assigns_ok build env state late
  unfold assignOrPanic
  split
  · next result =>
    rw [result] at assigned
    cases assigned
  · rfl

theorem createTaskInternal_reply {data : TaskData} (stored : data.proofId ∈ state.proofs) :
    (state.createTaskInternal build env data).reply = .ok env.taskId := by
  unfold createTaskInternal
  dsimp only
  split
  · next unknown => exact absurd stored (AList.lookup_eq_none.mp unknown)
  · exact assignThen_reply late _ _

/-- A request was granted, or it changed nothing and left nothing to be sent. -/
def GrantedOrInert {α : Type} (state : CoordinatorState P) (outcome : Outcome P α) : Prop :=
  (∃ value, outcome.reply = .ok value) ∨ (outcome.state = state ∧ outcome.after = [])

theorem inert_completeTask (workerId proofId taskId : String) (metadata : TaskMetadata) :
    state.GrantedOrInert (state.completeTask build env workerId proofId taskId metadata) := by
  unfold completeTask
  split
  · exact .inr ⟨rfl, rfl⟩
  · split
    · exact .inr ⟨rfl, rfl⟩
    · refine .inl ⟨(), ?_⟩
      dsimp only
      split
      · exact assignThen_reply late _ _
      · rfl

theorem inert_failTask (workerId proofId taskId : String) (retryable : Bool) :
    state.GrantedOrInert (state.failTask build env workerId proofId taskId retryable) := by
  unfold failTask
  split
  · exact .inr ⟨rfl, rfl⟩
  · split
    · exact .inr ⟨rfl, rfl⟩
    · split
      · exact .inr ⟨rfl, rfl⟩
      · split
        · exact .inr ⟨rfl, rfl⟩
        · refine .inl ⟨(), ?_⟩
          split
          · exact assignThen_reply late _ _
          · exact assignThen_reply late _ _

omit [LawfulPolicy P] late in
theorem inert_failProofInternal [AssignmentPolicy P] (env : Env) (proofId : String)
    (taskId : Option String) (notifySender : Bool) (extraData : Option String)
    (skip : Option (String × String)) :
    state.GrantedOrInert
      (state.failProofInternal build env proofId taskId notifySender extraData skip) := by
  unfold failProofInternal
  split
  · exact .inl ⟨(), rfl⟩
  · split
    · split
      · exact .inr ⟨rfl, rfl⟩
      · split <;> exact .inl ⟨(), rfl⟩
    · exact .inl ⟨(), rfl⟩

theorem inert_handleHeartbeat (workerId : String)
    (activeTaskProofIds activeTaskIds : List String) (currentWeight : ℕ) :
    state.GrantedOrInert (state.handleHeartbeat build env workerId activeTaskProofIds activeTaskIds
      currentWeight) := by
  unfold handleHeartbeat
  split
  · exact .inr ⟨rfl, rfl⟩
  · split
    · exact .inr ⟨rfl, rfl⟩
    · refine .inl ⟨(), ?_⟩
      dsimp only
      split
      · exact assignOrPanic_reply late
      · rfl

theorem inert_createProof (request : CreateProofRequest) :
    state.GrantedOrInert (state.createProof build env request) := by
  unfold createProof
  split
  · exact .inr ⟨rfl, rfl⟩
  · have stored : request.proofId ∈
        (state.insertProof env request.proofId request.expiresAt).proofs :=
      (AList.mem_insert _).mpr (.inl rfl)
    exact .inl ⟨_, createTaskInternal_reply late stored⟩

omit [LawfulPolicy P] late in
theorem inert_closeWorker (workerId : String) :
    state.GrantedOrInert (state.closeWorker workerId) := by
  unfold closeWorker
  split
  · exact .inl ⟨(), rfl⟩
  · exact .inr ⟨rfl, rfl⟩

omit [LawfulPolicy P] late in
theorem GrantedOrInert.void {α : Type} {outcome : Outcome P α}
    (inert : state.GrantedOrInert outcome) : state.GrantedOrInert outcome.void := by
  rcases inert with ⟨value, granted⟩ | unchanged
  · refine .inl ⟨(), ?_⟩
    unfold Outcome.void
    rw [granted]
    rfl
  · exact .inr unchanged

end CoordinatorState

/-! ## With the registry -/

namespace Coordinator

variable {P : Type} [LawfulPolicy P] {build : Build} {env : Env}

theorem answer_refused {coordinator : Coordinator P} {call : Call} {fault : Fault}
    (unsubscribing : call.subscribes = false)
    (inert : coordinator.state.clearOutbox.GrantedOrInert
      (coordinator.state.clearOutbox.exec build env call))
    (refused : (coordinator.answer build env call).2 = .error fault) :
    (coordinator.answer build env call).1.atRest = coordinator.atRest := by
  change (coordinator.state.clearOutbox.exec build env call).reply = .error fault at refused
  obtain ⟨same, nothing⟩ := inert.resolve_left (by
    rintro ⟨value, granted⟩
    rw [granted] at refused
    cases refused)
  unfold answer Coordinator.call
  rw [unsubscribing]
  simp only [Bool.false_eq_true, if_false, same, nothing, List.filterMap_nil, List.append_nil]
  rfl

/-- A refused request leaves the coordinator as it was, unless it creates a task
for a proof that is not stored. -/
theorem serve_refused (late : ∀ read, 0 ≤ env.clock read) (coordinator : Coordinator P)
    {request : Request} (named : request.NamesProof coordinator.state) {fault : Fault}
    (refused : (coordinator.serve build env request).2 = .error fault) :
    (coordinator.serve build env request).1.atRest = coordinator.atRest := by
  cases request with
  | createProof request =>
    exact answer_refused rfl (inert_createProof late request).void refused
  | createTask data =>
    have stored : data.proofId ∈ coordinator.state.clearOutbox.proofs := named
    exact answer_refused rfl
      (GrantedOrInert.void (.inl ⟨_, createTaskInternal_reply late stored⟩)) refused
  | completeTask workerId proofId taskId metadata =>
    exact answer_refused rfl (inert_completeTask late workerId proofId taskId metadata) refused
  | failTask workerId proofId taskId retryable =>
    exact answer_refused rfl (inert_failTask late workerId proofId taskId retryable) refused
  | failProof proofId taskId notifySender extraData =>
    exact answer_refused rfl
      (inert_failProofInternal env proofId taskId notifySender extraData none) refused
  | handleHeartbeat workerId activeTaskProofIds activeTaskIds currentWeight =>
    exact answer_refused rfl
      (inert_handleHeartbeat late workerId activeTaskProofIds activeTaskIds currentWeight)
      refused
  | closeWorker workerId => exact answer_refused rfl (inert_closeWorker workerId) refused
  | addSubscriptions subId taskIds =>
    change (coordinator.addSubscriptions subId taskIds _).atRest = _
    change (if subId ∈ coordinator.subscribers then _ else _) = _ at refused
    split at refused
    · cases refused
    · next unknown =>
      unfold addSubscriptions
      rw [AList.lookup_eq_none.mpr unknown]

/-- A request that is refused has no effect. -/
def RefusesInertly (build : Build) (env : Env) (coordinator : Coordinator P) (request : Request) :
    Prop :=
  ∀ fault, (coordinator.serve build env request).2 = .error fault →
    (coordinator.serve build env request).1.atRest = coordinator.atRest

omit [LawfulPolicy P] in
/-- A task for a proof that is not stored is refused, and counted. -/
theorem createTask_unstored [AssignmentPolicy P] (build : Build) (env : Env)
    (coordinator : Coordinator P) {data : TaskData} (unstored : data.proofId ∉ coordinator.state.proofs) :
    (∃ fault, (coordinator.serve build env (.createTask data)).2 = .error fault) ∧
      (coordinator.serve build env (.createTask data)).1.state.totalTasks =
        coordinator.state.totalTasks + 1 := by
  have missing : coordinator.state.clearOutbox.proofs.lookup data.proofId = none :=
    AList.lookup_eq_none.mpr unstored
  have counted : coordinator.state.clearOutbox.exec build env (.createTask data) =
      { state := { coordinator.state.clearOutbox with
          totalTasks := coordinator.state.totalTasks + 1 }
        reply := .error (.status (.notFound s!"proof {data.proofId} not found")) } := by
    change (createTaskInternal build env data _).void = _
    unfold createTaskInternal
    dsimp only
    rw [missing]
    rfl
  constructor
  · exact ⟨_, congrArg Outcome.reply counted⟩
  · change (Coordinator.call build ⟨env, .createTask data⟩ coordinator).state.totalTasks = _
    unfold Coordinator.call
    simp only [Call.subscribes, Bool.false_eq_true, if_false, counted]
    rfl

theorem refusesInertly_iff (late : ∀ read, 0 ≤ env.clock read) (coordinator : Coordinator P)
    (request : Request) :
    coordinator.RefusesInertly build env request ↔ request.NamesProof coordinator.state := by
  constructor
  · intro inert
    cases request with
    | createTask data =>
      by_contra unstored
      obtain ⟨⟨fault, refused⟩, counted⟩ :=
        createTask_unstored build env coordinator unstored
      have same := congrArg (fun coordinator => coordinator.state.totalTasks) (inert fault refused)
      exact absurd (counted.symm.trans same) (Nat.succ_ne_self _)
    | _ => trivial
  · exact fun named fault refused => coordinator.serve_refused late named refused

end Coordinator

/-- **When a refused request has no effect**, under both policies and with any clock after the
epoch: exactly if it does not create a task for a proof that is not stored. -/
theorem refused_requests_change_nothing (build : Build) (env : Env)
    (late : ∀ read, 0 ≤ env.clock read) (request : Request) :
    (∀ coordinator : Coordinator DefaultPolicy,
      coordinator.RefusesInertly build env request ↔ request.NamesProof coordinator.state) ∧
    (∀ coordinator : Coordinator BalancedPolicy,
      coordinator.RefusesInertly build env request ↔ request.NamesProof coordinator.state) :=
  ⟨fun coordinator => coordinator.refusesInertly_iff late request,
    fun coordinator => coordinator.refusesInertly_iff late request⟩

/-- A worker holds the controller of a proof. -/
def oneController : List ServiceEvent :=
  [.call ((Call.register "w" .cpu 8).plain ""), .call ((Call.claim "p").plain "t")]

/-- A failure report for another task is refused. -/
theorem refused_requests_change_nothing_failTask :
    ((Coordinator.reach DefaultPolicy .plain oneController).serve .plain (.plain 1000000000 "")
        (.failTask "w" "p" "u" true)).2 =
      .error (.status ⟨.failedPrecondition, "worker w is not working on task u"⟩) ∧
    ((Coordinator.reach DefaultPolicy .plain oneController).serve .plain (.plain 1000000000 "")
        (.failTask "w" "p" "u" true)).1.atRest =
      (Coordinator.reach DefaultPolicy .plain oneController).atRest ∧
    ((Coordinator.reach BalancedPolicy .plain oneController).serve .plain (.plain 1000000000 "")
        (.failTask "w" "p" "u" true)).1.atRest =
      (Coordinator.reach BalancedPolicy .plain oneController).atRest := by
  have late : ∀ read, 0 ≤ (Env.plain 1000000000 "").clock read := by
    intro read
    exact (by decide : (0 : ℤ) ≤ 1000000000)
  have refusals := refused_requests_change_nothing .plain _ late (.failTask "w" "p" "u" true)
  exact ⟨rfl, (refusals.1 _).mpr trivial _ rfl, (refusals.2 _).mpr trivial _ rfl⟩

/-- A task for a proof that is not stored is refused, and counted. -/
theorem refused_task_counted :
    let request : Request :=
      .createTask ⟨.proveShard, [], [], "", "p", Option.none, 1, ""⟩
    ((Coordinator.reach DefaultPolicy .plain []).serve .plain (.plain 1000000000 "t") request).2 =
        .error (.status (.notFound "proof p not found")) ∧
      (Coordinator.reach DefaultPolicy .plain []).state.totalTasks = 0 ∧
      ((Coordinator.reach DefaultPolicy .plain []).serve .plain (.plain 1000000000 "t")
        request).1.atRest.state.totalTasks = 1 ∧
      ((Coordinator.reach DefaultPolicy .plain []).serve .plain (.plain 1000000000 "t")
        request).1.atRest ≠ (Coordinator.reach DefaultPolicy .plain []).atRest := by
  refine ⟨rfl, rfl, rfl, ?_⟩
  intro same
  have counted := congrArg (fun coordinator => coordinator.state.totalTasks) same
  exact absurd counted Nat.one_ne_zero

end Sp1Cluster
