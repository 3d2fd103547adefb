import Sp1Cluster.Gateway.Requests

/-!
# Batches of proof requests

`request_proofs` of the client library creates the rows of a batch one after the
other and then polls them until all are completed. When a call fails it cancels the
requests that it still has on its list.

A request comes onto the list once its create call has returned without an error.
The call repeats an attempt after a transient error. If the attempt that stored the
row lost its reply, the next attempt is refused because the row exists, or fails as
well, so the call fails although the row is there.

The printed durations are inputs. Between two create calls other clients may change
the rows.
-/

set_option autoImplicit false

namespace Sp1Cluster

open ProverNetwork (createProofRequest)

/-! ## The requests of a batch -/

/-- `ProofRequest` of the client library; when it was created is only printed. -/
structure CreatedRequest where
  proofId : String
  proofOutputId : String
  deadline : SystemTime

/-- `ProofRequestResults`, with the printed duration. -/
structure ProofRequestResults where
  proofId : String
  proof : List UInt8
  elapsed : String

structure PollAnswers where
  now : SystemTime
  get : Except String (Option ProofRequestStatus)
  download : Except String (List UInt8)
  elapsed : String

def checkProofStatus (request : CreatedRequest) (answers : PollAnswers) :
    Except String (Option ProofRequestResults) :=
  if request.deadline < answers.now then
    .error s!"Timeout exceeded for proof request after {answers.elapsed}"
  else
    match answers.get with
    | .error error => .error error
    | .ok none => .error s!"Proof request not found after {answers.elapsed}"
    | .ok (some .completed) =>
      match answers.download with
      | .error error => .error s!"failed to download proof {request.proofId}: {error}"
      | .ok proof => .ok (some ⟨request.proofId, proof, answers.elapsed⟩)
    | .ok (some .failed) => .error s!"Proof request Failed after {answers.elapsed}"
    | .ok (some .cancelled) => .error s!"Proof request Cancelled after {answers.elapsed}"
    | .ok (some _) => .ok none

theorem checkProofStatus_proofId {request : CreatedRequest} {answers : PollAnswers}
    {result : ProofRequestResults} (completed : checkProofStatus request answers = .ok (some result)) :
    result.proofId = request.proofId := by
  unfold checkProofStatus at completed
  split at completed
  · cases completed
  · split at completed
    · cases completed
    · cases completed
    · split at completed <;> cases completed
      rfl
    all_goals cases completed

/-- What a batch meets until it has created its requests, and the answers to its
cancel calls. -/
structure BatchAnswers where
  connect : Except String Unit
  artifacts : Except String (String × String)
  millis : ℕ
  deadline : SystemTime
  mode : ℤ
  output : ℕ → Except String String
  others : ℕ → Rows → Rows
  firstAttempt : ℕ → SystemTime × Fate
  laterAttempts : ℕ → List (SystemTime × Fate)
  clusterError : RpcCode → String
  cancel : String → Except String Unit

/-- A batch: the rows of the cluster, the create calls it has made, each with its index and
the rows before it, the rows that the batch has inserted, the results it has, and the rows
it has called `cancel_proof_request` for. -/
structure Batch where
  rows : Rows
  calls : List (ℕ × Rows)
  inserted : List String
  results : List ProofRequestResults
  cancelled : List String

namespace BatchAnswers

variable (answers : BatchAnswers)

def proofId (index : ℕ) : String := s!"cli_{answers.millis}_{index}"

/-- `cancel_pending_requests`. -/
def cancelPendingRequests (pending : List CreatedRequest) (batch : Batch) :
    Batch × Except String Unit :=
  let failures := pending.filterMap fun request =>
    match answers.cancel request.proofId with
    | .ok () => none
    | .error error => some s!"{request.proofId}: {error}"
  ({ batch with cancelled := batch.cancelled ++ pending.map (·.proofId) },
    if failures.isEmpty then .ok ()
    else
      let joined := "; ".intercalate failures
      .error s!"failed to cancel {failures.length} proof requests: {joined}")

/-- `error_after_cancelling`. -/
def errorAfterCancelling (pending : List CreatedRequest) (error : String) (batch : Batch) :
    Batch × String :=
  match answers.cancelPendingRequests pending batch with
  | (batch, .ok ()) => (batch, error)
  | (batch, .error cancelError) =>
    (batch, s!"{error}; batch cleanup also failed: {cancelError}")

/-- The row that the batch asks for. -/
def createRequest (elfId stdinId : String) (index : ℕ) (outputId : String) :
    ProofRequestCreateRequest where
  proofId := answers.proofId index
  programArtifactId := elfId
  stdinArtifactId := stdinId
  optionsArtifactId := some (toString answers.mode)
  proofArtifactId := some outputId
  requester := []
  deadline := (answers.deadline / 1000000000).toNat
  cycleLimit := 2 ^ 64 - 1
  gasLimit := 2 ^ 64 - 1
  scheduledBy := none
  stdinPrivate := false

/-- The call of `create_proof_request`. The row is inserted by it if it was not there
before. -/
def create (request : ProofRequestCreateRequest) (index : ℕ) (batch : Batch) :
    Batch × Except RpcCode Unit :=
  let before := answers.others index batch.rows
  let (rows, created) := createProofRequest request (answers.firstAttempt index)
    (answers.laterAttempts index) before
  let new := if request.proofId ∉ before ∧ request.proofId ∈ rows then [request.proofId] else []
  ({ batch with
      rows := rows
      calls := batch.calls ++ [(index, before)]
      inserted := batch.inserted ++ new },
    created)

/-- The loop of `create_requests`. -/
def createRequests (elfId stdinId : String) :
    ℕ → ℕ → List CreatedRequest → Batch → Batch × Except String (List CreatedRequest)
  | 0, _, requests, batch => (batch, .ok requests)
  | left + 1, index, requests, batch =>
    match answers.output index with
    | .error error => (answers.errorAfterCancelling requests error batch).map id .error
    | .ok outputId =>
      match answers.create (answers.createRequest elfId stdinId index outputId) index batch with
      | (batch, .error code) =>
        (answers.errorAfterCancelling requests (answers.clusterError code) batch).map id .error
      | (batch, .ok ()) =>
        createRequests elfId stdinId left (index + 1)
          (requests ++ [⟨answers.proofId index, outputId, answers.deadline⟩]) batch

/-- What a round of the loop goes on with: the next round starts once all requests of
this one are checked. -/
def nextRound (pendingIter stillPending : List CreatedRequest) :
    List CreatedRequest × List CreatedRequest :=
  if pendingIter.isEmpty then (stillPending, []) else (pendingIter, stillPending)

/-- The loop of `request_proofs` over the requests that are to be checked in this round
and those that are still pending after it; nothing as long as it has not returned. -/
def poll : List PollAnswers → List CreatedRequest × List CreatedRequest → Batch →
    Batch × Option (Except String (List ProofRequestResults))
  | _, ([], _), batch => (batch, some (.ok batch.results))
  | [], _, batch => (batch, none)
  | check :: checks, (request :: pendingIter, stillPending), batch =>
    match checkProofStatus request check with
    | .ok (some result) =>
      poll checks (nextRound pendingIter stillPending)
        { batch with results := batch.results ++ [result] }
    | .ok none => poll checks (nextRound pendingIter (stillPending ++ [request])) batch
    | .error error =>
      (answers.errorAfterCancelling (stillPending ++ [request] ++ pendingIter) error batch).map id
        fun error => some (.error error)

def requestProofs (count : ℕ) (checks : List PollAnswers) (rows : Rows) :
    Batch × Option (Except String (List ProofRequestResults)) :=
  let batch : Batch := ⟨rows, [], [], [], []⟩
  match answers.connect, answers.artifacts with
  | .error error, _ | .ok (), .error error => (batch, some (.error error))
  | .ok (), .ok (elfId, stdinId) =>
    match answers.createRequests elfId stdinId count 0 [] batch with
    | (batch, .error error) => (batch, some (.error error))
    | (batch, .ok pending) => answers.poll checks (pending, []) batch

/-! ## What a failed batch has cancelled -/

variable {answers} {batch : Batch} {pending pendingIter stillPending : List CreatedRequest}

/-- Every row that the batch has inserted is completed or satisfies a property. -/
def Accounts (batch : Batch) (property : String → Prop) : Prop :=
  ∀ proofId ∈ batch.inserted,
    (∃ result ∈ batch.results, result.proofId = proofId) ∨ property proofId

def Lists (pending : List CreatedRequest) (proofId : String) : Prop :=
  ∃ request ∈ pending, request.proofId = proofId

theorem Accounts.mono {property weaker : String → Prop} (accounts : Accounts batch property)
    (implies : ∀ proofId, property proofId → weaker proofId) : Accounts batch weaker :=
  fun proofId member => (accounts proofId member).imp_right (implies proofId)

theorem errorAfterCancelling_fst (error : String) :
    (answers.errorAfterCancelling pending error batch).1 =
      { batch with cancelled := batch.cancelled ++ pending.map (·.proofId) } := by
  unfold errorAfterCancelling cancelPendingRequests
  dsimp only
  split <;> next returned => exact (congrArg Prod.fst returned).symm

theorem Accounts.cancelled (accounts : Accounts batch (Lists pending)) (error : String) :
    Accounts (answers.errorAfterCancelling pending error batch).1
      (· ∈ (answers.errorAfterCancelling pending error batch).1.cancelled) := by
  rw [errorAfterCancelling_fst]
  intro proofId member
  exact (accounts proofId member).imp_right fun listed =>
    List.mem_append_right _ (List.mem_map.mpr listed)

theorem lists_nextRound {proofId : String}
    (listed : Lists (stillPending ++ pendingIter) proofId) :
    Lists ((nextRound pendingIter stillPending).2 ++ (nextRound pendingIter stillPending).1)
      proofId := by
  unfold nextRound
  split
  · next done =>
    rw [List.isEmpty_iff] at done
    simpa [done] using listed
  · exact listed

/-! ## Replies that are lost -/

/-- The first attempt of a call that arrives loses its reply. The attempts before it are lost
with transient errors, after which the client tries again. -/
def losesReply : List Fate → Bool
  | [] => false
  | .requestLost code :: later => code.isTransient && losesReply later
  | .replyLost _ :: _ => true
  | .answered :: _ => false

section Creating

variable (request : ProofRequestCreateRequest)

theorem createProofRequest_of_error {attempt : SystemTime × Fate} {rows after : Rows}
    {code : RpcCode} (failed : ProverNetwork.attemptCreate request attempt rows = (after, .error code))
    (later : List (SystemTime × Fate)) :
    createProofRequest request attempt later rows =
      match later with
      | [] => (after, .error code)
      | next :: later =>
        if code.isTransient then createProofRequest request next later after
        else (after, .error code) := by
  rw [createProofRequest, failed]
  simp only [retry]
  cases later <;> cases code.isTransient <;> rfl

theorem attemptCreate_of_mem (attempt : SystemTime × Fate) {rows : Rows}
    (present : request.proofId ∈ rows) :
    request.proofId ∈ (ProverNetwork.attemptCreate request attempt rows).1 ∧
      (ProverNetwork.attemptCreate request attempt rows).2 ≠ .ok () := by
  obtain ⟨now, code | code | -⟩ := attempt
  · exact ⟨present, nofun⟩
  · exact ⟨rows.mem_proofRequestCreate request now, nofun⟩
  · refine ⟨rows.mem_proofRequestCreate request now, ?_⟩
    simp [ProverNetwork.attemptCreate, Rows.proofRequestCreate, present, Except.mapError]

theorem createProofRequest_of_mem (attempt : SystemTime × Fate) (later : List (SystemTime × Fate))
    {rows : Rows} (present : request.proofId ∈ rows) :
    request.proofId ∈ (createProofRequest request attempt later rows).1 ∧
      (createProofRequest request attempt later rows).2 ≠ .ok () := by
  obtain ⟨last, -, before, stays, same⟩ := ProverNetwork.createProofRequest_rule
    (motive := (request.proofId ∈ ·))
    (fun attempt _ present => (attemptCreate_of_mem request attempt present).1) attempt later present
  rw [same]
  exact attemptCreate_of_mem request last stays

theorem createProofRequest_answered (now : SystemTime) (later : List (SystemTime × Fate))
    {rows : Rows} (absent : request.proofId ∉ rows) :
    (createProofRequest request (now, .answered) later rows).2 = .ok () := by
  rw [createProofRequest]
  simp [ProverNetwork.attemptCreate, Rows.proofRequestCreate, absent, retry, Except.mapError]

/-- **When a call that stores its row fails**: exactly if the attempt that stored it lost its
reply. -/
theorem createProofRequest_fails (attempt : SystemTime × Fate) (later : List (SystemTime × Fate))
    {rows : Rows} (absent : request.proofId ∉ rows) :
    request.proofId ∈ (createProofRequest request attempt later rows).1 ∧
        (createProofRequest request attempt later rows).2 ≠ .ok () ↔
      losesReply (attempt.2 :: later.map Prod.snd) = true := by
  induction later generalizing attempt with
  | nil =>
    obtain ⟨now, code | code | -⟩ := attempt
    · rw [createProofRequest_of_error request rfl]
      simp [losesReply, absent]
    · rw [createProofRequest_of_error request rfl]
      exact iff_of_true ⟨rows.mem_proofRequestCreate request now, by simp⟩ rfl
    · simp [createProofRequest_answered request now [] absent, losesReply]
  | cons next later ih =>
    obtain ⟨now, code | code | -⟩ := attempt
    · rw [createProofRequest_of_error request rfl, losesReply]
      cases code.isTransient with
      | true => simpa using ih next
      | false => simp [absent]
    · rw [createProofRequest_of_error request rfl]
      have stored := rows.mem_proofRequestCreate request now
      refine iff_of_true ?_ rfl
      dsimp only
      split
      · exact createProofRequest_of_mem request next later stored
      · exact ⟨stored, by simp⟩
    · simp [createProofRequest_answered request now (next :: later) absent, losesReply]

end Creating

/-- A create call does not lose the reply to the attempt that stores its row. -/
def Kept (answers : BatchAnswers) (call : ℕ × Rows) : Prop :=
  answers.proofId call.1 ∉ call.2 →
    losesReply ((answers.firstAttempt call.1).2 :: (answers.laterAttempts call.1).map Prod.snd) =
      false

theorem proofId_injective : Function.Injective answers.proofId := by
  intro first second same
  have printed : first.repr = second.repr := by simpa [proofId] using same
  have digits := congrArg (Nat.ofDigitChars 10 ·.toList 0) printed
  simpa [Nat.repr_eq_ofList_toDigits, Nat.ofDigitChars_toDigits] using digits

/-- What holds while requests are created: every inserted row is on the list, which has the
requests of earlier calls, and no reply that counts was lost. -/
structure Creating (answers : BatchAnswers) (index : ℕ) (requests : List CreatedRequest)
    (batch : Batch) : Prop where
  accounts : Accounts batch (Lists requests)
  kept : ∀ call ∈ batch.calls, answers.Kept call
  earlier : ∀ request ∈ requests, ∃ before < index, request.proofId = answers.proofId before
  results : batch.results = []
  cancelled : batch.cancelled = []

section Create

variable {index : ℕ} {request : ProofRequestCreateRequest}

theorem kept_of_create (own : request.proofId = answers.proofId index)
    (returned : (answers.create request index batch).2 = .ok ()) :
    answers.Kept (index, answers.others index batch.rows) := by
  intro absent
  by_contra loses
  rw [Bool.not_eq_false] at loses
  exact ((createProofRequest_fails request _ _ (own ▸ absent)).mpr loses).2 returned

/-- A create call that fails has inserted its row exactly if it lost the reply. -/
theorem inserted_of_create (own : request.proofId = answers.proofId index)
    (failed : (answers.create request index batch).2 ≠ .ok ()) :
    (answers.Kept (index, answers.others index batch.rows) →
        (answers.create request index batch).1.inserted = batch.inserted) ∧
      (¬ answers.Kept (index, answers.others index batch.rows) →
        answers.proofId index ∈ (answers.create request index batch).1.inserted) := by
  have inserted : (answers.create request index batch).1.inserted = batch.inserted ++
      if request.proofId ∉ answers.others index batch.rows ∧
          request.proofId ∈ (createProofRequest request (answers.firstAttempt index)
            (answers.laterAttempts index) (answers.others index batch.rows)).1
        then [request.proofId] else [] := rfl
  constructor
  · intro kept
    rw [inserted, if_neg, List.append_nil]
    rintro ⟨absent, present⟩
    have loses := (createProofRequest_fails request _ _ absent).mp ⟨present, failed⟩
    rw [kept (own ▸ absent)] at loses
    cases loses
  · intro lost
    obtain ⟨absent, loses⟩ := Classical.not_imp.mp lost
    rw [Bool.not_eq_false] at loses
    have present := ((createProofRequest_fails request _ _ (own ▸ absent)).mpr loses).1
    rw [inserted, if_pos ⟨own ▸ absent, present⟩, own]
    exact List.mem_append_right _ (List.mem_singleton_self _)

end Create

/-- What a batch that has failed has cancelled, and when. -/
def Settles (answers : BatchAnswers) (batch : Batch) : Prop :=
  Accounts batch (· ∈ batch.cancelled) ↔ ∀ call ∈ batch.calls, answers.Kept call

namespace Creating

variable {index : ℕ} {requests : List CreatedRequest}
  (creating : Creating answers index requests batch)
include creating

theorem settles_of_output (error : String) :
    answers.Settles (answers.errorAfterCancelling requests error batch).1 := by
  refine iff_of_true (creating.accounts.cancelled error) ?_
  rw [errorAfterCancelling_fst]
  exact creating.kept

variable {request : ProofRequestCreateRequest} (own : request.proofId = answers.proofId index)
include own

theorem next (outputId : String) (returned : (answers.create request index batch).2 = .ok ()) :
    Creating answers (index + 1)
      (requests ++ [⟨answers.proofId index, outputId, answers.deadline⟩])
      (answers.create request index batch).1 where
  accounts := by
    intro proofId member
    rcases List.mem_append.mp member with before | new
    · refine (creating.accounts proofId before).imp_right ?_
      rintro ⟨listed, here, rfl⟩
      exact ⟨listed, List.mem_append_left _ here, rfl⟩
    · split at new
      · rw [List.mem_singleton.mp new, own]
        exact .inr ⟨_, List.mem_append_right _ (List.mem_singleton_self _), rfl⟩
      · cases new
  kept := List.forall_mem_append.mpr
    ⟨creating.kept, List.forall_mem_singleton.mpr (kept_of_create own returned)⟩
  earlier := by
    refine List.forall_mem_append.mpr ⟨?_, ?_⟩
    · intro listed here
      obtain ⟨before, earlier, same⟩ := creating.earlier listed here
      exact ⟨before, Nat.lt_succ_of_lt earlier, same⟩
    · exact List.forall_mem_singleton.mpr ⟨index, Nat.lt_succ_self index, rfl⟩
  results := creating.results
  cancelled := creating.cancelled

/-- The requests on the list are cancelled when a create call fails, and its own row is not on
the list. -/
theorem settles_of_create (error : String)
    (failed : (answers.create request index batch).2 ≠ .ok ()) :
    answers.Settles
      (answers.errorAfterCancelling requests error (answers.create request index batch).1).1 := by
  have inserted := inserted_of_create own failed
  by_cases kept : answers.Kept (index, answers.others index batch.rows)
  · refine iff_of_true (Accounts.cancelled ?_ error) ?_
    · intro proofId member
      exact creating.accounts proofId (inserted.1 kept ▸ member)
    · rw [errorAfterCancelling_fst]
      exact List.forall_mem_append.mpr ⟨creating.kept, List.forall_mem_singleton.mpr kept⟩
  · rw [Settles, errorAfterCancelling_fst]
    refine iff_of_false ?_ fun all =>
      kept (all _ (List.mem_append_right _ (List.mem_singleton_self _)))
    intro accounts
    rcases accounts _ (inserted.2 kept) with ⟨result, member, -⟩ | cancelled
    · cases creating.results ▸ member
    · change _ ∈ batch.cancelled ++ _ at cancelled
      rw [creating.cancelled, List.nil_append] at cancelled
      obtain ⟨listed, here, same⟩ := List.mem_map.mp cancelled
      obtain ⟨before, earlier, other⟩ := creating.earlier listed here
      exact absurd (proofId_injective (other.symm.trans same)) earlier.ne

end Creating

/-- While requests are created every inserted row is on the list; if that fails, the rows on
the list are cancelled. -/
theorem createRequests_settles (elfId stdinId : String) (left index : ℕ)
    {requests : List CreatedRequest} (creating : Creating answers index requests batch) :
    match answers.createRequests elfId stdinId left index requests batch with
    | (batch, .ok pending) => ∃ next, Creating answers next pending batch
    | (batch, .error _) => answers.Settles batch := by
  induction left generalizing index requests batch with
  | zero => exact ⟨index, creating⟩
  | succ left ih =>
    rw [createRequests]
    cases answers.output index with
    | error error => exact creating.settles_of_output error
    | ok outputId =>
      have own : (answers.createRequest elfId stdinId index outputId).proofId =
        answers.proofId index := rfl
      have next := creating.next own outputId
      have settles := creating.settles_of_create own
      dsimp only
      generalize answers.create _ index batch = called at next settles ⊢
      obtain ⟨batch', code | ⟨⟩⟩ := called
      · exact settles (answers.clusterError code) nofun
      · exact ih (index + 1) (next rfl)

/-- While requests are polled every inserted row is completed or on a list. -/
theorem poll_accounts (checks : List PollAnswers)
    {lists : List CreatedRequest × List CreatedRequest} {error : String}
    (accounts : Accounts batch (Lists (lists.2 ++ lists.1)))
    (failed : (answers.poll checks lists batch).2 = some (.error error)) :
    Accounts (answers.poll checks lists batch).1
      (· ∈ (answers.poll checks lists batch).1.cancelled) := by
  induction checks generalizing lists batch with
  | nil =>
    obtain ⟨_ | ⟨request, pendingIter⟩, stillPending⟩ := lists <;> rw [poll] at failed <;>
      cases failed
  | cons check checks ih =>
    obtain ⟨_ | ⟨request, pendingIter⟩, stillPending⟩ := lists
    · rw [poll] at failed
      cases failed
    · rw [poll] at failed ⊢
      cases checked : checkProofStatus request check with
      | error text =>
        refine Accounts.cancelled ?_ text
        rwa [List.append_assoc, List.singleton_append]
      | ok answer =>
        simp only [checked] at failed ⊢
        cases answer with
        | none =>
          refine ih (accounts.mono fun _ listed => lists_nextRound ?_) failed
          rwa [List.append_assoc, List.singleton_append]
        | some result =>
          refine ih ?_ failed
          have own : result.proofId = request.proofId := checkProofStatus_proofId checked
          intro proofId member
          rcases accounts proofId member with ⟨done, before, rfl⟩ | ⟨other, listed, rfl⟩
          · exact .inl ⟨done, List.mem_append_left _ before, rfl⟩
          · rcases List.mem_append.mp listed with still | here
            · exact .inr (lists_nextRound ⟨other, List.mem_append_left _ still, rfl⟩)
            · rcases List.mem_cons.mp here with rfl | later
              · exact .inl ⟨result, List.mem_append_right _ (List.mem_singleton_self _), own⟩
              · exact .inr (lists_nextRound ⟨other, List.mem_append_right _ later, rfl⟩)

theorem poll_calls (checks : List PollAnswers)
    (lists : List CreatedRequest × List CreatedRequest) (batch : Batch) :
    (answers.poll checks lists batch).1.calls = batch.calls := by
  induction checks generalizing lists batch with
  | nil => obtain ⟨_ | ⟨request, pendingIter⟩, stillPending⟩ := lists <;> rfl
  | cons check checks ih =>
    obtain ⟨_ | ⟨request, pendingIter⟩, stillPending⟩ := lists
    · rfl
    · rw [poll]
      split
      · exact ih ..
      · exact ih ..
      · change (answers.errorAfterCancelling _ _ batch).1.calls = _
        rw [errorAfterCancelling_fst]

/-- **When a failed batch leaves nothing running.** A batch that returns an error has called for
a cancellation of every row that it has inserted and not seen completed, exactly if for every
create call that it has made, and whose row was not there before, the first attempt that arrived
did not lose its reply. -/
theorem failed_batch_cancelled (answers : BatchAnswers) (count : ℕ) (checks : List PollAnswers)
    (rows : Rows) (error : String)
    (failed : (answers.requestProofs count checks rows).2 = some (.error error)) :
    (∀ proofId ∈ (answers.requestProofs count checks rows).1.inserted,
      (∃ result ∈ (answers.requestProofs count checks rows).1.results,
        result.proofId = proofId) ∨
      proofId ∈ (answers.requestProofs count checks rows).1.cancelled) ↔
    ∀ call ∈ (answers.requestProofs count checks rows).1.calls,
      answers.proofId call.1 ∉ call.2 →
        losesReply
          ((answers.firstAttempt call.1).2 :: (answers.laterAttempts call.1).map Prod.snd) =
            false := by
  change answers.Settles (answers.requestProofs count checks rows).1
  unfold requestProofs at *
  dsimp only at *
  split at failed
  · exact iff_of_true nofun nofun
  · exact iff_of_true nofun nofun
  · next elfId stdinId _ _ =>
      have start : Creating answers 0 [] ⟨rows, [], [], [], []⟩ := ⟨nofun, nofun, nofun, rfl, rfl⟩
      have created := createRequests_settles elfId stdinId count 0 start
      generalize answers.createRequests elfId stdinId count 0 [] ⟨rows, [], [], [], []⟩ = outcome
        at *
      obtain ⟨batch, text | pending⟩ := outcome
      · exact created
      · obtain ⟨next, creating⟩ := created
        refine iff_of_true (poll_accounts checks creating.accounts failed) ?_
        dsimp only
        rw [poll_calls]
        exact creating.kept

/-- A cluster that answers, and an artifact store with room for one output. -/
def oneOutput : BatchAnswers where
  connect := .ok ()
  artifacts := .ok ("elf", "stdin")
  millis := 1
  deadline := 1
  mode := 0
  output index := if index = 0 then .ok "output" else .error "full"
  others _ := id
  firstAttempt _ := (0, .answered)
  laterAttempts _ := []
  clusterError _ := "status: AlreadyExists"
  cancel _ := .ok ()

theorem failed_batch_cancelled_oneOutput :
    (oneOutput.requestProofs 2 [] ∅).2 = some (.error "full") ∧
      oneOutput.proofId 0 ∈ (oneOutput.requestProofs 2 [] ∅).1.cancelled := by
  have failed : (oneOutput.requestProofs 2 [] ∅).2 = some (.error "full") := rfl
  have inserted : oneOutput.proofId 0 ∈ (oneOutput.requestProofs 2 [] ∅).1.inserted :=
    List.mem_singleton_self _
  refine ⟨failed, ((failed_batch_cancelled oneOutput 2 [] ∅ "full" failed).mpr ?_ _
    inserted).resolve_left ?_⟩
  · intro call _ _
    rfl
  · rintro ⟨result, member, -⟩
    cases member

/-- **A lost reply leaves a row running**: the first attempt stores the row, the second is refused,
and the batch fails without a call to cancel it. -/
theorem lost_reply_uncancelled :
    let answers := { oneOutput with
      firstAttempt := fun _ => (0, .replyLost .unavailable)
      laterAttempts := fun _ => [(0, .answered)] }
    let outcome := answers.requestProofs 1 [] ∅
    outcome.2 = some (.error "status: AlreadyExists") ∧
      outcome.1.inserted = [answers.proofId 0] ∧ outcome.1.results = [] ∧
      outcome.1.cancelled = [] :=
  ⟨rfl, rfl, rfl, rfl⟩

end BatchAnswers

end Sp1Cluster
