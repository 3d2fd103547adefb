import Sp1Cluster.Client.Retries
import Sp1Cluster.Cluster.Service
import Sp1Cluster.Gateway.ProgramStore
import Mathlib.Data.List.DropRight

/-!
# Proof requests through the network gateway

The gateway offers the cluster's proof requests under the interface of the prover
network. It has no table of its own: each call is answered from the rows of the
cluster API. Between the two interfaces it translates

* statuses, where several cluster statuses share one status of the network, and
  some statuses of the network have no counterpart in the cluster;
* pages, which the network counts by number and the cluster by offset;
* identifiers: the network uses 32 bytes, the cluster a text. A text is padded
  with zero bytes and the zeros are cut off again.

Fields of a displayed request that are the same for every row are left out.
-/

set_option autoImplicit false

namespace Sp1Cluster

/-! ## Statuses -/

/-- `FulfillmentStatus` of the prover network. -/
inductive FulfillmentStatus where
  | unspecified
  | requested
  | assigned
  | fulfilled
  | unfulfillable
  | reverted
  | expired
deriving DecidableEq, Repr

/-- `ExecutionStatus` of the prover network. -/
inductive NetworkExecutionStatus where
  | unspecified
  | unexecuted
  | executed
  | unexecutable
deriving DecidableEq, Repr

/-- A number in a field of an enumeration type: one of the type's values, or none of them. -/
inductive Enumerated (σ : Type) where
  | known (value : σ)
  | unknown (number : ℤ)
deriving DecidableEq, Repr

/-- `try_from(..).ok()`. -/
def Enumerated.toOption {σ : Type} : Enumerated σ → Option σ
  | .known value => some value
  | .unknown _ => none

/-- `fulfillment_from_cluster`. -/
def fulfillmentFromCluster : ProofRequestStatus → FulfillmentStatus
  | .pending => .requested
  | .completed => .fulfilled
  | .failed | .cancelled => .unfulfillable
  | .other _ => .unspecified

/-- `execution_from_cluster`. -/
def executionFromCluster : ExecutionStatus → NetworkExecutionStatus
  | .unspecified => .unspecified
  | .unexecuted => .unexecuted
  | .executed => .executed
  | .failed | .cancelled => .unexecutable

/-- `cluster_fulfillment_filter`: nothing stands for no filter, and an empty list
for a filter that no row of the cluster meets. -/
def clusterFulfillmentFilter : FulfillmentStatus → Option (List ProofRequestStatus)
  | .unspecified => none
  | .requested => some [.pending]
  | .assigned | .reverted | .expired => some []
  | .fulfilled => some [.completed]
  | .unfulfillable => some [.failed, .cancelled]

/-- `cluster_execution_filter`. -/
def clusterExecutionFilter : NetworkExecutionStatus → List ExecutionStatus
  | .unspecified => []
  | .unexecuted => [.unexecuted]
  | .executed => [.executed]
  | .unexecutable => [.failed, .cancelled]

/-! ## Identifiers -/

/-- `as_bytes`. -/
def asBytes (text : String) : List UInt8 := text.toByteArray.data.toList

/-- `from_utf8_lossy`; what becomes of bytes that are no text is a parameter. -/
def fromUtf8Lossy (repair : List UInt8 → String) (bytes : List UInt8) : String :=
  (String.fromUTF8? ⟨bytes.toArray⟩).getD (repair bytes)

/-- `REQUEST_ID_LEN`. -/
def requestIdLen : ℕ := 32

/-- `mint_request_id` for the type identifier it draws, or the message of its panic. -/
def mintRequestId (typeid : String) : Except String (List UInt8) :=
  let buf := asBytes typeid
  if buf.length ≤ requestIdLen then
    .ok (buf ++ List.replicate (requestIdLen - buf.length) 0)
  else
    .error s!"typeid unexpectedly exceeded {requestIdLen} bytes: {buf.length} bytes"

/-- `proof_id_from_request_id`. -/
def proofIdFromRequestId (repair : List UInt8 → String) (requestId : List UInt8) : String :=
  fromUtf8Lossy repair (requestId.rdropWhile (· == 0))

/-- The artifact types that occur in addresses of a displayed request. -/
inductive RequestArtifact where
  | program
  | stdin
  | privateStdin
deriving DecidableEq, Repr

/-- `artifact_type_segment`. -/
def artifactTypeSegment : RequestArtifact → String
  | .program => "program"
  | .stdin => "stdin"
  | .privateStdin => "private-stdin"

/-- `artifact_uri`. -/
def artifactUri (publicBase : String) (kind : RequestArtifact) (id : String) : String :=
  let base := String.ofList (publicBase.toList.rdropWhile (· == '/'))
  s!"{base}/artifacts/{artifactTypeSegment kind}/{id}"

/-- `artifact_id_from_uri`: the last segment of the path. -/
def artifactIdFromUri (uri : String) : Option String :=
  let path := uri.toList.rtakeWhile (· != '/')
  if path = [] then none else some (String.ofList path)

/-- `program_artifact_id`. -/
def programArtifactId (vkHash : List UInt8) : String := s!"program_{hexEncode vkHash}"

/-! ## Requests and answers -/

structure RequestProofRequestBody where
  vkHash : List UInt8
  mode : ℤ
  deadline : ℕ
  stdinUri : String
  cycleLimit : ℕ
  gasLimit : ℕ
  stdinPrivate : Bool
deriving DecidableEq, Repr

structure RequestProofRequest where
  body : Option RequestProofRequestBody
  signature : List UInt8
deriving DecidableEq, Repr

/-- `GetFilteredProofRequestsRequest`, as far as the gateway reads it. -/
structure GetFilteredProofRequestsRequest where
  fulfillmentStatus : Option (Enumerated FulfillmentStatus) := none
  executionStatus : Option (Enumerated NetworkExecutionStatus) := none
  minimumDeadline : Option ℕ := none
  limit : Option ℕ := none
  page : Option ℕ := none
deriving DecidableEq, Repr

/-- `ProofRequest` of the prover network. -/
structure NetworkProofRequest where
  requestId : List UInt8
  mode : ℤ
  programUri : String
  stdinUri : String
  stdinPrivate : Bool
  deadline : ℕ
  cycleLimit : ℕ
  fulfillmentStatus : FulfillmentStatus
  executionStatus : NetworkExecutionStatus
  requester : List UInt8
  createdAt : ℕ
  updatedAt : ℕ
  cycles : Option ℕ
  publicValuesHash : Option (List UInt8)
  gasLimit : ℕ
deriving DecidableEq, Repr

/-- How a call of the gateway fails. -/
inductive GatewayFault where
  | status (code : RpcCode) (message : String)
  | panic (message : String)
deriving DecidableEq, Repr

/-- `ProverNetworkImpl`, with what the calls of other libraries do for it. -/
structure ProverNetwork where
  publicHttpUrl : String
  /-- `Auth::authorize` of a body and a signature: the requester's address. -/
  authorize : RequestProofRequestBody → List UInt8 → Except GatewayFault (List UInt8)
  codes : ExecutionCodes
  repair : List UInt8 → String

/-- `str::parse::<i32>`. -/
def parseI32 (text : String) : Option ℤ :=
  let number (digits : List Char) : Option ℤ :=
    if digits ≠ [] ∧ digits.all Char.isDigit then
      some (digits.foldl (fun value digit => value * 10 + (digit.toNat - '0'.toNat)) 0)
    else none
  let value := match text.toList with
    | '-' :: digits => (number digits).map Neg.neg
    | '+' :: digits => number digits
    | digits => number digits
  value.filter fun value => decide (IsI32 value)

namespace ProverNetwork

variable (gateway : ProverNetwork)

/-- `build_sdk_proof_request`. -/
def buildSdkProofRequest (requestId : List UInt8) (proof : ProofRequest) :
    NetworkProofRequest where
  requestId := requestId
  mode := (proof.optionsArtifactId.bind parseI32).getD 0
  programUri := artifactUri gateway.publicHttpUrl .program proof.programArtifactId
  stdinUri := artifactUri gateway.publicHttpUrl
    (if proof.stdinPrivate then .privateStdin else .stdin) proof.stdinArtifactId
  stdinPrivate := proof.stdinPrivate
  deadline := proof.deadline
  cycleLimit := proof.cycleLimit.getD 0
  fulfillmentStatus := fulfillmentFromCluster proof.proofStatus
  executionStatus := (proof.executionResult.map fun result =>
    executionFromCluster (gateway.codes.status result.status)).getD .unexecuted
  requester := proof.requester
  createdAt := proof.createdAt
  updatedAt := proof.updatedAt
  cycles := proof.executionResult.map (·.cycles)
  publicValuesHash := proof.executionResult.bind fun result =>
    if result.publicValuesHash.isEmpty then none else some result.publicValuesHash
  gasLimit := proof.gasLimit.getD 0

/-! ## Requesting a proof -/

/-- What the other parties answer to the calls that `request_proof` makes before
it creates the row, and how the attempts to create it go. -/
structure RequestAnswers where
  warm : Except String Bool
  program : Except String (Option ProgramRecord)
  uploaded : Except String Unit
  proofArtifact : Except String String
  firstAttempt : SystemTime × Fate
  laterAttempts : List (SystemTime × Fate)
  clusterError : RpcCode → String

def attemptCreate (request : ProofRequestCreateRequest) (attempt : SystemTime × Fate)
    (rows : Rows) : Rows × Except RpcCode Unit :=
  match attempt.2 with
  | .requestLost code => (rows, .error code)
  | .replyLost code => ((rows.proofRequestCreate request attempt.1).1, .error code)
  | .answered =>
    let (rows, answer) := rows.proofRequestCreate request attempt.1
    (rows, answer.mapError fun status => status.code.rpc)

/-- `create_proof_request` of the cluster client, which repeats an attempt after a
transient error until its budget is spent. -/
def createProofRequest (request : ProofRequestCreateRequest) (attempt : SystemTime × Fate) :
    List (SystemTime × Fate) → Rows → Rows × Except RpcCode Unit
  | later, rows =>
    let (rows, answer) := attemptCreate request attempt rows
    match retry answer, later with
    | some result, _ => (rows, result)
    | none, [] => (rows, answer)
    | none, next :: later => createProofRequest request next later rows

/-- **A call ends with the result of its last attempt**, on rows that the earlier ones left. -/
theorem createProofRequest_rule {request : ProofRequestCreateRequest} {motive : Rows → Prop}
    (keeps : ∀ attempt {rows}, motive rows → motive (attemptCreate request attempt rows).1)
    (attempt : SystemTime × Fate) (later : List (SystemTime × Fate)) {rows : Rows}
    (holds : motive rows) :
    ∃ last ∈ attempt :: later, ∃ before, motive before ∧
      createProofRequest request attempt later rows = attemptCreate request last before := by
  induction later generalizing attempt rows with
  | nil =>
    refine ⟨attempt, List.mem_cons_self, rows, holds, ?_⟩
    unfold createProofRequest
    cases again : retry (attemptCreate request attempt rows).2 with
    | none => simp only [again]
    | some result => simp only [again, retry_eq_some again]
  | cons next later ih =>
    rw [createProofRequest]
    cases again : retry (attemptCreate request attempt rows).2 with
    | none =>
      obtain ⟨last, member, before, left, same⟩ := ih next (keeps attempt holds)
      simp only [again]
      exact ⟨last, List.mem_cons_of_mem _ member, before, left, same⟩
    | some result =>
      simp only [again, retry_eq_some again]
      exact ⟨attempt, List.mem_cons_self, rows, holds, rfl⟩

/-- An error of a call that the gateway makes, as the gateway reports it. -/
def orInternal {α : Type} (what : String) : Except String α → Except GatewayFault α :=
  Except.mapError fun error => .status .internal s!"{what} failed: {error}"

/-- The part of `request_proof` that sees to it that the cluster has the program. -/
def warmProgram (answers : RequestAnswers) (vkHash : List UInt8) : Except GatewayFault Unit := do
  let warm ← orInternal "artifact exists check" answers.warm
  if warm then
    return
  let some _ ← orInternal "program store load" answers.program
    | .error (.status .failedPrecondition
        s!"program not registered for vk_hash {hexEncode vkHash}")
  orInternal "upload program artifact" answers.uploaded

/-- `request_proof` before it creates the row: the identifier it will return, and
the row it asks for. -/
def prepareProof (typeid : String) (answers : RequestAnswers) (request : RequestProofRequest) :
    Except GatewayFault (List UInt8 × ProofRequestCreateRequest) := do
  let some body := request.body
    | .error (.status .invalidArgument "request_proof: missing body")
  let requester ← gateway.authorize body request.signature
  let some stdinArtifactId := artifactIdFromUri body.stdinUri
    | .error (.status .invalidArgument s!"invalid stdin_uri: {body.stdinUri}")
  warmProgram answers body.vkHash
  let requestId ← (mintRequestId typeid).mapError .panic
  let proofArtifactId ← orInternal "create proof artifact" answers.proofArtifact
  return (requestId, {
    proofId := proofIdFromRequestId gateway.repair requestId
    programArtifactId := programArtifactId body.vkHash
    stdinArtifactId
    optionsArtifactId := some (toString body.mode)
    proofArtifactId := some proofArtifactId
    requester
    deadline := body.deadline
    cycleLimit := body.cycleLimit
    gasLimit := body.gasLimit
    scheduledBy := none
    stdinPrivate := body.stdinPrivate })

/-- `request_proof`. The identifier is drawn by this call, so a row that exists
already was created by an earlier attempt of it. -/
def requestProof (typeid : String) (answers : RequestAnswers) (request : RequestProofRequest)
    (rows : Rows) : Rows × Except GatewayFault (List UInt8) :=
  match gateway.prepareProof typeid answers request with
  | .error fault => (rows, .error fault)
  | .ok (requestId, create) =>
    let (rows, created) :=
      createProofRequest create answers.firstAttempt answers.laterAttempts rows
    match created with
    | .ok () | .error .alreadyExists => (rows, .ok requestId)
    | .error code =>
      (rows, .error (.status .internal
        s!"cluster create_proof_request failed: {answers.clusterError code}"))

/-! ## Reading requests -/

/-- `load_cluster_proof`, given the cluster's call. -/
def loadClusterProof (get : String → Except String (Option ProofRequest)) (proofId : String) :
    Except GatewayFault ProofRequest := do
  let some proof ← orInternal "cluster get_proof_request" (get proofId)
    | .error (.status .notFound s!"proof request {proofId} not found")
  return proof

/-- `get_proof_request_details`. -/
def getProofRequestDetails (get : String → Except String (Option ProofRequest))
    (requestId : List UInt8) : Except GatewayFault NetworkProofRequest := do
  let proof ← loadClusterProof get (proofIdFromRequestId gateway.repair requestId)
  return gateway.buildSdkProofRequest requestId proof

/-- The number of rows on a page, if the request gives it. -/
def pageLimit (request : GetFilteredProofRequestsRequest) : Option ℕ :=
  request.limit.map fun limit => max 1 (min limit 100)

/-- The offset of a page, if the request gives a page and its size. -/
def pageOffset (request : GetFilteredProofRequestsRequest) : Option ℕ :=
  match request.page, pageLimit request with
  | some page, some limit => if 0 < page then some (min ((page - 1) * limit) (2 ^ 32 - 1)) else none
  | _, _ => none

/-- The cluster statuses that a filtered request asks for, where an empty list is no
filter; nothing if the filter is one that no row of the cluster meets. -/
def statusFilter (request : GetFilteredProofRequestsRequest) : Option (List ProofRequestStatus) :=
  match (request.fulfillmentStatus.bind Enumerated.toOption).map clusterFulfillmentFilter with
  | some (some []) => none
  | some (some statuses) => some statuses
  | some none | none => some []

/-- The numbers of the execution statuses that a filtered request asks for. -/
def executionFilter (request : GetFilteredProofRequestsRequest) : List ℤ :=
  (((request.executionStatus.bind Enumerated.toOption).map clusterExecutionFilter).getD []).map
    gateway.codes.code

/-- The listing that a filtered request asks the cluster for, unless it is answered
without one. -/
def listRequest (request : GetFilteredProofRequestsRequest) : Option ProofRequestListRequest :=
  (statusFilter request).map fun proofStatus =>
    { proofStatus
      executionStatus := gateway.executionFilter request
      minimumDeadline := request.minimumDeadline
      limit := pageLimit request
      offset := pageOffset request }

/-- A row as a filtered listing shows it. -/
def listedRequest (proof : ProofRequest) : NetworkProofRequest :=
  gateway.buildSdkProofRequest (asBytes proof.id) proof

/-- `get_filtered_proof_requests`, given the cluster's call. -/
def getFilteredProofRequests (list : ProofRequestListRequest → Except String (List ProofRequest))
    (request : GetFilteredProofRequestsRequest) :
    Except GatewayFault (List NetworkProofRequest) :=
  match gateway.listRequest request with
  | none => .ok []
  | some listing => do
    let proofs ← orInternal "cluster get_proof_requests" (list listing)
    return proofs.map gateway.listedRequest

/-- A gateway that verifies no signatures, with the execution statuses numbered in order. -/
def unauthenticated : ProverNetwork where
  publicHttpUrl := "http://localhost/"
  authorize _ _ := .ok (List.replicate 20 0)
  codes := .inOrder
  repair _ := ""

end ProverNetwork

namespace Rows

/-- The cluster's calls for a gateway, as the API answers them. -/
def answerGet (rows : Rows) (proofId : String) : Except String (Option ProofRequest) :=
  .ok (rows.proofRequestGet proofId)

@[inherit_doc answerGet]
def answerList (rows : Rows) (request : ProofRequestListRequest) :
    Except String (List ProofRequest) :=
  .ok (rows.proofRequestList request)

end Rows

end Sp1Cluster
