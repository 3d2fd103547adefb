import Sp1Cluster.Gateway.Filters

/-!
# Identifiers of proof requests

The gateway draws an identifier for a proof request, a text of at most 32 bytes,
and pads it with zero bytes. The caller gets the padded bytes, the cluster the
text. A text without zero bytes is found again by cutting off the zeros, so the
padded bytes tell requests apart, and asking for the details of a request gives
them back.

A listing has no padded bytes to give back. It shows the bytes of the text, which
are the same only if there is nothing to pad.
-/

set_option autoImplicit false

namespace Sp1Cluster

/-! ## Texts and bytes -/

theorem asBytes_injective : Function.Injective asBytes := by
  intro first second same
  exact String.toByteArray_inj.mp (ByteArray.ext (Array.toList_inj.mp same))

theorem fromUtf8Lossy_asBytes (repair : List UInt8 → String) (text : String) :
    fromUtf8Lossy repair (asBytes text) = text := by
  have valid : String.fromUTF8? ⟨(asBytes text).toArray⟩ = some text := by
    unfold String.fromUTF8?
    exact dif_pos text.isValidUTF8
  rw [fromUtf8Lossy, valid, Option.getD_some]

theorem rdropWhile_append_zeros {bytes : List UInt8} (clean : 0 ∉ bytes) (zeros : ℕ) :
    (bytes ++ List.replicate zeros 0).rdropWhile (· == 0) = bytes := by
  induction zeros with
  | zero =>
    rw [List.replicate_zero, List.append_nil, List.rdropWhile_eq_self_iff]
    intro nonempty zero
    have last := List.getLast_mem nonempty
    rw [beq_iff_eq.mp zero] at last
    exact clean last
  | succ zeros ih =>
    rw [List.replicate_succ', ← List.append_assoc, List.rdropWhile_concat,
      if_pos (beq_self_eq_true _), ih]

theorem mintRequestId_eq_ok {typeid : String} {requestId : List UInt8}
    (minted : mintRequestId typeid = .ok requestId) :
    (asBytes typeid).length ≤ 32 ∧
      requestId = asBytes typeid ++ List.replicate (32 - (asBytes typeid).length) 0 := by
  unfold mintRequestId requestIdLen at minted
  dsimp only at minted
  split at minted
  · next short => exact ⟨short, (Except.ok.inj minted).symm⟩
  · cases minted

/-- **The padded bytes lead back to the text.** -/
theorem proofIdFromRequestId_minted (repair : List UInt8 → String) {typeid : String}
    {requestId : List UInt8} (clean : 0 ∉ asBytes typeid)
    (minted : mintRequestId typeid = .ok requestId) :
    proofIdFromRequestId repair requestId = typeid := by
  obtain ⟨-, rfl⟩ := mintRequestId_eq_ok minted
  rw [proofIdFromRequestId, rdropWhile_append_zeros clean, fromUtf8Lossy_asBytes]

/-- The bytes of the text are the padded bytes when there is nothing to pad. -/
theorem asBytes_eq_minted_iff {typeid : String} {requestId : List UInt8}
    (minted : mintRequestId typeid = .ok requestId) :
    asBytes typeid = requestId ↔ (asBytes typeid).length = 32 := by
  obtain ⟨short, rfl⟩ := mintRequestId_eq_ok minted
  rw [List.self_eq_append_right, List.replicate_eq_nil_iff]
  omega

namespace ProverNetwork

variable {gateway : ProverNetwork} {typeid : String} {answers : RequestAnswers}
  {request : RequestProofRequest} {rows : Rows} {requestId : List UInt8}
  {create : ProofRequestCreateRequest}

/-! ## Requesting a proof -/

theorem bind_eq_ok {α β ε : Type} {first : Except ε α} {next : α → Except ε β} {result : β}
    (returned : (first >>= next) = .ok result) :
    ∃ value, first = .ok value ∧ next value = .ok result := by
  cases first with
  | error error => cases returned
  | ok value => exact ⟨value, rfl, returned⟩

theorem mapError_eq_ok {α ε φ : Type} {change : ε → φ} {answer : Except ε α} {value : α}
    (returned : answer.mapError change = .ok value) : answer = .ok value := by
  cases answer with
  | error error => cases returned
  | ok value => exact congrArg Except.ok (Except.ok.inj returned)

theorem prepareProof_eq_ok
    (prepared : gateway.prepareProof typeid answers request = .ok (requestId, create)) :
    mintRequestId typeid = .ok requestId ∧
      create.proofId = proofIdFromRequestId gateway.repair requestId ∧
      ∃ body, request.body = some body ∧
        gateway.authorize body request.signature = .ok create.requester ∧
        artifactIdFromUri body.stdinUri = some create.stdinArtifactId ∧
        create.programArtifactId = programArtifactId body.vkHash ∧
        create.optionsArtifactId = some (toString body.mode) ∧
        create.cycleLimit = body.cycleLimit ∧ create.gasLimit = body.gasLimit ∧
        create.stdinPrivate = body.stdinPrivate := by
  unfold prepareProof at prepared
  cases given : request.body with
  | none =>
    rw [given] at prepared
    cases prepared
  | some body =>
    simp only [given] at prepared
    obtain ⟨requester, authorized, prepared⟩ := bind_eq_ok prepared
    cases stdin : artifactIdFromUri body.stdinUri with
    | none =>
      simp only [stdin] at prepared
      cases prepared
    | some stdinArtifactId =>
      simp only [stdin] at prepared
      obtain ⟨-, -, prepared⟩ := bind_eq_ok prepared
      obtain ⟨drawn, minted, prepared⟩ := bind_eq_ok prepared
      obtain ⟨proofArtifactId, -, prepared⟩ := bind_eq_ok prepared
      cases prepared
      exact ⟨mapError_eq_ok minted, rfl, body, rfl, authorized, stdin, rfl, rfl, rfl, rfl, rfl⟩

/-- A result that `request_proof` takes as a success. -/
def Created (result : Except RpcCode Unit) : Prop :=
  result = .ok () ∨ result = .error .alreadyExists

/-- A request that succeeds returns the identifier drawn for it, and has asked the cluster for a
row with the text of that identifier. -/
theorem requestProof_eq_ok
    (returned : (gateway.requestProof typeid answers request rows).2 = .ok requestId) :
    ∃ create, mintRequestId typeid = .ok requestId ∧
      create.proofId = proofIdFromRequestId gateway.repair requestId ∧
      Created (createProofRequest create answers.firstAttempt answers.laterAttempts rows).2 ∧
      (gateway.requestProof typeid answers request rows).1 =
        (createProofRequest create answers.firstAttempt answers.laterAttempts rows).1 ∧
      gateway.prepareProof typeid answers request = .ok (requestId, create) := by
  unfold requestProof at *
  cases prepared : gateway.prepareProof typeid answers request with
  | error fault =>
    rw [prepared] at returned
    cases returned
  | ok pair =>
    obtain ⟨drawn, create⟩ := pair
    simp only [prepared] at returned ⊢
    split at returned
    · next done =>
      cases returned
      obtain ⟨minted, proofId, -⟩ := prepareProof_eq_ok prepared
      exact ⟨create, minted, proofId, .inl done, rfl, rfl⟩
    · next committed =>
      cases returned
      obtain ⟨minted, proofId, -⟩ := prepareProof_eq_ok prepared
      exact ⟨create, minted, proofId, .inr committed, rfl, rfl⟩
    · cases returned

theorem mem_attemptCreate {attempt : SystemTime × Fate}
    (honest : attempt.2 ≠ .requestLost .alreadyExists) {rows : Rows}
    (created : Created (attemptCreate create attempt rows).2) :
    create.proofId ∈ (attemptCreate create attempt rows).1 := by
  unfold attemptCreate at *
  cases fate : attempt.2 with
  | requestLost code =>
    rw [fate] at created honest
    rcases created with impossible | claimed
    · cases impossible
    · cases claimed
      exact absurd rfl honest
  | replyLost code => exact rows.mem_proofRequestCreate create attempt.1
  | answered => exact rows.mem_proofRequestCreate create attempt.1

theorem mem_createProofRequest {later : List (SystemTime × Fate)} {attempt : SystemTime × Fate}
    (honest : ∀ made ∈ attempt :: later, made.2 ≠ .requestLost .alreadyExists) {rows : Rows}
    (created : Created (createProofRequest create attempt later rows).2) :
    create.proofId ∈ (createProofRequest create attempt later rows).1 := by
  obtain ⟨last, made, before, -, same⟩ := createProofRequest_rule
    (motive := fun _ => True) (fun _ _ _ => trivial) attempt later trivial
  rw [same] at created ⊢
  exact mem_attemptCreate (honest last made) created

/-! ## Agreement -/

/-- **The calls of the gateway agree on the identifier of a request, except for listings.** If
a request of a proof returns, then what it returns has 32 bytes and leads back to the row's
identifier, the details of the row have the same identifier, and no other text drawn gives the
same bytes. In a listing the row has this identifier when its text has 32 bytes, and otherwise
not; different rows of a listing have different identifiers. -/
theorem request_ids_agree (gateway : ProverNetwork) (typeid : String) (answers : RequestAnswers)
    (request : RequestProofRequest) (rows : Rows) (requestId : List UInt8)
    (returned : (gateway.requestProof typeid answers request rows).2 = .ok requestId)
    (clean : 0 ∉ asBytes typeid) :
    requestId.length = 32 ∧
    proofIdFromRequestId gateway.repair requestId = typeid ∧
    (∀ (table : Rows) (row : DbProofRequest), table.lookup typeid = some row →
      ∃ details, gateway.getProofRequestDetails table.answerGet requestId = .ok details ∧
        details.requestId = requestId) ∧
    (∀ (table : Rows) (filter : GetFilteredProofRequestsRequest),
      ∃ listed : List DbProofRequest,
        gateway.getFilteredProofRequests table.answerList filter =
          .ok (listed.map fun row => gateway.listedRequest row.intoProto) ∧
        (∀ row ∈ listed, row.id = typeid →
          ((gateway.listedRequest row.intoProto).requestId = requestId ↔
            (asBytes typeid).length = 32)) ∧
        ∀ first ∈ listed, ∀ second ∈ listed,
          (gateway.listedRequest first.intoProto).requestId =
            (gateway.listedRequest second.intoProto).requestId → first.id = second.id) ∧
    ∀ (other : String) (answers : RequestAnswers) (request : RequestProofRequest) (rows : Rows),
      (gateway.requestProof other answers request rows).2 = .ok requestId →
        0 ∉ asBytes other → other = typeid := by
  obtain ⟨create, minted, -⟩ := requestProof_eq_ok returned
  have back := proofIdFromRequestId_minted gateway.repair clean minted
  refine ⟨?_, back, fun table row stored => ?_, fun table filter => ?_, ?_⟩
  · obtain ⟨short, rfl⟩ := mintRequestId_eq_ok minted
    rw [List.length_append, List.length_replicate]
    omega
  · have found : table.proofRequestGet typeid = some row.intoProto := by
      rw [Rows.proofRequestGet, stored, Option.map_some]
    refine ⟨gateway.buildSdkProofRequest requestId row.intoProto, ?_, rfl⟩
    rw [getProofRequestDetails, back, loadClusterProof, Rows.answerGet, found]
    rfl
  · refine ⟨_, getFilteredProofRequests_eq gateway filter table, ?_, ?_⟩
    · rintro row - rfl
      exact asBytes_eq_minted_iff minted
    · intro first _ second _ same
      exact asBytes_injective same
  · intro other answers request rows again otherClean
    obtain ⟨_, otherMinted, -⟩ := requestProof_eq_ok again
    have otherBack := proofIdFromRequestId_minted gateway.repair otherClean otherMinted
    exact otherBack.symm.trans back

/-- A request for a proof, and the answers it gets: the cluster has the program, and the reply
to the first attempt to create the row is lost. -/
def sampleRequest : RequestProofRequest where
  body := some {
    vkHash := [171]
    mode := 4
    deadline := 9
    stdinUri := "http://localhost/artifacts/stdin/artifact_1"
    cycleLimit := 0
    gasLimit := 0
    stdinPrivate := false }
  signature := []

@[inherit_doc sampleRequest]
def sampleAnswers : RequestAnswers where
  warm := .ok true
  program := .ok none
  uploaded := .ok ()
  proofArtifact := .ok "artifact_2"
  firstAttempt := (1, .replyLost .deadlineExceeded)
  laterAttempts := [(2, .answered)]
  clusterError _ := "cluster API attempt timed out"

/-- A text of 30 bytes, as the gateway draws them. -/
theorem request_ids_agree_sample :
    (∃ requestId, (unauthenticated.requestProof "req_01h455vb4pex5vsknk084sn02q" sampleAnswers
        sampleRequest ∅).2 = .ok requestId ∧ requestId.length = 32 ∧
      proofIdFromRequestId unauthenticated.repair requestId =
        "req_01h455vb4pex5vsknk084sn02q") ∧
      0 ∉ asBytes "req_01h455vb4pex5vsknk084sn02q" :=
  have agree := request_ids_agree unauthenticated "req_01h455vb4pex5vsknk084sn02q" sampleAnswers
    sampleRequest ∅ (asBytes "req_01h455vb4pex5vsknk084sn02q" ++ [0, 0]) rfl (by decide)
  ⟨⟨_, rfl, agree.1, agree.2.1⟩, by decide⟩

/-- **A listing shows an identifier without its padding.** The caller of `request_proof` is
given 32 bytes, and the listing of the row that was created has 30. -/
theorem listed_id_unpadded :
    (unauthenticated.requestProof "req_01h455vb4pex5vsknk084sn02q" sampleAnswers
        sampleRequest ∅).2.toOption.map List.length = some 32 ∧
      (unauthenticated.getFilteredProofRequests
        (unauthenticated.requestProof "req_01h455vb4pex5vsknk084sn02q" sampleAnswers
          sampleRequest ∅).1.answerList {}).toOption.map
            (·.map fun shown => shown.requestId.length) = some [30] := by
  decide +kernel

end ProverNetwork

end Sp1Cluster
