import Sp1Cluster.Gateway.Identifiers

/-!
# A proof request is shown as it was made

The gateway keeps nothing about a request for a proof. It writes the request into a row of the
cluster, and reads the row when it is asked for the details. On the way the mode is printed and
parsed, the limits go through signed columns, the address of the input is cut to the identifier
of an artifact and built again, and the identifier of the request is padded and cut. Attempts to
create the row get lost and are repeated, and other clients change the row before it is read.
-/

set_option autoImplicit false

namespace Sp1Cluster

/-! ## Round trips -/

theorem asU64_asI64 {word : ℕ} (fits : word < 2 ^ 64) : asU64 (asI64 word) = word := by
  unfold asU64 asI64
  have same : Int.bmod word (2 ^ 64) % 2 ^ 64 = word % 2 ^ 64 := Int.bmod_emod
  rw [same]
  omega

/-- The number that decimal digits stand for. -/
theorem foldl_digits (digits : List Char) (decimal : ∀ digit ∈ digits, digit.isDigit = true)
    (start : ℕ) :
    digits.foldl (fun (value : ℤ) digit => value * 10 + (digit.toNat - '0'.toNat)) start =
      Nat.ofDigitChars 10 digits start := by
  induction digits generalizing start with
  | nil => rfl
  | cons digit digits ih =>
    have bounds : 48 ≤ digit.toNat := by
      have isDigit := decimal digit List.mem_cons_self
      simp only [Char.isDigit, ge_iff_le, Bool.and_eq_true, decide_eq_true_eq] at isDigit
      exact isDigit.1
    rw [List.foldl_cons, Nat.ofDigitChars_cons,
      ← ih (fun other member => decimal other (List.mem_cons_of_mem _ member))]
    congr 1
    change (start : ℤ) * 10 + ((digit.toNat : ℤ) - 48) = ((10 * start + (digit.toNat - 48) : ℕ) : ℤ)
    omega

theorem toList_repr (number : ℕ) : number.repr.toList = Nat.toDigits 10 number := by
  rw [Nat.repr_eq_ofList_toDigits, String.toList_ofList]

/-- **A mode is parsed as it was printed.** -/
theorem parseI32_toString {number : ℤ} (small : IsI32 number) :
    parseI32 (toString number) = some number := by
  have digits (magnitude : ℕ) : ∀ digit ∈ Nat.toDigits 10 magnitude, digit.isDigit = true :=
    fun _ => Nat.isDigit_of_mem_toDigits (by decide) (by decide)
  have read (magnitude : ℕ) : (if Nat.toDigits 10 magnitude ≠ [] ∧
      (Nat.toDigits 10 magnitude).all Char.isDigit then
        some ((Nat.toDigits 10 magnitude).foldl
          (fun (value : ℤ) digit => value * 10 + (digit.toNat - '0'.toNat)) 0)
      else none) = some (magnitude : ℤ) := by
    have folded := foldl_digits _ (digits magnitude) 0
    rw [Nat.ofDigitChars_toDigits (by decide) (by decide)] at folded
    rw [if_pos ⟨Nat.toDigits_ne_nil, List.all_eq_true.mpr (digits magnitude)⟩]
    exact congrArg some folded
  unfold parseI32
  dsimp only
  rw [Int.toString_eq_repr, Int.repr_eq_if]
  by_cases positive : 0 ≤ number
  · rw [if_pos positive, toList_repr]
    split
    · next rest minus => cases digits number.toNat '-' (minus ▸ List.mem_cons_self)
    · next rest plus => cases digits number.toNat '+' (plus ▸ List.mem_cons_self)
    · rw [read, Int.toNat_of_nonneg positive, Option.filter_some, if_pos (decide_eq_true small)]
  · have printed : ("-" ++ (-number).toNat.repr).toList =
        '-' :: Nat.toDigits 10 (-number).toNat := by
      rw [String.toList_append, toList_repr]
      rfl
    rw [if_neg positive, printed]
    simp only [read]
    rw [Int.toNat_of_nonneg (by omega), Option.map_some, neg_neg, Option.filter_some,
      if_pos (decide_eq_true small)]

theorem rtakeWhile_segment {name : List Char} (plain : ∀ char ∈ name, (char != '/') = true)
    (front : List Char) : (front ++ '/' :: name).rtakeWhile (· != '/') = name := by
  have reversed : ∀ char ∈ name.reverse, (char != '/') = true :=
    fun char member => plain char (List.mem_reverse.mp member)
  rw [List.rtakeWhile, List.reverse_append, List.reverse_cons, List.append_assoc,
    List.takeWhile_append_of_pos reversed, List.singleton_append,
    List.takeWhile_cons_of_neg (by decide), List.append_nil, List.reverse_reverse]

/-- The identifier of an artifact is found in its address. -/
theorem artifactIdFromUri_artifactUri (base : String) (kind : RequestArtifact) {uri id : String}
    (given : artifactIdFromUri uri = some id) :
    artifactIdFromUri (artifactUri base kind id) = some id := by
  unfold artifactIdFromUri at *
  dsimp only at *
  split at given
  · cases given
  · next named =>
    have same : id.toList = uri.toList.rtakeWhile (· != '/') := by
      rw [← Option.some.inj given, String.toList_ofList]
    obtain ⟨front, address⟩ :
        ∃ front, (artifactUri base kind id).toList = front ++ '/' :: id.toList := by
      refine ⟨(String.ofList (base.toList.rdropWhile (· == '/')) ++ "/artifacts/" ++
        artifactTypeSegment kind).toList, ?_⟩
      unfold artifactUri
      dsimp only
      rw [String.toList_append, String.toList_append, List.append_assoc]
      rfl
    rw [address, rtakeWhile_segment, if_neg, String.ofList_toList]
    · rw [same]
      exact named
    · rw [same]
      exact fun _ => List.mem_rtakeWhile_imp (p := (· != '/'))

/-! ## The row of a request -/

/-- A row records what a call asks to create. -/
structure DbProofRequest.Records (create : ProofRequestCreateRequest) (row : DbProofRequest) :
    Prop where
  requester : row.requester = create.requester
  stdinArtifactId : row.stdinArtifactId = create.stdinArtifactId
  programArtifactId : row.programArtifactId = create.programArtifactId
  optionsArtifactId : row.optionsArtifactId = create.optionsArtifactId
  cycleLimit : row.cycleLimit = some (asI64 create.cycleLimit)
  gasLimit : row.gasLimit = some (asI64 create.gasLimit)
  stdinPrivate : row.stdinPrivate = create.stdinPrivate

theorem DbProofRequest.Records.becomes {create : ProofRequestCreateRequest}
    {row after : DbProofRequest} (records : row.Records create) (becomes : row.Becomes after) :
    after.Records create := by
  have same {α : Type} (field : DbProofRequest → α) :
      field after.identity = field row.identity := congrArg field becomes.identity
  exact ⟨(same (·.requester)).trans records.requester,
    (same (·.stdinArtifactId)).trans records.stdinArtifactId,
    (same (·.programArtifactId)).trans records.programArtifactId,
    (same (·.optionsArtifactId)).trans records.optionsArtifactId,
    (same (·.cycleLimit)).trans records.cycleLimit, (same (·.gasLimit)).trans records.gasLimit,
    (same (·.stdinPrivate)).trans records.stdinPrivate⟩

namespace ProverNetwork

variable {gateway : ProverNetwork} {typeid : String} {answers : RequestAnswers}
  {request : RequestProofRequest} {rows : Rows} {requestId : List UInt8}
  {create : ProofRequestCreateRequest}

/-- If there is a row under the identifier of a call that creates one, it records that call. -/
def Own (create : ProofRequestCreateRequest) (rows : Rows) : Prop :=
  ∀ row, rows.lookup create.proofId = some row → row.Records create

theorem Own.attemptCreate (own : Own create rows) (attempt : SystemTime × Fate) :
    Own create (attemptCreate create attempt rows).1 := by
  have created : Own create (rows.proofRequestCreate create attempt.1).1 := by
    unfold Rows.proofRequestCreate
    split
    · exact own
    · intro row found
      rw [Table.lookup_insert_eq, if_pos rfl] at found
      cases found
      exact ⟨rfl, rfl, rfl, rfl, rfl, rfl, rfl⟩
  unfold ProverNetwork.attemptCreate
  split
  · exact own
  · exact created
  · exact created

theorem Own.createProofRequest (own : Own create rows) (attempt : SystemTime × Fate)
    (later : List (SystemTime × Fate)) :
    Own create (createProofRequest create attempt later rows).1 := by
  obtain ⟨last, -, before, own, same⟩ := createProofRequest_rule
    (fun attempt _ own => own.attemptCreate attempt) attempt later own
  rw [same]
  exact own.attemptCreate last

/-! ## Details -/

/-- Details show who made a request and what its body asks for. -/
structure ShowsRequest (gateway : ProverNetwork) (body : RequestProofRequestBody)
    (signature : List UInt8) (details : NetworkProofRequest) : Prop where
  requester : gateway.authorize body signature = .ok details.requester
  mode : details.mode = body.mode
  programUri : details.programUri =
    artifactUri gateway.publicHttpUrl .program (programArtifactId body.vkHash)
  stdin : artifactIdFromUri details.stdinUri = artifactIdFromUri body.stdinUri
  stdinPrivate : details.stdinPrivate = body.stdinPrivate
  cycleLimit : details.cycleLimit = body.cycleLimit
  gasLimit : details.gasLimit = body.gasLimit

/-- **The details of a request are those of the request.** A request for a proof that returns
has its row, even if the reply to the attempt that created it was lost. Whatever calls other
clients make then, the details under the returned identifier show who made the request and what
it asks for. The text drawn for the identifier is new and has no zero byte, the numbers of the
request have the types that they have in a message, and the transport makes up no
`AlreadyExists`. -/
theorem requested_proof_shown (gateway : ProverNetwork) (typeid : String)
    (answers : RequestAnswers) (body : RequestProofRequestBody) (signature : List UInt8)
    (rows : Rows) (requestId : List UInt8)
    (returned : (gateway.requestProof typeid answers ⟨some body, signature⟩ rows).2 =
      .ok requestId)
    (clean : 0 ∉ asBytes typeid) (fresh : typeid ∉ rows)
    (honest : ∀ made ∈ answers.firstAttempt :: answers.laterAttempts,
      made.2 ≠ .requestLost .alreadyExists)
    (mode : IsI32 body.mode) (cycles : body.cycleLimit < 2 ^ 64) (gas : body.gasLimit < 2 ^ 64)
    (calls : List ApiCall) :
    ∃ details, gateway.getProofRequestDetails (Rows.answerGet (calls.foldl Rows.serve
        (gateway.requestProof typeid answers ⟨some body, signature⟩ rows).1)) requestId =
          .ok details ∧
      details.requestId = requestId ∧ gateway.ShowsRequest body signature details := by
  obtain ⟨create, minted, proofId, created, stored, prepared⟩ := requestProof_eq_ok returned
  obtain ⟨-, -, _, ⟨⟩, requester, stdin, program, options, cycleLimit, gasLimit, stdinPrivate⟩ :=
    prepareProof_eq_ok prepared
  have back := proofIdFromRequestId_minted gateway.repair clean minted
  rw [back] at proofId
  have unclaimed : Own create rows := fun row found =>
    absurd (Table.mem_of_lookup found) (proofId ▸ fresh)
  have own := unclaimed.createProofRequest answers.firstAttempt answers.laterAttempts
  obtain ⟨row, found⟩ := Table.exists_lookup (mem_createProofRequest honest created)
  rw [stored]
  obtain ⟨after, kept, becomes⟩ := Rows.becomes_calls found calls
  have records := (own row found).becomes becomes
  refine ⟨gateway.buildSdkProofRequest requestId after.intoProto, ?_, rfl, ?_⟩
  · rw [getProofRequestDetails, back, ← proofId, loadClusterProof, Rows.answerGet,
      Rows.proofRequestGet, kept]
    rfl
  · exact
      { requester := requester.trans (congrArg _ records.requester.symm)
        mode := by
          change (after.optionsArtifactId.bind parseI32).getD 0 = body.mode
          rw [records.optionsArtifactId, options, Option.bind_some, parseI32_toString mode]
          rfl
        programUri := by
          rw [← program, ← records.programArtifactId]
          rfl
        stdin := by
          rw [← records.stdinArtifactId] at stdin
          exact (artifactIdFromUri_artifactUri _ _ stdin).trans stdin.symm
        stdinPrivate := records.stdinPrivate.trans stdinPrivate
        cycleLimit := by
          change (after.cycleLimit.map asU64).getD 0 = body.cycleLimit
          rw [records.cycleLimit, cycleLimit, Option.map_some, asU64_asI64 cycles]
          rfl
        gasLimit := by
          change (after.gasLimit.map asU64).getD 0 = body.gasLimit
          rw [records.gasLimit, gasLimit, Option.map_some, asU64_asI64 gas]
          rfl }

/-- The row of `sampleRequest` is cancelled and then updated. -/
theorem requested_proof_shown_sample :
    ∃ details, unauthenticated.getProofRequestDetails (Rows.answerGet
        ([ApiCall.cancel "req_01h455vb4pex5vsknk084sn02q",
            .update { proofId := "req_01h455vb4pex5vsknk084sn02q", deadline := some 12 }].foldl
          Rows.serve (unauthenticated.requestProof "req_01h455vb4pex5vsknk084sn02q" sampleAnswers
            sampleRequest ∅).1)) (asBytes "req_01h455vb4pex5vsknk084sn02q" ++ [0, 0]) =
          .ok details ∧ details.mode = 4 := by
  obtain ⟨details, found, -, shows⟩ := requested_proof_shown unauthenticated
    "req_01h455vb4pex5vsknk084sn02q" sampleAnswers
    ⟨[171], 4, 9, "http://localhost/artifacts/stdin/artifact_1", 0, 0, false⟩ [] ∅ _ rfl (by decide)
    (by decide) (by decide) (by decide) (by decide) (by decide)
    [.cancel "req_01h455vb4pex5vsknk084sn02q",
      .update { proofId := "req_01h455vb4pex5vsknk084sn02q", deadline := some 12 }]
  exact ⟨details, found, shows.mode⟩

end ProverNetwork

end Sp1Cluster
