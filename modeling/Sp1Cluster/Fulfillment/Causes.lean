import Sp1Cluster.Worker.Failures

/-!
# What the network learns about a failure

The fulfiller tells the network why a proof failed from the text that the worker
has left. It first reads the text as the result of an execution: a cause other than
zero is an execution failure. Otherwise it looks for a failure of another task.

The texts of an execution and of another task are never mistaken for each other.
But zero is also the number of the unspecified cause, and the worker uses it for
the errors of the executor that the network has no cause for. Such an execution
fails and the network is told no reason.
-/

set_option autoImplicit false

namespace Sp1Cluster

/-! ## Reading -/

/-- An `i32` field of a record. If `lenient`, it has a default. -/
def readI32 (lenient : Bool) (key : String) (json : Json) : Option ℤ :=
  json.readField (if lenient then some 0 else none) (Json.readInt (-2 ^ 31) (2 ^ 31 - 1)) key

/-- A `u64` field of a record. -/
def readU64 (lenient : Bool) (key : String) (json : Json) : Option ℕ :=
  json.readField (if lenient then some 0 else none)
    (fun value => (value.readInt 0 (2 ^ 64 - 1)).map Int.toNat) key

/-- A field of bytes of a record. -/
def readBytes (lenient : Bool) (key : String) (json : Json) : Option (List UInt8) :=
  json.readField (if lenient then some [] else none)
    (Json.readArray fun value => (value.readInt 0 255).map fun byte => UInt8.ofNat byte.toNat) key

/-- The derived decoding of an `ExecutionResult`, which skips fields it does not know. If
`lenient`, it has defaults for absent fields. -/
def ExecutionResult.ofJson (lenient : Bool) (json : Json) : Option ExecutionResult :=
  match json with
  | .object _ => do
    let status ← readI32 lenient "status" json
    let failureCause ← readI32 lenient "failure_cause" json
    let cycles ← readU64 lenient "cycles" json
    let gas ← readU64 lenient "gas" json
    let publicValuesHash ← readBytes lenient "public_values_hash" json
    return { status, failureCause, cycles, gas, publicValuesHash }
  | _ => none

/-- The task type with a name. -/
def TaskType.ofName (name : String) : Option TaskType :=
  [TaskType.unspecifiedTaskType, .controller, .proveShard, .recursionDeferred, .recursionReduce,
    .shrinkWrap, .setupVkey, .markerDeferredRecord, .plonkWrap, .groth16Wrap, .utilVkeyMapChunk,
    .utilVkeyMapController, .executeOnly, .coreExecute].find? fun taskType =>
      taskType.name == name

/-- The derived decoding of a `ProvingFailure`. -/
def ProvingFailure.ofJson (json : Json) : Option ProvingFailure := do
  let taskType ← json.readField none (fun value => value.readString.bind TaskType.ofName)
    "task_type"
  let reason ← json.readField none Json.readString "reason"
  return { taskType, reason }

/-- `ProofRequestError` of the network, as far as the fulfiller derives it. -/
inductive ProofRequestError where
  | executionFailure
  | provingFailure
deriving DecidableEq, Repr

section

variable {Text : Type} (format : JsonText Text) (lenient : Bool)

/-- `ProvingFailure::from_extra_data`. -/
def ProvingFailure.fromExtraData (text : Text) : Option ProvingFailure := do
  let json ← format.parse text
  json.readField none ProvingFailure.ofJson "proving_failure"

/-- `request_error_from_extra_data`. -/
def requestErrorFromExtraData (extraData : Option Text) : Option ProofRequestError := do
  let text ← extraData
  let result := (format.parse text).bind (ExecutionResult.ofJson lenient)
  if result.any fun result => result.failureCause != 0 then
    return .executionFailure
  (ProvingFailure.fromExtraData format text).map fun _ => .provingFailure

end

/-! ## Round trips -/

/-- The numbers of a result are within the types of its fields. -/
structure ExecutionResult.Fits (result : ExecutionResult) : Prop where
  status : IsI32 result.status
  failureCause : IsI32 result.failureCause
  cycles : result.cycles < 2 ^ 64
  gas : result.gas < 2 ^ 64

section

variable (lenient : Bool) {key : String} {json : Json}

theorem readI32_of_get? {number : ℤ} (fits : IsI32 number)
    (found : json.get? key = some (.number number)) : readI32 lenient key json = some number := by
  obtain ⟨low, high⟩ := fits
  rw [readI32, Json.readField, found]
  exact Json.readInt_number (by omega) (by omega)

theorem readU64_of_get? {word : ℕ} (fits : word < 2 ^ 64)
    (found : json.get? key = some (.number word)) : readU64 lenient key json = some word := by
  rw [readU64, Json.readField, found]
  dsimp only
  rw [Json.readInt_number (by omega) (by omega)]
  rfl

theorem readBytes_of_get? {bytes : List UInt8}
    (found : json.get? key = some (.array (bytes.map fun byte => .number byte.toNat))) :
    readBytes lenient key json = some bytes := by
  rw [readBytes, Json.readField, found]
  refine Json.readArray_map (fun byte => ?_) bytes
  have small : byte.toNat < 256 := byte.toNat_lt
  rw [Json.readInt_number (by omega) (by omega)]
  simp

end

/-- The fields of a result. -/
def ExecutionResult.keys : List String :=
  ["status", "failure_cause", "cycles", "gas", "public_values_hash"]

/-- A result is read from every object that has its fields, whatever else the object has. -/
theorem ExecutionResult.ofJson_of_fields (lenient : Bool) {result : ExecutionResult}
    (fits : result.Fits) {fields : List (String × Json)}
    (same : ∀ key ∈ ExecutionResult.keys,
      (Json.object fields).get? key = (Json.object result.fields).get? key) :
    ExecutionResult.ofJson lenient (.object fields) = some result := by
  have status := readI32_of_get? lenient fits.status (same "status" (by decide))
  have failureCause := readI32_of_get? lenient fits.failureCause
    (same "failure_cause" (by decide))
  have cycles := readU64_of_get? lenient fits.cycles (same "cycles" (by decide))
  have gas := readU64_of_get? lenient fits.gas (same "gas" (by decide))
  have hash := readBytes_of_get? lenient (same "public_values_hash" (by decide))
  unfold ExecutionResult.ofJson
  simp only [status, failureCause, cycles, gas, hash]
  rfl

theorem enrich_fields (result : ExecutionResult) (failureMessage : Option String)
    (exitCode : Option UInt64) :
    ∃ fields, enrich failureMessage exitCode (.object result.fields) = .object fields ∧
      ∀ key, key ≠ "failure_message" → key ≠ "exit_code" →
        (Json.object fields).get? key = (Json.object result.fields).get? key := by
  have inserted : ∀ (fields : List (String × Json)) (name : String) (value : Json),
      ∃ more, (Json.object fields).insert name value = .object more ∧
        ∀ key, key ≠ name → (Json.object more).get? key = (Json.object fields).get? key := by
    intro fields name value
    refine ⟨_, rfl, fun key other => ?_⟩
    exact (Json.get?_insert name key value fields).trans (if_neg other)
  obtain ⟨fields, described, same⟩ : ∃ fields,
      enrich failureMessage none (.object result.fields) = .object fields ∧
        ∀ key, key ≠ "failure_message" →
          (Json.object fields).get? key = (Json.object result.fields).get? key := by
    cases failureMessage with
    | none => exact ⟨_, rfl, fun _ _ => rfl⟩
    | some message => exact inserted result.fields "failure_message" (.string message)
  cases exitCode with
  | none => exact ⟨fields, described, fun key other _ => same key other⟩
  | some code =>
    obtain ⟨more, added, still⟩ := inserted fields "exit_code" (.number code.toNat)
    refine ⟨more, ?_, fun key other different => (still key different).trans (same key other)⟩
    rw [← added, ← described]
    rfl

theorem TaskType.ofName_name (taskType : TaskType) :
    TaskType.ofName taskType.name = some taskType := by
  cases taskType <;> decide

/-! ## Agreement -/

section

variable {Text : Type} (format : JsonText Text) (lenient : Bool)

/-- A text with the fields of a result tells its cause and no proving failure. -/
theorem requestError_of_result {result : ExecutionResult} (fits : result.Fits)
    (failureMessage : Option String) (exitCode : Option UInt64) :
    requestErrorFromExtraData format lenient
        (some (format.print (buildExecuteExtraData result failureMessage exitCode))) =
      if result.failureCause = 0 then none else some .executionFailure := by
  obtain ⟨fields, object, same⟩ := enrich_fields result failureMessage exitCode
  have read : ExecutionResult.ofJson lenient (.object fields) = some result := by
    refine ExecutionResult.ofJson_of_fields lenient fits fun key known => same key ?_ ?_
    · rintro rfl
      exact absurd known (by decide)
    · rintro rfl
      exact absurd known (by decide)
  have noProving : (Json.object fields).get? "proving_failure" = none :=
    same "proving_failure" (by decide) (by decide)
  have proving : ProvingFailure.fromExtraData format (format.print (.object fields)) = none := by
    simp [ProvingFailure.fromExtraData, format.parse_print, Json.readField, noProving]
  unfold requestErrorFromExtraData buildExecuteExtraData
  rw [object]
  simp only [Option.bind_eq_bind, Option.bind_some, format.parse_print, read, proving,
    Option.any_some, bne_iff_ne, ne_eq, Option.map_none]
  by_cases zero : result.failureCause = 0
  · simp [zero]
  · simp [zero]

/-- A text of a proving failure tells it, and has no result. -/
theorem requestError_of_provingFailure (failure : ProvingFailure) :
    requestErrorFromExtraData format lenient (some (failure.toExtraData format)) =
      some .provingFailure := by
  have read : ProvingFailure.fromExtraData format (failure.toExtraData format) = some failure := by
    unfold ProvingFailure.fromExtraData ProvingFailure.toExtraData
    rw [format.parse_print]
    have named := TaskType.ofName_name failure.taskType
    simp [Json.readField, Json.get?, Json.lookup_cons_eq, ProvingFailure.ofJson, Json.readString,
      named]
  have noCause : ((format.parse (failure.toExtraData format)).bind
      (ExecutionResult.ofJson lenient)).any (fun result => result.failureCause != 0) = false := by
    unfold ProvingFailure.toExtraData
    rw [format.parse_print]
    cases lenient <;> rfl
  unfold requestErrorFromExtraData
  simp only [Option.bind_eq_bind, Option.bind_some, noCause, read, Option.map_some]
  rfl

end

variable (statuses : ExecutionCodes) (causes : CauseCodes)

theorem ExecutionOutcome.fits_result (stderr : String) (outcome : ExecutionOutcome) :
    (outcome.result statuses causes stderr).Fits := by
  cases outcome with
  | ended publicValuesHash report =>
    by_cases zero : report.exitCode = 0
    · simp only [ExecutionOutcome.result, ExecutionOutcome.describe, if_pos zero]
      exact ⟨statuses.isI32 _, causes.isI32 _, UInt64.toNat_lt _, UInt64.toNat_lt _⟩
    · simp only [ExecutionOutcome.result, ExecutionOutcome.describe, if_neg zero]
      exact ⟨statuses.isI32 _, causes.isI32 _, UInt64.toNat_lt _, UInt64.toNat_lt _⟩
  | faulted kind text =>
    exact ⟨statuses.isI32 _, causes.isI32 _, Nat.two_pow_pos 64, Nat.two_pow_pos 64⟩

/-- An execution that has not ended with an error for which the network has no cause. -/
def ExecutionOutcome.Named : ExecutionOutcome → Prop
  | .ended _ _ => True
  | .faulted kind _ => kind.cause ≠ .unspecified

instance : DecidablePred ExecutionOutcome.Named
  | .ended _ _ => inferInstanceAs (Decidable True)
  | .faulted kind _ => inferInstanceAs (Decidable (kind.cause ≠ .unspecified))

theorem CauseCodes.code_eq_zero_iff {cause : ExecuteFailureCause} :
    causes.code cause = 0 ↔ cause = .unspecified := by
  rw [← causes.unspecified]
  exact causes.injective.eq_iff

/-- A result with the status of a failure has a cause when the network has one for it. -/
theorem ExecutionOutcome.failureCause_ne_zero_iff {stderr : String} {outcome : ExecutionOutcome}
    (failed : (outcome.result statuses causes stderr).status = statuses.code .failed) :
    (outcome.result statuses causes stderr).failureCause ≠ 0 ↔ outcome.Named := by
  cases outcome with
  | ended publicValuesHash report =>
    refine iff_of_true ?_ trivial
    by_cases zero : report.exitCode = 0
    · simp only [ExecutionOutcome.result, ExecutionOutcome.describe, if_pos zero] at failed
      cases statuses.injective failed
    · simp only [ExecutionOutcome.result, ExecutionOutcome.describe, if_neg zero]
      rw [ne_eq, causes.code_eq_zero_iff]
      decide
  | faulted kind text => exact causes.code_eq_zero_iff.not

theorem ExecutionOutcome.failureCause_of_executed {stderr : String} {outcome : ExecutionOutcome}
    (executed : (outcome.result statuses causes stderr).status = statuses.code .executed) :
    (outcome.result statuses causes stderr).failureCause = 0 := by
  cases outcome with
  | ended publicValuesHash report =>
    by_cases zero : report.exitCode = 0
    · simp only [ExecutionOutcome.result, ExecutionOutcome.describe, if_pos zero]
      exact causes.unspecified
    · simp only [ExecutionOutcome.result, ExecutionOutcome.describe, if_neg zero] at executed
      cases statuses.injective executed
  | faulted kind text => cases statuses.injective executed

/-- **The network learns the cause of a failure that it has a cause for.** From the text of an
execution that succeeded nothing is read. From the text of one that failed an execution failure
is read if the network has a cause for it, and only then. From the text of another task's
failure a proving failure is read. This holds for every text format, whatever the numbers of the
statuses and causes are, and whether or not absent fields have defaults. -/
theorem network_learns_cause {Text : Type} (format : JsonText Text) (lenient : Bool)
    (statuses : ExecutionCodes) (causes : CauseCodes) :
    (∀ (stderr : String) (outcome : ExecutionOutcome),
      (outcome.result statuses causes stderr).status = statuses.code .executed →
        requestErrorFromExtraData format lenient
          (some (processSp1ExecuteOnly statuses causes format stderr outcome).2) = none) ∧
    (∀ (stderr : String) (outcome : ExecutionOutcome),
      (outcome.result statuses causes stderr).status = statuses.code .failed →
        (requestErrorFromExtraData format lenient
            (some (processSp1ExecuteOnly statuses causes format stderr outcome).2) =
          some .executionFailure ↔ outcome.Named)) ∧
    ∀ failure : ProvingFailure,
      requestErrorFromExtraData format lenient (some (failure.toExtraData format)) =
        some .provingFailure := by
  have read : ∀ (stderr : String) (outcome : ExecutionOutcome),
      requestErrorFromExtraData format lenient
          (some (processSp1ExecuteOnly statuses causes format stderr outcome).2) =
        if (outcome.result statuses causes stderr).failureCause = 0 then none
        else some .executionFailure :=
    fun stderr outcome =>
      requestError_of_result format lenient (outcome.fits_result statuses causes stderr) _ _
  refine ⟨fun stderr outcome executed => ?_, fun stderr outcome failed => ?_,
    requestError_of_provingFailure format lenient⟩
  · rw [read, if_pos (outcome.failureCause_of_executed statuses causes executed)]
  · rw [read, ← outcome.failureCause_ne_zero_iff statuses causes failed]
    split
    · next zero => simp [zero]
    · next nonzero => simp [nonzero]

/-- The failure causes numbered in order. -/
def CauseCodes.inOrder : CauseCodes where
  code
    | .unspecified => 0
    | .haltWithNonZeroExitCode => 1
    | .exceededCycleLimit => 2
    | .invalidMemoryAccess => 3
    | .unsupportedSyscall => 4
    | .breakpoint => 5
    | .invalidSyscallUsage => 6
    | .unimplemented => 7
  injective := by
    intro first second same
    cases first <;> cases second <;> first | rfl | cases same
  isI32 cause := by cases cause <;> decide
  unspecified := rfl

/-- An execution that has run over its cycle limit. -/
theorem network_learns_cause_cycleLimit :
    requestErrorFromExtraData JsonText.plain false
        (some (processSp1ExecuteOnly .inOrder .inOrder JsonText.plain ""
          (.faulted .exceededCycleLimit "exceeded cycle limit")).2) = some .executionFailure :=
  ((network_learns_cause JsonText.plain false .inOrder .inOrder).2.1 ""
    (.faulted .exceededCycleLimit "exceeded cycle limit") rfl).mpr (by decide)

/-- **A failed execution whose cause the network does not learn.** -/
theorem unspecified_cause_lost :
    (processSp1ExecuteOnly .inOrder .inOrder JsonText.plain ""
        (.faulted .instructionNotFound "instruction not found")).1 = .failed ∧
      requestErrorFromExtraData JsonText.plain false
        (some (processSp1ExecuteOnly .inOrder .inOrder JsonText.plain ""
          (.faulted .instructionNotFound "instruction not found")).2) = none := by
  decide +kernel

end Sp1Cluster
