import Sp1Cluster.Api.Rows
import Sp1Cluster.Data.Json

/-!
# What a worker writes about a proof that has ended

A worker ends a proof with a text for whoever asked for it. The execute-only task
writes the result of the execution, and for an execution that failed also a message
and the exit code, as further fields of the same object. Any other task that fails
for good writes its type and its error in an object of one field. The two shapes
have no field in common, and the reader tells them apart by that.

The executor and its errors come from another library. An error is its kind and the
text it prints. The kinds that the worker does not know are one more kind.
-/

set_option autoImplicit false

namespace Sp1Cluster

/-! ## Executions -/

/-- `ExecutionError`, without what the kinds carry. -/
inductive ExecutionErrorKind where
  | exceededCycleLimit
  | invalidMemoryAccess
  | unsupportedSyscall
  | breakpoint
  | invalidSyscallUsage
  | unimplemented
  | invalidMemoryAccessUntrustedProgram
  | endInUnconstrained
  | unexpectedExitCode
  | instructionNotFound
  | invalidShardingState
  | other
deriving DecidableEq, Repr

/-- `ExecuteFailureCause` of the prover network. -/
inductive ExecuteFailureCause where
  | unspecified
  | haltWithNonZeroExitCode
  | exceededCycleLimit
  | invalidMemoryAccess
  | unsupportedSyscall
  | breakpoint
  | invalidSyscallUsage
  | unimplemented
deriving DecidableEq, Repr

/-- The numbers of the failure causes. The first value of an enumeration has number zero. -/
structure CauseCodes where
  code : ExecuteFailureCause → ℤ
  injective : Function.Injective code
  isI32 : ∀ cause, IsI32 (code cause)
  unspecified : code .unspecified = 0

/-- `ExecutionReport`. -/
structure ExecutionReport where
  exitCode : UInt64
  totalInstructionCount : UInt64
  gas : Option UInt64
deriving DecidableEq, Repr

/-- How an execution ends: with a report and the hash of its public values, or with an error. -/
inductive ExecutionOutcome where
  | ended (publicValuesHash : List UInt8) (report : ExecutionReport)
  | faulted (kind : ExecutionErrorKind) (text : String)
deriving DecidableEq, Repr

/-- The network's cause for an error of the executor. -/
def ExecutionErrorKind.cause : ExecutionErrorKind → ExecuteFailureCause
  | .exceededCycleLimit => .exceededCycleLimit
  | .invalidMemoryAccess => .invalidMemoryAccess
  | .unsupportedSyscall => .unsupportedSyscall
  | .breakpoint => .breakpoint
  | .invalidSyscallUsage => .invalidSyscallUsage
  | .unimplemented => .unimplemented
  | .invalidMemoryAccessUntrustedProgram | .endInUnconstrained | .unexpectedExitCode
  | .instructionNotFound | .invalidShardingState => .unspecified
  | .other => .unspecified

/-! ## Messages -/

/-- `FAILURE_MESSAGE_MAX`. -/
def failureMessageMax : ℕ := 2048

/-- The longest beginning of a text that has at most so many bytes. -/
def takeBytes : ℕ → List Char → List Char
  | _, [] => []
  | bytes, first :: rest =>
    if first.utf8Size ≤ bytes then first :: takeBytes (bytes - first.utf8Size) rest else []

/-- `bound_failure_message`. -/
def boundFailureMessage (message : String) : String :=
  if message.utf8ByteSize ≤ failureMessageMax then message
  else String.ofList (takeBytes failureMessageMax message.toList)

/-- `char::is_whitespace`: the code points with the property `White_Space`. -/
def isWhitespace (char : Char) : Bool :=
  let code := char.toNat
  (0x9 ≤ code && code ≤ 0xD) || code == 0x20 || code == 0x85 || code == 0xA0 || code == 0x1680 ||
    (0x2000 ≤ code && code ≤ 0x200A) || code == 0x2028 || code == 0x2029 || code == 0x202F ||
    code == 0x205F || code == 0x3000

/-- `stderr_failure_message` of what the program has written. -/
def stderrFailureMessage (stderr : String) : Option String :=
  if stderr.toList.all isWhitespace then none else some (boundFailureMessage stderr)

/-! ## Texts -/

/-- The derived encoding of an `ExecutionResult`. -/
def ExecutionResult.fields (result : ExecutionResult) : List (String × Json) :=
  [("status", .number result.status),
    ("failure_cause", .number result.failureCause),
    ("cycles", .number result.cycles),
    ("gas", .number result.gas),
    ("public_values_hash", .array (result.publicValuesHash.map fun byte => .number byte.toNat))]

/-- The fields that `build_execute_extra_data` adds to a result. -/
def enrich (failureMessage : Option String) (exitCode : Option UInt64) (json : Json) : Json :=
  let json := match failureMessage with
    | some message => json.insert "failure_message" (.string message)
    | none => json
  match exitCode with
  | some code => json.insert "exit_code" (.number code.toNat)
  | none => json

/-- `build_execute_extra_data`, before it is printed. -/
def buildExecuteExtraData (result : ExecutionResult) (failureMessage : Option String)
    (exitCode : Option UInt64) : Json :=
  enrich failureMessage exitCode (.object result.fields)

section

variable (statuses : ExecutionCodes) (causes : CauseCodes)

/-- What the execute-only task makes of an execution: the result, a message and the exit
code. -/
def ExecutionOutcome.describe (stderr : String) :
    ExecutionOutcome → ExecutionResult × Option String × Option UInt64
  | .ended publicValuesHash report =>
    if report.exitCode = 0 then
      ({ status := statuses.code .executed
         failureCause := causes.code .unspecified
         cycles := report.totalInstructionCount.toNat
         gas := (report.gas.getD 0).toNat
         publicValuesHash }, none, none)
    else
      ({ status := statuses.code .failed
         failureCause := causes.code .haltWithNonZeroExitCode
         cycles := report.totalInstructionCount.toNat
         gas := (report.gas.getD 0).toNat
         publicValuesHash := [] }, stderrFailureMessage stderr, some report.exitCode)
  | .faulted kind text =>
    ({ status := statuses.code .failed
       failureCause := causes.code kind.cause
       cycles := 0
       gas := 0
       publicValuesHash := [] }, some (boundFailureMessage text), none)

/-- The result of an execution. -/
def ExecutionOutcome.result (stderr : String) (outcome : ExecutionOutcome) : ExecutionResult :=
  (outcome.describe statuses causes stderr).1

/-- `process_sp1_execute_only` after the execution: the status and the text that the proof is
completed with. -/
def processSp1ExecuteOnly {Text : Type} (format : JsonText Text) (stderr : String)
    (outcome : ExecutionOutcome) : ProofRequestStatus × Text :=
  let (result, failureMessage, exitCode) := outcome.describe statuses causes stderr
  (if result.status = statuses.code .executed then .completed else .failed,
    format.print (buildExecuteExtraData result failureMessage exitCode))

end

/-! ## Failures of other tasks -/

/-- The name of a task type in the derived encoding. -/
def TaskType.name : TaskType → String
  | .unspecifiedTaskType => "UnspecifiedTaskType"
  | .controller => "Controller"
  | .proveShard => "ProveShard"
  | .recursionDeferred => "RecursionDeferred"
  | .recursionReduce => "RecursionReduce"
  | .shrinkWrap => "ShrinkWrap"
  | .setupVkey => "SetupVkey"
  | .markerDeferredRecord => "MarkerDeferredRecord"
  | .plonkWrap => "PlonkWrap"
  | .groth16Wrap => "Groth16Wrap"
  | .utilVkeyMapChunk => "UtilVkeyMapChunk"
  | .utilVkeyMapController => "UtilVkeyMapController"
  | .executeOnly => "ExecuteOnly"
  | .coreExecute => "CoreExecute"

structure ProvingFailure where
  taskType : TaskType
  reason : String
deriving DecidableEq, Repr

/-- `ProvingFailure::to_extra_data`. -/
def ProvingFailure.toExtraData {Text : Type} (format : JsonText Text) (failure : ProvingFailure) :
    Text :=
  format.print (.object [("proving_failure", .object
    [("task_type", .string failure.taskType.name), ("reason", .string failure.reason)])])

end Sp1Cluster
