import Sp1Cluster.Cluster.Service
import Mathlib.Data.List.Infix

/-!
# The passes of the fulfiller

The fulfiller lists the finished rows of the cluster that are not handled yet and
answers their requests on the network: a *submit pass* fulfils the completed ones,
a *fail pass* fails the failed ones. A pass fetches its listing page by page and
then works on the rows side by side, each in a task of its own. It ends when all
its tasks have. Passes follow each other; between any two steps other clients of
the cluster API may change the rows.

Whether a row still needs an answer is known by its `handled` flag alone, which a
task sets after its network call.

The replies of the network and of the artifact store are inputs, with the text
that an error prints. Calls of the cluster API are served. The number of tasks
that run at a time, the lock that keeps nonces in order, the error trace of a
failure and the metrics are left out.
-/

set_option autoImplicit false

namespace Sp1Cluster

/-! ## The network -/

/-- `tonic::Code`, as far as the client looks at it. -/
inductive NetworkCode where
  | permissionDenied
  | failedPrecondition
  | notFound
  | invalidArgument
  | other
deriving DecidableEq, Repr

structure NetworkStatus where
  code : NetworkCode
  text : String
deriving DecidableEq, Repr

/-- What the network and the signer reply in one answering call. -/
structure NetworkReplies where
  nonce : Except String ℕ
  signature : Except String (List UInt8)
  call : Except NetworkStatus Unit

/-- The value of a hexadecimal digit. -/
def hexValue (digit : Char) : Option ℕ :=
  if '0' ≤ digit ∧ digit ≤ '9' then some (digit.toNat - '0'.toNat)
  else if 'a' ≤ digit ∧ digit ≤ 'f' then some (digit.toNat - 'a'.toNat + 10)
  else if 'A' ≤ digit ∧ digit ≤ 'F' then some (digit.toNat - 'A'.toNat + 10)
  else none

/-- The bytes of pairs of hexadecimal digits. -/
def hexPairs : List Char → Option (List UInt8)
  | [] => some []
  | [_] => none
  | high :: low :: rest => do
    let upper ← hexValue high
    let lower ← hexValue low
    let bytes ← hexPairs rest
    return UInt8.ofNat (upper * 16 + lower) :: bytes

/-- `hex::decode`. -/
def hexDecode (text : String) : Option (List UInt8) := hexPairs text.toList

example : hexDecode "0aF1" = some [10, 241] := by decide +kernel

/-- The request in the bytes of its identifier, as the network knows it. -/
def decodeRequestId (requestId : String) : Except String (List UInt8) :=
  match hexDecode requestId with
  | some bytes => .ok bytes
  | none => .error "failed to decode request_id"

namespace MainnetFulfiller

/-- `submit_request`. -/
def submitRequest (requestId : String) (proofBytes : Option (List UInt8))
    (replies : NetworkReplies) : Except String Unit := do
  let _ ← replies.nonce
  let _ ← decodeRequestId requestId
  if proofBytes = none then throw "no proof bytes"
  let _ ← replies.signature
  match replies.call with
  | .ok () => return
  | .error status => throw status.text

/-- `fail_request_with_error`. A call that the network rejects has succeeded. -/
def failRequestWithError (requestId : String) (replies : NetworkReplies) :
    Except String Unit := do
  let _ ← replies.nonce
  let _ ← decodeRequestId requestId
  let _ ← replies.signature
  match replies.call with
  | .ok () => return
  | .error status =>
    match status.code with
    | .permissionDenied | .failedPrecondition | .notFound | .invalidArgument => return
    | .other => throw status.text

end MainnetFulfiller

/-! ## Tasks -/

/-- What a pass is for. -/
inductive PassKind where
  | submit
  | fail
deriving DecidableEq, Repr

def PassKind.proofStatus : PassKind → ProofRequestStatus
  | .submit => .completed
  | .fail => .failed

/-- Where the task of one row is. -/
inductive JobPhase where
  /-- Before the reply to `download_raw`. -/
  | downloading
  /-- Before the network's `submit_request`. -/
  | submitting (proofBytes : Option (List UInt8))
  /-- Before the network's `fail_request`. -/
  | failing
  /-- The identifier is not hexadecimal: before the update that sets `handled`. -/
  | ignoring
  /-- Before the update that sets `handled`. -/
  | marking
  /-- Before the reply to `try_delete`. -/
  | deleting (artifactId : String)
  /-- The submission failed with a mismatch of keys: before `fail_request_with_error`. -/
  | mismatched
  | done
deriving DecidableEq, Repr

structure Job where
  request : ProofRequest
  phase : JobPhase
deriving DecidableEq, Repr

/-- What the fulfiller is configured with, the network's choice whether proofs are
downloaded, and the reading of a row's `extra_data`. -/
structure FulfillerConfig where
  name : Option String
  disableFulfillment : Bool
  shouldDownloadProofs : Bool
  requestErrorFromExtraData : Option String → Option ℤ

def vkMismatchStrings : List String :=
  ["InvalidPowWitness", "sp1 vk hash mismatch",
    "vk hash from syscall does not match vkey from input"]

/-- `VK_MISMATCH_ERROR`. -/
def vkMismatchError : ℤ := 2

/-- `str::contains`. -/
def containsText (text pattern : String) : Bool := decide (pattern.toList <:+: text.toList)

/-- Where a task goes whose `submit_request` has failed with an error of this text. -/
def submitFailed (text : String) : JobPhase :=
  if vkMismatchStrings.any (containsText text) then .mismatched else .done

namespace FulfillerConfig

/-- Where a submission goes once it has the proof, or needs none. -/
def downloaded (config : FulfillerConfig) (request : ProofRequest)
    (proofBytes : Option (List UInt8)) : JobPhase :=
  if hexDecode request.id = none then .ignoring
  else if config.disableFulfillment then .marking
  else .submitting proofBytes

/-- Where the task of a row begins. -/
def begin (config : FulfillerConfig) (kind : PassKind) (request : ProofRequest) : JobPhase :=
  match kind with
  | .submit =>
    if request.proofArtifactId.isSome ∧ config.shouldDownloadProofs then .downloading
    else config.downloaded request none
  | .fail => if config.disableFulfillment then .marking else .failing

/-- The listing of a pass: one page of its rows that are not handled and whose deadline has
not passed. -/
def listing (config : FulfillerConfig) (kind : PassKind) (now pageIdx : ℕ) :
    ProofRequestListRequest where
  proofStatus := [kind.proofStatus]
  minimumDeadline := some now
  handled := some false
  scheduledBy := config.name
  limit := some proofRequestPageSize
  offset := some (pageIdx * proofRequestPageSize)

def jobs (config : FulfillerConfig) (kind : PassKind) (rows : List ProofRequest) :
    Table String Job :=
  rows.foldl (fun jobs request => jobs.insert request.id ⟨request, config.begin kind request⟩) ∅

end FulfillerConfig

/-! ## The fulfiller -/

/-- What a call to the network answers a request with. -/
inductive AnswerKind where
  | fulfilment
  | failure (error : Option ℤ)
deriving DecidableEq, Repr

/-- A call to the network that answers a request, and what it returned. -/
structure Answer where
  /-- The pass that made the call, counted from the start. -/
  pass : ℕ
  requestId : String
  kind : AnswerKind
  result : Except String Unit
deriving DecidableEq

inductive PassPhase where
  /-- Between two passes. -/
  | idle
  /-- In `drain_pages`, with the rows of the pages fetched so far. -/
  | listing (kind : PassKind) (now : ℕ) (rows : List ProofRequest) (pageIdx : ℕ)
  | working (kind : PassKind) (jobs : Table String Job)

/-- The fulfiller, the rows of the cluster API, and the answers given so far. -/
structure Fulfiller where
  rows : Rows
  phase : PassPhase
  passes : ℕ
  answers : List Answer

/-- What one step of a task makes of the rows, the answers and the task. -/
structure JobStep where
  rows : Rows
  answers : List Answer
  phase : JobPhase

inductive FulfillerEvent where
  /-- Another client calls the cluster API. -/
  | api (call : ApiCall)
  | list (kind : PassKind) (now : ℕ)
  | page
  | download (id : String) (reply : Except String (List UInt8))
  | submit (id : String) (replies : NetworkReplies)
  | fail (id : String) (replies : NetworkReplies)
  | mark (id : String)
  | delete (id : String) (reply : Except String Unit)
  | failMismatch (id : String) (replies : NetworkReplies)
  | finish

namespace Fulfiller

def start : Fulfiller where
  rows := ∅
  phase := .idle
  passes := 0
  answers := []

def api (call : ApiCall) (fulfiller : Fulfiller) : Fulfiller :=
  match call with
  | .create request now =>
    { fulfiller with rows := (fulfiller.rows.proofRequestCreate request now).1 }
  | .cancel proofId => { fulfiller with rows := fulfiller.rows.proofRequestCancel proofId }
  | .update update => { fulfiller with rows := (fulfiller.rows.proofRequestUpdate update).1 }

/-- One page of `drain_pages`. -/
def page (config : FulfillerConfig) (kind : PassKind) (now : ℕ) (rows : List ProofRequest)
    (pageIdx : ℕ) (fulfiller : Fulfiller) : Fulfiller :=
  let page := fulfiller.rows.proofRequestList (config.listing kind now pageIdx)
  let all := rows ++ page
  if page.length ≠ proofRequestPageSize ∨ pageIdx + 1 = maxPages then
    { fulfiller with phase := .working kind (config.jobs kind (dedupById [] all)) }
  else { fulfiller with phase := .listing kind now all (pageIdx + 1) }

/-- The step of a task that leaves rows and answers alone. -/
def turn (phase : JobPhase) (fulfiller : Fulfiller) : JobStep :=
  { rows := fulfiller.rows, answers := fulfiller.answers, phase := phase }

/-- The step of a task that has made an answering call. -/
def answered (requestId : String) (kind : AnswerKind) (result : Except String Unit)
    (phase : JobPhase) (fulfiller : Fulfiller) : JobStep :=
  { rows := fulfiller.rows
    answers := fulfiller.answers ++
      [{ pass := fulfiller.passes, requestId := requestId, kind := kind, result := result }]
    phase := phase }

/-- The update that sets `handled`, for a task that goes on to a phase. -/
def handle (kind : PassKind) (requestId : String) (phase : JobPhase) (fulfiller : Fulfiller) :
    JobStep :=
  match fulfiller.rows.proofRequestUpdate { proofId := requestId, handled := some true } with
  | (rows, .ok ()) => { rows := rows, answers := fulfiller.answers, phase := phase }
  | (rows, .error status) =>
    { rows := rows
      answers := fulfiller.answers
      phase :=
        match kind with
        | .submit => submitFailed s!"failed to update proof request status: {status.message}"
        | .fail => .done }

/-- What a task does with an event, if it waits for it. -/
def jobStep (config : FulfillerConfig) (kind : PassKind) (job : Job) (fulfiller : Fulfiller) :
    FulfillerEvent → Option JobStep
  | .download _ reply =>
    match job.phase, reply with
    | .downloading, .ok bytes =>
      some (fulfiller.turn (config.downloaded job.request (some bytes)))
    | .downloading, .error text => some (fulfiller.turn (submitFailed text))
    | _, _ => none
  | .submit _ replies =>
    match job.phase with
    | .submitting proofBytes =>
      let result := MainnetFulfiller.submitRequest job.request.id proofBytes replies
      some (fulfiller.answered job.request.id .fulfilment result
        (match result with
        | .ok () => .marking
        | .error text => submitFailed text))
    | _ => none
  | .fail _ replies =>
    match job.phase with
    | .failing =>
      let result := MainnetFulfiller.failRequestWithError job.request.id replies
      some (fulfiller.answered job.request.id
        (.failure (config.requestErrorFromExtraData job.request.extraData)) result
        (match result with
        | .ok () => .marking
        | .error _ => .done))
    | _ => none
  | .mark _ =>
    match job.phase with
    | .ignoring => some (fulfiller.handle kind job.request.id .done)
    | .marking =>
      some (fulfiller.handle kind job.request.id
        (match kind, job.request.proofArtifactId with
        | .submit, some artifactId => .deleting artifactId
        | _, _ => .done))
    | _ => none
  | .delete _ reply =>
    match job.phase, reply with
    | .deleting _, .ok () => some (fulfiller.turn .done)
    | .deleting _, .error text => some (fulfiller.turn (submitFailed text))
    | _, _ => none
  | .failMismatch _ replies =>
    match job.phase with
    | .mismatched =>
      some (fulfiller.answered job.request.id (.failure (some vkMismatchError))
        (MainnetFulfiller.failRequestWithError job.request.id replies) .done)
    | _ => none
  | _ => none

/-- The task of a row takes a step. -/
def perform (config : FulfillerConfig) (id : String) (event : FulfillerEvent)
    (fulfiller : Fulfiller) : Fulfiller :=
  match fulfiller.phase with
  | .working kind jobs =>
    match jobs.lookup id with
    | some job =>
      match fulfiller.jobStep config kind job event with
      | some step =>
        { fulfiller with
          rows := step.rows
          answers := step.answers
          phase := .working kind (jobs.insert id { job with phase := step.phase }) }
      | none => fulfiller
    | none => fulfiller
  | _ => fulfiller

def step (config : FulfillerConfig) (fulfiller : Fulfiller) (event : FulfillerEvent) :
    Fulfiller :=
  match event with
  | .api call => fulfiller.api call
  | .list kind now =>
    match fulfiller.phase with
    | .idle =>
      { fulfiller with phase := .listing kind now [] 0, passes := fulfiller.passes + 1 }
    | _ => fulfiller
  | .page =>
    match fulfiller.phase with
    | .listing kind now rows pageIdx => fulfiller.page config kind now rows pageIdx
    | _ => fulfiller
  | .finish =>
    match fulfiller.phase with
    | .working _ jobs =>
      if ∀ entry ∈ jobs.entries, entry.2.phase = .done then { fulfiller with phase := .idle }
      else fulfiller
    | _ => fulfiller
  | .download id _ | .submit id _ | .fail id _ | .mark id | .delete id _ | .failMismatch id _ =>
    fulfiller.perform config id event

def reach (config : FulfillerConfig) (events : List FulfillerEvent) : Fulfiller :=
  Systems.run (step config) start events

end Fulfiller

end Sp1Cluster
