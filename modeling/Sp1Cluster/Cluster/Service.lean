import Sp1Cluster.Api.Rows
import Sp1Cluster.Coordinator.Calls

/-!
# The coordinator and the cluster API

The tasks that keep the coordinator and the table of proof requests in step.

* The *claimer* lists the pending rows page by page, creates the proofs that are
  not tracked yet and tracks them, fails tracked proofs whose row is no longer
  pending, and re-issues the terminal writes that are not confirmed.
* The *status task* takes the results the coordinator emits, one after the other,
  stores the terminal write of a tracked proof and then sends it to the API.
* A *re-issue* sends one stored write again.

They share the table `task_map` of tracked proofs, which no lock protects beyond
one operation on one entry. A step of the model is one such operation, one call
of the coordinator or one request served by the API, and the steps of all parties
interleave. A walk over `task_map` reads its entries one by one.

A request to the API may be lost, may be answered, and may still be served after
its sender has given up. Besides these tasks, the coordinator serves calls of
workers and clients, and the API serves clients that create, cancel and update
rows; only completion writes set the status of a row.
-/

set_option autoImplicit false

namespace Sp1Cluster

open Systems

/-- What the build and the libraries fix: the tables of the coordinator, and the
JSON text of `ControllerInputMetadata`, if it can be written. -/
structure Deployment where
  build : Build
  controllerInputMetadata : Bool → Option String

/-! ## Results and writes -/

namespace ProofResult

def proofStatus (result : ProofResult) : ProofRequestStatus :=
  if result.success then .completed else .failed

/-- The completion write of a result. The JSON text of `Some(())` and of `None` is
`null`. -/
def update (result : ProofResult) : ProofRequestUpdateRequest where
  proofId := result.id
  proofStatus := some result.proofStatus
  metadata := some "null"
  extraData := result.extraData

end ProofResult

/-- A result the coordinator has emitted. `claimed` says that the claimer created
the proof it is about. -/
structure Emission where
  result : ProofResult
  claimed : Bool
deriving DecidableEq, Repr

namespace Emission

def id (emission : Emission) : String := emission.result.id

def update (emission : Emission) : ProofRequestUpdateRequest := emission.result.update

end Emission

def Effect.result : Effect → Option ProofResult
  | .proofResult result => some result
  | _ => none

/-- `TaskState`: what is known about a tracked proof. -/
inductive TaskState where
  | pending
  | terminal (update : ProofRequestUpdateRequest)
deriving DecidableEq, Repr

def TaskState.isTerminal : TaskState → Bool
  | .pending => false
  | .terminal _ => true

/-- Who calls `update_proof_request`. -/
inductive Writer where
  | status
  | reissue
deriving DecidableEq, Repr

/-- A completion write on its way to the API. -/
structure WriteRequest where
  writer : Writer
  update : ProofRequestUpdateRequest
deriving DecidableEq, Repr

/-! ## The tasks -/

/-- Where `spawn_proof_status_task` stands: waiting for a result, before looking
the proof up, before storing the write, in the call of the API, and before
dropping the entry of a confirmed write. -/
inductive StatusPhase where
  | idle
  | received (emission : Emission)
  | found (emission : Emission)
  | writing (emission : Emission)
  | confirmed (emission : Emission)
deriving DecidableEq, Repr

/-- Where `reissue_lost_status_write` stands: in the call of the API, before
dropping the entry, and before leaving `inflight`. -/
inductive ReissuePhase where
  | writing (update : ProofRequestUpdateRequest)
  | confirmed (update : ProofRequestUpdateRequest)
  | finished
deriving DecidableEq, Repr

/-- Where `fail_missing_proofs` stands with one proof: in `get_proof_request`,
before removing the entry, and before failing the proof. -/
inductive ConfirmPhase where
  | reading
  | missing
  | failing
deriving DecidableEq, Repr

/-- Where `spawn_proof_claimer_task` stands. -/
inductive ClaimerPhase where
  /-- Between two polls. -/
  | idle
  /-- In `drain_pages`, with the rows of the pages fetched so far. -/
  | listing (now : ℕ) (rows : List ProofRequest) (pageIdx : ℕ)
  /-- Before the next row of the listing. -/
  | claiming (seen : List String) (rest : List ProofRequest)
  /-- Before the call of `create_proof`. -/
  | creating (seen : List String) (rest : List ProofRequest) (request : CreateProofRequest)
  /-- After it, before the proof is tracked. -/
  | inserting (seen : List String) (rest : List ProofRequest) (proofId : String)
  /-- Collecting the tracked proofs that the listing lacks. -/
  | collecting (seen missing : List String)
  /-- Confirming them. -/
  | confirming (now : ℕ) (missing : List String) (running : Table String ConfirmPhase)
  /-- Collecting the writes that are not confirmed. -/
  | sweeping (unconfirmed : List ProofRequestUpdateRequest)
  /-- Starting their re-issues. -/
  | reissuing (unconfirmed : List ProofRequestUpdateRequest)

/-- The coordinator, the tasks beside it and the API. `sending` holds the results
whose call has released the lock and not sent them yet, `results` the channel of
the status task. Of the past, `processed` keeps the results the status task is
done with and `claimed` the proofs in the coordinator that the claimer created. -/
structure Cluster (P : Type) where
  state : CoordinatorState P
  rows : Rows
  requests : List WriteRequest
  taskMap : Table String TaskState
  sending : List Emission
  results : List Emission
  status : StatusPhase
  claimer : ClaimerPhase
  reissues : Table String ReissuePhase
  processed : List Emission
  claimed : List String

inductive StatusTurn where
  | receive
  | lookup
  | record
  | attempt
  | giveUp
  | drop

inductive ReissueTurn where
  | attempt
  | giveUp
  | drop
  | release

inductive ClaimerTurn where
  | list (now : ℕ)
  | page
  | giveUp
  | next
  | create (env : Env)
  | insert
  | visit (proofId : String)
  | confirm (now : ℕ)
  | start
  | read (proofId : String) (answered : Bool)
  | remove (proofId : String)
  | fail (proofId : String) (env : Env)
  | sweep
  | note (proofId : String)
  | reissueAll
  | reissue

inductive ClusterEvent where
  | call (event : Event)
  | send (index : ℕ)
  | api (call : ApiCall)
  | serve (index : ℕ) (answered : Bool)
  | status (turn : StatusTurn)
  | reissue (proofId : String) (turn : ReissueTurn)
  | claimer (turn : ClaimerTurn)

/-! ## Listing and claiming -/

def proofRequestPageSize : ℕ := 1000

def maxPages : ℕ := 100

def confirmFanOut : ℕ := 8

/-- `dedup_by_id`, for rows after some that have been seen. -/
def dedupById (seen : List String) : List ProofRequest → List ProofRequest
  | [] => []
  | row :: rest =>
    if row.id ∈ seen then dedupById seen rest else row :: dedupById (row.id :: seen) rest

theorem dedupById_subset (seen : List String) (rows : List ProofRequest) :
    dedupById seen rows ⊆ rows := by
  induction rows generalizing seen with
  | nil => exact List.Subset.refl _
  | cons row rest ih =>
    unfold dedupById
    split
    · exact List.Subset.trans (ih seen) (List.subset_cons_self row rest)
    · exact List.cons_subset_cons row (ih _)

/-- The listing the claimer asks for: one page of the pending rows that are not
handled and whose deadline has not passed. -/
def claimerListing (now pageIdx : ℕ) : ProofRequestListRequest where
  proofStatus := [.pending]
  handled := some false
  minimumDeadline := some now
  limit := some proofRequestPageSize
  offset := some (pageIdx * proofRequestPageSize)

/-- `hex::encode`. -/
def hexEncode (bytes : List UInt8) : String :=
  String.ofList (bytes.flatMap fun byte =>
    [Nat.digitChar (byte.toNat / 16), Nat.digitChar (byte.toNat % 16)])

/-- The request that creates the proof of a row, if the row has what it needs. -/
def claimRequest (deployment : Deployment) (proof : ProofRequest) : Option CreateProofRequest := do
  let optionsArtifactId ← proof.optionsArtifactId
  let cycleLimit ← proof.cycleLimit
  let proofArtifactId ← proof.proofArtifactId
  let metadata ← deployment.controllerInputMetadata proof.stdinPrivate
  return {
    proofId := proof.id
    inputs := [proof.programArtifactId, proof.stdinArtifactId, optionsArtifactId,
      toString cycleLimit, "", metadata]
    outputs := [proofArtifactId]
    requester := hexEncode proof.requester
    expiresAt := asI64 proof.deadline }

theorem claimRequest_proofId {deployment : Deployment} {proof : ProofRequest}
    {request : CreateProofRequest} (claimed : claimRequest deployment proof = some request) :
    request.proofId = proof.id := by
  unfold claimRequest at claimed
  simp only [bind, Option.bind_eq_some_iff, pure, Option.some.injEq] at claimed
  obtain ⟨_, _, _, _, _, _, _, _, rfl⟩ := claimed
  rfl

/-- `still_pending`. -/
def stillPending (row : ProofRequest) (now : ℕ) : Bool :=
  row.proofStatus = .pending && !row.handled && now ≤ row.deadline

namespace Cluster

variable {P : Type} [AssignmentPolicy P]

def start (rows : Rows) : Cluster P where
  state := CoordinatorState.new
  rows := rows
  requests := []
  taskMap := ∅
  sending := []
  results := []
  status := .idle
  claimer := .idle
  reissues := ∅
  processed := []
  claimed := []

/-! ## Calls of the coordinator -/

/-- The results among what a call sends, with the proofs the claimer created. -/
def emissions (effects : List Effect) (cluster : Cluster P) : List Emission :=
  (effects.filterMap Effect.result).map fun result => ⟨result, result.id ∈ cluster.claimed⟩

def outcome (deployment : Deployment) (event : Event) (cluster : Cluster P) : Outcome P Unit :=
  cluster.state.clearOutbox.exec deployment.build event.env event.call

/-- What a call of the coordinator leaves. Results sent under the lock are in the
channel, those of `complete_proof` are sent after it is released. -/
def settle (outcome : Outcome P Unit) (cluster : Cluster P) : Cluster P :=
  { cluster with
    state := outcome.state
    results := cluster.results ++ cluster.emissions outcome.state.outbox
    sending := cluster.sending ++ cluster.emissions outcome.after
    claimed := cluster.claimed.filter (· ∈ outcome.state.proofs) }

def call (deployment : Deployment) (event : Event) (cluster : Cluster P) : Cluster P :=
  cluster.settle (cluster.outcome deployment event)

/-- The end of `complete_proof`: `sender.send`. -/
def send (index : ℕ) (cluster : Cluster P) : Cluster P :=
  match cluster.sending[index]? with
  | none => cluster
  | some emission =>
    { cluster with
      sending := cluster.sending.eraseIdx index
      results := cluster.results ++ [emission] }

/-! ## The API -/

/-- A call of another client of the API. None of them sets the status of a row. -/
def api (call : ApiCall) (cluster : Cluster P) : Cluster P :=
  match call with
  | .create request now =>
    { cluster with rows := (cluster.rows.proofRequestCreate request now).1 }
  | .cancel proofId => { cluster with rows := cluster.rows.proofRequestCancel proofId }
  | .update update =>
    { cluster with rows := (cluster.rows.proofRequestUpdate { update with proofStatus := none }).1 }

/-- The writer of a request gets `Ok(())`, if it still waits for that write. -/
def reply (request : WriteRequest) (cluster : Cluster P) : Cluster P :=
  match request.writer with
  | .status =>
    match cluster.status with
    | .writing emission =>
      if emission.update = request.update then { cluster with status := .confirmed emission }
      else cluster
    | _ => cluster
  | .reissue =>
    if cluster.reissues.lookup request.update.proofId = some (.writing request.update) then
      { cluster with
        reissues := cluster.reissues.insert request.update.proofId (.confirmed request.update) }
    else cluster

def serve (index : ℕ) (answered : Bool) (cluster : Cluster P) : Cluster P :=
  match cluster.requests[index]? with
  | none => cluster
  | some request =>
    let served := cluster.rows.proofRequestUpdate request.update
    let cluster :=
      { cluster with requests := cluster.requests.eraseIdx index, rows := served.1 }
    if answered && served.2.isOk then cluster.reply request else cluster

/-- `task_map.remove_if(id, Terminal)`. -/
def dropTerminal (proofId : String) (cluster : Cluster P) : Cluster P :=
  if (cluster.taskMap.lookup proofId).any TaskState.isTerminal then
    { cluster with taskMap := cluster.taskMap.erase proofId }
  else cluster

/-! ## The status task -/

def statusTurn (turn : StatusTurn) (cluster : Cluster P) : Cluster P :=
  match turn, cluster.status with
  | .receive, .idle =>
    match cluster.results with
    | [] => cluster
    | emission :: rest => { cluster with status := .received emission, results := rest }
  | .lookup, .received emission =>
    -- A proof that is tracked goes on, also when its entry is not `Pending`.
    if emission.id ∈ cluster.taskMap then { cluster with status := .found emission }
    else { cluster with status := .idle, processed := cluster.processed ++ [emission] }
  | .record, .found emission =>
    { cluster with
      status := .writing emission
      taskMap := cluster.taskMap.insert emission.id (.terminal emission.update) }
  | .attempt, .writing emission =>
    { cluster with requests := cluster.requests ++ [⟨.status, emission.update⟩] }
  | .giveUp, .writing emission =>
    { cluster with status := .idle, processed := cluster.processed ++ [emission] }
  | .drop, .confirmed emission =>
    { cluster.dropTerminal emission.id with
      status := .idle
      processed := cluster.processed ++ [emission] }
  | _, _ => cluster

/-! ## Re-issues -/

def setReissue (proofId : String) (phase : ReissuePhase) (cluster : Cluster P) : Cluster P :=
  { cluster with reissues := cluster.reissues.insert proofId phase }

def reissueTurn (proofId : String) (turn : ReissueTurn) (cluster : Cluster P) : Cluster P :=
  match turn, cluster.reissues.lookup proofId with
  | .attempt, some (.writing update) =>
    { cluster with requests := cluster.requests ++ [⟨.reissue, update⟩] }
  | .giveUp, some (.writing _) => cluster.setReissue proofId .finished
  | .drop, some (.confirmed update) =>
    (cluster.dropTerminal update.proofId).setReissue proofId .finished
  | .release, some .finished => { cluster with reissues := cluster.reissues.erase proofId }
  | _, _ => cluster

/-- `reissue_lost_status_write`. -/
def reissueLostStatusWrite (update : ProofRequestUpdateRequest) (cluster : Cluster P) :
    Cluster P :=
  if update.proofId ∈ cluster.reissues then cluster
  else cluster.setReissue update.proofId (.writing update)

/-! ## The claimer -/

def setClaimer (phase : ClaimerPhase) (cluster : Cluster P) : Cluster P :=
  { cluster with claimer := phase }

/-- One page of `drain_pages`. -/
def page (now : ℕ) (rows : List ProofRequest) (pageIdx : ℕ) (cluster : Cluster P) : Cluster P :=
  let page := cluster.rows.proofRequestList (claimerListing now pageIdx)
  let all := rows ++ page
  if page.length ≠ proofRequestPageSize ∨ pageIdx + 1 = maxPages then
    cluster.setClaimer (.claiming [] (dedupById [] all).reverse)
  else cluster.setClaimer (.listing now all (pageIdx + 1))

/-- The next row of the listing, up to the call of `create_proof`. -/
def claimNext (deployment : Deployment) (seen : List String) (rest : List ProofRequest)
    (cluster : Cluster P) : Cluster P :=
  match rest with
  | [] => cluster.setClaimer (.collecting seen [])
  | proof :: rest =>
    let seen := proof.id :: seen
    if proof.id ∈ cluster.taskMap then cluster.setClaimer (.claiming seen rest)
    else
      match claimRequest deployment proof with
      | none => cluster.setClaimer (.claiming seen rest)
      | some request => cluster.setClaimer (.creating seen rest request)

/-- The call of `create_proof`. -/
def create (deployment : Deployment) (env : Env) (seen : List String) (rest : List ProofRequest)
    (request : CreateProofRequest) (cluster : Cluster P) : Cluster P :=
  let outcome := cluster.outcome deployment ⟨env, .createProof request⟩
  let created := cluster.settle outcome
  match outcome.reply with
  | .ok _ =>
    { created with
      claimer := .inserting seen rest request.proofId
      claimed := request.proofId :: created.claimed }
  | .error _ => created.setClaimer (.claiming seen rest)

/-- The answer of `get_proof_request` for a missing proof. -/
def confirmRead (now : ℕ) (missing : List String) (running : Table String ConfirmPhase)
    (proofId : String) (answered : Bool) (cluster : Cluster P) : Cluster P :=
  if answered && !(cluster.rows.proofRequestGet proofId).any (stillPending · now) then
    cluster.setClaimer (.confirming now missing (running.insert proofId .missing))
  else cluster.setClaimer (.confirming now missing (running.erase proofId))

/-- `task_map.remove_if(id, Pending)` of `fail_missing_proofs`. -/
def removePending (now : ℕ) (missing : List String) (running : Table String ConfirmPhase)
    (proofId : String) (cluster : Cluster P) : Cluster P :=
  if cluster.taskMap.lookup proofId = some .pending then
    { cluster with
      taskMap := cluster.taskMap.erase proofId
      claimer := .confirming now missing (running.insert proofId .failing) }
  else cluster.setClaimer (.confirming now missing (running.erase proofId))

def claimerTurn (deployment : Deployment) (turn : ClaimerTurn) (cluster : Cluster P) :
    Cluster P :=
  match turn, cluster.claimer with
  | .list now, .idle => cluster.setClaimer (.listing now [] 0)
  | .page, .listing now rows pageIdx => cluster.page now rows pageIdx
  | .giveUp, .listing _ _ _ => cluster.setClaimer .idle
  | .next, .claiming seen rest => cluster.claimNext deployment seen rest
  | .create env, .creating seen rest request => cluster.create deployment env seen rest request
  | .insert, .inserting seen rest proofId =>
    { cluster with
      taskMap := cluster.taskMap.insert proofId .pending
      claimer := .claiming seen rest }
  | .visit proofId, .collecting seen missing =>
    if cluster.taskMap.lookup proofId = some .pending ∧ proofId ∉ seen ∧ proofId ∉ missing then
      cluster.setClaimer (.collecting seen (missing ++ [proofId]))
    else cluster
  | .confirm now, .collecting _ missing => cluster.setClaimer (.confirming now missing ∅)
  | .start, .confirming now (proofId :: missing) running =>
    if running.entries.length < confirmFanOut then
      cluster.setClaimer (.confirming now missing (running.insert proofId .reading))
    else cluster
  | .read proofId answered, .confirming now missing running =>
    if running.lookup proofId = some .reading then
      cluster.confirmRead now missing running proofId answered
    else cluster
  | .remove proofId, .confirming now missing running =>
    if running.lookup proofId = some .missing then
      cluster.removePending now missing running proofId
    else cluster
  | .fail proofId env, .confirming now missing running =>
    if running.lookup proofId = some .failing then
      (cluster.call deployment ⟨env, .failProof proofId none false none⟩).setClaimer
        (.confirming now missing (running.erase proofId))
    else cluster
  | .sweep, .confirming _ [] running =>
    if running.entries = [] then cluster.setClaimer (.sweeping []) else cluster
  | .note proofId, .sweeping unconfirmed =>
    match cluster.taskMap.lookup proofId with
    | some (.terminal update) => cluster.setClaimer (.sweeping (unconfirmed ++ [update]))
    | _ => cluster
  | .reissueAll, .sweeping unconfirmed => cluster.setClaimer (.reissuing unconfirmed)
  | .reissue, .reissuing [] => cluster.setClaimer .idle
  | .reissue, .reissuing (update :: unconfirmed) =>
    (cluster.reissueLostStatusWrite update).setClaimer (.reissuing unconfirmed)
  | _, _ => cluster

/-! ## Runs -/

def step (deployment : Deployment) (cluster : Cluster P) : ClusterEvent → Cluster P
  | .call event => cluster.call deployment event
  | .send index => cluster.send index
  | .api call => cluster.api call
  | .serve index answered => cluster.serve index answered
  | .status turn => cluster.statusTurn turn
  | .reissue proofId turn => cluster.reissueTurn proofId turn
  | .claimer turn => cluster.claimerTurn deployment turn

def reach (P : Type) [AssignmentPolicy P] (deployment : Deployment) (rows : Rows)
    (events : List ClusterEvent) : Cluster P :=
  run (step deployment) (start rows) events

end Cluster

end Sp1Cluster
