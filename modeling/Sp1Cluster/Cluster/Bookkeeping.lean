import Sp1Cluster.Cluster.Ledger
import Sp1Cluster.Coordinator.Emissions

/-!
# The ledger of a cluster

The ledger that a state of the cluster amounts to, and the move that every step of
the cluster makes on it. The coordinator enters by one fact only: creating a proof
emits no result.
-/

set_option autoImplicit false

namespace Sp1Cluster

open Systems

/-! ## Program counters -/

namespace StatusPhase

def waiting : StatusPhase → List Emission
  | .received emission => [emission]
  | _ => []

def current : StatusPhase → Option Emission
  | .found emission => some emission
  | _ => none

def settled : StatusPhase → List Emission
  | .writing emission | .confirmed emission => [emission]
  | _ => []

end StatusPhase

namespace ClaimerPhase

/-- The rows of the listing that the claimer has to come to. -/
def listed : ClaimerPhase → List ProofRequest
  | .listing _ rows _ => rows
  | .claiming _ rest | .creating _ rest _ | .inserting _ rest _ => rest
  | _ => []

/-- The proof the claimer is about to create. -/
def beingCreated : ClaimerPhase → Option String
  | .creating _ _ request => some request.proofId
  | _ => none

/-- The proof the claimer has created and not tracked yet. -/
def created : ClaimerPhase → Option String
  | .inserting _ _ proofId => some proofId
  | _ => none

/-- The writes the claimer is about to re-issue. -/
def unconfirmed : ClaimerPhase → List ProofRequestUpdateRequest
  | .sweeping unconfirmed | .reissuing unconfirmed => unconfirmed
  | _ => []

end ClaimerPhase

namespace Cluster

variable {P : Type}

/-- A write that may be served now or later. -/
inductive Outstanding (cluster : Cluster P) (update : ProofRequestUpdateRequest) : Prop where
  | requested (request : WriteRequest) (member : request ∈ cluster.requests)
      (same : request.update = update)
  | written (emission : Emission) (phase : cluster.status = .writing emission)
      (same : emission.update = update)
  | reissued (proofId : String) (found : cluster.reissues.lookup proofId = some (.writing update))
  | noted (member : update ∈ cluster.claimer.unconfirmed)
  | stored (proofId : String) (found : cluster.taskMap.lookup proofId = some (.terminal update))

/-- A proof whose write is confirmed and whose entry is still to be dropped. -/
inductive Confirmed (cluster : Cluster P) (proofId : String) : Prop where
  | written (emission : Emission) (phase : cluster.status = .confirmed emission)
      (same : emission.id = proofId)
  | reissued (key : String) (update : ProofRequestUpdateRequest)
      (found : cluster.reissues.lookup key = some (.confirmed update))
      (same : update.proofId = proofId)

def ledger (cluster : Cluster P) : Ledger where
  row := cluster.rows.status
  entry := fun proofId => cluster.taskMap.lookup proofId
  owned := {proofId | proofId ∈ cluster.claimed ∨
    ∃ emission ∈ cluster.sending, emission.claimed ∧ emission.id = proofId}
  waiting := cluster.status.waiting ++ cluster.results
  current := cluster.status.current
  settled := cluster.processed ++ cluster.status.settled
  updates := {update | cluster.Outstanding update}
  answered := {proofId | cluster.Confirmed proofId}
  listed := {proofId | ∃ proof ∈ cluster.claimer.listed, proof.id = proofId}
  creating := cluster.claimer.beingCreated
  inserting := cluster.claimer.created

/-! ## What an event does to the table of tracked proofs -/

/-- The result that the status task looks up. -/
def looksUp (cluster : Cluster P) : ClusterEvent → Option Emission
  | .status .lookup =>
    match cluster.status with
    | .received emission => some emission
    | _ => none
  | _ => none

/-- The proof whose entry the claimer removes because its row left the listing. -/
def removes (cluster : Cluster P) : ClusterEvent → Option String
  | .claimer (.remove proofId) =>
    match cluster.claimer with
    | .confirming _ _ running =>
      if running.lookup proofId = some .missing ∧ cluster.taskMap.lookup proofId = some .pending
      then some proofId else none
    | _ => none
  | _ => none

/-- The proof whose entry is dropped because its write is confirmed. -/
def drops (cluster : Cluster P) : ClusterEvent → Option String
  | .status .drop =>
    match cluster.status with
    | .confirmed emission => some emission.id
    | _ => none
  | .reissue proofId .drop =>
    match cluster.reissues.lookup proofId with
    | some (.confirmed update) => some update.proofId
    | _ => none
  | _ => none

/-- A step of the cluster is a move on its ledger, after which some of what was
outstanding is forgotten. -/
structure Explains (cluster : Cluster P) (event : ClusterEvent) (next : Cluster P)
    (move : Ledger.Move) : Prop where
  allowed : cluster.ledger.Allows move
  forgets : (cluster.ledger.after move).Forgets next.ledger
  looksUp : ∀ emission ∈ move.lookedUp, emission ∈ cluster.looksUp event
  removes : ∀ proofId ∈ move.removed, proofId ∈ cluster.removes event
  drops : ∀ proofId ∈ move.dropped, proofId ∈ cluster.drops event

variable {cluster next : Cluster P} {event : ClusterEvent} {proofId : String}
  {update : ProofRequestUpdateRequest} {emission : Emission} {seen : List String} {now : ℕ}

theorem Explains.rest (forgets : cluster.ledger.Forgets next.ledger) :
    cluster.Explains event next .rest :=
  ⟨trivial, forgets, nofun, nofun, nofun⟩

theorem forgets_self (cluster : Cluster P) : cluster.ledger.Forgets cluster.ledger :=
  ⟨rfl, rfl, fun _ => id, rfl, rfl, rfl, fun _ => id, fun _ => id, fun _ => id, fun _ => id, rfl⟩

theorem Explains.same : cluster.Explains event cluster .rest := .rest cluster.forgets_self

/-- What is outstanding is read off five parts of the state. -/
theorem Outstanding.trace (outstanding : cluster.Outstanding update)
    (origin : ProofRequestUpdateRequest → Prop)
    (requests : ∀ request ∈ cluster.requests, origin request.update)
    (status : ∀ emission, cluster.status = .writing emission → origin emission.update)
    (reissues : ∀ proofId update, cluster.reissues.lookup proofId = some (.writing update) →
      origin update) (claimer : ∀ update ∈ cluster.claimer.unconfirmed, origin update)
    (taskMap : ∀ proofId update, cluster.taskMap.lookup proofId = some (.terminal update) →
      origin update) : origin update := by
  cases outstanding with
  | requested request member same =>
    rw [← same]
    exact requests request member
  | written emission phase same =>
    rw [← same]
    exact status emission phase
  | reissued proofId found => exact reissues proofId update found
  | noted member => exact claimer update member
  | stored proofId found => exact taskMap proofId update found

theorem Outstanding.of_le (outstanding : next.Outstanding update)
    (requests : next.requests ⊆ cluster.requests)
    (status : ∀ emission, next.status = .writing emission → cluster.status = .writing emission)
    (reissues : ∀ proofId update, next.reissues.lookup proofId = some (.writing update) →
      cluster.reissues.lookup proofId = some (.writing update))
    (claimer : next.claimer.unconfirmed ⊆ cluster.claimer.unconfirmed)
    (taskMap : ∀ proofId update, next.taskMap.lookup proofId = some (.terminal update) →
      cluster.taskMap.lookup proofId = some (.terminal update)) : cluster.Outstanding update :=
  outstanding.trace _ (fun request member => .requested request (requests member) rfl)
    (fun emission phase => .written emission (status emission phase) rfl)
    (fun proofId update found => .reissued proofId (reissues proofId update found))
    (fun _ member => .noted (claimer member))
    fun proofId update found => .stored proofId (taskMap proofId update found)

theorem Outstanding.of_same (outstanding : next.Outstanding update)
    (requests : next.requests = cluster.requests) (status : next.status = cluster.status)
    (reissues : next.reissues = cluster.reissues)
    (claimer : next.claimer.unconfirmed = cluster.claimer.unconfirmed)
    (taskMap : next.taskMap = cluster.taskMap) : cluster.Outstanding update :=
  outstanding.of_le (fun _ => requests ▸ id) (fun _ => status.symm.trans)
    (fun _ _ => reissues ▸ id) (fun _ => claimer ▸ id) fun _ _ => taskMap ▸ id

theorem Confirmed.of_same (confirmed : next.Confirmed proofId)
    (status : next.status = cluster.status) (reissues : next.reissues = cluster.reissues) :
    cluster.Confirmed proofId := by
  cases confirmed with
  | written emission phase same => exact .written emission (status ▸ phase) same
  | reissued key update found same => exact .reissued key update (reissues ▸ found) same

theorem explains_idle (same : next = cluster) : ∃ move, cluster.Explains event next move :=
  ⟨.rest, same ▸ .same⟩

/-! ## Calls of the coordinator -/

theorem claimed_of_mem_emissions {effects : List Effect}
    (member : emission ∈ cluster.emissions effects) (claimed : emission.claimed) :
    emission.id ∈ cluster.claimed := by
  obtain ⟨result, _, rfl⟩ := List.mem_map.mp member
  exact of_decide_eq_true claimed

theorem allows_emissions (cluster : Cluster P) (effects : List Effect) :
    cluster.ledger.Allows (.emit (cluster.emissions effects)) :=
  fun _ member claimed => .inl (claimed_of_mem_emissions member claimed)

theorem owned_settle (cluster : Cluster P) (outcome : Outcome P Unit) :
    (cluster.settle outcome).ledger.owned ⊆ cluster.ledger.owned := by
  rintro proofId (kept | ⟨emission, member, claimed, rfl⟩)
  · exact .inl (List.mem_of_mem_filter kept)
  · rcases List.mem_append.mp member with before | added
    · exact .inr ⟨emission, before, claimed, rfl⟩
    · exact .inl (claimed_of_mem_emissions added claimed)

theorem forgets_settle (cluster : Cluster P) (outcome : Outcome P Unit) :
    (cluster.ledger.after (.emit (cluster.emissions outcome.state.outbox))).Forgets
      (cluster.settle outcome).ledger :=
  { cluster.forgets_self with
    owned := cluster.owned_settle outcome
    waiting := (List.append_assoc ..).symm
    updates := fun _ outstanding => outstanding.of_same rfl rfl rfl rfl rfl
    answered := fun _ confirmed => confirmed.of_same rfl rfl }

theorem explains_send (index : ℕ) : ∃ move, cluster.Explains event (cluster.send index) move := by
  unfold send
  cases found : cluster.sending[index]? with
  | none => exact explains_idle rfl
  | some emission =>
    have member : emission ∈ cluster.sending := List.mem_of_getElem? found
    refine ⟨.emit [emission], ?_, { cluster.forgets_self with
      owned := ?_
      waiting := (List.append_assoc ..).symm
      updates := fun _ outstanding => outstanding.of_same rfl rfl rfl rfl rfl
      answered := fun _ confirmed => confirmed.of_same rfl rfl }, nofun, nofun, nofun⟩
    · intro sent only claimed
      obtain rfl := List.mem_singleton.mp only
      exact .inr ⟨sent, member, claimed, rfl⟩
    · rintro proofId (claimed | ⟨other, among, claimed, rfl⟩)
      · exact .inl claimed
      · exact .inr ⟨other, List.mem_of_mem_eraseIdx among, claimed, rfl⟩

/-! ## The API -/

theorem forgets_rows {ledger : Ledger} {rows : Rows} (row : rows.status = ledger.row)
    (same : { cluster.ledger with row := ledger.row } = ledger) :
    ledger.Forgets ({ cluster with rows := rows } : Cluster P).ledger := by
  rw [← same]
  exact { cluster.forgets_self with
    row := row
    updates := fun _ outstanding => outstanding.of_same rfl rfl rfl rfl rfl
    answered := fun _ confirmed => confirmed.of_same rfl rfl }

theorem forgets_setRow {rows : Rows} {before : Option ProofRequestStatus}
    {status : ProofRequestStatus} (row : ∀ other, rows.status other =
      if other = proofId ∧ cluster.rows.status other = before then some status
      else cluster.rows.status other) :
    (cluster.rows.status proofId = before →
      (cluster.ledger.setRow proofId status).Forgets ({ cluster with rows := rows } : Cluster P).ledger) ∧
    (cluster.rows.status proofId ≠ before →
      cluster.ledger.Forgets ({ cluster with rows := rows } : Cluster P).ledger) := by
  refine ⟨fun found => forgets_rows (funext fun other => ?_) rfl,
    fun different => forgets_rows (funext fun other => (row other).trans (if_neg ?_)) rfl⟩
  · change _ = Function.update cluster.rows.status proofId (some status) other
    rw [row, Function.update_apply]
    by_cases same : other = proofId
    · rw [if_pos ⟨same, same ▸ found⟩, if_pos same]
    · rw [if_neg fun changed => same changed.1, if_neg same]
  · rintro ⟨rfl, found⟩
    exact different found

theorem explains_api (call : ApiCall) : ∃ move, cluster.Explains event (cluster.api call) move := by
  cases call with
  | create request now =>
    obtain ⟨opens, keeps⟩ := forgets_setRow (cluster.rows.status_create request now)
    by_cases absent : cluster.rows.status request.proofId = none
    · exact ⟨.openRow request.proofId, absent, opens absent, nofun, nofun, nofun⟩
    · exact ⟨.rest, .rest (keeps absent)⟩
  | cancel cancelled =>
    obtain ⟨cancels, keeps⟩ := forgets_setRow (cluster.rows.status_cancel cancelled)
    by_cases pending : cluster.rows.status cancelled = some .pending
    · exact ⟨.cancelRow cancelled, pending, cancels pending, nofun, nofun, nofun⟩
    · exact ⟨.rest, .rest (keeps pending)⟩
  | update update =>
    refine ⟨.rest, .rest (forgets_rows ?_ rfl)⟩
    funext proofId
    exact Rows.status_update_of_none rfl _ _

/-- A reply reaches its writer, or finds nobody waiting for it. -/
theorem reply_cases (cluster : Cluster P) (request : WriteRequest) :
    cluster.reply request = cluster ∨
      (∃ emission, cluster.status = .writing emission ∧ emission.update = request.update ∧
        cluster.reply request = { cluster with status := .confirmed emission }) ∨
      cluster.reply request = cluster.setReissue request.update.proofId
        (.confirmed request.update) := by
  unfold reply
  split
  · split
    · next emission phase =>
      split
      · next own => exact .inr (.inl ⟨emission, phase, own, rfl⟩)
      · exact .inl rfl
    · exact .inl rfl
  · split
    · exact .inr (.inr rfl)
    · exact .inl rfl

theorem forgets_setReissue {ledger : Ledger} (forgets : ledger.Forgets cluster.ledger)
    (proofId : String) {phase : ReissuePhase}
    (writes : ∀ update, phase = .writing update → cluster.Outstanding update)
    (confirms : ∀ update, phase = .confirmed update → update.proofId ∈ ledger.answered) :
    ledger.Forgets (cluster.setReissue proofId phase).ledger := by
  refine { forgets with updates := ?_, answered := ?_ }
  · intro update outstanding
    refine forgets.updates (outstanding.trace _
      (fun request member => .requested request member rfl)
      (fun emission phase => .written emission phase rfl) ?_ (fun _ member => .noted member)
      fun stored _ found => .stored stored found)
    intro key written found
    rcases Table.lookup_insert_cases found with ⟨-, same⟩ | ⟨-, before⟩
    · exact writes written same.symm
    · exact .reissued key before
  · rintro confirmed (⟨emission, phase, same⟩ | ⟨key, update, found, rfl⟩)
    · exact forgets.answered (.written emission phase same)
    · rcases Table.lookup_insert_cases found with ⟨-, own⟩ | ⟨-, before⟩
      · exact confirms update own.symm
      · exact forgets.answered (.reissued key update before rfl)

theorem forgets_status {ledger : Ledger} {status : StatusPhase} {results processed : List Emission}
    (forgets : Ledger.Forgets { ledger with
      waiting := cluster.ledger.waiting
      current := cluster.ledger.current
      settled := cluster.ledger.settled } cluster.ledger)
    (waiting : status.waiting ++ results = ledger.waiting)
    (current : status.current = ledger.current)
    (settled : processed ++ status.settled = ledger.settled)
    (writes : ∀ emission, status = .writing emission → emission.update ∈ ledger.updates)
    (confirms : ∀ emission, status = .confirmed emission → emission.id ∈ ledger.answered) :
    ledger.Forgets (Cluster.ledger
      { cluster with status := status, results := results, processed := processed }) := by
  refine { forgets with
    waiting := waiting, current := current, settled := settled, updates := ?_, answered := ?_ }
  · intro update outstanding
    exact outstanding.trace (· ∈ ledger.updates)
      (fun request member => forgets.updates (.requested request member rfl)) writes
      (fun proofId _ found => forgets.updates (.reissued proofId found))
      (fun _ member => forgets.updates (.noted member))
      fun proofId _ found => forgets.updates (.stored proofId found)
  · rintro proofId (⟨emission, phase, rfl⟩ | ⟨key, update, found, same⟩)
    · exact confirms emission phase
    · exact forgets.answered (.reissued key update found same)

theorem forgets_statusPhase {ledger : Ledger} (forgets : ledger.Forgets cluster.ledger)
    {status : StatusPhase} {results processed : List Emission}
    (waiting : status.waiting ++ results = cluster.status.waiting ++ cluster.results)
    (current : status.current = cluster.status.current)
    (settled : processed ++ status.settled = cluster.processed ++ cluster.status.settled)
    (unwritten : ∀ emission, status ≠ .writing emission)
    (confirms : ∀ emission, status = .confirmed emission → emission.id ∈ ledger.answered) :
    ledger.Forgets (Cluster.ledger
      { cluster with status := status, results := results, processed := processed }) :=
  forgets_status { forgets with waiting := rfl, current := rfl, settled := rfl }
    (waiting.trans forgets.waiting) (current.trans forgets.current)
    (settled.trans forgets.settled) (fun emission same => absurd same (unwritten emission)) confirms

theorem row_served (written : cluster.ledger.Written) {request : WriteRequest}
    (member : request ∈ cluster.requests) :
    (cluster.rows.proofRequestUpdate request.update).1.status =
      (cluster.ledger.after (.serve request.update)).row := by
  obtain ⟨emission, _, same⟩ := written request.update (.requested request member rfl)
  have named : request.update.proofStatus = some emission.result.proofStatus := by
    rw [← same]
    rfl
  funext proofId
  rw [Rows.status_update_of_some named]
  change _ = if proofId = request.update.proofId ∧ cluster.rows.status proofId = some .pending
    then request.update.proofStatus else cluster.rows.status proofId
  rw [named]

/-- After the reply, the entry of the write is still to be dropped. -/
theorem forgets_reply {ledger : Ledger} (forgets : ledger.Forgets cluster.ledger)
    (request : WriteRequest) (answered : request.update.proofId ∈ ledger.answered) :
    ledger.Forgets (cluster.reply request).ledger := by
  rcases reply_cases cluster request with same | ⟨emission, phase, own, replied⟩ | replied
  · rw [same]
    exact forgets
  · rw [replied]
    refine forgets_statusPhase forgets ?_ ?_ ?_ nofun ?_
    · rw [phase]
      rfl
    · rw [phase]
      rfl
    · rw [phase]
      rfl
    · rintro other ⟨⟩
      rw [← own] at answered
      exact answered
  · rw [replied]
    refine forgets_setReissue forgets _ (fun _ => nofun) ?_
    rintro update ⟨⟩
    exact answered

theorem explains_serve (written : cluster.ledger.Written) (index : ℕ) (answered : Bool) :
    ∃ move, cluster.Explains event (cluster.serve index answered) move := by
  unfold serve
  cases found : cluster.requests[index]? with
  | none => exact explains_idle rfl
  | some request =>
    have member : request ∈ cluster.requests := List.mem_of_getElem? found
    have served : (cluster.ledger.after (.serve request.update)).Forgets
        (ledger { cluster with
          requests := cluster.requests.eraseIdx index
          rows := (cluster.rows.proofRequestUpdate request.update).1 }) :=
      { cluster.forgets_self with
        row := row_served written member
        updates := fun _ outstanding => outstanding.of_le (fun _ => List.mem_of_mem_eraseIdx)
          (fun _ => id) (fun _ _ => id) (fun _ => id) (fun _ _ => id)
        answered := fun _ confirmed => .inr (confirmed.of_same rfl rfl) }
    refine ⟨.serve request.update, .requested request member rfl, ?_, nofun, nofun, nofun⟩
    dsimp only
    split
    · exact forgets_reply served request (Set.mem_insert _ _)
    · exact served

/-! ## Dropping entries -/

theorem entry_insert (taskMap : Table String TaskState) (proofId : String) (entry : TaskState) :
    (fun other => (taskMap.insert proofId entry).lookup other) =
      Function.update (fun other => taskMap.lookup other) proofId (some entry) := by
  funext other
  rw [Table.lookup_insert_eq, Function.update_apply]

theorem forgets_erase (cluster : Cluster P) (proofId : String) :
    (cluster.ledger.setEntry proofId none).Forgets
      (ledger { cluster with taskMap := cluster.taskMap.erase proofId }) :=
  { cluster.forgets_self with
    entry := funext fun other => (Table.lookup_erase_eq ..).trans
      (Function.update_apply (fun other => cluster.taskMap.lookup other) proofId none other).symm
    updates := fun _ outstanding => outstanding.of_le (fun _ => id) (fun _ => id) (fun _ _ => id)
      (fun _ => id) fun _ _ => Table.lookup_of_erase
    answered := fun _ confirmed => confirmed.of_same rfl rfl }

theorem stored_of_isTerminal
    (terminal : (cluster.taskMap.lookup proofId).any TaskState.isTerminal = true) :
    cluster.ledger.Stored proofId := by
  obtain ⟨entry, found, isTerminal⟩ := (Option.any_eq_true ..).mp terminal
  cases entry with
  | pending => cases isTerminal
  | terminal update => exact ⟨update, found⟩

theorem dropTerminal_status (cluster : Cluster P) (proofId : String) :
    (cluster.dropTerminal proofId).status = cluster.status := by
  unfold dropTerminal
  split <;> rfl

theorem dropTerminal_processed (cluster : Cluster P) (proofId : String) :
    (cluster.dropTerminal proofId).processed = cluster.processed := by
  unfold dropTerminal
  split <;> rfl

/-- The entry of a confirmed write is dropped, and its writer goes on. -/
theorem explains_drop (confirmed : cluster.Confirmed proofId)
    (dropped : proofId ∈ cluster.drops event)
    (goesOn : ∀ ledger : Ledger, ledger.Forgets (cluster.dropTerminal proofId).ledger →
      ledger.Forgets next.ledger) : ∃ move, cluster.Explains event next move := by
  unfold dropTerminal at goesOn
  split at goesOn
  · next terminal =>
    refine ⟨.drop proofId, ⟨confirmed, stored_of_isTerminal terminal⟩,
      goesOn _ (cluster.forgets_erase proofId), nofun, nofun, ?_⟩
    rintro other ⟨⟩
    exact dropped
  · exact ⟨.rest, .rest (goesOn _ cluster.forgets_self)⟩

/-! ## The status task -/

theorem forgets_finish {ledger : Ledger} (forgets : ledger.Forgets cluster.ledger)
    (phase : cluster.status = .writing emission ∨ cluster.status = .confirmed emission) :
    ledger.Forgets (Cluster.ledger
      { cluster with status := .idle, processed := cluster.processed ++ [emission] }) := by
  refine forgets_statusPhase forgets ?_ ?_ ?_ nofun nofun
  · rcases phase with phase | phase <;> rw [phase] <;> rfl
  · rcases phase with phase | phase <;> rw [phase] <;> rfl
  · rcases phase with phase | phase <;> rw [phase] <;> simp [StatusPhase.settled]

theorem explains_receive (phase : cluster.status = .idle) :
    ∃ move, cluster.Explains event (cluster.statusTurn .receive) move := by
  refine ⟨.rest, .rest ?_⟩
  simp only [statusTurn, phase]
  cases queue : cluster.results with
  | nil => exact cluster.forgets_self
  | cons emission rest =>
    refine forgets_statusPhase cluster.forgets_self ?_ ?_ ?_ nofun nofun
    · rw [phase, queue]
      rfl
    · rw [phase]
      rfl
    · rw [phase]
      rfl

theorem explains_lookup (phase : cluster.status = .received emission) :
    ∃ move, cluster.Explains (.status .lookup) (cluster.statusTurn .lookup) move := by
  have head : cluster.ledger.waiting = emission :: cluster.results := by
    simp only [ledger, phase, StatusPhase.waiting, List.singleton_append]
  have free : cluster.ledger.current = none := congrArg StatusPhase.current phase
  have settled : cluster.ledger.settled = cluster.processed := by
    simp only [ledger, phase, StatusPhase.settled, List.append_nil]
  have looked : ∀ other ∈ some emission, other ∈ cluster.looksUp (.status .lookup) := by
    rintro other ⟨⟩
    simp [looksUp, phase]
  have rest : [] ++ cluster.results = cluster.ledger.waiting.tail := by
    rw [head]
    rfl
  simp only [statusTurn, phase]
  split
  · next tracked =>
    have entry : cluster.ledger.Tracked emission.id :=
      fun missing => AList.lookup_eq_none.mp missing tracked
    refine ⟨.heed emission, ⟨by rw [head]; rfl, free, entry⟩, ?_, looked, nofun, nofun⟩
    refine forgets_status cluster.forgets_self rest ?_ ?_ ?_ ?_
    · rfl
    · exact (List.append_nil _).trans settled.symm
    · exact nofun
    · exact nofun
  · next untracked =>
    have missing : cluster.ledger.entry emission.id = none := AList.lookup_eq_none.mpr untracked
    refine ⟨.ignore emission, ⟨by rw [head]; rfl, free, fun entry => entry missing⟩, ?_, looked,
      nofun, nofun⟩
    refine forgets_status cluster.forgets_self rest free.symm ?_ nofun nofun
    change cluster.processed ++ [emission] ++ [] = cluster.ledger.settled ++ [emission]
    rw [settled, List.append_nil]

theorem explains_record (phase : cluster.status = .found emission) :
    cluster.Explains event (cluster.statusTurn .record) (.record emission) := by
  have held : cluster.ledger.current = some emission := congrArg StatusPhase.current phase
  refine ⟨held, ?_, nofun, nofun, nofun⟩
  simp only [statusTurn, phase]
  refine { cluster.forgets_self with
    entry := entry_insert cluster.taskMap emission.id _
    waiting := by simp only [ledger, Ledger.after, Ledger.setEntry, phase, StatusPhase.waiting]
    current := rfl
    settled := by
      simp only [ledger, Ledger.after, Ledger.setEntry, phase, StatusPhase.settled, List.append_nil]
    updates := ?_
    answered := ?_ }
  · intro update outstanding
    refine outstanding.trace (· ∈ insert emission.update cluster.ledger.updates)
      (fun request member => .inr (.requested request member rfl)) ?_
      (fun proofId _ found => .inr (.reissued proofId found)) (fun _ member => .inr (.noted member))
      ?_
    · rintro other ⟨⟩
      exact .inl rfl
    · intro proofId other found
      rcases Table.lookup_insert_cases found with ⟨-, same⟩ | ⟨-, before⟩
      · cases same
        exact .inl rfl
      · exact .inr (.stored proofId before)
  · rintro proofId (⟨_, same, _⟩ | ⟨key, update, found, same⟩)
    · cases same
    · exact .reissued key update found same

theorem forgets_attempt (cluster : Cluster P) {writer : Writer}
    (pursued : cluster.Outstanding update) :
    cluster.ledger.Forgets (ledger
      { cluster with requests := cluster.requests ++ [⟨writer, update⟩] }) := by
  refine { cluster.forgets_self with
    updates := ?_
    answered := fun _ confirmed => confirmed.of_same rfl rfl }
  intro other outstanding
  refine outstanding.trace _ ?_ (fun emission phase => .written emission phase rfl)
    (fun proofId _ found => .reissued proofId found) (fun _ member => .noted member)
    fun proofId _ found => .stored proofId found
  intro request member
  rcases List.mem_append.mp member with before | added
  · exact .requested request before rfl
  · obtain rfl := List.mem_singleton.mp added
    exact pursued

theorem explains_statusTurn (turn : StatusTurn) :
    ∃ move, cluster.Explains (.status turn) (cluster.statusTurn turn) move := by
  cases turn with
  | receive =>
    cases phase : cluster.status with
    | idle => exact explains_receive phase
    | _ => exact explains_idle (by simp only [statusTurn, phase])
  | lookup =>
    cases phase : cluster.status with
    | received emission => exact explains_lookup phase
    | _ => exact explains_idle (by simp only [statusTurn, phase])
  | record =>
    cases phase : cluster.status with
    | found emission => exact ⟨_, explains_record phase⟩
    | _ => exact explains_idle (by simp only [statusTurn, phase])
  | attempt =>
    cases phase : cluster.status with
    | writing emission =>
      simp only [statusTurn, phase]
      exact ⟨.rest, .rest (phase ▸ cluster.forgets_attempt (.written emission phase rfl))⟩
    | _ => exact explains_idle (by simp only [statusTurn, phase])
  | giveUp =>
    cases phase : cluster.status with
    | writing emission =>
      simp only [statusTurn, phase]
      exact ⟨.rest, .rest (forgets_finish cluster.forgets_self (.inl phase))⟩
    | _ => exact explains_idle (by simp only [statusTurn, phase])
  | drop =>
    cases phase : cluster.status with
    | confirmed emission =>
      simp only [statusTurn, phase]
      refine explains_drop (.written emission phase rfl) (by simp [drops, phase]) ?_
      intro ledger forgets
      have done := forgets_finish forgets (.inr ((cluster.dropTerminal_status _).trans phase))
      rwa [dropTerminal_processed] at done
    | _ => exact explains_idle (by simp only [statusTurn, phase])

/-! ## Re-issues -/

theorem forgets_release (cluster : Cluster P) (proofId : String) :
    cluster.ledger.Forgets (ledger
      { cluster with reissues := cluster.reissues.erase proofId }) := by
  refine { cluster.forgets_self with updates := ?_, answered := ?_ }
  · intro update outstanding
    exact outstanding.of_le (fun _ => id) (fun _ => id) (fun _ _ => Table.lookup_of_erase)
      (fun _ => id) fun _ _ => id
  · rintro confirmed (⟨emission, phase, same⟩ | ⟨key, update, found, same⟩)
    · exact .written emission phase same
    · exact .reissued key update (Table.lookup_of_erase found) same

theorem explains_reissueTurn (proofId : String) (turn : ReissueTurn) :
    ∃ move, cluster.Explains (.reissue proofId turn) (cluster.reissueTurn proofId turn) move := by
  cases found : cluster.reissues.lookup proofId with
  | none => exact explains_idle (by cases turn <;> simp only [reissueTurn, found])
  | some phase =>
    cases phase with
    | writing update =>
      cases turn with
      | attempt =>
        simp only [reissueTurn, found]
        exact ⟨.rest, .rest (cluster.forgets_attempt (.reissued proofId found))⟩
      | giveUp =>
        simp only [reissueTurn, found]
        exact ⟨.rest, .rest (forgets_setReissue cluster.forgets_self proofId (fun _ => nofun)
          fun _ => nofun)⟩
      | _ => exact explains_idle (by simp only [reissueTurn, found])
    | confirmed update =>
      cases turn with
      | drop =>
        simp only [reissueTurn, found]
        refine explains_drop (.reissued proofId update found rfl) (by simp [drops, found]) ?_
        exact fun _ forgets => forgets_setReissue forgets proofId (fun _ => nofun) fun _ => nofun
      | _ => exact explains_idle (by simp only [reissueTurn, found])
    | finished =>
      cases turn with
      | release =>
        simp only [reissueTurn, found]
        exact ⟨.rest, .rest (cluster.forgets_release proofId)⟩
      | _ => exact explains_idle (by simp only [reissueTurn, found])

/-! ## The claimer -/

theorem forgets_setClaimer {ledger : Ledger} (forgets : ledger.Forgets cluster.ledger)
    {phase : ClaimerPhase} (listed : ∀ proof ∈ phase.listed, proof.id ∈ ledger.listed)
    (creating : phase.beingCreated = none ∨ phase.beingCreated = ledger.creating)
    (inserting : phase.created = ledger.inserting)
    (unconfirmed : ∀ update ∈ phase.unconfirmed, update ∈ ledger.updates) :
    ledger.Forgets (cluster.setClaimer phase).ledger := by
  refine { forgets with
    updates := ?_
    answered := fun _ confirmed => forgets.answered (confirmed.of_same rfl rfl)
    listed := ?_
    creating := ?_
    inserting := inserting }
  · intro update outstanding
    exact outstanding.trace (· ∈ ledger.updates)
      (fun request member => forgets.updates (.requested request member rfl))
      (fun emission phase => forgets.updates (.written emission phase rfl))
      (fun key _ found => forgets.updates (.reissued key found)) unconfirmed
      fun stored _ found => forgets.updates (.stored stored found)
  · rintro proofId ⟨proof, member, rfl⟩
    exact listed proof member
  · intro proofId member
    change proofId ∈ phase.beingCreated at member
    rcases creating with idle | same
    · rw [idle] at member
      cases member
    · exact same ▸ member

theorem explains_quiet (free : cluster.claimer.created = none) {phase : ClaimerPhase}
    (listed : phase.listed = []) (creating : phase.beingCreated = none)
    (inserting : phase.created = none) (unconfirmed : phase.unconfirmed = []) :
    ∃ move, cluster.Explains event (cluster.setClaimer phase) move := by
  refine ⟨.rest, .rest (forgets_setClaimer cluster.forgets_self ?_ (.inl creating)
    (inserting.trans free.symm) ?_)⟩
  · exact listed ▸ List.forall_mem_nil _
  · exact unconfirmed ▸ List.forall_mem_nil _

theorem forgets_list (cluster : Cluster P) (proofIds : Set String) :
    (cluster.ledger.after (.list proofIds)).Forgets cluster.ledger :=
  { cluster.forgets_self with listed := fun _ member => Or.inl member }

theorem explains_page (keyed : cluster.rows.Keyed) {pageIdx : ℕ} {rows : List ProofRequest}
    (phase : cluster.claimer = .listing now rows pageIdx) :
    ∃ move, cluster.Explains event (cluster.page now rows pageIdx) move := by
  unfold page
  have pending : ∀ proof ∈ cluster.rows.proofRequestList (claimerListing now pageIdx),
      cluster.rows.status proof.id = some .pending :=
    fun proof member => Rows.status_of_listed keyed rfl member
  generalize cluster.rows.proofRequestList (claimerListing now pageIdx) = fetched at pending ⊢
  have free : none = cluster.ledger.inserting := (congrArg ClaimerPhase.created phase).symm
  have listed : ∀ proof ∈ rows ++ fetched,
      proof.id ∈ cluster.ledger.listed ∪ {proofId | ∃ proof ∈ fetched, proof.id = proofId} := by
    intro proof member
    rcases List.mem_append.mp member with before | added
    · exact Or.inl ⟨proof, phase ▸ before, rfl⟩
    · exact Or.inr ⟨proof, added, rfl⟩
  refine ⟨.list {proofId | ∃ proof ∈ fetched, proof.id = proofId}, ?_, ?_, nofun, nofun, nofun⟩
  · rintro proofId ⟨proof, member, rfl⟩
    exact pending proof member
  · dsimp only
    split
    · refine forgets_setClaimer (cluster.forgets_list _) ?_ (.inl rfl) free (List.forall_mem_nil _)
      intro proof member
      exact listed proof (dedupById_subset [] _ (List.mem_reverse.mp member))
    · exact forgets_setClaimer (cluster.forgets_list _) listed (.inl rfl) free
        (List.forall_mem_nil _)

theorem explains_claimNext {deployment : Deployment} {rest : List ProofRequest}
    (phase : cluster.claimer = .claiming seen rest) :
    ∃ move, cluster.Explains event (cluster.claimNext deployment seen rest) move := by
  have free : cluster.claimer.created = none := congrArg ClaimerPhase.created phase
  cases rest with
  | nil => exact explains_quiet free rfl rfl rfl rfl
  | cons proof rest =>
    have listed : ∀ other ∈ proof :: rest, other.id ∈ cluster.ledger.listed :=
      fun other member => ⟨other, phase ▸ member, rfl⟩
    have later : ∀ other ∈ rest, other.id ∈ cluster.ledger.listed :=
      fun other member => listed other (List.mem_cons_of_mem _ member)
    have skipped : cluster.ledger.Forgets
        (cluster.setClaimer (.claiming (proof.id :: seen) rest)).ledger :=
      forgets_setClaimer cluster.forgets_self later (.inl rfl) free.symm
        (List.forall_mem_nil _)
    unfold claimNext
    dsimp only
    split
    · exact ⟨.rest, .rest skipped⟩
    · next untracked =>
      split
      · exact ⟨.rest, .rest skipped⟩
      · next request claimed =>
        have same : request.proofId = proof.id := claimRequest_proofId claimed
        have missing : cluster.ledger.entry proof.id = none :=
          AList.lookup_eq_none.mpr untracked
        refine ⟨.check proof.id, ⟨listed proof List.mem_cons_self, fun entry => entry missing⟩,
          ?_, nofun, nofun, nofun⟩
        have idle : cluster.ledger.creating = none := congrArg ClaimerPhase.beingCreated phase
        have checked : (cluster.ledger.after (.check proof.id)).Forgets cluster.ledger :=
          { cluster.forgets_self with
            creating := idle ▸ fun _ member => absurd member (Option.not_mem_none _) }
        exact forgets_setClaimer checked later (.inr (congrArg some same)) free.symm
          (List.forall_mem_nil _)

theorem explains_insert {rest : List ProofRequest}
    (phase : cluster.claimer = .inserting seen rest proofId) :
    cluster.Explains event
      { cluster with
        taskMap := cluster.taskMap.insert proofId .pending
        claimer := .claiming seen rest } (.insert proofId) := by
  refine ⟨⟨congrArg ClaimerPhase.created phase, congrArg ClaimerPhase.beingCreated phase⟩,
    { cluster.forgets_self with
      entry := entry_insert cluster.taskMap proofId .pending
      updates := ?_
      answered := fun _ confirmed => confirmed.of_same rfl rfl
      listed := ?_
      creating := fun _ member => absurd member (Option.not_mem_none _)
      inserting := rfl }, nofun, nofun, nofun⟩
  · intro update outstanding
    refine outstanding.of_le (fun _ => id) (fun _ => id) (fun _ _ => id) (List.nil_subset _) ?_
    intro other stored found
    rcases Table.lookup_insert_cases found with ⟨-, same⟩ | ⟨-, before⟩
    · cases same
    · exact before
  · rintro other ⟨proof, member, rfl⟩
    exact ⟨proof, phase ▸ member, rfl⟩

theorem explains_remove {missing : List String} {running : Table String ConfirmPhase}
    (phase : cluster.claimer = .confirming now missing running)
    (reads : running.lookup proofId = some .missing) :
    ∃ move, cluster.Explains (.claimer (.remove proofId))
      (cluster.removePending now missing running proofId) move := by
  have free : cluster.claimer.created = none := congrArg ClaimerPhase.created phase
  unfold removePending
  split
  · next pending =>
    refine ⟨.remove proofId, ⟨pending, ?_⟩,
      forgets_setClaimer (cluster.forgets_erase proofId) (List.forall_mem_nil _) (.inl rfl)
        free.symm (List.forall_mem_nil _), nofun, ?_, nofun⟩
    · simp only [ledger, phase, ClaimerPhase.listed, List.not_mem_nil, false_and, exists_false,
        Set.ofPred_false]
    · rintro other ⟨⟩
      simp [removes, phase, reads, pending]
  · exact explains_quiet free rfl rfl rfl rfl

theorem explains_reissue {unconfirmed : List ProofRequestUpdateRequest}
    (phase : cluster.claimer = .reissuing (update :: unconfirmed)) :
    cluster.Explains event
      ((cluster.reissueLostStatusWrite update).setClaimer (.reissuing unconfirmed)) .rest := by
  have noted : ∀ other ∈ update :: unconfirmed, cluster.Outstanding other :=
    fun other member => .noted (phase ▸ member)
  have free : none = cluster.ledger.inserting := (congrArg ClaimerPhase.created phase).symm
  have started : cluster.ledger.Forgets (cluster.reissueLostStatusWrite update).ledger := by
    unfold reissueLostStatusWrite
    split
    · exact cluster.forgets_self
    · refine forgets_setReissue cluster.forgets_self _ ?_ fun _ => nofun
      rintro other ⟨⟩
      exact noted update List.mem_cons_self
  refine .rest (forgets_setClaimer started (List.forall_mem_nil _) (.inl rfl) free ?_)
  exact fun other member => noted other (List.mem_cons_of_mem _ member)

section Claiming

variable [LawfulPolicy P]

theorem emissions_createProof (cluster : Cluster P) (deployment : Deployment) (env : Env)
    (request : CreateProofRequest) :
    cluster.emissions
      (cluster.outcome deployment ⟨env, .createProof request⟩).state.outbox = [] := by
  have sent : CoordinatorState.Emits (fun effect => effect.isMessage = true)
      cluster.state.clearOutbox
      (cluster.state.clearOutbox.exec deployment.build env (.createProof request)).state :=
    CoordinatorState.messages_exec env rfl rfl
  obtain ⟨messages, outbox, only⟩ := sent
  unfold emissions outcome
  rw [outbox, List.map_eq_nil_iff, List.filterMap_eq_nil_iff]
  intro effect member
  have message := only effect member
  cases effect with
  | proofResult result => cases message
  | _ => rfl

theorem explains_create {deployment : Deployment} {env : Env} {rest : List ProofRequest}
    {request : CreateProofRequest} (phase : cluster.claimer = .creating seen rest request) :
    ∃ move, cluster.Explains event (cluster.create deployment env seen rest request) move := by
  have listed : ∀ proof ∈ rest, proof.id ∈ cluster.ledger.listed :=
    fun proof member => ⟨proof, phase ▸ member, rfl⟩
  have creating : cluster.ledger.creating = some request.proofId :=
    congrArg ClaimerPhase.beingCreated phase
  have free : cluster.ledger.inserting = none := congrArg ClaimerPhase.created phase
  have silent := cluster.emissions_createProof deployment env request
  unfold create
  dsimp only
  generalize cluster.outcome deployment ⟨env, .createProof request⟩ = outcome at silent ⊢
  have settled := cluster.forgets_settle outcome
  split
  · refine ⟨.create request.proofId, ⟨creating, free⟩, ?_, nofun, nofun, nofun⟩
    have waiting : (cluster.settle outcome).ledger.waiting = cluster.ledger.waiting := by
      rw [settled.waiting, silent]
      exact List.append_nil _
    refine { settled with
      owned := ?_
      waiting := waiting
      updates := ?_
      answered := fun _ confirmed => confirmed.of_same rfl rfl
      listed := ?_
      creating := fun _ member => absurd member (Option.not_mem_none _)
      inserting := rfl }
    · rintro proofId (claimed | sending)
      · rcases List.mem_cons.mp claimed with rfl | before
        · exact Set.mem_insert _ _
        · exact Set.mem_insert_of_mem _ (cluster.owned_settle outcome (.inl before))
      · exact Set.mem_insert_of_mem _ (cluster.owned_settle outcome (.inr sending))
    · intro update outstanding
      exact outstanding.of_same rfl rfl rfl (phase ▸ rfl) rfl
    · rintro proofId ⟨proof, member, rfl⟩
      exact listed proof member
  · exact ⟨.emit (cluster.emissions outcome.state.outbox), cluster.allows_emissions _,
      forgets_setClaimer settled listed (.inl rfl) free.symm (List.forall_mem_nil _),
      nofun, nofun, nofun⟩

theorem explains_confirming (deployment : Deployment) {missing : List String}
    {running : Table String ConfirmPhase}
    (phase : cluster.claimer = .confirming now missing running) (turn : ClaimerTurn) :
    ∃ move, cluster.Explains (.claimer turn) (cluster.claimerTurn deployment turn) move := by
  have free : cluster.claimer.created = none := congrArg ClaimerPhase.created phase
  unfold claimerTurn
  rw [phase]
  cases turn with
  | start =>
    cases missing with
    | nil => exact explains_idle rfl
    | cons proofId missing =>
      dsimp only
      split
      · exact explains_quiet free rfl rfl rfl rfl
      · exact explains_idle rfl
  | read proofId answered =>
    dsimp only
    split
    · unfold confirmRead
      split <;> exact explains_quiet free rfl rfl rfl rfl
    · exact explains_idle rfl
  | remove proofId =>
    dsimp only
    split
    · next reads => exact explains_remove phase reads
    · exact explains_idle rfl
  | fail proofId env =>
    dsimp only
    split
    · exact ⟨.emit _, cluster.allows_emissions _,
        forgets_setClaimer (cluster.forgets_settle _) (List.forall_mem_nil _) (.inl rfl)
          free.symm (List.forall_mem_nil _), nofun, nofun, nofun⟩
    · exact explains_idle rfl
  | sweep =>
    cases missing with
    | nil =>
      dsimp only
      split
      · exact explains_quiet free rfl rfl rfl rfl
      · exact explains_idle rfl
    | cons proofId missing => exact explains_idle rfl
  | _ => exact explains_idle rfl

/-- The claimer collects the writes that are not confirmed and starts their
re-issues. -/
theorem explains_sweeping (deployment : Deployment)
    {unconfirmed : List ProofRequestUpdateRequest}
    (phase : cluster.claimer = .sweeping unconfirmed) (turn : ClaimerTurn) :
    ∃ move, cluster.Explains (.claimer turn) (cluster.claimerTurn deployment turn) move := by
  have free : none = cluster.ledger.inserting := (congrArg ClaimerPhase.created phase).symm
  have noted : ∀ update ∈ unconfirmed, cluster.Outstanding update :=
    fun update member => .noted (phase ▸ member)
  unfold claimerTurn
  rw [phase]
  cases turn with
  | note proofId =>
    dsimp only
    split
    · next update found =>
      refine ⟨.rest, .rest (forgets_setClaimer cluster.forgets_self (List.forall_mem_nil _)
        (.inl rfl) free ?_)⟩
      intro other member
      rcases List.mem_append.mp member with before | added
      · exact noted other before
      · obtain rfl := List.mem_singleton.mp added
        exact .stored proofId found
    · exact explains_idle rfl
  | reissueAll =>
    exact ⟨.rest, .rest (forgets_setClaimer cluster.forgets_self (List.forall_mem_nil _)
      (.inl rfl) free noted)⟩
  | _ => exact explains_idle rfl

theorem explains_claimerTurn (keyed : cluster.rows.Keyed) (deployment : Deployment)
    (turn : ClaimerTurn) :
    ∃ move, cluster.Explains (.claimer turn) (cluster.claimerTurn deployment turn) move := by
  cases phase : cluster.claimer with
  | confirming now missing running => exact explains_confirming deployment phase turn
  | sweeping unconfirmed => exact explains_sweeping deployment phase turn
  | idle =>
    unfold claimerTurn
    rw [phase]
    cases turn with
    | list now => exact explains_quiet (congrArg ClaimerPhase.created phase) rfl rfl rfl rfl
    | _ => exact explains_idle rfl
  | listing now rows pageIdx =>
    unfold claimerTurn
    rw [phase]
    cases turn with
    | page => exact explains_page keyed phase
    | giveUp => exact explains_quiet (congrArg ClaimerPhase.created phase) rfl rfl rfl rfl
    | _ => exact explains_idle rfl
  | claiming seen rest =>
    unfold claimerTurn
    rw [phase]
    cases turn with
    | next => exact explains_claimNext phase
    | _ => exact explains_idle rfl
  | creating seen rest request =>
    unfold claimerTurn
    rw [phase]
    cases turn with
    | create env => exact explains_create phase
    | _ => exact explains_idle rfl
  | inserting seen rest proofId =>
    unfold claimerTurn
    rw [phase]
    cases turn with
    | insert => exact ⟨_, explains_insert phase⟩
    | _ => exact explains_idle rfl
  | collecting seen missing =>
    have free : cluster.claimer.created = none := congrArg ClaimerPhase.created phase
    unfold claimerTurn
    rw [phase]
    cases turn with
    | visit proofId =>
      dsimp only
      split
      · exact explains_quiet free rfl rfl rfl rfl
      · exact explains_idle rfl
    | confirm now => exact explains_quiet free rfl rfl rfl rfl
    | _ => exact explains_idle rfl
  | reissuing unconfirmed =>
    unfold claimerTurn
    rw [phase]
    cases turn with
    | reissue =>
      cases unconfirmed with
      | nil => exact explains_quiet (congrArg ClaimerPhase.created phase) rfl rfl rfl rfl
      | cons update unconfirmed => exact ⟨_, explains_reissue phase⟩
    | _ => exact explains_idle rfl

/-! ## Steps and runs -/

/-- **Every step of the cluster is a move on its ledger.** -/
theorem explains_step (keyed : cluster.rows.Keyed) (written : cluster.ledger.Written)
    (deployment : Deployment) (event : ClusterEvent) :
    ∃ move, cluster.Explains event (cluster.step deployment event) move := by
  cases event with
  | call event =>
    exact ⟨_, cluster.allows_emissions _, cluster.forgets_settle _, nofun, nofun, nofun⟩
  | send index => exact explains_send index
  | api call => exact explains_api call
  | serve index answered => exact explains_serve written index answered
  | status turn => exact explains_statusTurn turn
  | reissue proofId turn => exact explains_reissueTurn proofId turn
  | claimer turn => exact explains_claimerTurn keyed deployment turn

end Claiming

end Cluster

end Sp1Cluster
