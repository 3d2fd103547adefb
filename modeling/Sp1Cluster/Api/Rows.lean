import Sp1Cluster.Coordinator.Types
import Mathlib.Data.List.Sort

/-!
# The rows of the cluster API

The table of proof requests behind the cluster API and what the API's calls do
to it. A call of the service is one statement of the database, so each is one
step. A database that fails is not modelled here: the callers decide what a lost
call means for them.

The five columns of an execution result are written together and never cleared,
so they are one optional field. Text is ordered as strings are.
-/

set_option autoImplicit false

namespace Sp1Cluster

/-- `as i64` of a 64-bit word. -/
def asI64 (word : ℕ) : ℤ := Int.bmod word (2 ^ 64)

/-- `as u64` of a signed 64-bit integer. -/
def asU64 (value : ℤ) : ℕ := (value % 2 ^ 64).toNat

/-- `ProofRequestStatus`, as the column stores it: the four statuses the cluster
uses, and any other number a caller may have written. -/
inductive ProofRequestStatus where
  | pending
  | completed
  | failed
  | cancelled
  | other (code : ℤ)
deriving DecidableEq, Repr

/-- `ExecutionStatus`. -/
inductive ExecutionStatus where
  | unspecified
  | unexecuted
  | executed
  | failed
  | cancelled
deriving DecidableEq, Repr

/-- A number that an `i32` holds. -/
abbrev IsI32 (number : ℤ) : Prop := -2 ^ 31 ≤ number ∧ number < 2 ^ 31

/-- The numbers of the execution statuses, which are defined outside of the repository. -/
structure ExecutionCodes where
  code : ExecutionStatus → ℤ
  injective : Function.Injective code
  isI32 : ∀ status, IsI32 (code status)

/-- `ExecutionResult::status`: a number without a status reads as unspecified. -/
def ExecutionCodes.status (codes : ExecutionCodes) (number : ℤ) : ExecutionStatus :=
  if number = codes.code .unexecuted then .unexecuted
  else if number = codes.code .executed then .executed
  else if number = codes.code .failed then .failed
  else if number = codes.code .cancelled then .cancelled
  else .unspecified

/-- The execution statuses numbered in order. -/
def ExecutionCodes.inOrder : ExecutionCodes where
  code
    | .unspecified => 0
    | .unexecuted => 1
    | .executed => 2
    | .failed => 3
    | .cancelled => 4
  injective := by
    intro first second same
    cases first <;> cases second <;> first | rfl | cases same
  isI32 status := by cases status <;> decide

/-- `ExecutionResult`. -/
structure ExecutionResult where
  status : ℤ
  failureCause : ℤ
  cycles : ℕ
  gas : ℕ
  publicValuesHash : List UInt8
deriving DecidableEq, Repr

/-- `DbProofRequest`. -/
structure DbProofRequest where
  id : String
  proofStatus : ProofRequestStatus
  requester : List UInt8
  execution : Option ExecutionResult
  stdinArtifactId : String
  programArtifactId : String
  proofArtifactId : Option String
  optionsArtifactId : Option String
  cycleLimit : Option ℤ
  gasLimit : Option ℤ
  deadline : ℤ
  handled : Bool
  metadata : String
  createdAt : SystemTime
  updatedAt : SystemTime
  extraData : Option String
  scheduledBy : Option String
  stdinPrivate : Bool
deriving DecidableEq, Repr

/-- `ProofRequest`, as the API returns it. -/
structure ProofRequest where
  id : String
  proofStatus : ProofRequestStatus
  requester : List UInt8
  executionResult : Option ExecutionResult
  stdinArtifactId : String
  programArtifactId : String
  proofArtifactId : Option String
  optionsArtifactId : Option String
  cycleLimit : Option ℕ
  gasLimit : Option ℕ
  deadline : ℕ
  handled : Bool
  metadata : String
  createdAt : ℕ
  updatedAt : ℕ
  extraData : Option String
  scheduledBy : Option String
  stdinPrivate : Bool
deriving DecidableEq, Repr

/-- `unix_timestamp() as u64`. -/
def unixTimestamp (time : SystemTime) : ℕ := asU64 (time / 1000000000)

/-- `into_proto`. -/
def DbProofRequest.intoProto (row : DbProofRequest) : ProofRequest where
  id := row.id
  proofStatus := row.proofStatus
  requester := row.requester
  executionResult := row.execution
  stdinArtifactId := row.stdinArtifactId
  programArtifactId := row.programArtifactId
  proofArtifactId := row.proofArtifactId
  optionsArtifactId := row.optionsArtifactId
  cycleLimit := row.cycleLimit.map asU64
  gasLimit := row.gasLimit.map asU64
  deadline := asU64 row.deadline
  handled := row.handled
  metadata := row.metadata
  createdAt := unixTimestamp row.createdAt
  updatedAt := unixTimestamp row.updatedAt
  extraData := row.extraData
  scheduledBy := row.scheduledBy
  stdinPrivate := row.stdinPrivate

/-! ## Requests -/

structure ProofRequestCreateRequest where
  proofId : String
  requester : List UInt8
  stdinArtifactId : String
  programArtifactId : String
  optionsArtifactId : Option String
  proofArtifactId : Option String
  cycleLimit : ℕ
  gasLimit : ℕ
  deadline : ℕ
  scheduledBy : Option String
  stdinPrivate : Bool
deriving DecidableEq, Repr

/-- `ProofRequestUpdateRequest`; by default a request changes nothing. -/
structure ProofRequestUpdateRequest where
  proofId : String
  proofStatus : Option ProofRequestStatus := none
  executionResult : Option ExecutionResult := none
  handled : Option Bool := none
  deadline : Option ℕ := none
  metadata : Option String := none
  extraData : Option String := none
deriving DecidableEq, Repr

/-- `ProofRequestListRequest`; by default nothing is filtered. -/
structure ProofRequestListRequest where
  proofStatus : List ProofRequestStatus := []
  executionStatus : List ℤ := []
  minimumDeadline : Option ℕ := none
  handled : Option Bool := none
  scheduledBy : Option String := none
  limit : Option ℕ := none
  offset : Option ℕ := none
deriving DecidableEq, Repr

/-- The `SET` part of an update: the columns that the request names. -/
def DbProofRequest.set (update : ProofRequestUpdateRequest) (row : DbProofRequest) :
    DbProofRequest :=
  { row with
    proofStatus := update.proofStatus.getD row.proofStatus
    handled := update.handled.getD row.handled
    deadline := (update.deadline.map asI64).getD row.deadline
    execution := update.executionResult.orElse fun _ => row.execution
    metadata := update.metadata.getD row.metadata
    extraData := update.extraData.orElse fun _ => row.extraData }

/-! ## The service -/

/-- The table of proof requests, by its primary key. -/
abbrev Rows := Table String DbProofRequest

namespace Rows

def status (rows : Rows) (proofId : String) : Option ProofRequestStatus :=
  (rows.lookup proofId).map (·.proofStatus)

/-- `proof_request_create`. -/
def proofRequestCreate (request : ProofRequestCreateRequest) (now : SystemTime) (rows : Rows) :
    Rows × Except Status Unit :=
  if request.proofId ∈ rows then
    (rows, .error ⟨.alreadyExists, "proof request already exists"⟩)
  else
    (rows.insert request.proofId
      { id := request.proofId
        proofStatus := .pending
        requester := request.requester
        execution := none
        stdinArtifactId := request.stdinArtifactId
        programArtifactId := request.programArtifactId
        proofArtifactId := request.proofArtifactId
        optionsArtifactId := request.optionsArtifactId
        cycleLimit := some (asI64 request.cycleLimit)
        gasLimit := some (asI64 request.gasLimit)
        deadline := asI64 request.deadline
        handled := false
        metadata := "null"
        createdAt := now
        updatedAt := now
        extraData := none
        scheduledBy := request.scheduledBy
        stdinPrivate := request.stdinPrivate }, .ok ())

/-- `proof_request_cancel`: only a pending row is cancelled, and the call
succeeds in any case. -/
def proofRequestCancel (proofId : String) (rows : Rows) : Rows :=
  if rows.status proofId = some .pending then
    Table.modify proofId (fun row => { row with proofStatus := .cancelled }) rows
  else rows

/-- `proof_request_update`. A request that sets the status only changes a row that
is still pending, and otherwise succeeds without a change. -/
def proofRequestUpdate (update : ProofRequestUpdateRequest) (rows : Rows) :
    Rows × Except Status Unit :=
  if update = { proofId := update.proofId } then
    (rows, .error ⟨.invalidArgument, "No updates specified"⟩)
  else if update.proofStatus.isSome then
    if rows.status update.proofId = some .pending then
      (Table.modify update.proofId (DbProofRequest.set update) rows, .ok ())
    else (rows, .ok ())
  else if update.proofId ∈ rows then
    (Table.modify update.proofId (DbProofRequest.set update) rows, .ok ())
  else
    (rows, .error (.notFound s!"Proof request {update.proofId} not found"))

/-- `proof_request_get`. -/
def proofRequestGet (proofId : String) (rows : Rows) : Option ProofRequest :=
  (rows.lookup proofId).map DbProofRequest.intoProto

/-- The `WHERE` part of a listing. -/
abbrev Matches (request : ProofRequestListRequest) (row : DbProofRequest) : Prop :=
  (request.proofStatus ≠ [] → row.proofStatus ∈ request.proofStatus) ∧
    (request.executionStatus ≠ [] →
      ∃ result ∈ row.execution, result.status ∈ request.executionStatus) ∧
    (∀ minimumDeadline ∈ request.minimumDeadline, asI64 minimumDeadline ≤ row.deadline) ∧
    (∀ handled ∈ request.handled, row.handled = handled) ∧
    ∀ scheduledBy ∈ request.scheduledBy, row.scheduledBy = some scheduledBy

/-- `ORDER BY created_at ASC, id ASC`. -/
abbrev Precedes (first second : DbProofRequest) : Prop :=
  first.createdAt < second.createdAt ∨
    (first.createdAt = second.createdAt ∧ first.id ≤ second.id)

/-- All rows that match a listing, in order. -/
def matching (request : ProofRequestListRequest) (rows : Rows) : List DbProofRequest :=
  ((rows.entries.map fun entry => entry.2).filter (Matches request)).insertionSort Precedes

/-- `proof_request_list`. -/
def proofRequestList (request : ProofRequestListRequest) (rows : Rows) : List ProofRequest :=
  let limit := min (request.limit.getD 10) 1000
  let offset := min (request.offset.getD 0) (2 ^ 31 - 1)
  (((rows.matching request).drop offset).take limit).map DbProofRequest.intoProto

/-! ## Statuses -/

variable {rows : Rows} {request : ProofRequestListRequest} {proofId : String} {proof : ProofRequest}

/-- A row whose status is no longer `Pending`. -/
abbrev Left (rows : Rows) (proofId : String) : Prop :=
  ∃ status ∈ rows.status proofId, status ≠ .pending

/-- The primary key of a row is its identifier. -/
def Keyed (rows : Rows) : Prop :=
  ∀ proofId row, rows.lookup proofId = some row → row.id = proofId

theorem status_insert (rows : Rows) (proofId other : String) (row : DbProofRequest) :
    status (AList.insert proofId row rows) other =
      if other = proofId then some row.proofStatus else rows.status other := by
  unfold status
  rw [Table.lookup_insert_eq]
  split <;> rfl

theorem status_eq_none : rows.status proofId = none ↔ proofId ∉ rows := by
  simp [status, AList.lookup_eq_none]

theorem Keyed.insert (keyed : rows.Keyed) {row : DbProofRequest} (same : row.id = proofId) :
    Keyed (AList.insert proofId row rows) := by
  intro other stored found
  rcases Table.lookup_insert_cases found with ⟨equal, rfl⟩ | ⟨_, found⟩
  · rw [same, equal]
  · exact keyed other stored found

/-- Changing a row in place keeps the keys, if it keeps the row's identifier. -/
theorem Keyed.modify (keyed : rows.Keyed) (proofId : String)
    {change : DbProofRequest → DbProofRequest} (same : ∀ row, (change row).id = row.id) :
    Keyed (Table.modify proofId change rows) := by
  cases found : rows.lookup proofId with
  | none => simpa [Table.modify, found] using keyed
  | some row =>
    rw [Table.modify_of_lookup found]
    exact keyed.insert ((same row).trans (keyed proofId row found))

theorem status_modify (rows : Rows) (proofId other : String)
    (change : DbProofRequest → DbProofRequest) :
    status (Table.modify proofId change rows) other =
      if other = proofId then (rows.lookup proofId).map fun row => (change row).proofStatus
      else rows.status other := by
  unfold status
  rw [Table.lookup_modify_eq]
  split
  · simp [Option.map_map, Function.comp_def]
  · rfl

theorem mem_proofRequestCreate (rows : Rows) (request : ProofRequestCreateRequest)
    (now : SystemTime) : request.proofId ∈ (rows.proofRequestCreate request now).1 := by
  unfold proofRequestCreate
  split
  · assumption
  · exact (AList.mem_insert rows).mpr (.inl rfl)

theorem status_create (request : ProofRequestCreateRequest) (now : SystemTime) (rows : Rows)
    (proofId : String) :
    status (rows.proofRequestCreate request now).1 proofId =
      if proofId = request.proofId ∧ rows.status proofId = none then some .pending
      else rows.status proofId := by
  unfold proofRequestCreate
  by_cases stored : request.proofId ∈ rows
  · rw [if_pos stored, if_neg]
    rintro ⟨rfl, absent⟩
    exact status_eq_none.mp absent stored
  · rw [if_neg stored, status_insert]
    by_cases same : proofId = request.proofId
    · subst same
      simp [status_eq_none.mpr stored]
    · simp [same]

theorem status_cancel (cancelled : String) (rows : Rows) (proofId : String) :
    status (rows.proofRequestCancel cancelled) proofId =
      if proofId = cancelled ∧ rows.status proofId = some .pending then some .cancelled
      else rows.status proofId := by
  unfold proofRequestCancel
  by_cases pending : rows.status cancelled = some .pending
  · rw [if_pos pending, status_modify]
    by_cases same : proofId = cancelled
    · subst same
      obtain ⟨row, found, _⟩ := Option.map_eq_some_iff.mp pending
      simp [pending, found]
    · simp [same]
  · rw [if_neg pending, if_neg]
    rintro ⟨rfl, found⟩
    exact pending found

theorem status_update_of_none {update : ProofRequestUpdateRequest}
    (unnamed : update.proofStatus = none) (rows : Rows) (proofId : String) :
    status (rows.proofRequestUpdate update).1 proofId = rows.status proofId := by
  have kept : status (Table.modify update.proofId (DbProofRequest.set update) rows) proofId =
      rows.status proofId := by
    rw [status_modify]
    split
    · next same =>
      subst same
      simp [status, DbProofRequest.set, unnamed]
    · rfl
  unfold proofRequestUpdate
  split
  · rfl
  · rw [if_neg (by simp [unnamed])]
    split
    · exact kept
    · rfl

/-- An update that names the status is carried out on a pending row only, and
succeeds in any case. -/
theorem update_of_some {update : ProofRequestUpdateRequest} {status : ProofRequestStatus}
    (named : update.proofStatus = some status) (rows : Rows) :
    rows.proofRequestUpdate update =
      (if rows.status update.proofId = some .pending then
        Table.modify update.proofId (DbProofRequest.set update) rows
      else rows, .ok ()) := by
  unfold proofRequestUpdate
  rw [if_neg, if_pos (by simp [named])]
  · split <;> rfl
  · intro empty
    rw [empty] at named
    cases named

theorem status_update_of_some {update : ProofRequestUpdateRequest} {named : ProofRequestStatus}
    (names : update.proofStatus = some named) (rows : Rows) (proofId : String) :
    status (rows.proofRequestUpdate update).1 proofId =
      if proofId = update.proofId ∧ rows.status proofId = some .pending then some named
      else rows.status proofId := by
  rw [update_of_some names]
  by_cases pending : rows.status update.proofId = some .pending
  · rw [if_pos pending, status_modify]
    by_cases same : proofId = update.proofId
    · subst same
      obtain ⟨row, found, _⟩ := Option.map_eq_some_iff.mp pending
      simp [pending, found, DbProofRequest.set, names]
    · simp [same]
  · rw [if_neg pending, if_neg]
    rintro ⟨rfl, found⟩
    exact pending found

/-! Every call keeps the keys. -/

theorem Keyed.create (keyed : rows.Keyed) (request : ProofRequestCreateRequest) (now : SystemTime) :
    Keyed (rows.proofRequestCreate request now).1 := by
  unfold proofRequestCreate
  split
  · exact keyed
  · exact keyed.insert rfl

theorem Keyed.cancel (keyed : rows.Keyed) (proofId : String) :
    Keyed (rows.proofRequestCancel proofId) := by
  unfold proofRequestCancel
  split
  · exact keyed.modify proofId fun _ => rfl
  · exact keyed

theorem Keyed.update (keyed : rows.Keyed) (update : ProofRequestUpdateRequest) :
    Keyed (rows.proofRequestUpdate update).1 := by
  have changed : Keyed (Table.modify update.proofId (DbProofRequest.set update) rows) :=
    keyed.modify update.proofId fun _ => rfl
  unfold proofRequestUpdate
  split
  · exact keyed
  · split
    · split
      · exact changed
      · exact keyed
    · split
      · exact changed
      · exact keyed

theorem row_of_listed (keyed : rows.Keyed) (listed : proof ∈ rows.proofRequestList request) :
    ∃ row, rows.lookup proof.id = some row ∧ Matches request row ∧ row.intoProto = proof := by
  obtain ⟨row, within, rfl⟩ := List.mem_map.mp listed
  have matched : row ∈ rows.matching request := List.mem_of_mem_drop (List.mem_of_mem_take within)
  rw [matching, List.mem_insertionSort, List.mem_filter] at matched
  obtain ⟨stored, fits⟩ := matched
  obtain ⟨entry, member, rfl⟩ := List.mem_map.mp stored
  have found : rows.lookup entry.1 = some entry.2 := Table.mem_entries_iff.mp member
  refine ⟨entry.2, ?_, of_decide_eq_true fits, rfl⟩
  change rows.lookup entry.2.id = some entry.2
  rw [keyed entry.1 entry.2 found, found]

theorem status_of_listed (keyed : rows.Keyed) (pending : request.proofStatus = [.pending])
    (listed : proof ∈ rows.proofRequestList request) : rows.status proof.id = some .pending := by
  obtain ⟨row, found, fits, -⟩ := row_of_listed keyed listed
  have status : row.proofStatus ∈ request.proofStatus := fits.1 (by simp [pending])
  rw [Rows.status, found]
  simpa [pending] using status

/-! ## Handled rows -/

/-- A row that is marked as handled. -/
abbrev Handled (rows : Rows) (proofId : String) : Prop :=
  ∃ row ∈ rows.lookup proofId, row.handled = true

theorem not_handled_of_listed (keyed : rows.Keyed) (unmarked : request.handled = some false)
    (listed : proof ∈ rows.proofRequestList request) :
    proof.id ∈ rows ∧ ¬ rows.Handled proof.id := by
  obtain ⟨row, found, fits, -⟩ := row_of_listed keyed listed
  have unhandled : row.handled = false := fits.2.2.2.1 false unmarked
  refine ⟨Table.mem_of_lookup found, ?_⟩
  rintro ⟨other, stored, handled⟩
  rw [found] at stored
  cases stored
  rw [unhandled] at handled
  cases handled

/-- No row is lost and no row is marked as unhandled. -/
structure Keeps (rows after : Rows) : Prop where
  mem : ∀ {proofId}, proofId ∈ rows → proofId ∈ after
  handled : ∀ {proofId}, rows.Handled proofId → after.Handled proofId

theorem Keeps.refl (rows : Rows) : rows.Keeps rows := ⟨id, id⟩

theorem keeps_modify (rows : Rows) (proofId : String) {change : DbProofRequest → DbProofRequest}
    (kept : ∀ row, row.handled = true → (change row).handled = true) :
    rows.Keeps (Table.modify proofId change rows) := by
  have lookups : ∀ {other row}, rows.lookup other = some row →
      ∃ changed ∈ AList.lookup other (Table.modify proofId change rows),
        row.handled = true → changed.handled = true := by
    intro other row found
    rw [Table.lookup_modify_eq]
    split
    · next same =>
      rw [← same, found]
      exact ⟨change row, rfl, kept row⟩
    · exact ⟨row, found, id⟩
  refine ⟨fun {other} member => ?_, ?_⟩
  · obtain ⟨row, found⟩ := Table.exists_lookup member
    obtain ⟨changed, present, _⟩ := lookups found
    exact Table.mem_of_lookup present
  · rintro other ⟨row, found, handled⟩
    obtain ⟨changed, present, still⟩ := lookups found
    exact ⟨changed, present, still handled⟩

theorem keeps_create (request : ProofRequestCreateRequest) (now : SystemTime) (rows : Rows) :
    rows.Keeps (rows.proofRequestCreate request now).1 := by
  unfold proofRequestCreate
  split
  · exact .refl rows
  · next fresh =>
    refine ⟨fun member => (AList.mem_insert _).mpr (.inr member), ?_⟩
    rintro proofId ⟨row, found, handled⟩
    refine ⟨row, ?_, handled⟩
    rw [Option.mem_def, Table.lookup_insert_eq, if_neg]
    · exact found
    · rintro rfl
      exact fresh (Table.mem_of_lookup found)

theorem keeps_cancel (proofId : String) (rows : Rows) :
    rows.Keeps (rows.proofRequestCancel proofId) := by
  unfold proofRequestCancel
  split
  · exact keeps_modify rows proofId fun _ handled => handled
  · exact .refl rows

theorem keeps_update (update : ProofRequestUpdateRequest) (kept : update.handled ≠ some false)
    (rows : Rows) : rows.Keeps (rows.proofRequestUpdate update).1 := by
  have changed : rows.Keeps (Table.modify update.proofId (DbProofRequest.set update) rows) := by
    refine keeps_modify rows update.proofId fun row handled => ?_
    change update.handled.getD row.handled = true
    cases named : update.handled with
    | none => exact handled
    | some value =>
      cases value with
      | false => exact absurd named kept
      | true => rfl
  unfold proofRequestUpdate
  split
  · exact .refl rows
  · split
    · split
      · exact changed
      · exact .refl rows
    · split
      · exact changed
      · exact .refl rows

theorem handled_update (stored : proofId ∈ rows) :
    (rows.proofRequestUpdate { proofId := proofId, handled := some true }).2 = .ok () ∧
      Handled (rows.proofRequestUpdate { proofId := proofId, handled := some true }).1
        proofId := by
  obtain ⟨row, found⟩ := Table.exists_lookup stored
  unfold proofRequestUpdate
  rw [if_neg (by simp), if_neg (by simp), if_pos stored]
  refine ⟨rfl, DbProofRequest.set { proofId := proofId, handled := some true } row, ?_, rfl⟩
  rw [Option.mem_def, Table.lookup_modify_eq, if_pos rfl, found]
  rfl

end Rows

/-! ## Calls -/

/-- A call of the service that may change the table. -/
inductive ApiCall where
  | create (request : ProofRequestCreateRequest) (now : SystemTime)
  | cancel (proofId : String)
  | update (update : ProofRequestUpdateRequest)

namespace Rows

def serve (rows : Rows) : ApiCall → Rows
  | .create request now => (rows.proofRequestCreate request now).1
  | .cancel proofId => rows.proofRequestCancel proofId
  | .update update => (rows.proofRequestUpdate update).1

theorem Keyed.serve {rows : Rows} (keyed : rows.Keyed) (call : ApiCall) :
    (rows.serve call).Keyed := by
  cases call with
  | create request now => exact keyed.create request now
  | cancel proofId => exact keyed.cancel proofId
  | update update => exact keyed.update update

end Rows

/-! ## What becomes of a row -/

/-- The columns of a row that no call changes. -/
def DbProofRequest.identity (row : DbProofRequest) : DbProofRequest :=
  { row with
    proofStatus := .pending
    handled := false
    deadline := 0
    execution := none
    metadata := ""
    extraData := none }

/-- What a row may become. A status that is not pending is final. -/
structure DbProofRequest.Becomes (row after : DbProofRequest) : Prop where
  identity : after.identity = row.identity
  status : row.proofStatus ≠ .pending → after.proofStatus = row.proofStatus

namespace DbProofRequest.Becomes

theorem refl (row : DbProofRequest) : row.Becomes row := ⟨rfl, fun _ => rfl⟩

theorem trans {first second third : DbProofRequest} (earlier : first.Becomes second)
    (later : second.Becomes third) : first.Becomes third where
  identity := later.identity.trans earlier.identity
  status final := by
    have kept := earlier.status final
    rw [← kept] at final ⊢
    exact later.status final

end DbProofRequest.Becomes

namespace Rows

variable {rows : Rows} {proofId : String} {row : DbProofRequest}

theorem becomes_modify (found : rows.lookup proofId = some row) (changed : String)
    {change : DbProofRequest → DbProofRequest}
    (becomes : changed = proofId → row.Becomes (change row)) :
    ∃ after, (Table.modify changed change rows).lookup proofId = some after ∧
      row.Becomes after := by
  rw [Table.lookup_modify_eq]
  split
  · next same => exact ⟨change row, by rw [← same, found]; rfl, becomes same.symm⟩
  · exact ⟨row, found, .refl row⟩

theorem becomes_update (found : rows.lookup proofId = some row)
    (update : ProofRequestUpdateRequest) :
    ∃ after, (rows.proofRequestUpdate update).1.lookup proofId = some after ∧
      row.Becomes after := by
  unfold proofRequestUpdate
  split
  · exact ⟨row, found, .refl row⟩
  · split
    · split
      · next pending =>
        refine becomes_modify found _ fun same => ⟨rfl, fun final => ?_⟩
        rw [same, status, found] at pending
        exact absurd (Option.some.inj pending) final
      · exact ⟨row, found, .refl row⟩
    · next unnamed =>
      split
      · refine becomes_modify found _ fun _ => ⟨rfl, fun _ => ?_⟩
        rw [DbProofRequest.set, Option.not_isSome_iff_eq_none.mp unnamed]
        rfl
      · exact ⟨row, found, .refl row⟩

theorem becomes_serve (found : rows.lookup proofId = some row) (call : ApiCall) :
    ∃ after, (rows.serve call).lookup proofId = some after ∧ row.Becomes after := by
  cases call with
  | create request now =>
    refine ⟨row, ?_, .refl row⟩
    unfold serve proofRequestCreate
    dsimp only
    split
    · exact found
    · next absent =>
      rw [Table.lookup_insert_eq, if_neg, found]
      rintro rfl
      exact absent (Table.mem_of_lookup found)
  | cancel cancelled =>
    unfold serve proofRequestCancel
    dsimp only
    split
    · next pending =>
      refine becomes_modify found cancelled fun same => ⟨rfl, fun final => ?_⟩
      rw [same, status, found] at pending
      exact absurd (Option.some.inj pending) final
    · exact ⟨row, found, .refl row⟩
  | update update => exact becomes_update found update

/-- **No call removes a row, changes its identity or takes back a final status**, so no sequence
of calls does. -/
theorem becomes_calls (found : rows.lookup proofId = some row) (calls : List ApiCall) :
    ∃ after, (calls.foldl serve rows).lookup proofId = some after ∧ row.Becomes after := by
  induction calls generalizing rows row with
  | nil => exact ⟨row, found, .refl row⟩
  | cons call calls ih =>
    obtain ⟨next, served, becomes⟩ := becomes_serve found call
    obtain ⟨after, last, becomesLast⟩ := ih served
    exact ⟨after, last, becomes.trans becomesLast⟩

end Rows

end Sp1Cluster
