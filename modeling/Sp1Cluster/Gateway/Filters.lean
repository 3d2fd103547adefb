import Sp1Cluster.Api.Listings
import Sp1Cluster.Data.Pieces
import Sp1Cluster.Gateway.Requests

/-!
# Filters and pages of the gateway

A filtered listing of the gateway is one listing of the cluster API. The gateway
translates the statuses it is asked for into statuses of the cluster, and shows
the rows that come back with the statuses translated the other way. The two
translations agree on every status that a row has. They differ where a row has
none: without an execution result it is shown as unexecuted, and the column that
the cluster compares is empty.

Pages are translated into offsets, which needs the size of a page. Without one
the cluster starts at the first row for every page.
-/

set_option autoImplicit false

namespace Sp1Cluster

/-! ## Translations of statuses -/

theorem ExecutionCodes.status_eq_iff (codes : ExecutionCodes) {number : ℤ}
    {status : ExecutionStatus} (specified : status ≠ .unspecified) :
    codes.status number = status ↔ number = codes.code status := by
  have apart : ∀ {first second}, codes.code first = codes.code second → first = second :=
    fun same => codes.injective same
  constructor
  · intro read
    unfold ExecutionCodes.status at read
    split_ifs at read with unexecuted executed failed cancelled
    · rw [← read, unexecuted]
    · rw [← read, executed]
    · rw [← read, failed]
    · rw [← read, cancelled]
    · exact absurd read.symm specified
  · rintro rfl
    unfold ExecutionCodes.status
    split_ifs with unexecuted executed failed cancelled
    · exact (apart unexecuted).symm
    · exact (apart executed).symm
    · exact (apart failed).symm
    · exact (apart cancelled).symm
    · cases status
      · exact absurd rfl specified
      · exact absurd rfl unexecuted
      · exact absurd rfl executed
      · exact absurd rfl failed
      · exact absurd rfl cancelled

/-- The filter for a status asks for the cluster statuses that are shown as it. -/
theorem mem_clusterFulfillmentFilter {shown : FulfillmentStatus}
    {statuses : List ProofRequestStatus} (filter : clusterFulfillmentFilter shown = some statuses)
    (status : ProofRequestStatus) : status ∈ statuses ↔ fulfillmentFromCluster status = shown := by
  cases shown <;> cases filter <;> cases status <;> simp [fulfillmentFromCluster]

theorem mem_clusterExecutionFilter {shown : NetworkExecutionStatus}
    (specified : shown ≠ .unspecified) (status : ExecutionStatus) :
    status ∈ clusterExecutionFilter shown ↔ executionFromCluster status = shown := by
  cases shown
  case unspecified => exact absurd rfl specified
  all_goals cases status <;> simp [clusterExecutionFilter, executionFromCluster]

/-- A number is among those of a filter when its status is shown as the filter's. -/
theorem mem_map_clusterExecutionFilter (codes : ExecutionCodes) {shown : NetworkExecutionStatus}
    (specified : shown ≠ .unspecified) (number : ℤ) :
    number ∈ (clusterExecutionFilter shown).map codes.code ↔
      executionFromCluster (codes.status number) = shown := by
  rw [← mem_clusterExecutionFilter specified, List.mem_map]
  constructor
  · rintro ⟨status, member, rfl⟩
    have known : status ≠ .unspecified := by
      rintro rfl
      exact specified ((mem_clusterExecutionFilter specified _).mp member).symm
    rwa [(codes.status_eq_iff known).mpr rfl]
  · intro member
    refine ⟨codes.status number, member, ((codes.status_eq_iff ?_).mp rfl).symm⟩
    intro unknown
    rw [unknown, mem_clusterExecutionFilter specified] at member
    exact specified member.symm

theorem clusterExecutionFilter_ne_nil {shown : NetworkExecutionStatus}
    (specified : shown ≠ .unspecified) : clusterExecutionFilter shown ≠ [] := by
  cases shown <;> simp_all [clusterExecutionFilter]

namespace ProverNetwork

variable (gateway : ProverNetwork)

/-! ## Answers as parts of one list -/

/-- The rows that a filtered request selects. -/
def Selects (request : GetFilteredProofRequestsRequest) (row : DbProofRequest) : Prop :=
  ∃ listing ∈ gateway.listRequest request, Rows.Matches listing row

/-- All rows that a filtered request selects, in the order of the listing. -/
def selected (request : GetFilteredProofRequestsRequest) (rows : Rows) : List DbProofRequest :=
  (gateway.listRequest request).elim [] fun listing => rows.matching listing

variable {gateway} {rows : Rows} {request : GetFilteredProofRequestsRequest}

theorem mem_selected (keyed : rows.Keyed) {row : DbProofRequest} :
    row ∈ gateway.selected request rows ↔
      rows.lookup row.id = some row ∧ gateway.Selects request row := by
  unfold selected Selects
  cases gateway.listRequest request with
  | none => simp
  | some listing => simpa using Rows.mem_matching keyed

theorem pairwise_selected (keyed : rows.Keyed) :
    (gateway.selected request rows).Pairwise Rows.Before := by
  unfold selected
  cases gateway.listRequest request with
  | none => exact List.Pairwise.nil
  | some listing => exact Rows.pairwise_matching keyed

theorem length_selected_le (gateway : ProverNetwork) (request : GetFilteredProofRequestsRequest)
    (rows : Rows) : (gateway.selected request rows).length ≤ rows.entries.length := by
  unfold selected
  cases gateway.listRequest request with
  | none => exact Nat.zero_le _
  | some listing =>
    change (rows.matching listing).length ≤ _
    rw [Rows.matching, List.length_insertionSort]
    calc
      ((rows.entries.map fun entry => entry.2).filter (Rows.Matches listing)).length
          ≤ (rows.entries.map fun entry => entry.2).length := List.length_filter_le _ _
      _ = rows.entries.length := List.length_map _

/-- **An answer is one part of the rows selected, in order.** -/
theorem getFilteredProofRequests_eq (gateway : ProverNetwork)
    (request : GetFilteredProofRequestsRequest) (rows : Rows) :
    gateway.getFilteredProofRequests rows.answerList request =
      .ok ((((gateway.selected request rows).drop
        (min ((pageOffset request).getD 0) (2 ^ 31 - 1))).take
          ((pageLimit request).getD 10)).map fun row => gateway.listedRequest row.intoProto) := by
  unfold getFilteredProofRequests selected
  cases asked : gateway.listRequest request with
  | none => simp
  | some listing =>
    obtain ⟨statuses, -, rfl⟩ := Option.map_eq_some_iff.mp asked
    have within : min ((pageLimit request).getD 10) 1000 = (pageLimit request).getD 10 := by
      unfold pageLimit
      cases request.limit with
      | none => rfl
      | some limit =>
        simp only [Option.map_some, Option.getD_some]
        omega
    change Except.ok ((rows.proofRequestList _).map gateway.listedRequest) = _
    rw [Rows.proofRequestList, List.map_map]
    dsimp only [Option.elim_some]
    rw [within]
    rfl

/-! ## What the filters mean -/

variable (gateway) in
/-- A row that the gateway shows with the statuses that are given. -/
def Shows (fulfillment : Option FulfillmentStatus) (execution : Option NetworkExecutionStatus)
    (row : DbProofRequest) : Prop :=
  (∀ status ∈ fulfillment, (gateway.listedRequest row.intoProto).fulfillmentStatus = status) ∧
    ∀ status ∈ execution, (gateway.listedRequest row.intoProto).executionStatus = status

theorem shows_fulfillment_iff {fulfillment : Option FulfillmentStatus}
    (named : request.fulfillmentStatus = fulfillment.map .known)
    (specified : fulfillment ≠ some .unspecified) (status : ProofRequestStatus) :
    (∃ statuses ∈ statusFilter request, statuses ≠ [] → status ∈ statuses) ↔
      ∀ shown ∈ fulfillment, fulfillmentFromCluster status = shown := by
  cases fulfillment with
  | none => simp [statusFilter, named]
  | some shown =>
    have read : (request.fulfillmentStatus.bind Enumerated.toOption).map
        clusterFulfillmentFilter = some (clusterFulfillmentFilter shown) := by
      rw [named]
      rfl
    obtain ⟨statuses, filter⟩ : ∃ statuses, clusterFulfillmentFilter shown = some statuses := by
      cases shown <;> simp_all [clusterFulfillmentFilter]
    have means := mem_clusterFulfillmentFilter filter status
    rw [statusFilter, read, filter]
    -- an empty list of statuses is answered without a listing
    cases statuses with
    | nil => simpa using means
    | cons first rest => simpa using means

theorem shows_execution_iff (gateway : ProverNetwork) {execution : Option NetworkExecutionStatus}
    (named : request.executionStatus = execution.map .known)
    (specified : execution ≠ some .unspecified) (row : DbProofRequest)
    (known : execution ≠ some .unexecuted ∨ row.execution ≠ none) :
    (gateway.executionFilter request ≠ [] →
        ∃ result ∈ row.execution, result.status ∈ gateway.executionFilter request) ↔
      ∀ shown ∈ execution, (gateway.listedRequest row.intoProto).executionStatus = shown := by
  cases execution with
  | none => simp [executionFilter, named]
  | some shown =>
    have some_specified : shown ≠ .unspecified := by
      rintro rfl
      exact specified rfl
    have filter : gateway.executionFilter request =
        (clusterExecutionFilter shown).map gateway.codes.code := by
      rw [executionFilter, named]
      rfl
    have filters : gateway.executionFilter request ≠ [] := by
      rw [filter]
      simpa using clusterExecutionFilter_ne_nil some_specified
    simp only [filters, not_false_eq_true, forall_const, Option.mem_def, Option.some.injEq,
      forall_eq', ne_eq]
    rw [filter]
    cases found : row.execution with
    | none =>
      have other : shown ≠ .unexecuted := by
        rintro rfl
        simp [found] at known
      simpa [listedRequest, buildSdkProofRequest, DbProofRequest.intoProto, found] using
        other.symm
    | some result =>
      simpa [listedRequest, buildSdkProofRequest, DbProofRequest.intoProto, found] using
        mem_map_clusterExecutionFilter gateway.codes some_specified result.status

/-- A row that passes the filters of a request for another status than that of its execution:
it is shown with the fulfillment status, and is not due before the minimum deadline. -/
def PassesOthers (gateway : ProverNetwork) (request : GetFilteredProofRequestsRequest)
    (fulfillment : Option FulfillmentStatus) (row : DbProofRequest) : Prop :=
  gateway.Shows fulfillment none row ∧
    ∀ minimum ∈ request.minimumDeadline, asI64 minimum ≤ row.deadline

section Statuses

variable {fulfillment : Option FulfillmentStatus} {execution : Option NetworkExecutionStatus}
  (fulfillmentNamed : request.fulfillmentStatus = fulfillment.map .known)
  (executionNamed : request.executionStatus = execution.map .known)
  (fulfillmentSpecified : fulfillment ≠ some .unspecified)
include fulfillmentNamed fulfillmentSpecified

/-- A request selects the rows that pass its other filters and have a result it asks for. -/
theorem selects_iff {row : DbProofRequest} :
    gateway.Selects request row ↔
      gateway.PassesOthers request fulfillment row ∧
        (gateway.executionFilter request ≠ [] →
          ∃ result ∈ row.execution, result.status ∈ gateway.executionFilter request) := by
  have statuses := shows_fulfillment_iff fulfillmentNamed fulfillmentSpecified row.proofStatus
  have split : gateway.Selects request row ↔
      (∃ statuses ∈ statusFilter request, statuses ≠ [] → row.proofStatus ∈ statuses) ∧
      (gateway.executionFilter request ≠ [] →
        ∃ result ∈ row.execution, result.status ∈ gateway.executionFilter request) ∧
      ∀ minimum ∈ request.minimumDeadline, asI64 minimum ≤ row.deadline := by
    unfold Selects listRequest Rows.Matches
    cases statusFilter request <;> simp
  rw [split, statuses, PassesOthers, Shows]
  constructor
  · rintro ⟨shown, result, due⟩
    exact ⟨⟨⟨shown, nofun⟩, due⟩, result⟩
  · rintro ⟨⟨⟨shown, -⟩, due⟩, result⟩
    exact ⟨shown, result, due⟩

include executionNamed in
/-- A request selects the rows that are shown with its statuses and are not due before its
minimum deadline, but none without a result when it asks for unexecuted ones. -/
theorem selects_iff_shows (gateway : ProverNetwork)
    (executionSpecified : execution ≠ some .unspecified) (row : DbProofRequest) :
    (gateway.Selects request row ↔ gateway.Shows fulfillment execution row ∧
        ∀ minimum ∈ request.minimumDeadline, asI64 minimum ≤ row.deadline) ↔
      execution ≠ some .unexecuted ∨
        (gateway.PassesOthers request fulfillment row → row.execution ≠ none) := by
  rw [selects_iff fulfillmentNamed fulfillmentSpecified]
  by_cases known : execution ≠ some .unexecuted ∨ row.execution ≠ none
  · refine iff_of_true ?_ (known.imp_right fun result _ => result)
    rw [shows_execution_iff gateway executionNamed executionSpecified row known]
    unfold PassesOthers Shows
    tauto
  · -- a row without a result is shown as unexecuted and matches no filter
    obtain ⟨rfl, missing⟩ : execution = some .unexecuted ∧ row.execution = none := by
      push Not at known
      exact known
    have shown : gateway.Shows fulfillment (some .unexecuted) row ↔
        gateway.Shows fulfillment none row := by
      simp [Shows, listedRequest, buildSdkProofRequest, DbProofRequest.intoProto, missing]
    have filters : gateway.executionFilter request ≠ [] := by
      rw [executionFilter, executionNamed]
      simp [clusterExecutionFilter, Enumerated.toOption]
    rw [shown]
    simp [PassesOthers, missing, filters]

end Statuses

theorem selected_page (gateway : ProverNetwork) (request : GetFilteredProofRequestsRequest)
    (page limit : Option ℕ) (rows : Rows) :
    gateway.selected { request with page, limit } rows = gateway.selected request rows := by
  unfold selected listRequest
  change ((statusFilter request).map _).elim _ _ = ((statusFilter request).map _).elim _ _
  cases statusFilter request <;> rfl

/-- **When the rows a filter lists are the rows shown with its statuses.** A request that asks
for statuses of the network by name is answered, for every page and limit, with that part of one
list of rows, in the order of the listing. The list has exactly the rows that are shown with both
statuses and are not due before the minimum deadline, if and only if the request does not ask for
unexecuted rows, or every row that passes its other filters has an execution result. -/
theorem filtered_shows_filter (gateway : ProverNetwork) (rows : Rows) (keyed : rows.Keyed)
    (request : GetFilteredProofRequestsRequest) (fulfillment : Option FulfillmentStatus)
    (execution : Option NetworkExecutionStatus)
    (fulfillmentNamed : request.fulfillmentStatus = fulfillment.map .known)
    (executionNamed : request.executionStatus = execution.map .known)
    (fulfillmentSpecified : fulfillment ≠ some .unspecified)
    (executionSpecified : execution ≠ some .unspecified) :
    (∀ page limit, gateway.getFilteredProofRequests rows.answerList { request with page, limit } =
      .ok ((((gateway.selected request rows).drop
        (min ((pageOffset { request with page, limit }).getD 0) (2 ^ 31 - 1))).take
          ((pageLimit { request with page, limit }).getD 10)).map fun row =>
            gateway.listedRequest row.intoProto)) ∧
    (gateway.selected request rows).Pairwise Rows.Before ∧
    ((∀ row, row ∈ gateway.selected request rows ↔ rows.lookup row.id = some row ∧
        gateway.Shows fulfillment execution row ∧
        ∀ minimum ∈ request.minimumDeadline, asI64 minimum ≤ row.deadline) ↔
      execution ≠ some .unexecuted ∨
        ∀ row, rows.lookup row.id = some row → gateway.PassesOthers request fulfillment row →
          row.execution ≠ none) := by
  refine ⟨?_, pairwise_selected keyed, ?_⟩
  · intro page limit
    rw [getFilteredProofRequests_eq, selected_page]
  · simp only [mem_selected keyed, and_congr_right_iff]
    have selects := selects_iff_shows fulfillmentNamed executionNamed fulfillmentSpecified gateway
      executionSpecified
    constructor
    · intro exact_rows
      by_cases asked : execution = some .unexecuted
      · refine .inr fun row stored => ?_
        exact ((selects row).mp (exact_rows row stored)).resolve_left (not_not.mpr asked)
      · exact .inl asked
    · intro known row stored
      exact (selects row).mpr (known.imp_right fun all => all row stored)

/-- Three rows: one is new, one has failed, and one has failed after it was executed. -/
def failedRows : Rows :=
  Rows.reach [.create (.plain "new" 9) 1, .create (.plain "crashed" 9) 2,
    .create (.plain "executed" 9) 3,
    .update { proofId := "crashed", proofStatus := some .failed,
              executionResult := some ⟨3, 1, 0, 0, []⟩ },
    .update { proofId := "executed", proofStatus := some .failed,
              executionResult := some ⟨2, 0, 70, 80, []⟩ }]

theorem filtered_shows_filter_failedRows :
    (∀ row, row ∈ unauthenticated.selected
        { fulfillmentStatus := some (.known .unfulfillable)
          executionStatus := some (.known .unexecutable) } failedRows ↔
      failedRows.lookup row.id = some row ∧
        unauthenticated.Shows (some .unfulfillable) (some .unexecutable) row ∧
        ∀ minimum ∈ (none : Option ℕ), asI64 minimum ≤ row.deadline) ∧
      (unauthenticated.selected
        { fulfillmentStatus := some (.known .unfulfillable)
          executionStatus := some (.known .unexecutable) } failedRows).map DbProofRequest.id =
        ["crashed"] :=
  ⟨(filtered_shows_filter unauthenticated failedRows (Rows.keyed_reach _)
    { fulfillmentStatus := some (.known .unfulfillable)
      executionStatus := some (.known .unexecutable) }
    (some .unfulfillable) (some .unexecutable) rfl rfl (by decide) (by decide)).2.2.mpr
      (.inl (by decide)),
    by decide⟩

/-- **A row shown as unexecuted that the filter leaves out.** A new row has no execution
result. -/
theorem unexecuted_row_unlisted :
    (unauthenticated.getFilteredProofRequests
        (Rows.reach [.create (.plain "new" 9) 1]).answerList {}).toOption.map
          (·.map NetworkProofRequest.executionStatus) = some [.unexecuted] ∧
      (unauthenticated.getFilteredProofRequests
        (Rows.reach [.create (.plain "new" 9) 1]).answerList
          { executionStatus := some (.known .unexecuted) }).toOption = some [] := by
  decide

/-! ## Pages -/

/-- With a limit, page `index + 1` is the piece with that index. -/
theorem page_eq_piece (gateway : ProverNetwork) {request : GetFilteredProofRequestsRequest}
    {rows : Rows} (small : rows.entries.length < 2 ^ 31) {limit : ℕ}
    (given : pageLimit request = some limit) (index : ℕ) :
    gateway.getFilteredProofRequests rows.answerList { request with page := some (index + 1) } =
      .ok ((Pieces.piece limit (gateway.selected request rows) index).map fun row =>
        gateway.listedRequest row.intoProto) := by
  have sized : pageLimit { request with page := some (index + 1) } = some limit := given
  have offset : pageOffset { request with page := some (index + 1) } =
      some (min (index * limit) (2 ^ 32 - 1)) := by
    simp [pageOffset, sized]
  have few : (gateway.selected request rows).length ≤ 2 ^ 31 - 1 := by
    have := length_selected_le gateway request rows
    omega
  have same : (gateway.selected request rows).drop
      (min (min (index * limit) (2 ^ 32 - 1)) (2 ^ 31 - 1)) =
        (gateway.selected request rows).drop (index * limit) := by
    rcases le_total (index * limit) (2 ^ 31 - 1) with inside | beyond
    · rw [min_eq_left (inside.trans (by omega)), min_eq_left inside]
    · -- both offsets are behind the last row
      rw [List.drop_eq_nil_of_le (few.trans beyond), List.drop_eq_nil_of_le]
      omega
  rw [getFilteredProofRequests_eq, selected_page, offset, sized, Option.getD_some,
    Option.getD_some, same]
  rfl

/-- Pages 1, 2, … list every row that is selected once and in order, and come to an empty
page. -/
def PagesEnumerate (gateway : ProverNetwork) (rows : Rows)
    (request : GetFilteredProofRequestsRequest) : Prop :=
  ∃ (listed : List DbProofRequest) (pages : ℕ → List NetworkProofRequest) (count : ℕ),
    (∀ row, row ∈ listed ↔ rows.lookup row.id = some row ∧ gateway.Selects request row) ∧
    listed.Pairwise Rows.Before ∧
    (∀ index, index ≤ count → index + 1 < 2 ^ 32 ∧
      gateway.getFilteredProofRequests rows.answerList
        { request with page := some (index + 1) } = .ok (pages index)) ∧
    (∀ index, index < count → pages index ≠ []) ∧
    pages count = [] ∧
    (List.range count).flatMap pages =
      listed.map fun row => gateway.listedRequest row.intoProto

theorem pagesEnumerate_of_limit {limit : ℕ} (keyed : rows.Keyed)
    (small : rows.entries.length < 2 ^ 31) (given : request.limit = some limit) :
    gateway.PagesEnumerate rows request := by
  have length := length_selected_le gateway request rows
  have sized : pageLimit request = some (max 1 (min limit 100)) := by
    rw [pageLimit, given]
    rfl
  have positive : 0 < max 1 (min limit 100) := by omega
  have count_le := Pieces.count_le_length positive (gateway.selected request rows)
  refine ⟨gateway.selected request rows, fun index =>
    (Pieces.piece (max 1 (min limit 100)) (gateway.selected request rows) index).map
      fun row => gateway.listedRequest row.intoProto,
    Pieces.count (max 1 (min limit 100)) (gateway.selected request rows),
    fun row => mem_selected keyed, pairwise_selected keyed,
    fun index within => ⟨by omega, page_eq_piece gateway small sized index⟩,
    fun index within => ?_, ?_, ?_⟩
  · rw [ne_eq, List.map_eq_nil_iff, Pieces.piece_eq_nil_iff positive]
    omega
  · rw [List.map_eq_nil_iff, Pieces.piece_eq_nil_iff positive]
  · rw [← List.map_flatMap, Pieces.flatMap_piece positive]

/-- Without a limit every page has the first rows. -/
theorem page_without_limit (gateway : ProverNetwork) {request : GetFilteredProofRequestsRequest}
    (unlimited : request.limit = none) (rows : Rows) (page : ℕ) :
    gateway.getFilteredProofRequests rows.answerList { request with page := some page } =
      .ok (((gateway.selected request rows).take 10).map fun row =>
        gateway.listedRequest row.intoProto) := by
  rw [getFilteredProofRequests_eq, selected_page gateway request (some page) request.limit]
  simp [pageOffset, pageLimit, unlimited]

/-- **When pages 1, 2, … list every row that is selected once and in order, and come to an
empty page**: exactly if the request has a limit, zero or any other, or selects no row. -/
theorem pages_enumerate (gateway : ProverNetwork) (rows : Rows) (keyed : rows.Keyed)
    (small : rows.entries.length < 2 ^ 31) (request : GetFilteredProofRequestsRequest) :
    gateway.PagesEnumerate rows request ↔
      request.limit ≠ none ∨
        ∀ row, rows.lookup row.id = some row → ¬ gateway.Selects request row := by
  have nothing : gateway.selected request rows = [] ↔
      ∀ row, rows.lookup row.id = some row → ¬ gateway.Selects request row := by
    simp only [List.eq_nil_iff_forall_not_mem, mem_selected keyed, not_and]
  cases given : request.limit with
  | some limit =>
    exact iff_of_true (pagesEnumerate_of_limit keyed small given) (.inl (Option.some_ne_none _))
  | none =>
    rw [or_iff_right (not_not.mpr rfl), ← nothing]
    constructor
    · -- the last page is empty, and it has the first rows
      rintro ⟨listed, pages, count, -, -, answers, -, last, -⟩
      have page := (answers count le_rfl).2
      rw [page_without_limit gateway given, last] at page
      simpa using page
    · intro empty
      refine ⟨[], fun _ => [], 0, fun row => ?_, .nil, fun index _ => ⟨by omega, ?_⟩, nofun, rfl,
        rfl⟩
      · rw [← mem_selected keyed, empty]
      · rw [page_without_limit gateway given, empty]
        rfl

theorem pages_enumerate_failedRows :
    unauthenticated.PagesEnumerate failedRows { limit := some 2 } :=
  (pages_enumerate unauthenticated failedRows (Rows.keyed_reach _) (by decide)
    { limit := some 2 }).mpr (.inl (by decide))

/-- **Without a limit every page is the first one.** A table with one row shows it on page 1
and again on page 2. -/
theorem page_repeats_without_limit :
    (unauthenticated.getFilteredProofRequests
        (Rows.reach [.create (.plain "new" 9) 1]).answerList { page := some 1 }).toOption.map
          List.length = some 1 ∧
      (unauthenticated.getFilteredProofRequests
        (Rows.reach [.create (.plain "new" 9) 1]).answerList { page := some 2 }).toOption =
      (unauthenticated.getFilteredProofRequests
        (Rows.reach [.create (.plain "new" 9) 1]).answerList { page := some 1 }).toOption := by
  decide

end ProverNetwork

end Sp1Cluster
