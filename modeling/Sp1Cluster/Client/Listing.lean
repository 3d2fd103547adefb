import Sp1Cluster.Api.Listings
import Sp1Cluster.Cluster.Service
import Sp1Cluster.Data.Pieces

/-!
# Fetching all proof requests

The API answers a listing with at most 1000 rows, so the client of the cluster
service asks for page after page until one is not full, at most 100 times, and
drops the rows it has seen before. Each page is a read of its own: between two
of them the table may change, and a read may fail.
-/

set_option autoImplicit false

namespace Sp1Cluster

/-! ## The client -/

/-- The loop of `drain_pages` from a page on, with how many more pages it may read and the
rows of the pages before. `fetch` answers the read of the page with an index and an offset.
Returned with the result is how many pages were read. -/
def drainFrom {α ε : Type} (pageSize : ℕ) (fetch : ℕ → ℕ → Except ε (List α)) :
    ℕ → ℕ → List α → Except ε (List α) × ℕ
  | 0, _, all => (.ok all, 0)
  | left + 1, pageIdx, all =>
    match fetch pageIdx (pageIdx * pageSize) with
    | .error error => (.error error, 1)
    | .ok page =>
      -- the length is compared as a 32-bit word
      if page.length % 2 ^ 32 = pageSize then
        let rest := drainFrom pageSize fetch left (pageIdx + 1) (all ++ page)
        (rest.1, rest.2 + 1)
      else (.ok (all ++ page), 1)

/-- `drain_pages`. -/
def drainPages {α ε : Type} (pageSize : ℕ) (fetch : ℕ → ℕ → Except ε (List α)) :
    Except ε (List α) × ℕ :=
  drainFrom pageSize fetch maxPages 0 []

def ProofRequestListRequest.page (request : ProofRequestListRequest) (offset : ℕ) :
    ProofRequestListRequest :=
  { request with limit := some proofRequestPageSize, offset := some offset }

/-- `get_all_proof_requests`. The read of a page fails or sees the table as it is then. -/
def getAllProofRequests (request : ProofRequestListRequest) (reads : ℕ → Except Status Rows) :
    Except Status (List ProofRequest) × ℕ :=
  let walk := drainPages proofRequestPageSize fun pageIdx offset =>
    (reads pageIdx).map fun rows => rows.proofRequestList (request.page offset)
  (walk.1.map (dedupById []), walk.2)

theorem map_eq_ok {α β ε : Type} {change : α → β} {answer : Except ε α} {result : β}
    (returned : answer.map change = .ok result) : ∃ value, answer = .ok value ∧ change value = result := by
  cases answer with
  | error _ => cases returned
  | ok value => exact ⟨value, rfl, Except.ok.inj returned⟩

/-! ## Rows that are seen again -/

theorem nodup_dedupById (seen : List String) (rows : List ProofRequest) :
    ((dedupById seen rows).map ProofRequest.id).Nodup ∧
      ∀ row ∈ dedupById seen rows, row.id ∉ seen := by
  induction rows generalizing seen with
  | nil => simp [dedupById]
  | cons row rest ih =>
    unfold dedupById
    split
    · exact ih seen
    · next fresh =>
      obtain ⟨nodup, unseen⟩ := ih (row.id :: seen)
      refine ⟨List.nodup_cons.mpr ⟨?_, nodup⟩, ?_⟩
      · intro again
        obtain ⟨other, member, same⟩ := List.mem_map.mp again
        exact unseen other member (by simp [same])
      · intro other member
        rcases List.mem_cons.mp member with rfl | later
        · exact fresh
        · exact fun earlier => unseen other later (List.mem_cons_of_mem _ earlier)

theorem dedupById_of_nodup (seen : List String) {rows : List ProofRequest}
    (nodup : (rows.map ProofRequest.id).Nodup) (unseen : ∀ row ∈ rows, row.id ∉ seen) :
    dedupById seen rows = rows := by
  induction rows generalizing seen with
  | nil => rfl
  | cons row rest ih =>
    obtain ⟨fresh, nodup⟩ := List.nodup_cons.mp nodup
    unfold dedupById
    rw [if_neg (unseen row List.mem_cons_self), ih (row.id :: seen) nodup]
    intro other member
    rw [List.mem_cons, not_or]
    refine ⟨fun same => fresh ?_, unseen other (List.mem_cons_of_mem _ member)⟩
    exact List.mem_map.mpr ⟨other, member, same⟩

/-! ## Walks -/

section Walks

variable {α ε : Type} {pageSize : ℕ} {fetch : ℕ → ℕ → Except ε (List α)}

theorem drainFrom_reads (pageSize : ℕ) (fetch : ℕ → ℕ → Except ε (List α)) (left pageIdx : ℕ)
    (all : List α) : (drainFrom pageSize fetch left pageIdx all).2 ≤ left := by
  induction left generalizing pageIdx all with
  | zero => exact le_rfl
  | succ left ih =>
    unfold drainFrom
    split
    · exact Nat.le_add_left 1 left
    · dsimp only
      split
      · exact Nat.succ_le_succ (ih _ _)
      · exact Nat.le_add_left 1 left

theorem drainFrom_isOk (served : ∀ pageIdx offset, ∃ page, fetch pageIdx offset = .ok page)
    (left pageIdx : ℕ) (all : List α) :
    ∃ result, (drainFrom pageSize fetch left pageIdx all).1 = .ok result := by
  induction left generalizing pageIdx all with
  | zero => exact ⟨all, rfl⟩
  | succ left ih =>
    obtain ⟨page, answer⟩ := served pageIdx (pageIdx * pageSize)
    unfold drainFrom
    rw [answer]
    dsimp only
    split
    · exact ih _ _
    · exact ⟨_, rfl⟩

theorem mem_of_drainFrom {left pageIdx : ℕ} {all result : List α}
    (returned : (drainFrom pageSize fetch left pageIdx all).1 = .ok result) {element : α}
    (member : element ∈ result) :
    element ∈ all ∨ ∃ index page, pageIdx ≤ index ∧ index < pageIdx + left ∧
      fetch index (index * pageSize) = .ok page ∧ element ∈ page := by
  induction left generalizing pageIdx all with
  | zero =>
    cases returned
    exact .inl member
  | succ left ih =>
    unfold drainFrom at returned
    split at returned
    · cases returned
    · next page answer =>
      have here : element ∈ all ++ page → element ∈ all ∨ ∃ index page, pageIdx ≤ index ∧
          index < pageIdx + (left + 1) ∧ fetch index (index * pageSize) = .ok page ∧
          element ∈ page := by
        intro collected
        rcases List.mem_append.mp collected with earlier | now
        · exact .inl earlier
        · exact .inr ⟨pageIdx, page, le_rfl, by omega, answer, now⟩
      dsimp only at returned
      split at returned
      · rcases ih returned with collected | ⟨index, later, after, before, read, onPage⟩
        · exact here collected
        · exact .inr ⟨index, later, by omega, by omega, read, onPage⟩
      · cases returned
        exact here member

theorem drainFrom_pieces (data : List α) (small : pageSize < 2 ^ 32) (left pageIdx : ℕ)
    (pages : ∀ index, index < pageIdx + left →
      fetch index (index * pageSize) = .ok (Pieces.piece pageSize data index)) :
    (drainFrom pageSize fetch left pageIdx (data.take (pageIdx * pageSize))).1 =
      .ok (data.take ((pageIdx + left) * pageSize)) := by
  induction left generalizing pageIdx with
  | zero => rfl
  | succ left ih =>
    have length : (Pieces.piece pageSize data pageIdx).length ≤ pageSize := by
      simp [Pieces.piece]
    have next : data.take (pageIdx * pageSize) ++ Pieces.piece pageSize data pageIdx =
        data.take ((pageIdx + 1) * pageSize) := by
      rw [Nat.succ_mul, List.take_add]
      rfl
    unfold drainFrom
    rw [pages pageIdx (by omega)]
    dsimp only
    rw [next, Nat.mod_eq_of_lt (length.trans_lt small)]
    split
    · rw [ih (pageIdx + 1) fun index before => pages index (by omega)]
      congr 3
      omega
    · next short =>
      -- a page that is not full is the last one
      have ended : data.length ≤ (pageIdx + 1) * pageSize := by
        have counted := length
        simp only [Pieces.piece, List.length_take, List.length_drop] at short
        rw [Nat.succ_mul]
        omega
      have further : (pageIdx + 1) * pageSize ≤ (pageIdx + (left + 1)) * pageSize :=
        Nat.mul_le_mul_right pageSize (by omega)
      rw [List.take_of_length_le ended, List.take_of_length_le (ended.trans further)]

end Walks

/-! ## The walk over a listing -/

theorem proofRequestList_page (request : ProofRequestListRequest) (rows : Rows) {pageIdx : ℕ}
    (early : pageIdx < maxPages) :
    rows.proofRequestList (request.page (pageIdx * proofRequestPageSize)) =
      Pieces.piece proofRequestPageSize ((rows.matching request).map DbProofRequest.intoProto)
        pageIdx := by
  have inside : min (pageIdx * proofRequestPageSize) (2 ^ 31 - 1) =
      pageIdx * proofRequestPageSize := by
    unfold maxPages at early
    unfold proofRequestPageSize
    omega
  unfold Pieces.piece
  rw [← List.map_drop, ← List.map_take]
  change ((List.drop (min (pageIdx * proofRequestPageSize) (2 ^ 31 - 1)) _).take _).map _ = _
  rw [inside]
  rfl

/-- **A walk over an unchanging table** returns the first 100000 rows of the listing. -/
theorem getAllProofRequests_steady {rows : Rows} (keyed : rows.Keyed)
    (request : ProofRequestListRequest) :
    (getAllProofRequests request fun _ => .ok rows).1 =
      .ok (((rows.matching request).take 100000).map DbProofRequest.intoProto) := by
  have walk : (drainPages proofRequestPageSize fun pageIdx offset =>
      (Except.ok rows : Except Status Rows).map fun rows =>
        rows.proofRequestList (request.page offset)).1 =
      .ok (((rows.matching request).map DbProofRequest.intoProto).take
        (maxPages * proofRequestPageSize)) := by
    refine (drainFrom_pieces ((rows.matching request).map DbProofRequest.intoProto) (by decide)
      maxPages 0 fun index before => ?_).trans ?_
    · exact congrArg Except.ok (proofRequestList_page request rows (by omega))
    · rw [Nat.zero_add]
  have distinct : ((((rows.matching request).map DbProofRequest.intoProto).take 100000).map
      ProofRequest.id).Nodup := by
    have ids : ((rows.matching request).map DbProofRequest.intoProto).map ProofRequest.id =
        (rows.matching request).map DbProofRequest.id := List.map_map
    rw [List.map_take, ids]
    exact (Rows.nodup_matching keyed).sublist (List.take_sublist _ _)
  change Except.map (dedupById []) (drainPages _ _).1 = _
  rw [walk]
  change Except.ok (dedupById [] (((rows.matching request).map DbProofRequest.intoProto).take
    100000)) = _
  rw [dedupById_of_nodup [] distinct (by simp), List.map_take]

/-- What a listing of all rows is to return: the matching rows of a table, in the order of
creation time and identifier. -/
structure Lists (rows : Rows) (request : ProofRequestListRequest) (listed : List DbProofRequest) :
    Prop where
  mem_iff : ∀ row, row ∈ listed ↔ rows.lookup row.id = some row ∧ Rows.Matches request row
  ordered : listed.Pairwise Rows.Before

/-- **Fetching all proof requests is complete and has no duplicates.** If the table does not
change, the result is the listing, cut after 100000 rows. Whatever the reads see, no identifier
is returned twice, every row matched when its page was read, at most 100 pages are read, and
reads that succeed give a result. -/
theorem getAllProofRequests_complete (request : ProofRequestListRequest) :
    (∀ rows : Rows, rows.Keyed → ∃ listed, Lists rows request listed ∧
      (getAllProofRequests request fun _ => .ok rows).1 =
        .ok ((listed.take 100000).map DbProofRequest.intoProto)) ∧
    ∀ reads : ℕ → Except Status Rows, (∀ index rows, reads index = .ok rows → rows.Keyed) →
      (∀ result, (getAllProofRequests request reads).1 = .ok result →
        (result.map ProofRequest.id).Nodup ∧
        ∀ proof ∈ result, ∃ index rows row, index < 100 ∧ reads index = .ok rows ∧
          rows.lookup proof.id = some row ∧ Rows.Matches request row ∧ row.intoProto = proof) ∧
      (getAllProofRequests request reads).2 ≤ 100 ∧
      ((∀ index, ∃ rows, reads index = .ok rows) →
        ∃ result, (getAllProofRequests request reads).1 = .ok result) := by
  refine ⟨fun rows keyed => ?_, fun reads keyed => ⟨fun result returned => ?_, ?_, ?_⟩⟩
  · exact ⟨rows.matching request, ⟨fun _ => Rows.mem_matching keyed, Rows.pairwise_matching keyed⟩,
      getAllProofRequests_steady keyed request⟩
  · obtain ⟨walked, walk, rfl⟩ := map_eq_ok returned
    refine ⟨(nodup_dedupById [] walked).1, fun proof member => ?_⟩
    rcases mem_of_drainFrom walk (dedupById_subset [] walked member) with
      nothing | ⟨index, page, -, before, answer, onPage⟩
    · cases nothing
    · obtain ⟨rows, read, rfl⟩ := map_eq_ok answer
      obtain ⟨row, found, fits, same⟩ := Rows.row_of_listed (keyed index rows read) onPage
      exact ⟨index, rows, row, by simpa [maxPages] using before, read, found, fits, same⟩
  · exact drainFrom_reads _ _ _ _ _
  · intro served
    obtain ⟨walked, walk⟩ : ∃ walked, (drainPages proofRequestPageSize fun pageIdx offset =>
        (reads pageIdx).map fun rows => rows.proofRequestList (request.page offset)).1 =
          .ok walked := by
      refine drainFrom_isOk (fun pageIdx offset => ?_) _ _ _
      obtain ⟨rows, read⟩ := served pageIdx
      exact ⟨_, congrArg (Except.map _) read⟩
    exact ⟨_, congrArg (Except.map (dedupById [])) walk⟩

/-- Two pending rows with one time of creation, created after the one that comes last, and one
that is cancelled. -/
def fourRows : Rows :=
  Rows.reach [.create (.plain "c" 9) 2, .create (.plain "b" 9) 1, .create (.plain "d" 9) 1,
    .create (.plain "a" 9) 1, .cancel "d"]

theorem getAllProofRequests_complete_fourRows :
    (∃ listed, Lists fourRows { proofStatus := [.pending] } listed ∧
      (getAllProofRequests { proofStatus := [.pending] } fun _ => .ok fourRows).1 =
        .ok ((listed.take 100000).map DbProofRequest.intoProto)) ∧
      (fourRows.matching { proofStatus := [.pending] }).map DbProofRequest.id = ["a", "b", "c"] :=
  ⟨(getAllProofRequests_complete { proofStatus := [.pending] }).1 fourRows (Rows.keyed_reach _),
    by decide⟩

end Sp1Cluster
