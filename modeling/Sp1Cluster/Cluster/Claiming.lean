import Sp1Cluster.Client.Listing

/-!
# The claimer's listing and its check of a row

The claimer lists the pending rows that are not handled and whose deadline has
not passed, and it checks a tracked proof that the listing lacks by reading its
row. The listing compares the columns of the table, where a deadline is a signed
number; the check compares the fields of the answer, where it is an unsigned one.
Below the sign bit the two agree, and a deadline above it is in the past for the
listing and in the future for the check.
-/

set_option autoImplicit false

namespace Sp1Cluster

/-- The filter of the claimer's listing. -/
def claimerFilter (now : ℕ) : ProofRequestListRequest where
  proofStatus := [.pending]
  handled := some false
  minimumDeadline := some now

/-! ## Signed and unsigned words -/

theorem asI64_of_lt {word : ℕ} (small : word < 2 ^ 63) : asI64 word = word := by
  unfold asI64
  rw [Int.bmod_eq_of_le] <;> omega

/-- A value of a signed column. -/
def IsI64 (value : ℤ) : Prop := -2 ^ 63 ≤ value ∧ value < 2 ^ 63

theorem isI64_asI64 (word : ℕ) : IsI64 (asI64 word) := by
  unfold IsI64 asI64
  have least := Int.le_bmod (x := word) (m := 2 ^ 64) (by decide)
  have greatest := Int.bmod_lt (x := word) (m := 2 ^ 64) (by decide)
  omega

/-- A time below the sign bit is before a column read without its sign exactly if it is before
the column, or the column is negative. -/
theorem le_asU64_iff {time : ℕ} (early : time < 2 ^ 63) {value : ℤ} (word : IsI64 value) :
    time ≤ asU64 value ↔ asI64 time ≤ value ∨ value < 0 := by
  obtain ⟨least, greatest⟩ := word
  rw [asI64_of_lt early]
  unfold asU64
  omega

/-! ## Deadlines of rows -/

namespace Rows

/-- Every stored deadline is a value of its column. -/
def Signed (rows : Rows) : Prop :=
  ∀ proofId row, rows.lookup proofId = some row → IsI64 row.deadline

variable {rows : Rows}

theorem Signed.modify (signed : rows.Signed) (proofId : String)
    {change : DbProofRequest → DbProofRequest}
    (kept : ∀ row, IsI64 row.deadline → IsI64 (change row).deadline) :
    Signed (Table.modify proofId change rows) := by
  intro other row found
  rw [Table.lookup_modify_eq] at found
  split at found
  · obtain ⟨before, stored, rfl⟩ := Option.map_eq_some_iff.mp found
    exact kept before (signed proofId before stored)
  · exact signed other row found

theorem Signed.serve (signed : rows.Signed) (call : ApiCall) : (rows.serve call).Signed := by
  cases call with
  | create request now =>
    unfold Rows.serve proofRequestCreate
    dsimp only
    split
    · exact signed
    · intro other row found
      dsimp only at found
      rcases Table.lookup_insert_cases found with ⟨_, rfl⟩ | ⟨_, found⟩
      · dsimp only
        exact isI64_asI64 request.deadline
      · exact signed other row found
  | cancel proofId =>
    unfold Rows.serve proofRequestCancel
    dsimp only
    split
    · exact signed.modify proofId fun _ kept => kept
    · exact signed
  | update update =>
    have changed : Signed (Table.modify update.proofId (DbProofRequest.set update) rows) := by
      refine signed.modify update.proofId fun row kept => ?_
      unfold DbProofRequest.set
      dsimp only
      cases update.deadline with
      | none => exact kept
      | some deadline =>
        rw [Option.map_some, Option.getD_some]
        exact isI64_asI64 deadline
    unfold Rows.serve proofRequestUpdate
    dsimp only
    split
    · exact signed
    · split
      · split
        · exact changed
        · exact signed
      · split
        · exact changed
        · exact signed

theorem signed_reach (calls : List ApiCall) : (reach calls).Signed := by
  refine Systems.run_preserves Signed ?_ (fun _ call signed => signed.serve call) calls
  intro proofId row found
  cases found

end Rows

/-! ## Agreement -/

/-- A row that is live for the check, with a deadline above the sign bit. -/
def ProofRequest.LiveBeyondSign (proof : ProofRequest) : Prop :=
  proof.proofStatus = .pending ∧ proof.handled = false ∧ 2 ^ 63 ≤ proof.deadline

/-- The columns of a row match the claimer's filter when its answer is still pending, exactly if
it is not a live row with a deadline above the sign bit. -/
theorem matches_claimerFilter_iff {row : DbProofRequest} {now : ℕ} (present : now < 2 ^ 63)
    (word : IsI64 row.deadline) :
    (Rows.Matches (claimerFilter now) row ↔ stillPending row.intoProto now = true) ↔
      ¬ row.intoProto.LiveBeyondSign := by
  have columns : Rows.Matches (claimerFilter now) row ↔
      row.proofStatus = .pending ∧ asI64 now ≤ row.deadline ∧ row.handled = false := by
    simp [Rows.Matches, claimerFilter]
  have fields : stillPending row.intoProto now = true ↔
      row.proofStatus = .pending ∧ row.handled = false ∧ now ≤ asU64 row.deadline := by
    unfold stillPending
    rw [Bool.and_eq_true, Bool.and_eq_true, Bool.not_eq_true', decide_eq_true_iff,
      decide_eq_true_iff, and_assoc]
    exact Iff.rfl
  have live : row.intoProto.LiveBeyondSign ↔
      row.proofStatus = .pending ∧ row.handled = false ∧ row.deadline < 0 := by
    have sign : 2 ^ 63 ≤ asU64 row.deadline ↔ row.deadline < 0 := by
      obtain ⟨least, greatest⟩ := word
      unfold asU64
      omega
    exact and_congr_right fun _ => and_congr_right fun _ => sign
  rw [columns, fields, live, le_asU64_iff present word]
  by_cases negative : row.deadline < 0
  · have past : ¬ asI64 now ≤ row.deadline := by
      rw [asI64_of_lt present]
      omega
    simp only [past, negative, false_and, and_false, false_or, and_true, false_iff]
  · simp only [negative, or_false, and_false, not_false_eq_true, iff_true]
    exact and_congr_right fun _ => and_comm

/-- **When the claimer's listing and its check agree.** For every row of every table that calls
make, every time below the sign bit and every page with the position of the row: the row is in
the listing exactly when the check holds of what a get returns, if and only if the row is not
pending and unhandled with a deadline above the sign bit. -/
theorem listed_iff_stillPending (calls : List ApiCall) {now : ℕ} (present : now < 2 ^ 63)
    {proofId : String} {row : DbProofRequest}
    (stored : (Rows.reach calls).lookup proofId = some row) {limit offset : ℕ}
    (after : min offset (2 ^ 31 - 1) ≤ (Rows.reach calls).position (claimerFilter now) row)
    (before : (Rows.reach calls).position (claimerFilter now) row <
      min offset (2 ^ 31 - 1) + min limit 1000) :
    ∃ proof, (Rows.reach calls).proofRequestGet proofId = some proof ∧
      ((proof ∈ (Rows.reach calls).proofRequestList
          { claimerFilter now with limit := some limit, offset := some offset } ↔
        stillPending proof now = true) ↔ ¬ proof.LiveBeyondSign) := by
  have keyed := Rows.keyed_reach calls
  have sameId : row.id = proofId := keyed proofId row stored
  refine ⟨row.intoProto, by rw [Rows.proofRequestGet, stored, Option.map_some], ?_⟩
  rw [Rows.mem_proofRequestList_iff keyed (sameId ▸ stored), and_iff_left ⟨after, before⟩]
  exact matches_claimerFilter_iff present (Rows.signed_reach calls proofId row stored)

/-- Three rows: one has run out of time, one is pending, and one is cancelled. -/
def threeDeadlines : List ApiCall :=
  [.create (.plain "a" 10) 0, .create (.plain "b" 30) 0, .create (.plain "c" 30) 0, .cancel "c"]

/-- At time 20 the pending row, and no other, is listed. -/
theorem listed_iff_stillPending_threeDeadlines :
    ((Rows.reach threeDeadlines).proofRequestList (claimerListing 20 0)).map ProofRequest.id =
        ["b"] ∧
      ∃ proof, (Rows.reach threeDeadlines).proofRequestGet "b" = some proof ∧
        ((proof ∈ (Rows.reach threeDeadlines).proofRequestList
            { claimerFilter 20 with limit := some 1000, offset := some 0 } ↔
          stillPending proof 20 = true) ↔ ¬ proof.LiveBeyondSign) :=
  ⟨by decide, listed_iff_stillPending threeDeadlines (by decide) rfl (by decide) (by decide)⟩

/-- **A live row that no listing shows.** A row with a deadline above the sign bit is pending
for the check, and the listing does not have it. -/
theorem live_row_unlisted :
    (Rows.reach [.create (.plain "p" (2 ^ 63)) 0]).proofRequestList (claimerListing 1 0) = [] ∧
      ((Rows.reach [.create (.plain "p" (2 ^ 63)) 0]).proofRequestGet "p").map
        (stillPending · 1) = some true := by
  decide

end Sp1Cluster
