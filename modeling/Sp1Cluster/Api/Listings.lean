import Sp1Cluster.Api.Rows
import Sp1Cluster.Systems.Runs
import Mathlib.Data.String.Basic

/-!
# The order of a listing

The rows that match a listing are stored rows, each once, in the order of their
creation time and identifier. A page of the listing is the part of this order
between two positions, and the position of a row is the number of matching rows
that come before it.
-/

set_option autoImplicit false

namespace Sp1Cluster.Rows

/-- A row that comes before another one in every listing. -/
def Before (first second : DbProofRequest) : Prop :=
  first.createdAt < second.createdAt ∨
    (first.createdAt = second.createdAt ∧ first.id < second.id)

instance : DecidableRel Before := fun first second =>
  inferInstanceAs (Decidable (first.createdAt < second.createdAt ∨
    (first.createdAt = second.createdAt ∧ first.id < second.id)))

theorem Before.irrefl (row : DbProofRequest) : ¬ Before row row := by
  rintro (earlier | ⟨-, less⟩)
  · exact lt_irrefl _ earlier
  · exact lt_irrefl _ less

theorem Before.asymm {first second : DbProofRequest} (before : Before first second) :
    ¬ Before second first := by
  rintro (later | ⟨same, greater⟩)
  · rcases before with earlier | ⟨same, -⟩
    · exact lt_asymm earlier later
    · exact later.ne same.symm
  · rcases before with earlier | ⟨-, less⟩
    · exact earlier.ne same.symm
    · exact lt_asymm less greater

theorem Precedes.before {first second : DbProofRequest} (precedes : Precedes first second)
    (distinct : first.id ≠ second.id) : Before first second := by
  rcases precedes with earlier | ⟨same, le⟩
  · exact .inl earlier
  · exact .inr ⟨same, lt_of_le_of_ne le distinct⟩

instance : Std.Total Precedes where
  total first second := by
    rcases lt_trichotomy first.createdAt second.createdAt with earlier | same | later
    · exact .inl (.inl earlier)
    · rcases le_total first.id second.id with le | ge
      · exact .inl (.inr ⟨same, le⟩)
      · exact .inr (.inr ⟨same.symm, ge⟩)
    · exact .inr (.inl later)

instance : IsTrans DbProofRequest Precedes where
  trans first second third := by
    rintro (earlier | ⟨same, le⟩) (later | ⟨same', le'⟩)
    · exact .inl (earlier.trans later)
    · exact .inl (same' ▸ earlier)
    · exact .inl (same ▸ later)
    · exact .inr ⟨same.trans same', le.trans le'⟩

variable {rows : Rows} {request : ProofRequestListRequest}

/-- A listing orders the stored rows that match it. -/
theorem mem_matching (keyed : rows.Keyed) {row : DbProofRequest} :
    row ∈ rows.matching request ↔ rows.lookup row.id = some row ∧ Matches request row := by
  rw [matching, List.mem_insertionSort, List.mem_filter, decide_eq_true_iff]
  refine and_congr_left fun _ => ?_
  constructor
  · intro listed
    obtain ⟨entry, member, rfl⟩ := List.mem_map.mp listed
    have found : rows.lookup entry.1 = some entry.2 := Table.mem_entries_iff.mp member
    rw [keyed entry.1 entry.2 found, found]
  · intro found
    exact List.mem_map.mpr ⟨⟨row.id, row⟩, Table.mem_entries_iff.mpr found, rfl⟩

theorem nodup_matching (keyed : rows.Keyed) :
    ((rows.matching request).map DbProofRequest.id).Nodup := by
  have stored : ((rows.entries.map fun entry => entry.2).map DbProofRequest.id).Nodup := by
    have keys : (rows.entries.map fun entry => entry.2).map DbProofRequest.id = rows.keys := by
      rw [List.map_map]
      refine List.map_congr_left fun entry member => ?_
      exact keyed entry.1 entry.2 (Table.mem_entries_iff.mp member)
    rw [keys]
    exact AList.keys_nodup rows
  have filtered : (((rows.entries.map fun entry => entry.2).filter (Matches request)).map
      DbProofRequest.id).Nodup := stored.sublist (List.filter_sublist.map _)
  exact ((List.perm_insertionSort Precedes _).map _).nodup_iff.mpr filtered

/-- **A listing is in the order of creation time and identifier.** -/
theorem pairwise_matching (keyed : rows.Keyed) : (rows.matching request).Pairwise Before := by
  have distinct : (rows.matching request).Pairwise fun first second => first.id ≠ second.id :=
    List.pairwise_map.mp (nodup_matching keyed)
  have ordered : (rows.matching request).Pairwise Precedes := List.pairwise_insertionSort _ _
  exact (ordered.and distinct).imp fun both => both.1.before both.2

/-! ## Positions -/

/-- How many matching rows come before a row. -/
def position (request : ProofRequestListRequest) (row : DbProofRequest) (rows : Rows) : ℕ :=
  (rows.matching request).countP (Before · row)

theorem getElem?_position (keyed : rows.Keyed) {row : DbProofRequest}
    (member : row ∈ rows.matching request) :
    (rows.matching request)[rows.position request row]? = some row := by
  obtain ⟨before, after, split⟩ := List.append_of_mem member
  have ordered : (rows.matching request).Pairwise Before := pairwise_matching keyed
  rw [split, List.pairwise_append, List.pairwise_cons] at ordered
  obtain ⟨-, ⟨behind, -⟩, across⟩ := ordered
  have count : rows.position request row = before.length := by
    unfold position
    rw [split, List.countP_append, List.countP_cons]
    have all : before.countP (Before · row) = before.length :=
      List.countP_eq_length.mpr fun other earlier =>
        decide_eq_true (across other earlier row List.mem_cons_self)
    have none : after.countP (Before · row) = 0 :=
      List.countP_eq_zero.mpr fun other later => by
        rw [decide_eq_true_iff]
        exact (behind other later).asymm
    simp [all, none, Before.irrefl]
  rw [count, split]
  simp

theorem mem_page_iff (keyed : rows.Keyed) {row : DbProofRequest}
    (member : row ∈ rows.matching request) (offset limit : ℕ) :
    row ∈ ((rows.matching request).drop offset).take limit ↔
      offset ≤ rows.position request row ∧ rows.position request row < offset + limit := by
  have here := getElem?_position keyed member
  constructor
  · intro listed
    obtain ⟨index, found⟩ := List.mem_iff_getElem?.mp listed
    rw [List.getElem?_take] at found
    split at found
    · next within =>
      rw [List.getElem?_drop] at found
      obtain ⟨inside, -⟩ := List.getElem?_eq_some_iff.mp here
      have same : rows.position request row = offset + index :=
        (List.getElem?_inj inside (nodup_matching keyed).of_map).mp (here.trans found.symm)
      omega
    · cases found
  · rintro ⟨after, before⟩
    refine List.mem_iff_getElem?.mpr ⟨rows.position request row - offset, ?_⟩
    rw [List.getElem?_take, if_pos (by omega), List.getElem?_drop, Nat.add_sub_of_le after, here]

/-- A stored row is in the answer to a listing when it matches and its position is on the page. -/
theorem mem_proofRequestList_iff (keyed : rows.Keyed) {row : DbProofRequest}
    (stored : rows.lookup row.id = some row) :
    row.intoProto ∈ rows.proofRequestList request ↔
      Matches request row ∧
        min (request.offset.getD 0) (2 ^ 31 - 1) ≤ rows.position request row ∧
        rows.position request row <
          min (request.offset.getD 0) (2 ^ 31 - 1) + min (request.limit.getD 10) 1000 := by
  constructor
  · intro listed
    obtain ⟨other, onPage, same⟩ := List.mem_map.mp listed
    have member : other ∈ rows.matching request :=
      List.mem_of_mem_drop (List.mem_of_mem_take onPage)
    obtain ⟨found, fits⟩ := (mem_matching keyed).mp member
    have sameId : other.id = row.id := congrArg ProofRequest.id same
    obtain rfl : other = row := by
      rw [sameId, stored] at found
      exact (Option.some.inj found).symm
    exact ⟨fits, (mem_page_iff keyed member _ _).mp onPage⟩
  · rintro ⟨fits, within⟩
    have member : row ∈ rows.matching request := (mem_matching keyed).mpr ⟨stored, fits⟩
    exact List.mem_map_of_mem ((mem_page_iff keyed member _ _).mpr within)

/-! ## Tables that calls make -/

def reach (calls : List ApiCall) : Rows := Systems.run serve ∅ calls

theorem keyed_empty : Keyed ∅ := by
  intro proofId row found
  cases found

theorem keyed_reach (calls : List ApiCall) : (reach calls).Keyed :=
  Systems.run_preserves Keyed keyed_empty (fun _ call keyed => keyed.serve call) calls

end Sp1Cluster.Rows

namespace Sp1Cluster

/-- A request with an identifier and a deadline and nothing else. -/
def ProofRequestCreateRequest.plain (proofId : String) (deadline : ℕ) :
    ProofRequestCreateRequest where
  proofId := proofId
  requester := []
  stdinArtifactId := ""
  programArtifactId := ""
  optionsArtifactId := none
  proofArtifactId := none
  cycleLimit := 0
  gasLimit := 0
  deadline := deadline
  scheduledBy := none
  stdinPrivate := false

/-- **A row outlives every call.** Whatever calls of any clients come later, a stored row is
still there, its requester, artifacts, limits and creation time are the same, and its status is
too unless it was pending. -/
theorem row_outlives_calls (past future : List ApiCall) {proofId : String} {row : DbProofRequest}
    (found : (Rows.reach past).lookup proofId = some row) :
    ∃ after, (Rows.reach (past ++ future)).lookup proofId = some after ∧
      after.identity = row.identity ∧
      (row.proofStatus ≠ .pending → after.proofStatus = row.proofStatus) := by
  unfold Rows.reach
  rw [Systems.run_append]
  obtain ⟨after, last, becomes⟩ := Rows.becomes_calls found future
  exact ⟨after, last, becomes.identity, becomes.status⟩

def finishedProof : List ApiCall :=
  [.create (.plain "p" 9) 1, .update { proofId := "p", proofStatus := some .completed }]

theorem row_outlives_calls_finishedProof :
    ∃ after, (Rows.reach (finishedProof ++ [.cancel "p", .create (.plain "p" 8) 2])).lookup "p" =
      some after ∧ after.proofStatus = .completed := by
  obtain ⟨row, found, completed⟩ : ∃ row, (Rows.reach finishedProof).lookup "p" = some row ∧
    row.proofStatus = .completed := ⟨_, rfl, rfl⟩
  obtain ⟨after, last, -, status⟩ := row_outlives_calls finishedProof
    [.cancel "p", .create (.plain "p" 8) 2] found
  exact ⟨after, last, (status (by rw [completed]; nofun)).trans completed⟩

end Sp1Cluster
