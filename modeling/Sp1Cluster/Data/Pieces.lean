import Mathlib.Data.Fintype.Card
import Mathlib.Tactic.Linarith
import Sp1Cluster.Data.Table

/-!
# Splitting a list into pieces

A list is cut into consecutive pieces of one size, the last of which may be
shorter. Pieces are addressed by their index. The pieces in order give the list
back, and a table whose keys are indices below a bound, as many as the bound,
has an entry for each of them. A list can be put together by overwriting its
pieces in any order.
-/

set_option autoImplicit false

namespace Sp1Cluster.Pieces

universe u

variable {α : Type u}

/-- The piece of a list with an index. -/
def piece (size : ℕ) (data : List α) (index : ℕ) : List α :=
  (data.drop (index * size)).take size

def count (size : ℕ) (data : List α) : ℕ := (data.length + size - 1) / size

/-- The first pieces of a list are a prefix of it. -/
theorem flatMap_range_piece (size : ℕ) (data : List α) (pieces : ℕ) :
    (List.range pieces).flatMap (piece size data) = data.take (pieces * size) := by
  induction pieces with
  | zero => simp
  | succ pieces ih =>
    rw [List.range_succ, List.flatMap_append, ih, Nat.succ_mul, List.take_add]
    simp [piece]

theorem length_le_count_mul {size : ℕ} (positive : 0 < size) (data : List α) :
    data.length ≤ count size data * size := by
  have division := Nat.div_add_mod (data.length + size - 1) size
  have remainder := Nat.mod_lt (data.length + size - 1) positive
  unfold count
  rw [Nat.mul_comm]
  omega

/-- All pieces of a list in order are the list. -/
theorem flatMap_piece {size : ℕ} (positive : 0 < size) (data : List α) :
    (List.range (count size data)).flatMap (piece size data) = data := by
  rw [flatMap_range_piece]
  exact List.take_of_length_le (length_le_count_mul positive data)

def chunks (size : ℕ) (data : List α) : List (List α) :=
  (List.range (count size data)).map (piece size data)

theorem flatten_chunks {size : ℕ} (positive : 0 < size) (data : List α) :
    (chunks size data).flatten = data :=
  flatMap_piece positive data

theorem getElem?_piece (size : ℕ) (data : List α) (index offset : ℕ) :
    (piece size data index)[offset]? =
      if offset < size then data[index * size + offset]? else none := by
  rw [piece, List.getElem?_take, List.getElem?_drop]

/-- Lists of one length with the same pieces are the same. -/
theorem eq_of_pieces {size : ℕ} (positive : 0 < size) {data other : List α}
    (length : other.length = data.length)
    (same : ∀ index < count size data, piece size other index = piece size data index) :
    other = data := by
  have counts : count size other = count size data := by rw [count, count, length]
  rw [← flatMap_piece positive other, ← flatMap_piece positive data, counts]
  exact List.flatMap_congr fun index member => same index (List.mem_range.mp member)

/-- A list whose positions from `start` on are overwritten. -/
def overwrite (start : ℕ) (part data : List α) : List α :=
  data.mapIdx fun position old =>
    if start ≤ position then part.getD (position - start) old else old

/-- Overwriting a piece changes no other piece. -/
theorem piece_overwrite {size : ℕ} {data buffer : List α} (length : buffer.length = data.length)
    (index other : ℕ) :
    piece size (overwrite (index * size) (piece size data index) buffer) other =
      if other = index then piece size data index else piece size buffer other := by
  refine List.ext_getElem? fun offset => ?_
  rw [apply_ite (·[offset]?), getElem?_piece, getElem?_piece, getElem?_piece]
  by_cases inside : offset < size
  · simp only [inside, if_true, overwrite, List.getElem?_mapIdx]
    cases found : buffer[other * size + offset]? with
    | none =>
      rw [List.getElem?_eq_none_iff, length, ← List.getElem?_eq_none_iff] at found
      rw [Option.map_none]
      split
      · next same => rw [← same, found]
      · rfl
    | some old =>
      rcases lt_trichotomy other index with before | rfl | after
      · have apart := Nat.mul_le_mul_right size before
        rw [Nat.succ_mul] at apart
        rw [if_neg before.ne, Option.map_some, if_neg (by omega)]
      · have present : other * size + offset < data.length := by
          rw [← length]
          exact (List.getElem?_eq_some_iff.mp found).1
        simp [getElem?_piece, inside, present]
      · have apart := Nat.mul_le_mul_right size after
        rw [Nat.succ_mul] at apart
        have past : ¬ other * size + offset - index * size < size := by omega
        simp [after.ne', getElem?_piece, past]
  · simp [inside]

/-- There are pieces up to the number of pieces, and no more. -/
theorem piece_eq_nil_iff {size : ℕ} (positive : 0 < size) (data : List α) (index : ℕ) :
    piece size data index = [] ↔ count size data ≤ index := by
  have empty : piece size data index = [] ↔ data.length ≤ index * size := by
    rw [piece, List.take_eq_nil_iff, List.drop_eq_nil_iff]
    exact or_iff_right positive.ne'
  have few : count size data ≤ index ↔ data.length + size - 1 < (index + 1) * size := by
    rw [count, ← Nat.lt_succ_iff]
    exact Nat.div_lt_iff_lt_mul positive
  rw [empty, few, Nat.succ_mul]
  omega

theorem count_le_length {size : ℕ} (positive : 0 < size) (data : List α) :
    count size data ≤ data.length := by
  rw [← piece_eq_nil_iff positive, piece, List.take_eq_nil_iff, List.drop_eq_nil_iff]
  exact .inr (Nat.le_mul_of_pos_right _ positive)

/-- A table with as many keys as its bound has every key below the bound. -/
theorem mem_of_full {ν : Type} {table : Table ℕ ν} {bound : ℕ}
    (below : ∀ index ∈ table, index < bound) (full : table.entries.length = bound) {index : ℕ}
    (inside : index < bound) : index ∈ table := by
  have subset : table.keys.toFinset ⊆ Finset.range bound := by
    intro key member
    exact Finset.mem_range.mpr (below key (List.mem_toFinset.mp member))
  have size : table.keys.toFinset.card = bound := by
    rw [List.toFinset_card_of_nodup (AList.keys_nodup table)]
    change (table.entries.map Sigma.fst).length = bound
    rw [List.length_map, full]
  have all : table.keys.toFinset = Finset.range bound :=
    Finset.eq_of_subset_of_card_le subset (by rw [size, Finset.card_range])
  have member : index ∈ table.keys.toFinset := by
    rw [all]
    exact Finset.mem_range.mpr inside
  exact List.mem_toFinset.mp member

/-- Writes at different places show all that was written, whatever their order. -/
theorem foldlM_writes {σ β γ : Type} {write : σ → ℕ × β → Option σ} {view : σ → ℕ → γ}
    {shown : ℕ → γ} {fits : σ → Prop} {sent : List (ℕ × β)}
    (writes : ∀ state, ∀ entry ∈ sent, fits state → ∃ next, write state entry = some next ∧
      fits next ∧ ∀ index, view next index =
        if index = entry.1 then shown index else view state index)
    {state : σ} (start : fits state) :
    ∃ final, sent.foldlM write state = some final ∧ fits final ∧ ∀ index,
      index ∈ sent.map Prod.fst ∨ view state index = shown index →
        view final index = shown index := by
  induction sent generalizing state with
  | nil => exact ⟨state, rfl, start, fun _ => Or.rec (nomatch ·) id⟩
  | cons entry sent ih =>
    obtain ⟨next, wrote, still, views⟩ := writes state entry List.mem_cons_self start
    obtain ⟨final, rest, fitsFinal, shows⟩ :=
      ih (fun state other member => writes state other (List.mem_cons_of_mem _ member)) still
    refine ⟨final, by rw [List.foldlM_cons, wrote]; exact rest, fitsFinal, ?_⟩
    intro index covered
    refine shows index ?_
    rw [views, List.map_cons, List.mem_cons] at *
    by_cases same : index = entry.1
    · exact .inr (if_pos same)
    · rw [if_neg same]
      exact covered.imp_left (·.resolve_left same)

end Sp1Cluster.Pieces
