import Mathlib.Data.List.AList
import Mathlib.Algebra.BigOperators.Group.List.Basic
import Mathlib.Algebra.GroupWithZero.Nat

/-!
# Hash tables as association lists

A hash table is an association list without repeated keys. What a program can
observe of it is the value of a key, the entries in some order, and totals
taken over the entries. Insertion and removal are described by the table with
the key erased, so that a total over a changed table is always a total over
that remainder plus the contribution of one key.

A set of keys is a table with no values.
-/

set_option autoImplicit false

namespace Sp1Cluster

/-- A hash table: an association list without repeated keys. -/
abbrev Table (κ ν : Type) := AList (fun _ : κ => ν)

/-- A hash set: a table with no values. -/
abbrev KeySet (κ : Type) := Table κ Unit

namespace Table

variable {κ ν : Type} [DecidableEq κ] {key : κ} {table : Table κ ν} {value : ν}

/-- Change the value of a key in place, when the key is present. -/
def modify (key : κ) (change : ν → ν) (table : Table κ ν) : Table κ ν :=
  match table.lookup key with
  | none => table
  | some value => table.insert key (change value)

omit [DecidableEq κ] in
theorem keys_mapped (entries : List (Sigma fun _ : κ => ν)) (change : ν → ν) :
    (entries.map fun entry => (⟨entry.1, change entry.2⟩ : Sigma fun _ : κ => ν)).keys =
      entries.keys := by
  simp [List.keys, Function.comp_def]

/-- Change every value of a table. -/
def mapValues (change : ν → ν) (table : Table κ ν) : Table κ ν where
  entries := table.entries.map fun entry => ⟨entry.1, change entry.2⟩
  nodupKeys := by
    unfold List.NodupKeys
    rw [keys_mapped]
    exact table.nodupKeys

/-! ## Values of keys -/

theorem lookup_insert_eq (table : Table κ ν) (key other : κ) (value : ν) :
    (table.insert key value).lookup other =
      if other = key then some value else table.lookup other := by
  by_cases same : other = key
  · subst same
    simp
  · simp [same, AList.lookup_insert_ne same]

theorem lookup_erase_eq (table : Table κ ν) (key other : κ) :
    (table.erase key).lookup other = if other = key then none else table.lookup other := by
  by_cases same : other = key
  · subst same
    simp
  · simp [same, AList.lookup_erase_ne same]

theorem lookup_insert_cases {other : κ} {found : ν}
    (lookup : (table.insert key value).lookup other = some found) :
    (other = key ∧ found = value) ∨ (other ≠ key ∧ table.lookup other = some found) := by
  rw [lookup_insert_eq] at lookup
  split at lookup
  · next same => exact .inl ⟨same, (Option.some.inj lookup).symm⟩
  · next distinct => exact .inr ⟨distinct, lookup⟩

theorem lookup_of_erase {other : κ} {found : ν}
    (lookup : (table.erase key).lookup other = some found) : table.lookup other = some found := by
  rw [lookup_erase_eq] at lookup
  split at lookup
  · cases lookup
  · exact lookup

theorem lookup_modify_eq (table : Table κ ν) (key other : κ) (change : ν → ν) :
    (table.modify key change).lookup other =
      if other = key then (table.lookup key).map change else table.lookup other := by
  unfold modify
  cases found : table.lookup key with
  | none =>
    by_cases same : other = key
    · subst same
      simp [found]
    · simp [same]
  | some value => simp [lookup_insert_eq]

theorem modify_of_lookup (found : table.lookup key = some value) (change : ν → ν) :
    table.modify key change = table.insert key (change value) := by
  simp [modify, found]

theorem mem_of_lookup (found : table.lookup key = some value) : key ∈ table :=
  AList.lookup_isSome.mp (by simp [found])

theorem exists_lookup (member : key ∈ table) : ∃ value, table.lookup key = some value :=
  Option.isSome_iff_exists.mp (AList.lookup_isSome.mpr member)

theorem getD_lookup_insert (table : Table κ ν) (key other : κ) (value default : ν) :
    ((table.insert key value).lookup other).getD default =
      if other = key then value else (table.lookup other).getD default := by
  rw [lookup_insert_eq]
  split <;> rfl

/-- A table lists exactly the keys that have a value. -/
theorem mem_entries_iff :
    (⟨key, value⟩ : Sigma fun _ : κ => ν) ∈ table.entries ↔ table.lookup key = some value :=
  AList.mem_lookup_iff.symm

theorem entries_erase (table : Table κ ν) (key : κ) :
    (table.erase key).entries = table.entries.kerase key := rfl

theorem erase_of_notMem (absent : key ∉ table) : table.erase key = table := by
  apply AList.ext
  exact List.kerase_of_notMem_keys absent

/-- A value that is removed again leaves no trace. -/
theorem erase_insert (table : Table κ ν) (key : κ) (value : ν) :
    (table.insert key value).erase key = table.erase key := by
  apply AList.ext
  simp [entries_erase, AList.entries_insert]

theorem lookup_mapValues (change : ν → ν) (table : Table κ ν) (key : κ) :
    (table.mapValues change).lookup key = (table.lookup key).map change := by
  cases found : table.lookup key with
  | none =>
    have absent : key ∉ table := AList.lookup_eq_none.mp found
    refine AList.lookup_eq_none.mpr fun present => absent ?_
    have listed : key ∈ (table.mapValues change).entries.keys := present
    simp only [mapValues, keys_mapped] at listed
    exact listed
  | some value =>
    have member : (⟨key, value⟩ : Sigma fun _ : κ => ν) ∈ table.entries :=
      mem_entries_iff.mpr found
    exact mem_entries_iff.mp (List.mem_map.mpr ⟨_, member, rfl⟩)

/-! ## Totals over the entries -/

/-- The entries of a table are one of them and the entries of the remainder. -/
theorem entries_perm_of_lookup (found : table.lookup key = some value) :
    table.entries.Perm (⟨key, value⟩ :: (table.erase key).entries) := by
  have member : (⟨key, value⟩ : Sigma fun _ : κ => ν) ∈ table.entries := mem_entries_iff.mpr found
  obtain ⟨before, after, split⟩ := List.append_of_mem member
  have distinct : (before ++ ⟨key, value⟩ :: after).NodupKeys := split ▸ table.nodupKeys
  have notBefore : key ∉ before.keys := by
    intro earlier
    have keysNodup : (before.keys ++ key :: after.keys).Nodup := by
      simpa [List.NodupKeys, List.keys] using distinct
    exact (List.nodup_append.mp keysNodup).2.2 key earlier key (by simp) rfl
  have remainder : (table.erase key).entries = before ++ after := by
    change List.kerase key table.entries = before ++ after
    rw [split, List.kerase_append_right notBefore]
    simp
  rw [remainder, split]
  exact List.perm_middle

def total (weight : κ → ν → ℕ) (table : Table κ ν) : ℕ :=
  (table.entries.map fun entry => weight entry.1 entry.2).sum

def count (test : ν → Bool) (table : Table κ ν) : ℕ :=
  table.entries.countP fun entry => test entry.2

/-- A sum over some elements is a sum over all of them, where the others add nothing. -/
theorem sum_filter {α : Type} (test : α → Bool) (weight : α → ℕ) (elements : List α) :
    ((elements.filter test).map weight).sum =
      (elements.map fun element => if test element then weight element else 0).sum := by
  induction elements with
  | nil => rfl
  | cons element rest ih =>
    rw [List.filter_cons, List.map_cons, List.sum_cons, ← ih]
    split
    · rw [List.map_cons, List.sum_cons]
    · rw [Nat.zero_add]

omit [DecidableEq κ] in
@[simp] theorem total_empty (weight : κ → ν → ℕ) : total weight (∅ : Table κ ν) = 0 := rfl

omit [DecidableEq κ] in
@[simp] theorem count_empty (test : ν → Bool) : count test (∅ : Table κ ν) = 0 := rfl

theorem total_insert (weight : κ → ν → ℕ) (table : Table κ ν) (key : κ) (value : ν) :
    total weight (table.insert key value) = weight key value + total weight (table.erase key) := by
  simp [total, AList.entries_insert, entries_erase]

theorem count_insert (test : ν → Bool) (table : Table κ ν) (key : κ) (value : ν) :
    count test (table.insert key value) =
      count test (table.erase key) + if test value then 1 else 0 := by
  simp [count, AList.entries_insert, entries_erase, List.countP_cons]

theorem total_of_lookup (weight : κ → ν → ℕ) (found : table.lookup key = some value) :
    table.total weight = weight key value + total weight (table.erase key) := by
  unfold total
  rw [((entries_perm_of_lookup found).map _).sum_eq]
  simp

theorem count_of_lookup (test : ν → Bool) (found : table.lookup key = some value) :
    table.count test = count test (table.erase key) + if test value then 1 else 0 := by
  unfold count
  rw [(entries_perm_of_lookup found).countP_eq]
  simp [List.countP_cons]

/-- A test that some value passes is counted at least once, and conversely. -/
theorem count_pos_iff (test : ν → Bool) (table : Table κ ν) :
    0 < table.count test ↔ ∃ key value, table.lookup key = some value ∧ test value = true := by
  unfold count
  rw [List.countP_pos_iff]
  constructor
  · rintro ⟨⟨key, value⟩, member, passes⟩
    exact ⟨key, value, mem_entries_iff.mp member, passes⟩
  · rintro ⟨key, value, found, passes⟩
    exact ⟨⟨key, value⟩, mem_entries_iff.mpr found, passes⟩

/-- Totals of quantities that agree on the entries agree. -/
theorem total_congr {weight other : κ → ν → ℕ}
    (same : ∀ key value, table.lookup key = some value → weight key value = other key value) :
    table.total weight = table.total other := by
  unfold total
  congr 1
  apply List.map_congr_left
  rintro ⟨key, value⟩ member
  exact same key value (mem_entries_iff.mp member)

end Table

namespace KeySet

variable {κ : Type} [DecidableEq κ] {keys : KeySet κ} {key : κ}

def add (key : κ) (keys : KeySet κ) : KeySet κ := keys.insert key ()

def isEmpty (keys : KeySet κ) : Bool := keys.entries.isEmpty

@[simp] theorem mem_add (key other : κ) (keys : KeySet κ) :
    other ∈ keys.add key ↔ other = key ∨ other ∈ keys :=
  AList.mem_insert keys

theorem lookup_of_mem (member : key ∈ keys) : keys.lookup key = some () := by
  obtain ⟨value, found⟩ := Table.exists_lookup member
  exact found

def sumOver (weight : κ → ℕ) (keys : KeySet κ) : ℕ :=
  Table.total (fun key _ => weight key) keys

omit [DecidableEq κ] in
@[simp] theorem sumOver_empty (weight : κ → ℕ) : sumOver weight (∅ : KeySet κ) = 0 := rfl

theorem notMem_of_isEmpty (empty : keys.isEmpty = true) (key : κ) : key ∉ keys := by
  intro member
  have nothing : keys.entries = [] := by simpa [isEmpty] using empty
  have listed : (⟨key, ()⟩ : Sigma fun _ : κ => Unit) ∈ keys.entries :=
    Table.mem_entries_iff.mpr (lookup_of_mem member)
  rw [nothing] at listed
  cases listed

omit [DecidableEq κ] in
theorem isEmpty_of_notMem (nothing : ∀ key, key ∉ keys) : keys.isEmpty = true := by
  unfold isEmpty
  rw [List.isEmpty_iff, List.eq_nil_iff_forall_not_mem]
  intro entry member
  exact nothing entry.1 (List.mem_map_of_mem member)

omit [DecidableEq κ] in
theorem sumOver_of_isEmpty (weight : κ → ℕ) (empty : keys.isEmpty = true) :
    keys.sumOver weight = 0 := by
  have nothing : keys.entries = [] := by simpa [isEmpty] using empty
  simp [sumOver, Table.total, nothing]

theorem sumOver_add (weight : κ → ℕ) (absent : key ∉ keys) :
    (keys.add key).sumOver weight = weight key + keys.sumOver weight := by
  unfold sumOver add
  rw [Table.total_insert, Table.erase_of_notMem absent]

theorem sumOver_of_mem (weight : κ → ℕ) (member : key ∈ keys) :
    keys.sumOver weight = weight key + sumOver weight (keys.erase key) := by
  unfold sumOver
  exact Table.total_of_lookup _ (lookup_of_mem member)

theorem sumOver_congr {weight other : κ → ℕ} (same : ∀ key ∈ keys, weight key = other key) :
    keys.sumOver weight = keys.sumOver other :=
  Table.total_congr fun key _ found => same key (Table.mem_of_lookup found)

end KeySet

end Sp1Cluster
