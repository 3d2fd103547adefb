import Mathlib.Data.Nat.Basic
import Mathlib.Logic.Function.Basic

/-!
# Files that are created, written and renamed

A path names an inode, an inode has contents. A program that has opened a file
keeps its inode, so it goes on reading or writing that file when the path is
given another one. There are no hard links: two paths never name one inode, and
the proof of that is part of a disk. An inode is never used again.

A write goes to the writer's own offset. When the file has been truncated in the
meantime the gap before the offset reads as zeros.
-/

set_option autoImplicit false

namespace Sp1Cluster

/-- The paths of a file system and the contents of its inodes. -/
structure Disk (P : Type) where
  directory : P → Option ℕ
  contents : ℕ → List UInt8
  fresh : ℕ
  allocated : ∀ {path inode}, directory path = some inode → inode < fresh
  injective : ∀ {path other inode}, directory path = some inode →
    directory other = some inode → path = other

namespace Disk

variable {P : Type}

def empty : Disk P where
  directory _ := none
  contents _ := []
  fresh := 0
  allocated found := by cases found
  injective found := by cases found

/-- The inode that opening a path for writing yields. -/
def inodeAt (path : P) (disk : Disk P) : ℕ := (disk.directory path).getD disk.fresh

theorem eq_of_inodeAt {disk : Disk P} {path other : P}
    (found : disk.directory other = some (disk.inodeAt path)) : other = path := by
  unfold inodeAt at found
  cases present : disk.directory path with
  | none =>
    rw [present, Option.getD_none] at found
    exact absurd (disk.allocated found) (lt_irrefl _)
  | some inode =>
    rw [present, Option.getD_some] at found
    exact disk.injective found present

/-- The contents of a file after bytes are written at an offset. -/
def overwrite (offset : ℕ) (bytes old : List UInt8) : List UInt8 :=
  (old ++ List.replicate (offset - old.length) 0).take offset ++ bytes ++
    old.drop (offset + bytes.length)

/-- At the end of a file a write appends. -/
theorem overwrite_length (bytes old : List UInt8) :
    overwrite old.length bytes old = old ++ bytes := by
  unfold overwrite
  rw [Nat.sub_self, List.replicate_zero, List.append_nil, List.take_length,
    List.drop_eq_nil_of_le (Nat.le_add_right _ _), List.append_nil]

def write (inode offset : ℕ) (bytes : List UInt8) (disk : Disk P) : Disk P :=
  { disk with
    contents := Function.update disk.contents inode
      (overwrite offset bytes (disk.contents inode)) }

theorem contents_write {disk : Disk P} (inode other offset : ℕ) (bytes : List UInt8) :
    (disk.write inode offset bytes).contents other =
      if other = inode then overwrite offset bytes (disk.contents inode)
      else disk.contents other :=
  Function.update_apply _ _ _ _

/-- What a read at an offset returns, at most a number of bytes. -/
def read (inode offset count : ℕ) (disk : Disk P) : List UInt8 :=
  ((disk.contents inode).drop offset).take count

variable [DecidableEq P]

/-- Open a path for writing: a new empty file, or the present one truncated. -/
def create (path : P) (disk : Disk P) : Disk P where
  directory := Function.update disk.directory path (some (disk.inodeAt path))
  contents := Function.update disk.contents (disk.inodeAt path) []
  fresh := max disk.fresh (disk.inodeAt path + 1)
  allocated {other inode} found := by
    rw [Function.update_apply] at found
    split at found
    · cases found
      exact lt_of_lt_of_le (Nat.lt_succ_self _) (le_max_right _ _)
    · exact lt_of_lt_of_le (disk.allocated found) (le_max_left _ _)
  injective {first second inode} found too := by
    rw [Function.update_apply] at found too
    split at found
    · next same =>
        split at too
        · next also => exact same.trans also.symm
        · cases found
          exact same.trans (eq_of_inodeAt too).symm
    · split at too
      · next also =>
          cases too
          exact (eq_of_inodeAt found).trans also.symm
      · exact disk.injective found too

/-- Give the target the file of the source; there may be no source. -/
def rename (source target : P) (disk : Disk P) : Option (Disk P) :=
  match present : disk.directory source with
  | none => none
  | some inode =>
    some
      { directory :=
          Function.update (Function.update disk.directory source none) target (some inode)
        contents := disk.contents
        fresh := disk.fresh
        allocated := by
          intro path other found
          rw [Function.update_apply, Function.update_apply] at found
          split at found
          · cases found
            exact disk.allocated present
          · split at found
            · cases found
            · exact disk.allocated found
        injective := by
          intro path other owner found too
          rw [Function.update_apply, Function.update_apply] at found too
          -- besides the target no path names the inode of the source any more
          have moved : ∀ path, path ≠ source → disk.directory path ≠ some inode :=
            fun path distinct named => distinct (disk.injective named present)
          split at found <;> split at too
          · next same also => exact same.trans also.symm
          · cases found
            split at too
            · cases too
            · next distinct => exact absurd too (moved _ distinct)
          · cases too
            split at found
            · cases found
            · next distinct => exact absurd found (moved _ distinct)
          · split at found
            · cases found
            · split at too
              · cases too
              · exact disk.injective found too }

/-! ## What the operations leave alone -/

variable {disk : Disk P}

theorem directory_create (path other : P) :
    (disk.create path).directory other =
      if other = path then some (disk.inodeAt path) else disk.directory other :=
  Function.update_apply _ _ _ _

theorem contents_create (path : P) (inode : ℕ) :
    (disk.create path).contents inode =
      if inode = disk.inodeAt path then [] else disk.contents inode :=
  Function.update_apply _ _ _ _

theorem fresh_le_create (path : P) : disk.fresh ≤ (disk.create path).fresh := le_max_left _ _

theorem rename_eq_some {source target : P} {renamed : Disk P}
    (moved : disk.rename source target = some renamed) :
    ∃ inode, disk.directory source = some inode ∧
      (∀ path, renamed.directory path =
        if path = target then some inode
        else if path = source then none else disk.directory path) ∧
      renamed.contents = disk.contents ∧ renamed.fresh = disk.fresh := by
  unfold rename at moved
  split at moved
  · cases moved
  · next inode present =>
    cases moved
    refine ⟨inode, present, fun path => ?_, rfl, rfl⟩
    simp only [Function.update_apply]

theorem rename_isSome {source : P} (target : P) {inode : ℕ}
    (present : disk.directory source = some inode) :
    (disk.rename source target).isSome = true := by
  unfold rename
  split
  · next absent =>
    rw [absent] at present
    cases present
  · rfl

end Disk

end Sp1Cluster
