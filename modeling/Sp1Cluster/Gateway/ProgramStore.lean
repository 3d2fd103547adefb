import Sp1Cluster.Data.Files
import Sp1Cluster.Data.Table
import Sp1Cluster.Systems.Runs

/-!
# The program registry on the file system

A program is kept in one file: the length of its verifying key in four bytes,
the key, and the ELF for the rest of the file. `put` writes a temporary file and
renames it into place. `get` reads the file and cuts it apart again.

Every call of the file system is a step of its own, and puts and gets of any
hashes interleave. The three writes of a put are one sequence of bytes that is
written in pieces, cut anywhere. The temporary file is named by the hash alone,
so two puts of one hash write the same file.

The result about records alone is `decode_encode`: one is read back as it was
written.
-/

set_option autoImplicit false

namespace Sp1Cluster

/-! ## Records -/

/-- What a put is given for a hash. -/
structure ProgramRecord where
  vk : List UInt8
  elf : List UInt8
deriving DecidableEq, Repr

/-- The files of the store: `<hex>` and `<hex>.tmp`. -/
structure ProgramPath where
  vkHash : List UInt8
  temporary : Bool
deriving DecidableEq, Repr

inductive ProgramStoreError where
  /-- vk too large for u32 length prefix -/
  | vkTooLarge
  /-- program record {path} truncated -/
  | truncated (path : ProgramPath)
  /-- rename into {path} -/
  | rename (path : ProgramPath)
deriving DecidableEq, Repr

/-- `u32::to_le_bytes`. -/
def toLeBytes (word : ℕ) : List UInt8 :=
  [UInt8.ofNat word, UInt8.ofNat (word / 2 ^ 8), UInt8.ofNat (word / 2 ^ 16),
    UInt8.ofNat (word / 2 ^ 24)]

/-- `u32::from_le_bytes`. -/
def fromLeBytes (bytes : List UInt8) : ℕ :=
  bytes.foldr (fun byte rest => byte.toNat + 2 ^ 8 * rest) 0

theorem fromLeBytes_toLeBytes {word : ℕ} (small : word < 2 ^ 32) :
    fromLeBytes (toLeBytes word) = word := by
  simp only [fromLeBytes, toLeBytes, List.foldr_cons, List.foldr_nil, UInt8.toNat_ofNat']
  omega

namespace ProgramRecord

/-- The length of the key has to fit its prefix. -/
abbrev Fits (record : ProgramRecord) : Prop := record.vk.length < 2 ^ 32

def encode (record : ProgramRecord) : List UInt8 :=
  toLeBytes record.vk.length ++ record.vk ++ record.elf

/-- How a get cuts the bytes of a file apart. -/
def decode (path : ProgramPath) (bytes : List UInt8) :
    Except ProgramStoreError ProgramRecord :=
  if bytes.length < 4 then .error (.truncated path)
  else
    let vkLen := fromLeBytes (bytes.take 4)
    if bytes.length < 4 + vkLen then .error (.truncated path)
    else .ok ⟨(bytes.drop 4).take vkLen, bytes.drop (4 + vkLen)⟩

/-- **A record is read back as it was written.** -/
theorem decode_encode {record : ProgramRecord} (fits : record.Fits) (path : ProgramPath) :
    decode path record.encode = .ok record := by
  have header : (toLeBytes record.vk.length).length = 4 := rfl
  have size : record.encode.length = 4 + record.vk.length + record.elf.length := by
    simp only [encode, List.length_append, header]
  have first : record.encode.take 4 = toLeBytes record.vk.length := by
    rw [encode, List.append_assoc]
    exact List.take_left' header
  have body : record.encode.drop 4 = record.vk ++ record.elf := by
    rw [encode, List.append_assoc]
    exact List.drop_left' header
  have elf : record.encode.drop (4 + record.vk.length) = record.elf := by
    rw [← List.drop_drop, body, List.drop_left]
  unfold decode
  rw [first, fromLeBytes_toLeBytes fits, body]
  dsimp only
  rw [elf, List.take_left, if_neg (by omega), if_neg (by omega)]

end ProgramRecord

/-! ## Calls -/

/-- Where a put is. -/
inductive PutPhase where
  /-- Before `File::create`. -/
  | called
  /-- With the temporary file open and bytes left to write. -/
  | writing (inode offset : ℕ) (rest : List UInt8)
  /-- After `sync_all`, before the rename. -/
  | synced
  | returned (result : Except ProgramStoreError Unit)
deriving DecidableEq

structure Put where
  vkHash : List UInt8
  record : ProgramRecord
  phase : PutPhase
deriving DecidableEq

/-- A put between its `File::create` and its rename. -/
def Put.inProgress (put : Put) : Bool :=
  match put.phase with
  | .writing _ _ _ | .synced => true
  | .called | .returned _ => false

/-- Where a get is. -/
inductive GetPhase where
  | called
  /-- With the file open and a part of it read. -/
  | reading (inode : ℕ) (bytes : List UInt8)
  | returned (result : Except ProgramStoreError (Option ProgramRecord))
deriving DecidableEq

structure Get where
  vkHash : List UInt8
  phase : GetPhase
deriving DecidableEq

inductive ProgramEvent where
  | put (id : ℕ) (vkHash : List UInt8) (record : ProgramRecord)
  | create (id : ℕ)
  /-- One write, of at least one byte. -/
  | write (id : ℕ) (count : ℕ)
  | sync (id : ℕ)
  | rename (id : ℕ)
  | get (id : ℕ) (vkHash : List UInt8)
  | openFile (id : ℕ)
  /-- One read into a buffer of at least one byte. -/
  | read (id : ℕ) (count : ℕ)
deriving DecidableEq

/-- `FilesystemProgramStore` with the calls that are or were running. -/
structure ProgramStore where
  disk : Disk ProgramPath
  puts : Table ℕ Put
  gets : Table ℕ Get

namespace ProgramStore

def empty : ProgramStore where
  disk := Disk.empty
  puts := ∅
  gets := ∅

def putTo (id : ℕ) (put : Put) (phase : PutPhase) (store : ProgramStore) : ProgramStore :=
  { store with puts := store.puts.insert id { put with phase := phase } }

def getTo (id : ℕ) (get : Get) (phase : GetPhase) (store : ProgramStore) : ProgramStore :=
  { store with gets := store.gets.insert id { get with phase := phase } }

/-- `File::create` of the temporary file. -/
def createFile (id : ℕ) (put : Put) (store : ProgramStore) : ProgramStore :=
  match put.phase with
  | .called =>
    putTo id put (.writing (store.disk.inodeAt ⟨put.vkHash, true⟩) 0 put.record.encode)
      { store with disk := store.disk.create ⟨put.vkHash, true⟩ }
  | _ => store

/-- A part of a `write_all`. -/
def writePiece (count id : ℕ) (put : Put) (store : ProgramStore) : ProgramStore :=
  match put.phase with
  | .writing inode offset rest =>
    putTo id put
      (.writing inode (offset + (rest.take (count + 1)).length) (rest.drop (count + 1)))
      { store with disk := store.disk.write inode offset (rest.take (count + 1)) }
  | _ => store

/-- `sync_all`, and the file is closed. -/
def syncAll (id : ℕ) (put : Put) (store : ProgramStore) : ProgramStore :=
  match put.phase with
  | .writing _ _ [] => store.putTo id put .synced
  | _ => store

/-- `fs::rename` of the temporary file to the file of the program. -/
def renameInto (id : ℕ) (put : Put) (store : ProgramStore) : ProgramStore :=
  match put.phase with
  | .synced =>
    match store.disk.rename ⟨put.vkHash, true⟩ ⟨put.vkHash, false⟩ with
    | some disk => putTo id put (.returned (.ok ())) { store with disk := disk }
    | none => store.putTo id put (.returned (.error (.rename ⟨put.vkHash, false⟩)))
  | _ => store

/-- `fs::read` opens the file of the program. -/
def openFile (id : ℕ) (get : Get) (store : ProgramStore) : ProgramStore :=
  match get.phase with
  | .called =>
    match store.disk.directory ⟨get.vkHash, false⟩ with
    | some inode => store.getTo id get (.reading inode [])
    | none => store.getTo id get (.returned (.ok none))
  | _ => store

/-- One read of `fs::read`; one that returns no bytes is the last. -/
def readPiece (count id : ℕ) (get : Get) (store : ProgramStore) : ProgramStore :=
  match get.phase with
  | .reading inode bytes =>
    if store.disk.read inode bytes.length (count + 1) = [] then
      store.getTo id get
        (.returned ((ProgramRecord.decode ⟨get.vkHash, false⟩ bytes).map some))
    else
      store.getTo id get
        (.reading inode (bytes ++ store.disk.read inode bytes.length (count + 1)))
  | _ => store

def withPut (id : ℕ) (act : ℕ → Put → ProgramStore → ProgramStore) (store : ProgramStore) :
    ProgramStore :=
  match store.puts.lookup id with
  | some put => act id put store
  | none => store

def withGet (id : ℕ) (act : ℕ → Get → ProgramStore → ProgramStore) (store : ProgramStore) :
    ProgramStore :=
  match store.gets.lookup id with
  | some get => act id get store
  | none => store

def step (store : ProgramStore) : ProgramEvent → ProgramStore
  | .put id vkHash record =>
    if id ∈ store.puts then store
    else
      { store with
        puts := store.puts.insert id
          ⟨vkHash, record, if record.Fits then .called else .returned (.error .vkTooLarge)⟩ }
  | .create id => store.withPut id createFile
  | .write id count => store.withPut id (writePiece count)
  | .sync id => store.withPut id syncAll
  | .rename id => store.withPut id renameInto
  | .get id vkHash =>
    if id ∈ store.gets then store
    else { store with gets := store.gets.insert id ⟨vkHash, .called⟩ }
  | .openFile id => store.withGet id openFile
  | .read id count => store.withGet id (readPiece count)

def reach (events : List ProgramEvent) : ProgramStore := Systems.run step empty events

end ProgramStore

end Sp1Cluster
