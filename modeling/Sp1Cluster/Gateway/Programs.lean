import Sp1Cluster.Gateway.ProgramStore

/-!
# What a get can find

A file that is renamed into place is served as it stands, and a get that has
opened it goes on reading it. So the file has to be the whole record of one put
when it is renamed, and no put may write to it afterwards. Both follow when a
put creates its temporary file only while no other put of the same hash is
between its own creation and its rename. Nothing in the store sees to that.
-/

set_option autoImplicit false

namespace Sp1Cluster

/-- What a put that has come this far has on the disk. -/
def Put.Owns (disk : Disk ProgramPath) (put : Put) : Prop :=
  match put.phase with
  | .called => put.record.Fits
  | .writing inode offset rest =>
    put.record.Fits ∧ disk.directory ⟨put.vkHash, true⟩ = some inode ∧
      offset = (disk.contents inode).length ∧ disk.contents inode ++ rest = put.record.encode
  | .synced =>
    put.record.Fits ∧ ∃ inode, disk.directory ⟨put.vkHash, true⟩ = some inode ∧
      disk.contents inode = put.record.encode
  | .returned result =>
    result = .ok () ∧ disk.directory ⟨put.vkHash, false⟩ ≠ none ∨
      result = .error .vkTooLarge

namespace ProgramStore

/-! ## Whole files -/

/-- A disk after an operation on the temporary file of one hash. -/
structure OnlyTemporary (vkHash : List UInt8) (before after : Disk ProgramPath) : Prop where
  grows : before.fresh ≤ after.fresh
  elsewhere : ∀ {hash inode}, hash ≠ vkHash → before.directory ⟨hash, true⟩ = some inode →
    after.directory ⟨hash, true⟩ = some inode ∧ after.contents inode = before.contents inode
  settled : ∀ {inode}, inode < before.fresh →
    (∀ hash, before.directory ⟨hash, true⟩ ≠ some inode) →
      after.contents inode = before.contents inode ∧
        ∀ hash, after.directory ⟨hash, true⟩ ≠ some inode
  inPlace : ∀ {hash}, before.directory ⟨hash, false⟩ ≠ none →
    after.directory ⟨hash, false⟩ ≠ none

variable {disk renamed : Disk ProgramPath} {vkHash : List UInt8}

theorem OnlyTemporary.refl (vkHash : List UInt8) (disk : Disk ProgramPath) :
    OnlyTemporary vkHash disk disk where
  grows := le_rfl
  elsewhere _ named := ⟨named, rfl⟩
  settled _ apart := ⟨rfl, apart⟩
  inPlace present := present

theorem onlyTemporary_create (vkHash : List UInt8) (disk : Disk ProgramPath) :
    OnlyTemporary vkHash disk (disk.create ⟨vkHash, true⟩) where
  grows := Disk.fresh_le_create _
  elsewhere {hash inode} distinct named := by
    have path : (⟨hash, true⟩ : ProgramPath) ≠ ⟨vkHash, true⟩ := by
      intro same
      cases same
      exact distinct rfl
    rw [Disk.directory_create, if_neg path, Disk.contents_create, if_neg]
    · exact ⟨named, rfl⟩
    · intro same
      rw [same] at named
      exact path (Disk.eq_of_inodeAt named)
  settled {inode} allocated apart := by
    have other : inode ≠ disk.inodeAt ⟨vkHash, true⟩ := by
      intro same
      unfold Disk.inodeAt at same
      cases present : disk.directory ⟨vkHash, true⟩ with
      | none =>
        rw [present, Option.getD_none] at same
        omega
      | some old =>
        rw [present, Option.getD_some] at same
        exact apart vkHash (same ▸ present)
    refine ⟨by rw [Disk.contents_create, if_neg other], fun hash named => ?_⟩
    rw [Disk.directory_create] at named
    split at named
    · exact other (Option.some.inj named).symm
    · exact apart hash named
  inPlace {hash} present := by
    rw [Disk.directory_create, if_neg (by simp)]
    exact present

theorem onlyTemporary_write {inode : ℕ} (owned : disk.directory ⟨vkHash, true⟩ = some inode)
    (offset : ℕ) (bytes : List UInt8) :
    OnlyTemporary vkHash disk (disk.write inode offset bytes) where
  grows := le_rfl
  elsewhere {hash other} distinct named := by
    refine ⟨named, ?_⟩
    rw [Disk.contents_write, if_neg]
    rintro rfl
    have same := disk.injective named owned
    cases same
    exact distinct rfl
  settled {other} _ apart := by
    refine ⟨?_, apart⟩
    rw [Disk.contents_write, if_neg]
    rintro rfl
    exact apart vkHash owned
  inPlace present := present

theorem onlyTemporary_rename
    (moved : disk.rename ⟨vkHash, true⟩ ⟨vkHash, false⟩ = some renamed) :
    OnlyTemporary vkHash disk renamed := by
  obtain ⟨inode, present, directory, contents, fresh⟩ := Disk.rename_eq_some moved
  refine ⟨fresh.ge, fun {hash other} distinct named => ?_, fun {other} _ apart => ?_,
    fun {hash} before => ?_⟩
  · have kept := directory ⟨hash, true⟩
    rw [if_neg (by simp), if_neg (by simpa using distinct)] at kept
    exact ⟨kept.trans named, by rw [contents]⟩
  · refine ⟨by rw [contents], fun hash named => ?_⟩
    rw [directory, if_neg (by simp)] at named
    split at named
    · cases named
    · exact apart hash named
  · rw [directory]
    split
    · exact Option.some_ne_none inode
    · rw [if_neg (by simp)]
      exact before

theorem OnlyTemporary.owns {before after : Disk ProgramPath}
    (only : OnlyTemporary vkHash before after) {put : Put} (owned : put.Owns before)
    (apart : put.inProgress = true → put.vkHash ≠ vkHash) : put.Owns after := by
  unfold Put.Owns Put.inProgress at *
  cases phase : put.phase with
  | called =>
    rw [phase] at owned
    exact owned
  | writing inode offset rest =>
    rw [phase] at owned apart
    obtain ⟨fits, named, length, bytes⟩ := owned
    obtain ⟨named, same⟩ := only.elsewhere (apart rfl) named
    exact ⟨fits, named, same ▸ length, same ▸ bytes⟩
  | synced =>
    rw [phase] at owned apart
    obtain ⟨fits, inode, named, bytes⟩ := owned
    obtain ⟨named, same⟩ := only.elsewhere (apart rfl) named
    exact ⟨fits, inode, named, same.trans bytes⟩
  | returned result =>
    rw [phase] at owned
    exact owned.imp_left fun ⟨succeeded, present⟩ => ⟨succeeded, only.inPlace present⟩

/-- An inode that holds the whole record of a put and is no temporary file any more. -/
structure Recorded (store : ProgramStore) (vkHash : List UInt8) (inode : ℕ) : Prop where
  allocated : inode < store.disk.fresh
  settled : ∀ hash, store.disk.directory ⟨hash, true⟩ ≠ some inode
  whole : ∃ id put, store.puts.lookup id = some put ∧ put.vkHash = vkHash ∧
    put.record.Fits ∧ store.disk.contents inode = put.record.encode

/-- What a get has read, or has returned, comes from one put of its hash. -/
def Served (store : ProgramStore) (get : Get) : Prop :=
  match get.phase with
  | .called => True
  | .reading inode bytes =>
    store.Recorded get.vkHash inode ∧ bytes <+: store.disk.contents inode
  | .returned result =>
    result = .ok none ∨ ∃ id put, store.puts.lookup id = some put ∧
      put.vkHash = get.vkHash ∧ result = .ok (some put.record)

/-- Every file that a get can have open is the record of one put, and no two puts of one
hash have a temporary file. -/
structure Whole (store : ProgramStore) : Prop where
  owns : ∀ {id put}, store.puts.lookup id = some put → put.Owns store.disk
  alone : ∀ {id other put also}, store.puts.lookup id = some put →
    store.puts.lookup other = some also → put.inProgress = true → also.inProgress = true →
      also.vkHash = put.vkHash → other = id
  inPlace : ∀ {vkHash inode}, store.disk.directory ⟨vkHash, false⟩ = some inode →
    store.Recorded vkHash inode
  served : ∀ {id get}, store.gets.lookup id = some get → store.Served get

theorem whole_empty : empty.Whole where
  owns found := by cases found
  alone found := by cases found
  inPlace found := by cases found
  served found := by cases found

variable {store after : ProgramStore} {id : ℕ}

theorem withPut_of {P : ProgramStore → Prop} (unchanged : P store)
    {act : ℕ → Put → ProgramStore → ProgramStore}
    (acted : ∀ put, store.puts.lookup id = some put → P (act id put store)) :
    P (store.withPut id act) := by
  unfold withPut
  split
  · next put found => exact acted put found
  · exact unchanged

theorem withGet_of {P : ProgramStore → Prop} (unchanged : P store)
    {act : ℕ → Get → ProgramStore → ProgramStore}
    (acted : ∀ get, store.gets.lookup id = some get → P (act id get store)) :
    P (store.withGet id act) := by
  unfold withGet
  split
  · next get found => exact acted get found
  · exact unchanged

/-- Every put is still there with what it was given. -/
def Remembers (store after : ProgramStore) : Prop :=
  ∀ id put, store.puts.lookup id = some put → ∃ later, after.puts.lookup id = some later ∧
    later.vkHash = put.vkHash ∧ later.record = put.record

theorem Recorded.later {inode : ℕ} (recorded : store.Recorded vkHash inode)
    (remembers : store.Remembers after) {hash : List UInt8}
    (only : OnlyTemporary hash store.disk after.disk) : after.Recorded vkHash inode := by
  obtain ⟨bytes, settled⟩ := only.settled recorded.allocated recorded.settled
  obtain ⟨id, put, found, sameHash, fits, whole⟩ := recorded.whole
  obtain ⟨later, found, hash, record⟩ := remembers id put found
  refine ⟨lt_of_lt_of_le recorded.allocated only.grows, settled, id, later, found,
    hash.trans sameHash, record ▸ fits, ?_⟩
  rw [bytes, whole, record]

theorem Served.later {get : Get} (served : store.Served get)
    (remembers : store.Remembers after) {hash : List UInt8}
    (only : OnlyTemporary hash store.disk after.disk) : after.Served get := by
  unfold Served at *
  cases phase : get.phase with
  | called => trivial
  | reading inode bytes =>
    rw [phase] at served
    obtain ⟨recorded, already⟩ := served
    refine ⟨recorded.later remembers only, ?_⟩
    rw [(only.settled recorded.allocated recorded.settled).1]
    exact already
  | returned result =>
    rw [phase] at served
    rcases served with nothing | ⟨id, put, found, sameHash, same⟩
    · exact .inl nothing
    · obtain ⟨later, found, hash, record⟩ := remembers id put found
      exact .inr ⟨id, later, found, hash.trans sameHash, by rw [same, record]⟩

/-! ## Steps of a put -/

theorem remembers_putTo {put : Put}
    (given : ∀ old ∈ store.puts.lookup id, put.vkHash = old.vkHash ∧ put.record = old.record)
    (phase : PutPhase) (disk : Disk ProgramPath) :
    store.Remembers (putTo id put phase { store with disk := disk }) := by
  intro other also present
  unfold putTo
  rw [Table.lookup_insert_eq]
  split
  · next same =>
    rw [same] at present
    exact ⟨_, rfl, given also present⟩
  · exact ⟨also, present, rfl, rfl⟩

section Stores

variable (whole : store.Whole)
include whole

theorem Whole.putTo (put : Put) (phase : PutPhase)
    (given : ∀ old ∈ store.puts.lookup id, put.vkHash = old.vkHash ∧ put.record = old.record)
    (owned : Put.Owns disk { put with phase := phase })
    (others : ∀ other also, other ≠ id → store.puts.lookup other = some also →
      also.Owns disk)
    (apart : Put.inProgress { put with phase := phase } = true → ∀ other also, other ≠ id →
      store.puts.lookup other = some also → also.inProgress = true → also.vkHash ≠ put.vkHash)
    {vkHash : List UInt8} (only : OnlyTemporary vkHash store.disk disk)
    (inPlace : ∀ {hash inode}, disk.directory ⟨hash, false⟩ = some inode →
      store.disk.directory ⟨hash, false⟩ = some inode ∨
      (ProgramStore.putTo id put phase { store with disk := disk }).Recorded hash inode) :
    (ProgramStore.putTo id put phase { store with disk := disk }).Whole := by
  have remembers := remembers_putTo given phase disk
  have lookups : ∀ {other also},
      (ProgramStore.putTo id put phase { store with disk := disk }).puts.lookup other =
        some also →
      other = id ∧ also = { put with phase := phase } ∨
        other ≠ id ∧ store.puts.lookup other = some also := by
    intro other also present
    unfold ProgramStore.putTo at present
    exact Table.lookup_insert_cases present
  refine ⟨fun {other also} present => ?_, fun {first second one two} here there busy too same => ?_,
    fun {hash inode} named => ?_, fun {other get} present => ?_⟩
  · rcases lookups present with ⟨rfl, rfl⟩ | ⟨distinct, present⟩
    · exact owned
    · exact others other also distinct present
  · rcases lookups here with ⟨rfl, rfl⟩ | ⟨distinct, earlier⟩
    · rcases lookups there with ⟨rfl, rfl⟩ | ⟨distinct, there⟩
      · rfl
      · exact absurd same (apart busy second two distinct there too)
    · rcases lookups there with ⟨rfl, rfl⟩ | ⟨_, there⟩
      · exact absurd same.symm (apart too first one distinct earlier busy)
      · exact whole.alone earlier there busy too same
  · rcases inPlace named with before | recorded
    · exact (whole.inPlace before).later remembers only
    · exact recorded
  · exact (whole.served present).later remembers only

/-- **What one step of a put has to show**: its own part of the disk, that no other put of
the hash is in progress, and that what it put in place is its own record. -/
theorem Whole.proceed {put : Put} {phase : PutPhase} (found : store.puts.lookup id = some put)
    (owned : Put.Owns disk { put with phase := phase })
    (apart : ∀ other also, other ≠ id → store.puts.lookup other = some also →
      also.inProgress = true → also.vkHash ≠ put.vkHash)
    (only : OnlyTemporary put.vkHash store.disk disk)
    (inPlace : ∀ {hash inode}, disk.directory ⟨hash, false⟩ = some inode →
      store.disk.directory ⟨hash, false⟩ = some inode ∨
      (ProgramStore.putTo id put phase { store with disk := disk }).Recorded hash inode) :
    (ProgramStore.putTo id put phase { store with disk := disk }).Whole := by
  refine whole.putTo put phase (fun old present => ?_) owned (fun other also distinct present => ?_)
    (fun _ => apart) only inPlace
  · rw [found] at present
    cases present
    exact ⟨rfl, rfl⟩
  · exact only.owns (whole.owns present) (apart other also distinct present)

/-- A put that is in progress is the only one of its hash. -/
theorem Whole.apart {put : Put} (found : store.puts.lookup id = some put)
    (busy : put.inProgress = true) (other : ℕ) (also : Put) (distinct : other ≠ id)
    (present : store.puts.lookup other = some also) (too : also.inProgress = true) :
    also.vkHash ≠ put.vkHash :=
  fun same => distinct (whole.alone found present busy too same)

theorem Whole.createFile {put : Put} (found : store.puts.lookup id = some put)
    (apart : ∀ other also, other ≠ id → store.puts.lookup other = some also →
      also.inProgress = true → also.vkHash ≠ put.vkHash) : (store.createFile id put).Whole := by
  have owned := whole.owns found
  unfold ProgramStore.createFile
  unfold Put.Owns at owned
  split
  · next called =>
    rw [called] at owned
    refine whole.proceed found ?_ apart (onlyTemporary_create _ _) (fun {hash inode} named => ?_)
    · refine ⟨owned, by rw [Disk.directory_create, if_pos rfl], ?_, ?_⟩
      · rw [Disk.contents_create, if_pos rfl, List.length_nil]
      · rw [Disk.contents_create, if_pos rfl, List.nil_append]
    · rw [Disk.directory_create, if_neg (by simp)] at named
      exact .inl named
  · exact whole

theorem Whole.writePiece {put : Put} (found : store.puts.lookup id = some put) (count : ℕ) :
    (store.writePiece count id put).Whole := by
  have owned := whole.owns found
  have apart := whole.apart found
  unfold ProgramStore.writePiece
  unfold Put.Owns at owned
  unfold Put.inProgress at apart
  split
  · next inode offset rest writing =>
    rw [writing] at owned apart
    obtain ⟨fits, named, rfl, bytes⟩ := owned
    refine whole.proceed found ?_ (apart rfl) (onlyTemporary_write named _ _) .inl
    -- the file has its own bytes only, so its end is where the put writes
    refine ⟨fits, named, ?_, ?_⟩
    · rw [Disk.contents_write, if_pos rfl, Disk.overwrite_length, List.length_append]
    · rw [Disk.contents_write, if_pos rfl, Disk.overwrite_length, List.append_assoc,
        List.take_append_drop, bytes]
  · exact whole

theorem Whole.syncAll {put : Put} (found : store.puts.lookup id = some put) :
    (store.syncAll id put).Whole := by
  have owned := whole.owns found
  have apart := whole.apart found
  unfold ProgramStore.syncAll
  unfold Put.Owns at owned
  unfold Put.inProgress at apart
  split
  · next inode offset writing =>
    rw [writing] at owned apart
    obtain ⟨fits, named, _, bytes⟩ := owned
    rw [List.append_nil] at bytes
    exact whole.proceed found ⟨fits, inode, named, bytes⟩ (apart rfl) (.refl _ _) .inl
  · exact whole

theorem Whole.renameInto {put : Put} (found : store.puts.lookup id = some put) :
    (store.renameInto id put).Whole := by
  have owned := whole.owns found
  have apart := whole.apart found
  unfold ProgramStore.renameInto
  unfold Put.Owns at owned
  unfold Put.inProgress at apart
  split
  · next synced =>
    rw [synced] at owned apart
    obtain ⟨fits, inode, named, bytes⟩ := owned
    split
    · next disk moved =>
      obtain ⟨source, present, directory, contents, fresh⟩ := Disk.rename_eq_some moved
      rw [named] at present
      cases present
      have final : disk.directory ⟨put.vkHash, false⟩ = some inode := by
        rw [directory, if_pos rfl]
      refine whole.proceed found (.inl ⟨rfl, by rw [final]; exact Option.some_ne_none _⟩)
        (apart rfl) (onlyTemporary_rename moved) (fun {hash other} placed => ?_)
      by_cases same : hash = put.vkHash
      · rw [same, final] at placed
        cases placed
        refine .inr ⟨disk.allocated final, fun hash temporary => ?_, id,
          { put with phase := .returned (.ok ()) }, ?_, same.symm, fits, ?_⟩
        · cases disk.injective final temporary
        · exact AList.lookup_insert store.puts
        · exact (congrFun contents inode).trans bytes
      · rw [directory, if_neg (by simpa using same), if_neg (by simp)] at placed
        exact .inl placed
    · next missing =>
      have present := Disk.rename_isSome ⟨put.vkHash, false⟩ named
      rw [missing] at present
      cases present
  · exact whole

end Stores

/-! ## Steps of a get -/

theorem Whole.getTo (whole : store.Whole) (get : Get) (phase : GetPhase)
    (served : store.Served { get with phase := phase }) :
    (ProgramStore.getTo id get phase store).Whole where
  owns := whole.owns
  alone := whole.alone
  inPlace named := ⟨(whole.inPlace named).1, (whole.inPlace named).2, (whole.inPlace named).3⟩
  served {other also} present := by
    have remembers : store.Remembers (ProgramStore.getTo id get phase store) :=
      fun _ put found => ⟨put, found, rfl, rfl⟩
    have only : OnlyTemporary [] store.disk (ProgramStore.getTo id get phase store).disk :=
      .refl _ _
    unfold ProgramStore.getTo at present
    rcases Table.lookup_insert_cases present with ⟨_, rfl⟩ | ⟨_, present⟩
    · exact served.later remembers only
    · exact (whole.served present).later remembers only

theorem Whole.openFile (whole : store.Whole) (get : Get) : (store.openFile id get).Whole := by
  unfold ProgramStore.openFile
  split
  · split
    · next inode named =>
      exact whole.getTo get _ ⟨whole.inPlace named, List.nil_prefix⟩
    · exact whole.getTo get _ (.inl rfl)
  · exact whole

theorem Whole.readPiece (whole : store.Whole) {get : Get}
    (found : store.gets.lookup id = some get) (count : ℕ) :
    (store.readPiece count id get).Whole := by
  have served := whole.served found
  unfold ProgramStore.readPiece
  unfold Served at served
  split
  · next inode bytes reading =>
    rw [reading] at served
    obtain ⟨recorded, rest, already⟩ := served
    have unread : (store.disk.contents inode).drop bytes.length = rest := by
      rw [← already, List.drop_left]
    have piece : store.disk.read inode bytes.length (count + 1) = rest.take (count + 1) := by
      rw [Disk.read, unread]
    split
    · next ended =>
      -- the last read: the bytes are the whole file, and the file is one record
      rw [piece, List.take_eq_nil_iff] at ended
      obtain rfl : rest = [] := ended.resolve_left (Nat.succ_ne_zero count)
      obtain ⟨putId, put, present, sameHash, fits, whole_file⟩ := recorded.whole
      rw [List.append_nil, whole_file] at already
      refine whole.getTo get _ (.inr ⟨putId, put, present, sameHash, ?_⟩)
      rw [already, ProgramRecord.decode_encode fits]
      rfl
    · refine whole.getTo get _ ⟨recorded, rest.drop (count + 1), ?_⟩
      rw [piece, List.append_assoc, List.take_append_drop, already]
  · exact whole

/-! ## Runs -/

/-- A put creates its temporary file only while no other put of the hash is between its own
`File::create` and its rename. -/
def Exclusive (store : ProgramStore) : ProgramEvent → Prop
  | .create id => ∀ put ∈ store.puts.lookup id, ∀ entry ∈ store.puts.entries,
      entry.1 ≠ id → entry.2.inProgress = true → entry.2.vkHash ≠ put.vkHash
  | _ => True

instance (store : ProgramStore) (event : ProgramEvent) : Decidable (store.Exclusive event) := by
  unfold Exclusive
  split <;> infer_instance

theorem Whole.put (whole : store.Whole) (vkHash : List UInt8) (record : ProgramRecord) :
    (store.step (.put id vkHash record)).Whole := by
  simp only [step]
  split
  · exact whole
  · next fresh =>
    have absent : store.puts.lookup id = none := AList.lookup_eq_none.mpr fresh
    let phase : PutPhase := if record.Fits then .called else .returned (.error .vkTooLarge)
    have owned : Put.Owns store.disk ⟨vkHash, record, phase⟩ := by
      by_cases fits : record.Fits
      · simpa only [phase, if_pos fits, Put.Owns] using fits
      · simp only [phase, if_neg fits, Put.Owns, or_true]
    have idle : Put.inProgress ⟨vkHash, record, phase⟩ = false := by
      by_cases fits : record.Fits
      · simp only [phase, if_pos fits, Put.inProgress]
      · simp only [phase, if_neg fits, Put.inProgress]
    refine whole.putTo ⟨vkHash, record, .called⟩ phase
      (fun old present => ?_) owned (fun _ _ _ present => whole.owns present) (fun busy => ?_)
      (.refl vkHash _) .inl
    · rw [absent] at present
      cases present
    · exact absurd (idle.symm.trans busy) nofun

/-- **One step keeps the files whole** when a put that creates is alone. -/
theorem Whole.step (whole : store.Whole) {event : ProgramEvent}
    (exclusive : store.Exclusive event) : (store.step event).Whole := by
  cases event with
  | put id vkHash record => exact whole.put vkHash record
  | create id =>
    refine withPut_of whole fun put found => whole.createFile found ?_
    intro other also distinct present busy
    exact exclusive put found ⟨other, also⟩ (Table.mem_entries_iff.mpr present) distinct busy
  | write id count => exact withPut_of whole fun put found => whole.writePiece found count
  | sync id => exact withPut_of whole fun put found => whole.syncAll found
  | rename id => exact withPut_of whole fun put found => whole.renameInto found
  | get id vkHash =>
    simp only [ProgramStore.step]
    split
    · exact whole
    · exact whole.getTo ⟨vkHash, .called⟩ .called trivial
  | openFile id => exact withGet_of whole fun get _ => whole.openFile get
  | read id count => exact withGet_of whole fun get found => whole.readPiece found count

theorem whole_reach {events : List ProgramEvent}
    (exclusive : Systems.Along step empty Exclusive events) : (reach events).Whole :=
  Systems.run_invariant (fun _ store => store.Whole) whole_empty
    (fun _ _ _ whole exclusive => whole.step exclusive) exclusive

/-! ## Programs that are there -/

/-- A program is in place, and a get has not missed it. -/
structure Finds (vkHash : List UInt8) (id : ℕ) (store : ProgramStore) : Prop where
  present : store.disk.directory ⟨vkHash, false⟩ ≠ none
  found : ∀ {get}, store.gets.lookup id = some get → get.vkHash = vkHash →
    get.phase ≠ .returned (.ok none)

variable {getId : ℕ}

theorem Finds.getTo (finds : store.Finds vkHash getId) (get : Get) (phase : GetPhase)
    (found : get.vkHash = vkHash → phase ≠ .returned (.ok none)) :
    (ProgramStore.getTo id get phase store).Finds vkHash getId where
  present := finds.present
  found {also} present sameHash := by
    unfold ProgramStore.getTo at present
    rcases Table.lookup_insert_cases present with ⟨_, rfl⟩ | ⟨_, present⟩
    · exact found sameHash
    · exact finds.found present sameHash

/-- A program that is in place stays, or another one takes its place, so no get misses
it. -/
theorem Finds.step (finds : store.Finds vkHash getId) (event : ProgramEvent) :
    (store.step event).Finds vkHash getId := by
  cases event with
  | put id hash record =>
    simp only [ProgramStore.step]
    split
    · exact finds
    · exact ⟨finds.present, finds.found⟩
  | create id =>
    refine withPut_of finds fun put _ => ?_
    unfold createFile
    split
    · exact ⟨(onlyTemporary_create _ _).inPlace finds.present, finds.found⟩
    · exact finds
  | write id count =>
    refine withPut_of finds fun put _ => ?_
    unfold writePiece
    split
    · exact ⟨finds.present, finds.found⟩
    · exact finds
  | sync id =>
    refine withPut_of finds fun put _ => ?_
    unfold syncAll
    split
    · exact ⟨finds.present, finds.found⟩
    · exact finds
  | rename id =>
    refine withPut_of finds fun put _ => ?_
    unfold renameInto
    split
    · split
      · next disk moved =>
        exact ⟨(onlyTemporary_rename moved).inPlace finds.present, finds.found⟩
      · exact ⟨finds.present, finds.found⟩
    · exact finds
  | get id hash =>
    simp only [ProgramStore.step]
    split
    · exact finds
    · exact finds.getTo ⟨hash, .called⟩ .called nofun
  | openFile id =>
    refine withGet_of finds fun get _ => ?_
    unfold openFile
    split
    · split
      · exact finds.getTo get _ nofun
      · next missing =>
        refine finds.getTo get _ fun sameHash => absurd ?_ finds.present
        rw [← sameHash, missing]
    · exact finds
  | read id count =>
    refine withGet_of finds fun get _ => ?_
    unfold readPiece
    split
    · next inode bytes _ =>
      split
      · refine finds.getTo get _ fun _ missed => ?_
        cases decoded : ProgramRecord.decode ⟨get.vkHash, false⟩ bytes with
        | error failure =>
          rw [decoded] at missed
          cases missed
        | ok record =>
          rw [decoded] at missed
          cases missed
      · exact finds.getTo get _ nofun
    · exact finds

/-- **Gets see whole programs only.** In every run in which a put creates its temporary file
only while no other put of the hash is between its creation and its rename, each get returns
nothing or exactly what one put of the hash was given. A get that is called after a put of
the hash has succeeded does not return nothing. -/
theorem programs_whole {events : List ProgramEvent}
    (exclusive : Systems.Along step empty Exclusive events) :
    (∀ id get result, (reach events).gets.lookup id = some get →
      get.phase = .returned result →
        result = .ok none ∨ ∃ putId put, (reach events).puts.lookup putId = some put ∧
          put.vkHash = get.vkHash ∧ result = .ok (some put.record)) ∧
      (∀ earlier later, events = earlier ++ later → ∀ putId put,
        (reach earlier).puts.lookup putId = some put → put.phase = .returned (.ok ()) →
          ∀ id get, (reach earlier).gets.lookup id = none →
            (reach events).gets.lookup id = some get → get.vkHash = put.vkHash →
              get.phase ≠ .returned (.ok none)) := by
  refine ⟨fun id get result found returned => ?_, ?_⟩
  · have served := (whole_reach exclusive).served found
    unfold Served at served
    rw [returned] at served
    exact served
  · rintro earlier later rfl putId put found succeeded id get absent present sameHash
    have owned := (whole_reach exclusive.of_append).owns found
    unfold Put.Owns at owned
    rw [succeeded] at owned
    have inPlace : (reach earlier).disk.directory ⟨put.vkHash, false⟩ ≠ none := by
      rcases owned with ⟨_, inPlace⟩ | failed
      · exact inPlace
      · cases failed
    have finds : (reach earlier).Finds put.vkHash id := by
      refine ⟨inPlace, fun found => ?_⟩
      rw [absent] at found
      cases found
    have still : (reach (earlier ++ later)).Finds put.vkHash id := by
      unfold reach
      rw [Systems.run_append]
      exact Systems.run_preserves (Finds put.vkHash id) finds
        (fun _ event finds => finds.step event) later
    exact still.found present sameHash

/-- A put of a program with one byte of key and one of ELF, a get in the middle of a second
put, and a get that has the first file open while the second put replaces it. -/
def replacedWhileRead : List ProgramEvent :=
  [.put 0 [9] ⟨[1], [2]⟩, .create 0, .write 0 2, .write 0 9, .sync 0, .rename 0,
    .get 0 [9], .openFile 0, .read 0 1,
    .put 1 [9] ⟨[3], [4, 5]⟩, .create 1, .write 1 5,
    .get 1 [9], .openFile 1, .read 1 9, .read 1 9,
    .write 1 9, .sync 1, .rename 1, .read 0 9, .read 0 9]

theorem programs_whole_replacedWhileRead :
    Systems.Along step empty Exclusive replacedWhileRead ∧
      (reach replacedWhileRead).gets.lookup 0 =
        some ⟨[9], .returned (.ok (some ⟨[1], [2]⟩))⟩ ∧
      ∃ putId put, (reach replacedWhileRead).puts.lookup putId = some put ∧
        put.vkHash = [9] ∧ put.record = ⟨[1], [2]⟩ := by
  have exclusive : Systems.Along step empty Exclusive replacedWhileRead := by decide +kernel
  have returned : (reach replacedWhileRead).gets.lookup 0 =
      some ⟨[9], .returned (.ok (some ⟨[1], [2]⟩))⟩ := by decide +kernel
  refine ⟨exclusive, returned, ?_⟩
  rcases (programs_whole exclusive).1 0 _ _ returned rfl with
    nothing | ⟨putId, put, found, sameHash, same⟩
  · cases nothing
  · have record := Option.some.inj (Except.ok.inj same)
    exact ⟨putId, put, found, sameHash, record.symm⟩

/-- Two puts of one program. The second creates the temporary file that the first has
written, and the first renames it. -/
def crossedPuts : List ProgramEvent :=
  [.put 0 [9] ⟨[1], [2]⟩, .create 0, .write 0 3, .write 0 0, .write 0 0, .sync 0,
    .put 1 [9] ⟨[1], [2]⟩, .create 1, .rename 0]

/-- **A torn program is served.** After the first put has returned success, a get fails on
the empty file, and once the second put has written the key a get returns the program
without its ELF. -/
theorem program_torn :
    (reach crossedPuts).puts.lookup 0 = some ⟨[9], ⟨[1], [2]⟩, .returned (.ok ())⟩ ∧
      (reach (crossedPuts ++ [.get 0 [9], .openFile 0, .read 0 31])).gets.lookup 0 =
        some ⟨[9], .returned (.error (.truncated ⟨[9], false⟩))⟩ ∧
      (reach (crossedPuts ++ [.write 1 3, .write 1 0,
        .get 0 [9], .openFile 0, .read 0 31, .read 0 31])).gets.lookup 0 =
        some ⟨[9], .returned (.ok (some ⟨[1], []⟩))⟩ := by
  decide +kernel

end ProgramStore

end Sp1Cluster
