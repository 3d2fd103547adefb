import Sp1Cluster.Artifacts.Store

/-!
# Downloads next to uploads

`par_download_file` reads the number of chunks and then every chunk, each with a
command of its own. A published hash never changes, so the chunks that a
download reads from it are those of one upload. But a hash can be removed and
another one published under the same key between two reads, and the download
does not notice when the new hash has the chunks it still looks for.

The download runs next to any number of commands on the same artifact. It
returns an error when a chunk is missing, or when any of its commands fails.
-/

set_option autoImplicit false

namespace Sp1Cluster

inductive DownloadError where
  | notFound
  | disappeared (chunkIdx : ℕ)
  /-- A command failed. -/
  | transient
deriving DecidableEq, Repr

/-- The command a download makes next, or what it has returned. -/
inductive DownloadPhase where
  /-- `HGET` of the declared count. -/
  | counting
  /-- `HLEN`, when no count is declared. -/
  | measuring
  /-- `GET` of the inline value. -/
  | fetching
  /-- The second `HGET` of the declared count. -/
  | recounting
  /-- The `HGET`s of the chunks, with those read so far. -/
  | reading (total : ℕ) (chunks : Table ℕ Bytes)
  | returned (result : Except DownloadError Bytes)

structure Download where
  store : ArtifactStore
  phase : DownloadPhase

inductive DownloadEvent where
  /-- A command of another client, or an expiry. -/
  | store (event : StoreEvent)
  /-- The next command of the download before it reads chunks. -/
  | next
  | readChunk (chunkIdx : ℕ)
  /-- All chunks have been read and are combined. -/
  | combine
  /-- A command of the download fails. -/
  | fail
deriving DecidableEq, Repr

namespace Download

/-- What follows when the number of chunks is known. -/
def withTotal (total : ℕ) : DownloadPhase :=
  if total = 0 then .fetching else .reading total ∅

/-- The next command of `par_download_file` before the chunk loop. -/
def next (download : Download) : Download :=
  match download.phase with
  | .counting =>
    { download with
      phase :=
        match download.store.final.bind ChunkHash.declared with
        | some total => withTotal total
        | none => .measuring }
  | .measuring =>
    { download with phase := withTotal ((download.store.final.map ChunkHash.hlen).getD 0) }
  | .fetching =>
    { download with
      phase :=
        match download.store.inline with
        | some result => .returned (.ok result)
        | none => .recounting }
  | .recounting =>
    let total := (download.store.final.bind ChunkHash.declared).getD 0
    { download with
      phase := if total = 0 then .returned (.error .notFound) else .reading total ∅ }
  | _ => download

/-- One task of the chunk loop, which reads its chunk once; a missing field ends the
download. -/
def readChunk (chunkIdx : ℕ) (download : Download) : Download :=
  match download.phase with
  | .reading total chunks =>
    if chunkIdx < total ∧ chunks.lookup chunkIdx = none then
      { download with
        phase :=
          match download.store.final.bind fun hash => hash.chunks.lookup chunkIdx with
          | some chunk => .reading total (chunks.insert chunkIdx chunk)
          | none => .returned (.error (.disappeared chunkIdx)) }
    else download
  | _ => download

/-- Whether every chunk has been read. -/
def complete (total : ℕ) (chunks : Table ℕ Bytes) : Bool :=
  (List.range total).all fun chunkIdx => (chunks.lookup chunkIdx).isSome

/-- The chunks in order, once all of them are there. -/
def combine (download : Download) : Download :=
  match download.phase with
  | .reading total chunks =>
    if complete total chunks then
      { download with
        phase := .returned (.ok ((List.range total).flatMap fun chunkIdx =>
          (chunks.lookup chunkIdx).getD [])) }
    else download
  | _ => download

/-- A failed command ends a download that has not returned. -/
def fail (download : Download) : Download :=
  match download.phase with
  | .returned _ => download
  | _ => { download with phase := .returned (.error .transient) }

def step (chunkSize : ChunkSize) (download : Download) : DownloadEvent → Download
  | .store event => { download with store := download.store.step chunkSize event }
  | .next => download.next
  | .readChunk chunkIdx => download.readChunk chunkIdx
  | .combine => download.combine
  | .fail => download.fail

def start (inline : Option Bytes) : Download where
  store := .holding inline none
  phase := .counting

/-- Whether a download has the number of chunks and still has a chunk to read. -/
def isReading (download : Download) : Bool :=
  match download.phase with
  | .reading total chunks => !complete total chunks
  | _ => false

/-- No hash is published between the read of the number of chunks and that of the last
chunk. -/
def Undisturbed (chunkSize : ChunkSize) (download : Download) : DownloadEvent → Prop
  | .store (.publishStaged attempt) =>
    (download.isReading && download.store.publishes chunkSize attempt) = false
  | _ => True

instance (chunkSize : ChunkSize) (download : Download) (event : DownloadEvent) :
    Decidable (Undisturbed chunkSize download event) := by
  unfold Undisturbed
  split <;> infer_instance

theorem complete_eq_false {total chunkIdx : ℕ} {chunks : Table ℕ Bytes} (inside : chunkIdx < total)
    (unread : chunks.lookup chunkIdx = none) : complete total chunks = false := by
  refine List.all_eq_false.mpr ⟨chunkIdx, List.mem_range.mpr inside, ?_⟩
  rw [unread]
  exact Bool.false_ne_true

/-! ## What a download has read -/

open ArtifactStore

/-- The content of some upload. -/
def Uploaded (store : ArtifactStore) (content : Bytes) : Prop :=
  content ∈ store.attempts ∨ content ∈ store.inlined

/-- What a download has read belongs to a published hash that, while a chunk is still
to be read, is there or has been removed. A length measured on a published hash counts the
mark as well, so it asks for a chunk that does not exist. -/
structure ReadsFrom (chunkSize : ChunkSize) (store : ArtifactStore) (total : ℕ)
    (chunks : Table ℕ Bytes) (hash : ChunkHash) (serialized : Bytes) : Prop where
  uploaded : serialized ∈ store.attempts
  published : PublishedAs chunkSize serialized hash
  present : complete total chunks = false → store.final = some hash ∨ store.final = none
  bound : total = chunkCount chunkSize serialized ∨ chunkCount chunkSize serialized < total
  read : ∀ {chunkIdx chunk}, chunks.lookup chunkIdx = some chunk →
    hash.chunks.lookup chunkIdx = some chunk

/-- What holds in each phase. -/
def PhaseSound (chunkSize : ChunkSize) (store : ArtifactStore) : DownloadPhase → Prop
  | .reading total chunks => ∃ hash serialized, ReadsFrom chunkSize store total chunks hash serialized
  | .returned (.ok result) => Uploaded store result
  | _ => True

structure Sound (chunkSize : ChunkSize) (download : Download) : Prop where
  layout : download.store.Layout chunkSize
  marked : ∀ {hash}, download.store.final = some hash → hash.declared.isSome = true
  inlined : ∀ {content}, download.store.inline = some content → content ∈ download.store.inlined
  phase : PhaseSound chunkSize download.store download.phase

theorem sound_start (chunkSize : ChunkSize) (inline : Option Bytes) :
    (start inline).Sound chunkSize where
  layout := layout_holding inline (by simp)
  marked found := by cases found
  inlined found := Option.mem_toList.mpr found
  phase := trivial

variable {chunkSize : ChunkSize} {download : Download} {store : ArtifactStore}

/-! ## Commands of other clients -/

/-- What one command can do to the keys that a download reads. -/
structure Follows (store next : ArtifactStore) : Prop where
  final : next.final = store.final ∨ next.final = none ∨
    ∃ hash, next.final = some hash ∧ hash.declared.isSome = true
  inline : next.inline = store.inline ∨ next.inline = none ∨
    ∃ content ∈ next.inlined, next.inline = some content
  attempts : store.attempts ⊆ next.attempts
  inlined : store.inlined ⊆ next.inlined

theorem follows_step (event : StoreEvent) : Follows store (store.step chunkSize event) := by
  have same : Follows store store :=
    ⟨.inl rfl, .inl rfl, List.Subset.refl _, List.Subset.refl _⟩
  cases event with
  | upload serialized =>
    change Follows store (store.upload chunkSize serialized)
    unfold ArtifactStore.upload
    split
    · exact ⟨.inr (.inl rfl),
        .inr (.inr ⟨serialized, List.mem_append_right _ (List.mem_singleton_self _), rfl⟩),
        List.Subset.refl _, List.subset_append_left _ _⟩
    · exact { same with attempts := List.subset_append_left _ _ }
  | stageChunk attempt chunkIdx =>
    change Follows store (store.stageChunk chunkSize attempt chunkIdx)
    unfold ArtifactStore.stageChunk
    split
    · exact same
    · split
      · exact { same with }
      · exact same
  | publishStaged attempt =>
    change Follows store (store.publishStaged chunkSize attempt)
    unfold ArtifactStore.publishStaged publishScript
    split
    · exact same
    · split
      · exact { same with inline := .inr (.inl rfl) }
      · split
        · exact { same with }
        · exact { same with
            final := .inr (.inr ⟨_, rfl, rfl⟩)
            inline := .inr (.inl rfl) }
  | unlinkStaging attempt => exact { same with }
  | unlinkInline => exact { same with inline := .inr (.inl rfl) }
  | unlinkChunks => exact { same with final := .inr (.inl rfl) }
  | deleteBatch => exact { same with final := .inr (.inl rfl), inline := .inr (.inl rfl) }

theorem Sound.otherClient (sound : download.Sound chunkSize) {event : StoreEvent}
    (undisturbed : download.Undisturbed chunkSize (.store event)) :
    (download.step chunkSize (.store event)).Sound chunkSize := by
  have follows : Follows download.store (download.store.step chunkSize event) :=
    follows_step event
  refine ⟨sound.layout.step event, ?_, ?_, ?_⟩
  · intro hash found
    change (download.store.step chunkSize event).final = some hash at found
    rcases follows.final with same | removed | ⟨new, isNew, marked⟩
    · exact sound.marked (same ▸ found)
    · rw [removed] at found
      cases found
    · rw [isNew] at found
      cases found
      exact marked
  · intro content found
    change (download.store.step chunkSize event).inline = some content at found
    rcases follows.inline with same | removed | ⟨new, uploaded, isNew⟩
    · exact follows.inlined (sound.inlined (same ▸ found))
    · rw [removed] at found
      cases found
    · rw [isNew] at found
      cases found
      exact uploaded
  · have phase := sound.phase
    change PhaseSound chunkSize (download.store.step chunkSize event) download.phase
    cases isPhase : download.phase with
    | reading total chunks =>
      rw [isPhase] at phase
      obtain ⟨hash, serialized, reads⟩ := phase
      refine ⟨hash, serialized, { reads with
        uploaded := follows.attempts reads.uploaded
        present := fun unread => ?_ }⟩
      have kept : (download.store.step chunkSize event).final = download.store.final ∨
          (download.store.step chunkSize event).final = none := by
        refine final_of_not_publishing event ?_
        rintro attempt rfl
        have reading : download.isReading = true := by
          unfold isReading
          rw [isPhase]
          dsimp only
          rw [unread]
          rfl
        change (download.isReading && download.store.publishes chunkSize attempt) = false
          at undisturbed
        rwa [reading, Bool.true_and] at undisturbed
      exact kept.elim (fun same => same.symm ▸ reads.present unread) .inr
    | returned result =>
      rw [isPhase] at phase
      cases result with
      | error error => trivial
      | ok content => exact phase.imp (follows.attempts ·) (follows.inlined ·)
    | counting | measuring | fetching | recounting => trivial

/-! ## Commands of the download -/

section Steps

variable (sound : download.Sound chunkSize)
include sound

theorem Sound.startReading {total : ℕ} {hash : ChunkHash} (found : download.store.final = some hash)
    (measured : hash.declared = some total ∨ hash.hlen = total) :
    PhaseSound chunkSize download.store (.reading total ∅) := by
  have marked := sound.marked found
  obtain ⟨serialized, uploaded, published⟩ := sound.layout.published found marked
  refine ⟨hash, serialized, uploaded, published, fun _ => .inl found, ?_, fun missing => by cases missing⟩
  rcases measured with declared | length
  · rw [published.declared] at declared
    exact .inl (Option.some.inj declared).symm
  · refine .inr ?_
    have all : (List.range (chunkCount chunkSize serialized)).Subperm hash.chunks.keys := by
      refine List.Nodup.subperm List.nodup_range ?_
      intro index member
      rw [← AList.mem_keys, ← AList.lookup_isSome, published.chunks index,
        if_pos (List.mem_range.mp member)]
      rfl
    have enough := all.length_le
    rw [List.length_range] at enough
    rw [← length, ChunkHash.hlen, if_pos marked]
    have keys : hash.chunks.keys.length = hash.chunks.entries.length := List.length_map _
    omega

theorem Sound.setPhase {phase : DownloadPhase}
    (phaseSound : PhaseSound chunkSize download.store phase) :
    Sound chunkSize { download with phase := phase } :=
  { sound with phase := phaseSound }

theorem Sound.next : download.next.Sound chunkSize := by
  unfold Download.next
  split
  · -- The declared count.
    refine sound.setPhase ?_
    split
    · next total declared =>
      obtain ⟨hash, found, isTotal⟩ := Option.bind_eq_some_iff.mp declared
      unfold withTotal
      split
      · trivial
      · exact sound.startReading found (.inl isTotal)
    · trivial
  · -- The length, when no count was declared.
    refine sound.setPhase ?_
    unfold withTotal
    split
    · trivial
    · next long =>
      cases found : download.store.final with
      | none =>
        rw [found] at long
        exact absurd rfl long
      | some hash => exact sound.startReading found (.inr rfl)
  · refine sound.setPhase ?_
    split
    · next content found => exact .inr (sound.inlined found)
    · trivial
  · dsimp only
    refine sound.setPhase ?_
    split
    · trivial
    · next positive =>
      cases declared : download.store.final.bind ChunkHash.declared with
      | none =>
        rw [declared] at positive
        exact absurd rfl positive
      | some total =>
        obtain ⟨hash, found, isTotal⟩ := Option.bind_eq_some_iff.mp declared
        exact sound.startReading found (.inl isTotal)
  · exact sound

theorem Sound.readChunk (chunkIdx : ℕ) : (download.readChunk chunkIdx).Sound chunkSize := by
  have phase := sound.phase
  unfold Download.readChunk
  split
  · next total chunks isPhase =>
    rw [isPhase] at phase
    obtain ⟨hash, serialized, reads⟩ := phase
    split
    · next unread =>
      have present := reads.present (complete_eq_false unread.1 unread.2)
      refine sound.setPhase ?_
      split
      · next chunk here =>
        obtain ⟨current, found, inCurrent⟩ := Option.bind_eq_some_iff.mp here
        -- The hash that is there is the one the count came from.
        have same : current = hash := by
          rcases present with present | removed
          · rw [present] at found
            exact (Option.some.inj found).symm
          · rw [removed] at found
            cases found
        refine ⟨hash, serialized, { reads with present := fun _ => present, read := ?_ }⟩
        intro other piece inChunks
        rcases Table.lookup_insert_cases inChunks with ⟨isIndex, rfl⟩ | ⟨_, inChunks⟩
        · rw [isIndex, ← same]
          exact inCurrent
        · exact reads.read inChunks
      · trivial
    · exact sound
  · exact sound

theorem Sound.combine : download.combine.Sound chunkSize := by
  have phase := sound.phase
  unfold Download.combine
  split
  · next total chunks isPhase =>
    rw [isPhase] at phase
    obtain ⟨hash, serialized, reads⟩ := phase
    split
    · next complete =>
      have read : ∀ chunkIdx, chunkIdx < total →
          hash.chunks.lookup chunkIdx = chunks.lookup chunkIdx := by
        intro chunkIdx inside
        have present := List.all_eq_true.mp complete chunkIdx (List.mem_range.mpr inside)
        obtain ⟨chunk, found⟩ := Option.isSome_iff_exists.mp present
        rw [found]
        exact reads.read found
      rcases reads.bound with isCount | more
      · have combined : ((List.range total).flatMap fun chunkIdx =>
            (chunks.lookup chunkIdx).getD []) = serialized := by
          rw [← reads.published.assemble, ← isCount]
          refine List.flatMap_congr ?_
          intro chunkIdx member
          rw [read chunkIdx (List.mem_range.mp member)]
        rw [combined]
        exact sound.setPhase (.inl reads.uploaded)
      · -- The chunk after the last one was looked for and cannot have been there.
        have present := List.all_eq_true.mp complete _ (List.mem_range.mpr more)
        rw [← read _ more, reads.published.chunks, if_neg (lt_irrefl _)] at present
        cases present
    · exact sound
  · exact sound

theorem Sound.fail : download.fail.Sound chunkSize := by
  unfold Download.fail
  split
  · exact sound
  · exact sound.setPhase trivial

/-- What a download has read belongs to one upload, as long as no hash is published
before its last chunk is read. -/
theorem Sound.step {event : DownloadEvent} (undisturbed : download.Undisturbed chunkSize event) :
    (download.step chunkSize event).Sound chunkSize := by
  cases event with
  | store event => exact sound.otherClient undisturbed
  | next => exact sound.next
  | readChunk chunkIdx => exact sound.readChunk chunkIdx
  | combine => exact sound.combine
  | fail => exact sound.fail

end Steps

/-- **A download never mixes uploads** as long as no hash is published between its read
of the number of chunks and that of the last chunk. From any store without an unmarked hash,
in any interleaving with uploads, deletions and expiries, what the download returns is the
content of one upload. -/
theorem download_reads_one_upload (chunkSize : ChunkSize) (inline : Option Bytes)
    (events : List DownloadEvent)
    (undisturbed : Systems.Along (step chunkSize) (start inline) (Undisturbed chunkSize) events)
    {result : Bytes}
    (succeeded : (Systems.run (step chunkSize) (start inline) events).phase =
      .returned (.ok result)) :
    Uploaded (Systems.run (step chunkSize) (start inline) events).store result := by
  have sound : (Systems.run (step chunkSize) (start inline) events).Sound chunkSize :=
    Systems.run_invariant (fun _ download => download.Sound chunkSize)
      (sound_start chunkSize inline) (fun _ _ _ sound undisturbed => sound.step undisturbed)
      undisturbed
  have phase := sound.phase
  rw [succeeded] at phase
  exact phase

/-- A chunked upload replaces an inline value after the download has found no hash, and
another one replaces it between the read of the last chunk and the return. -/
def publishedBetween : List DownloadEvent :=
  [.next, .next, .store (.upload [1, 2]), .store (.stageChunk 0 1), .store (.stageChunk 0 0),
    .store (.publishStaged 0), .next, .next, .readChunk 1, .store (.upload [3, 4]), .readChunk 0,
    .store .unlinkChunks, .store (.stageChunk 1 0), .store (.stageChunk 1 1),
    .store (.publishStaged 1), .combine]

theorem download_reads_one_upload_publishedBetween :
    Systems.Along (step ⟨1, Nat.one_pos⟩) (start (some [7])) (Undisturbed ⟨1, Nat.one_pos⟩)
      publishedBetween ∧
    Uploaded (Systems.run (step ⟨1, Nat.one_pos⟩) (start (some [7])) publishedBetween).store
      [1, 2] := by
  have undisturbed : Systems.Along (step ⟨1, Nat.one_pos⟩) (start (some [7]))
      (Undisturbed ⟨1, Nat.one_pos⟩) publishedBetween := by decide
  exact ⟨undisturbed, download_reads_one_upload _ _ _ undisturbed rfl⟩

/-- Between the reads of two chunks the hash is deleted and another upload of the same
length is published. -/
def republishedBetween : List DownloadEvent :=
  [.store (.upload [1, 2]), .store (.stageChunk 0 0), .store (.stageChunk 0 1),
    .store (.publishStaged 0), .next, .readChunk 0, .store .unlinkInline, .store .unlinkChunks,
    .store (.upload [3, 4]), .store (.stageChunk 1 0), .store (.stageChunk 1 1),
    .store (.publishStaged 1), .readChunk 1, .combine]

/-- The download returns the first chunk of one upload and the second of another. -/
theorem download_mixes_uploads :
    (Systems.run (step ⟨1, Nat.one_pos⟩) (start none) republishedBetween).phase =
        .returned (.ok [1, 4]) ∧
      ¬ Uploaded (Systems.run (step ⟨1, Nat.one_pos⟩) (start none) republishedBetween).store
        [1, 4] := by
  refine ⟨rfl, ?_⟩
  unfold Uploaded
  decide

end Download

end Sp1Cluster
