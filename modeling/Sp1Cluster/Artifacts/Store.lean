import Sp1Cluster.Data.Pieces
import Sp1Cluster.Systems.Runs

/-!
# The Redis layout of one artifact

A short artifact is one string. A long one is a hash of chunks: the writer puts
the chunks into a hash under a key of its own, in any order, and a script
publishes that hash under the final key. The script keeps a published hash, and
it publishes only a hash that has as many fields as chunks; the field with the
number of chunks marks a hash as published.

The state is what Redis holds for one artifact, whose keys are distinct, and
the content of every upload. A command, a `MULTI` block and the script are one
event each. Clients may stop after any command and commands of a client that
has stopped may still arrive, so an attempt may stage chunks and publish at any
time after it has begun, and keys may expire at any time.
-/

set_option autoImplicit false

namespace Sp1Cluster

abbrev Bytes := List UInt8

/-- `CHUNK_SIZE`. -/
structure ChunkSize where
  bytes : ℕ
  positive : 0 < bytes

/-- A hash of chunks: the fields with a decimal index, and the field
`CHUNK_COUNT_FIELD`. -/
structure ChunkHash where
  chunks : Table ℕ Bytes
  declared : Option ℕ

/-- `HLEN`. -/
def ChunkHash.hlen (hash : ChunkHash) : ℕ :=
  hash.chunks.entries.length + if hash.declared.isSome then 1 else 0

/-- What Redis holds for one artifact. `attempts` lists the content of the
chunked uploads that have begun, by the number of their staging key, and
`inlined` the content of the inline uploads. -/
structure ArtifactStore where
  inline : Option Bytes
  final : Option ChunkHash
  staging : Table ℕ ChunkHash
  attempts : List Bytes
  inlined : List Bytes

inductive StoreEvent where
  /-- `par_upload_file`: an inline upload, or the beginning of a chunked one. -/
  | upload (serialized : Bytes)
  /-- The `HSET` of one chunk under the staging key of an attempt. -/
  | stageChunk (attempt chunkIdx : ℕ)
  /-- The publication script of an attempt. -/
  | publishStaged (attempt : ℕ)
  /-- `UNLINK` or expiry of a staging key. -/
  | unlinkStaging (attempt : ℕ)
  /-- `UNLINK` or expiry of the inline value. -/
  | unlinkInline
  /-- `UNLINK` or expiry of the final hash. -/
  | unlinkChunks
  /-- The `UNLINK` of both keys in `delete_batch`. -/
  | deleteBatch
deriving DecidableEq, Repr

namespace ArtifactStore

variable (chunkSize : ChunkSize)

/-- `upload_inline`: `SET` and `UNLINK` in one `MULTI`. -/
def uploadInline (serialized : Bytes) (store : ArtifactStore) : ArtifactStore :=
  { store with
    inline := some serialized
    final := none
    inlined := store.inlined ++ [serialized] }

/-- `upload_chunked` draws a fresh staging key. -/
def beginChunked (serialized : Bytes) (store : ArtifactStore) : ArtifactStore :=
  { store with attempts := store.attempts ++ [serialized] }

/-- `par_upload_file` chooses by the length. -/
def upload (serialized : Bytes) (store : ArtifactStore) : ArtifactStore :=
  if serialized.length ≤ chunkSize.bytes then store.uploadInline serialized
  else store.beginChunked serialized

def chunkCount (serialized : Bytes) : ℕ := Pieces.count chunkSize.bytes serialized

/-- The hash under a staging key; a key that does not exist reads as empty. -/
def stagedHash (attempt : ℕ) (store : ArtifactStore) : ChunkHash :=
  (store.staging.lookup attempt).getD ⟨∅, none⟩

/-- `stage_chunk`. -/
def stageChunk (attempt chunkIdx : ℕ) (store : ArtifactStore) : ArtifactStore :=
  match store.attempts[attempt]? with
  | none => store
  | some serialized =>
    if chunkIdx < chunkCount chunkSize serialized then
      let hash := store.stagedHash attempt
      { store with
        staging := store.staging.insert attempt
          { hash with
            chunks := hash.chunks.insert chunkIdx
              (Pieces.piece chunkSize.bytes serialized chunkIdx) } }
    else store

/-- `PUBLISH_SCRIPT`, with the number it returns: 2 when a published hash is kept,
0 when the staged hash is not complete, 1 when it is published. -/
def publishScript (attempt chunkCount : ℕ) (store : ArtifactStore) : ArtifactStore × ℕ :=
  if (store.final.bind ChunkHash.declared).isSome then
    ({ store with staging := store.staging.erase attempt, inline := none }, 2)
  else if (store.stagedHash attempt).hlen ≠ chunkCount then
    ({ store with staging := store.staging.erase attempt }, 0)
  else
    ({ store with
        final := some { store.stagedHash attempt with declared := some chunkCount }
        staging := store.staging.erase attempt
        inline := none },
      1)

/-- `publish_staged`. -/
def publishStaged (attempt : ℕ) (store : ArtifactStore) : ArtifactStore :=
  match store.attempts[attempt]? with
  | none => store
  | some serialized => (store.publishScript attempt (chunkCount chunkSize serialized)).1

/-- Whether the script of an attempt would put its hash in place. -/
def publishes (attempt : ℕ) (store : ArtifactStore) : Bool :=
  match store.attempts[attempt]? with
  | none => false
  | some serialized => (store.publishScript attempt (chunkCount chunkSize serialized)).2 == 1

def step (store : ArtifactStore) : StoreEvent → ArtifactStore
  | .upload serialized => store.upload chunkSize serialized
  | .stageChunk attempt chunkIdx => store.stageChunk chunkSize attempt chunkIdx
  | .publishStaged attempt => store.publishStaged chunkSize attempt
  | .unlinkStaging attempt => { store with staging := store.staging.erase attempt }
  | .unlinkInline => { store with inline := none }
  | .unlinkChunks => { store with final := none }
  | .deleteBatch => { store with inline := none, final := none }

/-- A store before any upload, with what older writers have left in it. -/
def holding (inline : Option Bytes) (final : Option ChunkHash) : ArtifactStore where
  inline := inline
  final := final
  staging := ∅
  attempts := []
  inlined := inline.toList

/-! ## The layout -/

/-- A staged hash holds chunks of one upload. -/
structure StagedFrom (serialized : Bytes) (hash : ChunkHash) : Prop where
  unmarked : hash.declared = none
  chunk : ∀ {index chunk}, hash.chunks.lookup index = some chunk →
    index < chunkCount chunkSize serialized ∧
      chunk = Pieces.piece chunkSize.bytes serialized index

/-- A published hash holds all chunks of one upload and nothing else. -/
structure PublishedAs (serialized : Bytes) (hash : ChunkHash) : Prop where
  declared : hash.declared = some (chunkCount chunkSize serialized)
  chunks : ∀ index, hash.chunks.lookup index =
    if index < chunkCount chunkSize serialized then
      some (Pieces.piece chunkSize.bytes serialized index)
    else none

/-- The fields of a hash below a bound, in order. -/
def assemble (hash : ChunkHash) (bound : ℕ) : Bytes :=
  (List.range bound).flatMap fun index => (hash.chunks.lookup index).getD []

/-- What every run keeps. -/
structure Layout (store : ArtifactStore) : Prop where
  staged : ∀ {attempt hash}, store.staging.lookup attempt = some hash →
    ∃ serialized, store.attempts[attempt]? = some serialized ∧
      StagedFrom chunkSize serialized hash
  published : ∀ {hash}, store.final = some hash → hash.declared.isSome = true →
    ∃ serialized ∈ store.attempts, PublishedAs chunkSize serialized hash
  exclusive : ∀ {hash}, store.final = some hash → hash.declared.isSome = true → store.inline = none

variable {chunkSize} {store : ArtifactStore}

theorem PublishedAs.assemble {serialized : Bytes} {hash : ChunkHash}
    (published : PublishedAs chunkSize serialized hash) :
    ArtifactStore.assemble hash (chunkCount chunkSize serialized) = serialized := by
  have pieces : ∀ index ∈ List.range (chunkCount chunkSize serialized),
      (hash.chunks.lookup index).getD [] = Pieces.piece chunkSize.bytes serialized index := by
    intro index member
    rw [published.chunks index, if_pos (List.mem_range.mp member), Option.getD_some]
  unfold ArtifactStore.assemble
  rw [List.flatMap_congr pieces]
  exact Pieces.flatMap_piece chunkSize.positive serialized

theorem StagedFrom.publish {serialized : Bytes} {hash : ChunkHash}
    (staged : StagedFrom chunkSize serialized hash)
    (complete : hash.hlen = chunkCount chunkSize serialized) :
    PublishedAs chunkSize serialized
      { hash with declared := some (chunkCount chunkSize serialized) } where
  declared := rfl
  chunks index := by
    have full : hash.chunks.entries.length = chunkCount chunkSize serialized := by
      rw [← complete, ChunkHash.hlen, staged.unmarked]
      rfl
    have below : ∀ key ∈ hash.chunks, key < chunkCount chunkSize serialized := by
      intro key member
      obtain ⟨chunk, found⟩ := Table.exists_lookup member
      exact (staged.chunk found).1
    change hash.chunks.lookup index = _
    split
    · next inside =>
      have member := Pieces.mem_of_full below full inside
      obtain ⟨chunk, found⟩ := Table.exists_lookup member
      rw [found, (staged.chunk found).2]
    · next outside => exact AList.lookup_eq_none.mpr fun member => outside (below index member)

theorem Layout.stagedHash (layout : store.Layout chunkSize) {attempt : ℕ} {serialized : Bytes}
    (begun : store.attempts[attempt]? = some serialized) :
    StagedFrom chunkSize serialized (store.stagedHash attempt) := by
  unfold ArtifactStore.stagedHash
  cases found : store.staging.lookup attempt with
  | none => exact ⟨rfl, fun none => by cases none⟩
  | some hash =>
    obtain ⟨content, begunAs, staged⟩ := layout.staged found
    rw [begun] at begunAs
    cases begunAs
    exact staged

/-! ## Commands keep the layout -/

theorem layout_holding (inline : Option Bytes) {final : Option ChunkHash}
    (unmarked : ∀ hash ∈ final, hash.declared = none) : (holding inline final).Layout chunkSize where
  staged found := by cases found
  published {hash} found marked := by
    rw [unmarked hash found] at marked
    cases marked
  exclusive {hash} found marked := by
    rw [unmarked hash found] at marked
    cases marked

section Layouts

variable (layout : store.Layout chunkSize)
include layout

theorem Layout.eraseStaging (attempt : ℕ) :
    Layout chunkSize { store with staging := store.staging.erase attempt } :=
  { layout with
    staged := fun {other hash} found => by
      exact layout.staged (Table.lookup_of_erase found) }

/-- Without a final hash there is nothing to publish and nothing to exclude. -/
theorem Layout.clearFinal (inline : Option Bytes) (inlined : List Bytes) :
    Layout chunkSize { store with inline := inline, final := none, inlined := inlined } :=
  { layout with
    published := fun found => by cases found
    exclusive := fun found => by cases found }

theorem Layout.clearInline : Layout chunkSize { store with inline := none } :=
  { layout with exclusive := fun _ _ => rfl }

theorem Layout.beginChunked (serialized : Bytes) :
    (store.beginChunked serialized).Layout chunkSize :=
  { layout with
    staged := fun found => by
      obtain ⟨content, begun, staged⟩ := layout.staged found
      obtain ⟨inside, -⟩ := List.getElem?_eq_some_iff.mp begun
      exact ⟨content, (List.getElem?_append_left inside).trans begun, staged⟩
    published := fun found marked => by
      obtain ⟨content, member, published⟩ := layout.published found marked
      exact ⟨content, List.mem_append_left _ member, published⟩ }

theorem Layout.stageChunk (attempt chunkIdx : ℕ) :
    (store.stageChunk chunkSize attempt chunkIdx).Layout chunkSize := by
  unfold ArtifactStore.stageChunk
  split
  · exact layout
  · next serialized begun =>
    split
    · next inside =>
      have staged := layout.stagedHash begun
      refine { layout with staged := ?_ }
      intro other hash found
      rcases Table.lookup_insert_cases found with ⟨same, rfl⟩ | ⟨_, found⟩
      · rw [same]
        refine ⟨serialized, begun, staged.unmarked, ?_⟩
        intro index chunk inChunks
        rw [Table.lookup_insert_eq] at inChunks
        split at inChunks
        · next isIndex =>
          cases inChunks
          rw [isIndex]
          exact ⟨inside, rfl⟩
        · exact staged.chunk inChunks
      · exact layout.staged found
    · exact layout

theorem Layout.publishStaged (attempt : ℕ) :
    (store.publishStaged chunkSize attempt).Layout chunkSize := by
  unfold ArtifactStore.publishStaged
  split
  · exact layout
  · next serialized begun =>
    have cleared := layout.eraseStaging attempt
    unfold publishScript
    split
    · exact cleared.clearInline
    · split
      · exact cleared
      · next complete =>
        refine { cleared with published := ?_, exclusive := fun _ _ => rfl }
        intro hash found _
        cases found
        exact ⟨serialized, List.mem_of_getElem? begun,
          (layout.stagedHash begun).publish (not_not.mp complete)⟩

theorem Layout.step (event : StoreEvent) : (store.step chunkSize event).Layout chunkSize := by
  cases event with
  | upload serialized =>
    change (store.upload chunkSize serialized).Layout chunkSize
    unfold ArtifactStore.upload
    split
    · exact layout.clearFinal _ _
    · exact layout.beginChunked serialized
  | stageChunk attempt chunkIdx => exact layout.stageChunk attempt chunkIdx
  | publishStaged attempt => exact layout.publishStaged attempt
  | unlinkStaging attempt => exact layout.eraseStaging attempt
  | unlinkInline => exact layout.clearInline
  | unlinkChunks => exact layout.clearFinal _ _
  | deleteBatch => exact layout.clearFinal _ _

end Layouts

theorem final_publishScript (attempt chunkCount : ℕ) :
    (store.publishScript attempt chunkCount).2 = 1 ∨
      (store.publishScript attempt chunkCount).1.final = store.final := by
  unfold publishScript
  split
  · exact .inr rfl
  · split
    · exact .inr rfl
    · exact .inl rfl

theorem final_of_not_publishing (event : StoreEvent)
    (quiet : ∀ attempt, event = .publishStaged attempt →
      store.publishes chunkSize attempt = false) :
    (store.step chunkSize event).final = store.final ∨
      (store.step chunkSize event).final = none := by
  cases event with
  | upload serialized =>
    change (store.upload chunkSize serialized).final = _ ∨
      (store.upload chunkSize serialized).final = _
    unfold ArtifactStore.upload
    split
    · exact .inr rfl
    · exact .inl rfl
  | stageChunk attempt chunkIdx =>
    refine .inl ?_
    change (store.stageChunk chunkSize attempt chunkIdx).final = _
    unfold ArtifactStore.stageChunk
    split
    · rfl
    · split <;> rfl
  | publishStaged attempt =>
    refine .inl ?_
    have refused := quiet attempt rfl
    change (store.publishStaged chunkSize attempt).final = _
    unfold publishes at refused
    unfold ArtifactStore.publishStaged
    cases begun : store.attempts[attempt]? with
    | none => rfl
    | some serialized =>
      rw [begun] at refused
      refine (final_publishScript attempt _).resolve_left ?_
      intro published
      dsimp only at refused
      rw [published] at refused
      cases refused
  | unlinkStaging attempt => exact .inl rfl
  | unlinkInline => exact .inl rfl
  | unlinkChunks => exact .inr rfl
  | deleteBatch => exact .inr rfl

/-- The guard of the script keeps a marked hash. -/
theorem not_publishes_of_marked {hash : ChunkHash} (found : store.final = some hash)
    (marked : hash.declared.isSome = true) (attempt : ℕ) :
    store.publishes chunkSize attempt = false := by
  unfold publishes
  split
  · rfl
  · unfold publishScript
    rw [found, Option.bind_some, if_pos marked]
    rfl

/-- A marked hash is kept or removed by every command, never changed. -/
theorem final_step {hash : ChunkHash} (found : store.final = some hash)
    (marked : hash.declared.isSome = true) (event : StoreEvent) :
    (store.step chunkSize event).final = some hash ∨ (store.step chunkSize event).final = none := by
  rw [← found]
  exact final_of_not_publishing event fun attempt _ => not_publishes_of_marked found marked attempt

theorem layout_run (inline : Option Bytes) {final : Option ChunkHash}
    (unmarked : ∀ hash ∈ final, hash.declared = none) (events : List StoreEvent) :
    (Systems.run (step chunkSize) (holding inline final) events).Layout chunkSize :=
  Systems.run_preserves (Layout chunkSize) (layout_holding inline unmarked)
    (fun _ event layout => layout.step event) events

/-- **The layout is always consistent.** From any state whose final hash is not
marked, whatever uploads, deletions and expiries do: the fields of a marked hash
are exactly those below its count, together they are the content of one upload,
no inline value is beside it, and the next command keeps or removes it. -/
theorem layout_consistent (chunkSize : ChunkSize) (inline : Option Bytes)
    (final : Option ChunkHash) (unmarked : ∀ hash ∈ final, hash.declared = none)
    (events : List StoreEvent) {hash : ChunkHash} {total : ℕ}
    (found : (Systems.run (step chunkSize) (holding inline final) events).final = some hash)
    (declared : hash.declared = some total) :
    (∀ index, index ∈ hash.chunks ↔ index < total) ∧
      assemble hash total ∈
        (Systems.run (step chunkSize) (holding inline final) events).attempts ∧
      (Systems.run (step chunkSize) (holding inline final) events).inline = none ∧
      ∀ event,
        (step chunkSize (Systems.run (step chunkSize) (holding inline final) events) event).final =
            some hash ∨
          (step chunkSize (Systems.run (step chunkSize) (holding inline final) events)
            event).final = none := by
  have layout : (Systems.run (step chunkSize) (holding inline final) events).Layout chunkSize :=
    layout_run inline unmarked events
  have marked : hash.declared.isSome = true := by rw [declared]; rfl
  obtain ⟨serialized, member, published⟩ := layout.published found marked
  have isTotal : total = chunkCount chunkSize serialized := by
    rw [published.declared] at declared
    exact (Option.some.inj declared).symm
  refine ⟨?_, ?_, layout.exclusive found marked, final_step found marked⟩
  · intro index
    rw [← AList.lookup_isSome, published.chunks index, isTotal]
    split
    · next inside => exact ⟨fun _ => inside, fun _ => rfl⟩
    · next outside => exact ⟨fun present => (by cases present), fun inside => absurd inside outside⟩
  · rw [isTotal, published.assemble]
    exact member

/-- Two uploads over the debris of an older writer: the first attempt loses a chunk
to expiry, the second one is published. -/
def overDebris : List StoreEvent :=
  [.upload [1, 2], .stageChunk 0 0, .upload [3, 4], .stageChunk 1 1, .unlinkStaging 0,
    .stageChunk 0 1, .publishStaged 0, .stageChunk 1 0, .publishStaged 1]

theorem layout_consistent_overDebris :
    ∃ hash : ChunkHash,
      (Systems.run (step ⟨1, Nat.one_pos⟩)
        (holding (some [7]) (some ⟨(∅ : Table ℕ Bytes).insert 0 [9], none⟩))
        overDebris).final = some hash ∧
      hash.declared = some 2 ∧ assemble hash 2 = [3, 4] ∧
      (∀ index, index ∈ hash.chunks ↔ index < 2) ∧
      (Systems.run (step ⟨1, Nat.one_pos⟩)
        (holding (some [7]) (some ⟨(∅ : Table ℕ Bytes).insert 0 [9], none⟩))
        overDebris).inline = none := by
  have unmarked : ∀ hash ∈ some (ChunkHash.mk ((∅ : Table ℕ Bytes).insert 0 [9]) none),
      hash.declared = none := by
    rintro _ ⟨⟩
    rfl
  refine ⟨_, rfl, rfl, by decide, ?_, by decide⟩
  exact (layout_consistent ⟨1, Nat.one_pos⟩ (some [7]) _ unmarked overDebris rfl rfl).1

end ArtifactStore

end Sp1Cluster
