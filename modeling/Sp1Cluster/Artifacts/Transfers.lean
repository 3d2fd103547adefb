import Sp1Cluster.Data.Pieces

/-!
# Parallel transfers to and from S3

The S3 client moves an artifact of more than one chunk in parallel. The chunks are
dealt out to tasks: an upload gives each task as many chunks as it has threads, a
download gives each thread its share. The tasks send what they have done over a
channel, and the receiver puts it in place by the index of the chunk, so the order of
arrival does not matter.

S3 serves byte ranges with both ends included. It takes part numbers from 1 to 10000,
and joins the parts that it is given in ascending order. An upload of more parts is
refused, which the client does not survive; it has no result then.
-/

set_option autoImplicit false

namespace Sp1Cluster.S3ArtifactClient

/-! ## S3 -/

def maxPartNumber : ℤ := 10000

/-- `upload_part`, with the parts that the upload has so far. -/
def uploadPart (number : ℤ) (body : List UInt8) (parts : List (ℤ × List UInt8)) :
    Option (List (ℤ × List UInt8)) :=
  if 1 ≤ number ∧ number ≤ maxPartNumber then some ((number, body) :: parts) else none

/-- `complete_multipart_upload`. -/
def completeMultipartUpload (numbers : List ℤ) (parts : List (ℤ × List UInt8)) :
    Option (List UInt8) :=
  if numbers.Pairwise (· < ·) then (numbers.mapM (List.lookup · parts)).map List.flatten else none

/-- `read_bytes` of a range. -/
def readBytes (object : List UInt8) (range : ℕ × ℕ) : List UInt8 :=
  (object.drop range.1).take (range.2 + 1 - range.1)

/-! ## The client -/

/-- `CHUNK_SIZE`. -/
@[irreducible] def chunkSize : ℕ := 32 * 1024 * 1024

/-- `div_ceil`. -/
def divCeil (total size : ℕ) : ℕ := (total + size - 1) / size

def chunkStarts (chunks : ℕ) : List (ℕ × ℕ) :=
  (List.range chunks).map fun index => (index, index * chunkSize)

def numChunks (length : ℕ) : ℕ := max (divCeil length chunkSize) 1

/-- The chunks that each task uploads, with the positions from `start` to before `end`. -/
def uploadTasks (concurrency length : ℕ) : List (List (ℕ × ℕ × ℕ)) :=
  let threads := min concurrency length
  (Pieces.chunks threads (chunkStarts (numChunks length))).map fun chunkInputs =>
    chunkInputs.map fun (index, start) => (index, start, min (start + chunkSize) length)

/-- `i as i32 + 1`. -/
def partNumber (index : ℕ) : ℤ := Int.bmod (Int.bmod index (2 ^ 32) + 1) (2 ^ 32)

/-- A part is uploaded, and its number is noted at the index of its chunk. -/
def receivePart (state : List (ℤ × List UInt8) × List (Option ℤ)) (chunk : ℕ × List UInt8) :
    Option (List (ℤ × List UInt8) × List (Option ℤ)) :=
  (uploadPart (partNumber chunk.1) chunk.2 state.1).map fun uploaded =>
    (uploaded, state.2.set chunk.1 (some (partNumber chunk.1)))

/-- `par_upload_file`: the object that S3 has afterwards. The parts arrive in some order. -/
def parUploadFile (concurrency : ℕ) (order : List (ℕ × List UInt8) → List (ℕ × List UInt8))
    (data : List UInt8) : Option (List UInt8) :=
  if data.length ≤ chunkSize then some data
  else do
    let sent := (uploadTasks concurrency data.length).flatten.map fun (index, start, stop) =>
      (index, (data.drop start).take (stop - start))
    let (uploaded, parts) ← (order sent).foldlM receivePart
      ([], List.replicate (numChunks data.length) none)
    let uploadParts ← parts.mapM id
    completeMultipartUpload uploadParts uploaded

/-- The chunks that each thread downloads, with the first and the last position. -/
def downloadTasks (concurrency size : ℕ) : List (List (ℕ × ℕ × ℕ)) :=
  let starts := chunkStarts (divCeil size chunkSize)
  let threads := min concurrency starts.length
  let threadSize := max (divCeil starts.length threads) 1
  (Pieces.chunks threadSize starts).map fun threadStarts =>
    threadStarts.map fun (index, start) => (index, start, min (start + chunkSize) size - 1)

/-- A chunk is copied into the result, which panics unless it fits. -/
def receiveChunk (size : ℕ) (result : List UInt8) (chunk : ℕ × List UInt8) :
    Option (List UInt8) :=
  let start := chunk.1 * chunkSize
  let stop := min (start + chunk.2.length) size
  if stop = start + chunk.2.length then some (Pieces.overwrite start chunk.2 result) else none

/-- `par_download_file`, for the object that S3 has. -/
def parDownloadFile (concurrency : ℕ) (order : List (ℕ × List UInt8) → List (ℕ × List UInt8))
    (object : List UInt8) : Option (List UInt8) :=
  if object.length ≤ chunkSize then some object
  else
    let sent := (downloadTasks concurrency object.length).flatten.map fun (index, range) =>
      (index, readBytes object range)
    (order sent).foldlM (receiveChunk object.length) (List.replicate object.length 0)

/-! ## Chunks and positions -/

theorem chunkSize_pos : 0 < chunkSize := by
  unfold chunkSize
  decide

/-- However chunks are dealt out, together the tasks have each chunk once. -/
theorem flatten_tasks {α : Type} {share : ℕ} (positive : 0 < share) (chunks : ℕ)
    (task : ℕ × ℕ → α) :
    ((Pieces.chunks share (chunkStarts chunks)).map (·.map task)).flatten =
      (List.range chunks).map fun index => task (index, index * chunkSize) := by
  rw [← List.map_flatten, Pieces.flatten_chunks positive, chunkStarts, List.map_map]
  rfl

theorem flatten_uploadTasks {concurrency length : ℕ} (positive : 1 ≤ concurrency)
    (large : chunkSize < length) :
    (uploadTasks concurrency length).flatten =
      (List.range (divCeil length chunkSize)).map fun index =>
        (index, index * chunkSize, min (index * chunkSize + chunkSize) length) := by
  have nonempty : 1 ≤ divCeil length chunkSize := Nat.div_pos (by omega) chunkSize_pos
  have chunks : numChunks length = divCeil length chunkSize := max_eq_left nonempty
  unfold uploadTasks
  rw [flatten_tasks (by omega), chunks]

theorem flatten_downloadTasks (concurrency size : ℕ) :
    (downloadTasks concurrency size).flatten =
      (List.range (divCeil size chunkSize)).map fun index =>
        (index, index * chunkSize, min (index * chunkSize + chunkSize) size - 1) :=
  flatten_tasks (Nat.lt_of_lt_of_le Nat.one_pos (le_max_right _ _)) _ _

/-- What lies from the start of a chunk to its end is the piece with its index. -/
theorem take_drop_eq_piece {α : Type} (data : List α) (index : ℕ) :
    (data.drop (index * chunkSize)).take
      (min (index * chunkSize + chunkSize) data.length - index * chunkSize) =
        Pieces.piece chunkSize data index := by
  rw [Pieces.piece, List.take_eq_take_iff, List.length_drop]
  omega

theorem start_lt {length index : ℕ} (inside : index < divCeil length chunkSize) :
    index * chunkSize < length := by
  have below := (Nat.lt_div_iff_mul_lt chunkSize_pos).mp inside
  omega

/-- The positions of all chunks in order are all positions. -/
theorem flatMap_positions (length : ℕ) :
    ((List.range (divCeil length chunkSize)).flatMap fun index => List.range' (index * chunkSize)
      (min (index * chunkSize + chunkSize) length - index * chunkSize)) = List.range length := by
  have pieces := Pieces.flatMap_piece chunkSize_pos (List.range length)
  rw [Pieces.count, List.length_range] at pieces
  refine Eq.trans (List.flatMap_congr fun index _ => ?_) pieces
  rw [← take_drop_eq_piece, List.length_range]
  refine List.ext_getElem ?_ fun offset _ _ => by simp
  simp only [List.length_range', List.length_take, List.length_drop, List.length_range]
  omega

/-! ## Uploads -/

theorem partNumber_of_lt {index : ℕ} (small : index < 10000) : partNumber index = index + 1 := by
  unfold partNumber
  rw [Int.bmod_eq_of_le (n := (index : ℤ)) (by omega) (by omega),
    Int.bmod_eq_of_le (by omega) (by omega)]

theorem mapM_of_some {α β : Type} {call : α → Option β} {answer : α → β} {list : List α}
    (answered : ∀ entry ∈ list, call entry = some (answer entry)) :
    list.mapM call = some (list.map answer) := by
  induction list with
  | nil => rfl
  | cons entry rest ih =>
    rw [List.forall_mem_cons] at answered
    rw [List.mapM_cons, answered.1, ih answered.2]
    rfl

def numbered (data : List UInt8) : List (ℕ × List UInt8) :=
  (List.range (divCeil data.length chunkSize)).map fun index =>
    (index, Pieces.piece chunkSize data index)

theorem mem_numbered {data : List UInt8} {chunk : ℕ × List UInt8} :
    chunk ∈ numbered data ↔ chunk.1 < divCeil data.length chunkSize ∧
      chunk.2 = Pieces.piece chunkSize data chunk.1 := by
  obtain ⟨index, body⟩ := chunk
  simp only [numbered, List.mem_map, List.mem_range, Prod.mk.injEq]
  constructor
  · rintro ⟨other, inside, rfl, rfl⟩
    exact ⟨inside, rfl⟩
  · rintro ⟨inside, rfl⟩
    exact ⟨index, inside, rfl, rfl⟩

theorem sent_upload {concurrency : ℕ} (positive : 1 ≤ concurrency) {data : List UInt8}
    (large : chunkSize < data.length) :
    ((uploadTasks concurrency data.length).flatten.map fun (index, start, stop) =>
      (index, (data.drop start).take (stop - start))) = numbered data := by
  rw [flatten_uploadTasks positive large, List.map_map]
  refine List.map_congr_left fun index _ => ?_
  exact congrArg (Prod.mk index) (take_drop_eq_piece data index)

theorem sent_download (concurrency : ℕ) (object : List UInt8) :
    ((downloadTasks concurrency object.length).flatten.map fun (index, range) =>
      (index, readBytes object range)) = numbered object := by
  rw [flatten_downloadTasks, List.map_map]
  refine List.map_congr_left fun index member => ?_
  have start := start_lt (List.mem_range.mp member)
  have positive := chunkSize_pos
  refine congrArg (Prod.mk index) ?_
  rw [← take_drop_eq_piece, readBytes]
  congr 1
  dsimp only
  omega

theorem accepted_of_received {sent : List (ℕ × List UInt8)}
    {state final : List (ℤ × List UInt8) × List (Option ℤ)}
    (ran : sent.foldlM receivePart state = some final) :
    ∀ chunk ∈ sent, partNumber chunk.1 ≤ maxPartNumber := by
  induction sent generalizing state with
  | nil => exact fun _ => nofun
  | cons chunk rest ih =>
    rw [List.foldlM_cons] at ran
    obtain ⟨next, received, later⟩ := Option.bind_eq_some_iff.mp ran
    refine List.forall_mem_cons.mpr ⟨?_, ih later⟩
    obtain ⟨parts, stored, -⟩ := Option.map_eq_some_iff.mp received
    unfold uploadPart at stored
    split at stored
    · next taken => exact taken.2
    · cases stored

section Orders

variable {order : List (ℕ × List UInt8) → List (ℕ × List UInt8)}
  (perm : ∀ sent, (order sent).Perm sent) {data : List UInt8}
include perm

theorem mem_order {chunk : ℕ × List UInt8} : chunk ∈ order (numbered data) ↔
    chunk.1 < divCeil data.length chunkSize ∧
      chunk.2 = Pieces.piece chunkSize data chunk.1 := by
  rw [(perm _).mem_iff, mem_numbered]

theorem index_mem_order {index : ℕ} (inside : index < divCeil data.length chunkSize) :
    index ∈ (order (numbered data)).map Prod.fst := by
  refine List.mem_map.mpr ⟨(index, Pieces.piece chunkSize data index), ?_, rfl⟩
  exact (mem_order perm).mpr ⟨inside, rfl⟩

theorem receivePart_writes (few : divCeil data.length chunkSize ≤ 10000)
    (state : List (ℤ × List UInt8) × List (Option ℤ)) :
    ∀ chunk ∈ order (numbered data), state.2.length = divCeil data.length chunkSize →
      ∃ next, receivePart state chunk = some next ∧
        next.2.length = divCeil data.length chunkSize ∧
        ∀ index : ℕ, (List.lookup (index + 1 : ℤ) next.1, next.2[index]?) =
          if index = chunk.1 then
            (some (Pieces.piece chunkSize data index), some (some (index + 1 : ℤ)))
          else (List.lookup (index + 1 : ℤ) state.1, state.2[index]?) := by
  rintro ⟨index, body⟩ member length
  obtain ⟨inside, isPiece⟩ := (mem_order perm).mp member
  obtain rfl : body = Pieces.piece chunkSize data index := isPiece
  have number := partNumber_of_lt (Nat.lt_of_lt_of_le inside few)
  have accepted : 1 ≤ (index + 1 : ℤ) ∧ (index + 1 : ℤ) ≤ maxPartNumber := by
    unfold maxPartNumber
    omega
  refine ⟨((index + 1, Pieces.piece chunkSize data index) :: state.1,
    state.2.set index (some (index + 1))), ?_, by simpa using length, ?_⟩
  · simp [receivePart, number, uploadPart, accepted]
  · intro other
    by_cases same : other = index
    · subst same
      simp [length, inside]
    · have differ : ((other : ℤ) + 1 == (index : ℤ) + 1) = false := by simp [same]
      simp [List.lookup_cons, differ, same, Ne.symm same]

/-- **An upload of parts that S3 takes stores the artifact.** -/
theorem parUploadFile_eq {concurrency : ℕ} (positive : 1 ≤ concurrency)
    (few : divCeil data.length chunkSize ≤ 10000) :
    parUploadFile concurrency order data = some data := by
  unfold parUploadFile
  split
  · rfl
  · next large =>
    rw [not_le] at large
    have chunks : numChunks data.length = divCeil data.length chunkSize :=
      max_eq_left (Nat.div_pos (by omega) chunkSize_pos)
    have start : ((([], List.replicate (divCeil data.length chunkSize) none) :
        List (ℤ × List UInt8) × List (Option ℤ)).2).length = divCeil data.length chunkSize :=
      List.length_replicate
    obtain ⟨⟨uploaded, parts⟩, ran, length, shows⟩ :=
      Pieces.foldlM_writes (receivePart_writes perm few) start
    have shown := fun index inside =>
      Prod.mk.inj (shows index (.inl (index_mem_order perm inside)))
    have noted : parts = (List.range (divCeil data.length chunkSize)).map
        fun index : ℕ => some ((index : ℤ) + 1) := by
      refine List.ext_getElem? fun index => ?_
      by_cases inside : index < divCeil data.length chunkSize
      · rw [(shown index inside).2]
        simp [inside]
      · rw [List.getElem?_eq_none (by rw [length]; omega),
          List.getElem?_eq_none (by simp; omega)]
    have listed : parts.mapM id = some ((List.range (divCeil data.length chunkSize)).map
        fun index : ℕ => (index : ℤ) + 1) := by
      rw [noted, List.mapM_map]
      exact mapM_of_some fun _ _ => rfl
    have found : ((List.range (divCeil data.length chunkSize)).map
        fun index : ℕ => (index : ℤ) + 1).mapM (List.lookup · uploaded) =
          some ((List.range (divCeil data.length chunkSize)).map
            (Pieces.piece chunkSize data)) := by
      rw [List.mapM_map]
      exact mapM_of_some fun index member => (shown index (List.mem_range.mp member)).1
    have ascending : ((List.range (divCeil data.length chunkSize)).map
        fun index : ℕ => (index : ℤ) + 1).Pairwise (· < ·) := by
      rw [List.pairwise_map]
      exact List.pairwise_lt_range.imp fun before => by omega
    have joined := Pieces.flatMap_piece chunkSize_pos data
    dsimp only
    rw [sent_upload positive large, chunks, ran, Option.bind_eq_bind, Option.bind_some]
    dsimp only
    rw [listed, Option.bind_eq_bind, Option.bind_some, completeMultipartUpload,
      if_pos ascending, found]
    exact congrArg some joined

/-- S3 takes every part of an upload that succeeds. -/
theorem chunks_of_parUploadFile {concurrency : ℕ} (positive : 1 ≤ concurrency)
    {object : List UInt8} (uploaded : parUploadFile concurrency order data = some object) :
    divCeil data.length chunkSize ≤ 10000 := by
  unfold parUploadFile at uploaded
  split at uploaded
  · next small =>
    have one : divCeil data.length chunkSize < 2 := by
      rw [divCeil, Nat.div_lt_iff_lt_mul chunkSize_pos]
      have := chunkSize_pos
      omega
    omega
  · next large =>
    rw [not_le] at large
    dsimp only at uploaded
    rw [sent_upload positive large] at uploaded
    obtain ⟨final, ran, -⟩ := Option.bind_eq_some_iff.mp uploaded
    by_contra many
    have refused : ¬ partNumber 10000 ≤ maxPartNumber := by decide
    obtain ⟨index, isLast⟩ : ∃ index : ℕ, index = 10000 := exists_eq
    have member : (index, Pieces.piece chunkSize data index) ∈ order (numbered data) :=
      (mem_order perm).mpr ⟨by omega, rfl⟩
    have taken := accepted_of_received ran _ member
    rw [← isLast] at refused
    exact refused taken

/-! ## Downloads -/

theorem receiveChunk_writes (result : List UInt8) :
    ∀ chunk ∈ order (numbered data), result.length = data.length →
      ∃ next, receiveChunk data.length result chunk = some next ∧
        next.length = data.length ∧
        ∀ index, Pieces.piece chunkSize next index =
          if index = chunk.1 then Pieces.piece chunkSize data index
          else Pieces.piece chunkSize result index := by
  rintro ⟨index, body⟩ member length
  obtain ⟨inside, isPiece⟩ := (mem_order perm).mp member
  obtain rfl : body = Pieces.piece chunkSize data index := isPiece
  have start : index * chunkSize < data.length := start_lt inside
  have fits : index * chunkSize + (Pieces.piece chunkSize data index).length ≤ data.length := by
    rw [Pieces.piece, List.length_take, List.length_drop]
    omega
  refine ⟨Pieces.overwrite (index * chunkSize) (Pieces.piece chunkSize data index) result,
    if_pos (min_eq_left fits), List.length_mapIdx.trans length, ?_⟩
  intro other
  rw [Pieces.piece_overwrite length]
  split
  · next same => rw [same]
  · rfl

theorem parDownloadFile_eq (concurrency : ℕ) : parDownloadFile concurrency order data = some data := by
  unfold parDownloadFile
  split
  · rfl
  · dsimp only
    rw [sent_download]
    obtain ⟨final, ran, length, shows⟩ := Pieces.foldlM_writes (receiveChunk_writes perm)
      (List.length_replicate : (List.replicate data.length (0 : UInt8)).length = data.length)
    rw [ran]
    refine congrArg some (Pieces.eq_of_pieces chunkSize_pos length ?_)
    exact fun index inside => shows index (.inl (index_mem_order perm inside))

end Orders

/-- **A parallel transfer is the identity.** In whatever order the chunks arrive on either side,
an upload in which no call fails stores the artifact, and the download gives it back; an upload of
at most 10000 parts does not fail. The parts uploaded, and the byte ranges read, are each position
of the artifact once and in order. -/
theorem parallel_transfer (data : List UInt8) (concurrency : ℕ) (positive : 1 ≤ concurrency)
    (uploadOrder downloadOrder : List (ℕ × List UInt8) → List (ℕ × List UInt8))
    (uploadPerm : ∀ sent, (uploadOrder sent).Perm sent)
    (downloadPerm : ∀ sent, (downloadOrder sent).Perm sent) :
    (∀ object, parUploadFile concurrency uploadOrder data = some object →
      object = data ∧ parDownloadFile concurrency downloadOrder object = some data) ∧
    (divCeil data.length chunkSize ≤ 10000 →
      parUploadFile concurrency uploadOrder data = some data) ∧
    (chunkSize < data.length →
      ((uploadTasks concurrency data.length).flatten.flatMap fun (_, start, stop) =>
        List.range' start (stop - start)) = List.range data.length ∧
      ((downloadTasks concurrency data.length).flatten.flatMap fun (_, first, last) =>
        List.range' first (last + 1 - first)) = List.range data.length) := by
  refine ⟨?_, parUploadFile_eq uploadPerm positive, ?_⟩
  · intro object uploaded
    have few := chunks_of_parUploadFile uploadPerm positive uploaded
    obtain rfl : data = object :=
      Option.some.inj ((parUploadFile_eq uploadPerm positive few).symm.trans uploaded)
    exact ⟨rfl, parDownloadFile_eq downloadPerm concurrency⟩
  · intro large
    have positions := flatMap_positions data.length
    rw [flatten_uploadTasks positive large, flatten_downloadTasks, List.flatMap_map,
      List.flatMap_map]
    refine ⟨positions, Eq.trans (List.flatMap_congr fun index member => ?_) positions⟩
    have start := start_lt (List.mem_range.mp member)
    have chunk := chunkSize_pos
    refine congrArg (List.range' (index * chunkSize)) ?_
    omega

theorem parallel_transfer_threeChunks :
    let data := List.replicate (2 * chunkSize + 1) (7 : UInt8)
    parUploadFile 2 List.reverse data = some data ∧
      parDownloadFile 4 List.reverse data = some data := by
  intro data
  have few : divCeil data.length chunkSize ≤ 10000 := by
    rw [List.length_replicate]
    unfold chunkSize
    decide
  have uploaded := (parallel_transfer data 2 (by decide) List.reverse List.reverse
    List.reverse_perm List.reverse_perm).2.1 few
  have stored := (parallel_transfer data 4 (by decide) List.reverse List.reverse
    List.reverse_perm List.reverse_perm)
  exact ⟨uploaded, (stored.1 data (stored.2.1 few)).2⟩

end Sp1Cluster.S3ArtifactClient
