import Sp1Cluster.Systems.Mailboxes
import Mathlib.Data.Nat.Basic
import Mathlib.Data.List.Infix

/-!
# The message channel of a task

An entry keeps the payloads sent so far, so that a subscriber that comes late or
comes back is sent those it has not seen, and the subscribers that get every
further payload as it is pushed. Closing sends the end of the stream to them
and keeps the payloads for those that come later. Each of the three operations
runs under the lock of the entry.
-/

set_option autoImplicit false

namespace Sp1Cluster

open Systems

/-- A `Vec<u8>`. -/
abbrev Payload := List UInt8

/-- The messages of a stream. -/
inductive StreamMessage where
  | payload (data : Payload)
  | endOfStream
deriving DecidableEq, Repr

structure MessageStreamResponse where
  message : Option StreamMessage
deriving DecidableEq, Repr

def payloadResponse (data : Payload) : MessageStreamResponse := ⟨some (.payload data)⟩

/-- `end_of_stream_response`. -/
def endOfStreamResponse : MessageStreamResponse := ⟨some .endOfStream⟩

theorem payloadResponse_ne_endOfStream (data : Payload) :
    payloadResponse data ≠ endOfStreamResponse := by
  simp [payloadResponse, endOfStreamResponse]

/-- The receivers that subscribers read from. -/
abbrev Streams := Mailboxes MessageStreamResponse

/-- `MessageChannelInner`. A sender is the index of its receiver, an instant is
a number of nanoseconds. -/
structure MessageChannelInner where
  subscribers : List ℕ
  buffer : List Payload
  closed : Bool
  closedAt : Option ℕ
deriving DecidableEq, Repr

namespace MessageChannelInner

/-- `MessageChannelState::default`. -/
def empty : MessageChannelInner := ⟨[], [], false, none⟩

/-- `MessageChannelState::push`. -/
def push (payload : Payload) (inner : MessageChannelInner) (streams : Streams) :
    MessageChannelInner × Streams :=
  if inner.closed then (inner, streams)
  else
    let (subscribers, streams) :=
      Mailboxes.retainLive (payloadResponse payload) inner.subscribers streams
    ({ inner with subscribers := subscribers, buffer := inner.buffer ++ [payload] }, streams)

/-- `MessageChannelState::attach_subscriber`. The receiver it returns is the
last of the new receivers. -/
def attachSubscriber (startOffset : ℕ) (inner : MessageChannelInner) (streams : Streams) :
    MessageChannelInner × Streams :=
  let replay := (inner.buffer.drop startOffset).map payloadResponse
  if inner.closed then (inner, Mailboxes.create (replay ++ [endOfStreamResponse]) streams)
  else
    ({ inner with subscribers := inner.subscribers ++ [streams.length] },
      Mailboxes.create replay streams)

/-- `close_task_channel` on an entry. -/
def close (now : ℕ) (inner : MessageChannelInner) (streams : Streams) :
    MessageChannelInner × Streams :=
  if inner.closed then (inner, streams)
  else
    ({ inner with subscribers := [], closed := true, closedAt := some now },
      (Mailboxes.retainLive endOfStreamResponse inner.subscribers streams).2)

section Fields

variable (inner : MessageChannelInner) (streams : Streams)

theorem buffer_push (payload : Payload) :
    (inner.push payload streams).1.buffer =
      if inner.closed then inner.buffer else inner.buffer ++ [payload] := by
  unfold push
  split <;> rfl

@[simp] theorem closed_push (payload : Payload) :
    (inner.push payload streams).1.closed = inner.closed := by
  unfold push
  split <;> rfl

@[simp] theorem buffer_attachSubscriber (startOffset : ℕ) :
    (inner.attachSubscriber startOffset streams).1.buffer = inner.buffer := by
  unfold attachSubscriber
  dsimp only
  split <;> rfl

@[simp] theorem closed_attachSubscriber (startOffset : ℕ) :
    (inner.attachSubscriber startOffset streams).1.closed = inner.closed := by
  unfold attachSubscriber
  dsimp only
  split <;> rfl

@[simp] theorem buffer_close (now : ℕ) : (inner.close now streams).1.buffer = inner.buffer := by
  unfold close
  split <;> rfl

@[simp] theorem closed_close (now : ℕ) : (inner.close now streams).1.closed = true := by
  unfold close
  split
  · assumption
  · rfl

end Fields

/-! ## Subscribers -/

/-- The subscribers of an entry are different receivers, and a closed entry has
none. -/
structure Wired (inner : MessageChannelInner) (streams : Streams) : Prop where
  distinct : inner.subscribers.Nodup
  present : ∀ index ∈ inner.subscribers, index < streams.length
  closed : inner.closed = true → inner.subscribers = []

variable {inner : MessageChannelInner} {streams : Streams}

theorem wired_empty (streams : Streams) : empty.Wired streams where
  distinct := List.nodup_nil
  present := by simp [empty]
  closed _ := rfl

theorem Wired.mono (wired : inner.Wired streams) {streams' : Streams}
    (longer : streams.length ≤ streams'.length) : inner.Wired streams' where
  distinct := wired.distinct
  present index member := (wired.present index member).trans_le longer
  closed := wired.closed

theorem Wired.push (wired : inner.Wired streams) (payload : Payload) :
    (inner.push payload streams).1.Wired (inner.push payload streams).2 := by
  unfold MessageChannelInner.push
  split
  · exact wired
  · next opened =>
    dsimp only
    rw [Mailboxes.retainLive_fst]
    refine ⟨wired.distinct.filter _, ?_, ?_⟩
    · intro index member
      rw [Mailboxes.length_retainLive]
      exact wired.present index (List.mem_of_mem_filter member)
    · intro closed
      exact absurd closed opened

theorem Wired.attachSubscriber (wired : inner.Wired streams) (startOffset : ℕ) :
    (inner.attachSubscriber startOffset streams).1.Wired
      (inner.attachSubscriber startOffset streams).2 := by
  unfold MessageChannelInner.attachSubscriber
  dsimp only
  split
  · exact wired.mono (by simp)
  · next opened =>
    refine ⟨?_, ?_, ?_⟩
    · refine List.Nodup.append wired.distinct (List.nodup_singleton _) ?_
      intro index member new
      have before := wired.present index member
      rw [List.mem_singleton.mp new] at before
      exact absurd before (lt_irrefl _)
    · intro index member
      rw [Mailboxes.length_create]
      rcases List.mem_append.mp member with earlier | new
      · exact (wired.present index earlier).trans (Nat.lt_succ_self _)
      · rw [List.mem_singleton.mp new]
        exact Nat.lt_succ_self _
    · intro closed
      exact absurd closed opened

theorem Wired.close (wired : inner.Wired streams) (now : ℕ) :
    (inner.close now streams).1.Wired (inner.close now streams).2 := by
  unfold MessageChannelInner.close
  split
  · exact wired
  · exact ⟨List.nodup_nil, by simp, fun _ => rfl⟩

/-! ## What a subscriber is sent -/

/-- What a subscriber that starts at an offset is to be sent. -/
def streamFrom (offset : ℕ) (inner : MessageChannelInner) : List MessageStreamResponse :=
  (inner.buffer.drop offset).map payloadResponse ++
    if inner.closed then [endOfStreamResponse] else []

/-- The messages of a stream are the payloads from its offset on, and then its
end. -/
theorem response_of_streamFrom {offset taken : ℕ} {response : MessageStreamResponse}
    (within : offset ≤ inner.buffer.length)
    (found : (inner.streamFrom offset)[taken]? = some response) :
    (∃ data, response = payloadResponse data ∧ inner.buffer[offset + taken]? = some data) ∨
      (response = endOfStreamResponse ∧ inner.closed = true ∧
        offset + taken = inner.buffer.length) := by
  unfold streamFrom at found
  rcases Nat.lt_or_ge taken (inner.buffer.length - offset) with before | beyond
  · rw [List.getElem?_append_left (by simpa using before), List.getElem?_map,
      List.getElem?_drop] at found
    obtain ⟨data, here, rfl⟩ := Option.map_eq_some_iff.mp found
    exact .inl ⟨data, rfl, here⟩
  · rw [List.getElem?_append_right (by simpa using beyond)] at found
    by_cases closed : inner.closed = true
    · rw [if_pos closed, List.length_map, List.length_drop] at found
      have last : taken - (inner.buffer.length - offset) = 0 := by
        by_contra further
        rw [List.getElem?_eq_none (by simp; omega)] at found
        cases found
      rw [last] at found
      refine .inr ⟨?_, closed, by omega⟩
      simpa using found.symm
    · rw [if_neg closed] at found
      simp at found

/-- A receiver has a part of the stream from an offset, and all of it while it
is subscribed. -/
structure Follows (offset index : ℕ) (inner : MessageChannelInner) (streams : Streams) : Prop where
  present : index < streams.length
  within : offset ≤ inner.buffer.length
  sent : streams.sentTo index <+: inner.streamFrom offset
  live : index ∈ inner.subscribers → streams.sentTo index = inner.streamFrom offset

section Follows

variable {offset index : ℕ}

theorem streamFrom_push (opened : inner.closed = false) (within : offset ≤ inner.buffer.length)
    (payload : Payload) (subscribers : List ℕ) :
    streamFrom offset
        { inner with subscribers := subscribers, buffer := inner.buffer ++ [payload] } =
      inner.streamFrom offset ++ [payloadResponse payload] := by
  simp [streamFrom, opened, List.drop_append_of_le_length within]

section Followed

variable (follows : Follows offset index inner streams)
include follows

theorem Follows.push (wired : inner.Wired streams) (payload : Payload) :
    Follows offset index (inner.push payload streams).1 (inner.push payload streams).2 := by
  unfold MessageChannelInner.push
  split
  · exact follows
  · next opened =>
    rw [Bool.not_eq_true] at opened
    dsimp only
    refine ⟨?_, ?_, ?_, ?_⟩
    · rw [Mailboxes.length_retainLive]
      exact follows.present
    · rw [List.length_append]
      exact follows.within.trans (Nat.le_add_right _ _)
    · rw [streamFrom_push opened follows.within, Mailboxes.sentTo_retainLive _ wired.distinct]
      split
      · next listed => rw [follows.live listed.1]
      · exact follows.sent.trans (List.prefix_append _ _)
    · intro member
      rw [Mailboxes.retainLive_fst, List.mem_filter] at member
      rw [streamFrom_push opened follows.within, Mailboxes.sentTo_retainLive _ wired.distinct,
        if_pos member, follows.live member.1]

theorem Follows.close (wired : inner.Wired streams) (now : ℕ) :
    Follows offset index (inner.close now streams).1 (inner.close now streams).2 := by
  unfold MessageChannelInner.close
  split
  · exact follows
  · next opened =>
    rw [Bool.not_eq_true] at opened
    have whole : streamFrom offset
        { inner with subscribers := [], closed := true, closedAt := some now } =
          inner.streamFrom offset ++ [endOfStreamResponse] := by
      simp [streamFrom, opened]
    refine ⟨?_, follows.within, ?_, ?_⟩
    · rw [Mailboxes.length_retainLive]
      exact follows.present
    · rw [whole, Mailboxes.sentTo_retainLive _ wired.distinct]
      split
      · next listed => rw [follows.live listed.1]
      · exact follows.sent.trans (List.prefix_append _ _)
    · intro member
      cases member

/-- Another subscriber changes nothing for this one. -/
theorem Follows.attachSubscriber (startOffset : ℕ) :
    Follows offset index (inner.attachSubscriber startOffset streams).1
      (inner.attachSubscriber startOffset streams).2 := by
  have older : index ≠ streams.length := follows.present.ne
  have joined : ∀ messages, Follows offset index inner (Mailboxes.create messages streams) := by
    intro messages
    refine ⟨?_, follows.within, ?_, ?_⟩
    · rw [Mailboxes.length_create]
      exact follows.present.trans (Nat.lt_succ_self _)
    · rw [Mailboxes.sentTo_create, if_neg older]
      exact follows.sent
    · intro member
      rw [Mailboxes.sentTo_create, if_neg older]
      exact follows.live member
  unfold MessageChannelInner.attachSubscriber
  dsimp only
  split
  · exact joined _
  · refine ⟨(joined _).present, follows.within, (joined _).sent, fun member => ?_⟩
    rcases List.mem_append.mp member with earlier | new
    · exact (joined _).live earlier
    · exact absurd (List.mem_singleton.mp new) older

theorem Follows.drop (other : ℕ) : Follows offset index inner (Mailboxes.drop other streams) where
  present := by
    rw [Mailboxes.length_drop]
    exact follows.present
  within := follows.within
  sent := by
    rw [Mailboxes.sentTo_drop]
    exact follows.sent
  live member := by
    rw [Mailboxes.sentTo_drop]
    exact follows.live member

end Followed

/-- A subscriber that has just attached has everything from its offset. -/
theorem follows_attachSubscriber (within : offset ≤ inner.buffer.length) :
    Follows offset streams.length (inner.attachSubscriber offset streams).1
      (inner.attachSubscriber offset streams).2 := by
  have whole : (inner.attachSubscriber offset streams).2.sentTo streams.length =
      (inner.attachSubscriber offset streams).1.streamFrom offset := by
    unfold MessageChannelInner.attachSubscriber
    dsimp only
    split
    · next closed => simp [Mailboxes.sentTo_create, streamFrom, closed]
    · next opened => simp [Mailboxes.sentTo_create, streamFrom, opened]
  refine ⟨?_, ?_, whole ▸ List.prefix_rfl, fun _ => whole⟩
  · unfold MessageChannelInner.attachSubscriber
    dsimp only
    split <;> simp
  · unfold MessageChannelInner.attachSubscriber
    dsimp only
    split <;> exact within

end Follows

end MessageChannelInner

end Sp1Cluster
