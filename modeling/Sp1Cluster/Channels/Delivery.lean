import Sp1Cluster.Channels.Entry
import Sp1Cluster.Systems.Runs

/-!
# A client that reads a channel to its end

A client reads one channel with `drive_message_stream`. Its stream may break at
any time; it then subscribes again and asks for the payloads after those it has
forwarded. The server pushes and closes independently of the client, other
subscribers come and go, and a subscription may be served without its answer
arriving. Everything the client forwards is a prefix of what was pushed, and all
of it when the client stops at the end of the stream.
-/

set_option autoImplicit false

namespace Sp1Cluster

open Systems

/-! ## The client -/

/-- Where `drive_message_stream` is: it waits for a subscription to be served,
it reads a stream of which it has taken some messages, or it has returned. -/
inductive StreamPhase where
  | connecting
  | reading (stream taken : ℕ)
  | ended
  | abandoned
deriving DecidableEq, Repr

/-- The client: the counter `forwarded`, the payloads that its consumer was
sent, and whether the consumer has dropped its end. -/
structure StreamClient where
  forwarded : ℕ
  received : List Payload
  consumerGone : Bool
  phase : StreamPhase
deriving DecidableEq, Repr

/-- What `inbound.next()` gives: a message, an error, or the end of a stream that
was not announced. -/
inductive Inbound where
  | message (response : MessageStreamResponse)
  | failed
  | finished
deriving DecidableEq, Repr

namespace StreamClient

def new : StreamClient := ⟨0, [], false, .connecting⟩

/-- One turn of the inner loop of `drive_message_stream`. -/
def onInbound (inbound : Inbound) (client : StreamClient) : StreamClient :=
  match inbound with
  | .message ⟨some (.payload data)⟩ =>
    let client := { client with forwarded := client.forwarded + 1 }
    if client.consumerGone then { client with phase := .abandoned }
    else { client with received := client.received ++ [data] }
  | .message ⟨some .endOfStream⟩ => { client with phase := .ended }
  | .message ⟨none⟩ => { client with phase := .ended }
  | .failed => { client with phase := .connecting }
  | .finished => { client with phase := .connecting }

end StreamClient

/-! ## The channel with its client -/

/-- An entry, the receivers of its subscribers, and a client. -/
structure Link where
  inner : MessageChannelInner
  streams : Streams
  client : StreamClient

/-- What can happen: a payload is pushed, the channel is closed, a subscriber
other than the client attaches, a receiver is dropped, the client's subscription
is served, it is given up, the client takes the next message of its stream, the
stream breaks, and the consumer drops its end. A subscription of the client that
is served without its answer arriving is an attachment of another. -/
inductive LinkEvent where
  | push (payload : Payload)
  | close (now : ℕ)
  | attach (startOffset : ℕ)
  | dropReceiver (index : ℕ)
  | connect
  | giveUp
  | next
  | breaks (failed : Bool)
  | dropConsumer
deriving DecidableEq, Repr

namespace Link

def new : Link := ⟨.empty, [], .new⟩

/-- Set the entry and the receivers. -/
def withChannel (channel : MessageChannelInner × Streams) (link : Link) : Link :=
  { link with inner := channel.1, streams := channel.2 }

def setPhase (phase : StreamPhase) (link : Link) : Link :=
  { link with client := { link.client with phase := phase } }

def connect (link : Link) : Link :=
  match link.client.phase with
  | .connecting =>
    (link.withChannel (link.inner.attachSubscriber link.client.forwarded link.streams)).setPhase
      (.reading link.streams.length 0)
  | _ => link

def giveUp (link : Link) : Link :=
  match link.client.phase with
  | .connecting => link.setPhase .abandoned
  | _ => link

/-- The client takes the next message of its stream, if there is one. -/
def next (link : Link) : Link :=
  match link.client.phase with
  | .reading stream taken =>
    match (link.streams.sentTo stream)[taken]? with
    | none => link
    | some response =>
      let link := link.setPhase (.reading stream (taken + 1))
      { link with client := link.client.onInbound (.message response) }
  | _ => link

def breaks (failed : Bool) (link : Link) : Link :=
  match link.client.phase with
  | .reading _ _ =>
    { link with client := link.client.onInbound (if failed then .failed else .finished) }
  | _ => link

def step (link : Link) : LinkEvent → Link
  | .push payload => link.withChannel (link.inner.push payload link.streams)
  | .close now => link.withChannel (link.inner.close now link.streams)
  | .attach startOffset => link.withChannel (link.inner.attachSubscriber startOffset link.streams)
  | .dropReceiver index => link.withChannel (link.inner, Mailboxes.drop index link.streams)
  | .connect => link.connect
  | .giveUp => link.giveUp
  | .next => link.next
  | .breaks failed => link.breaks failed
  | .dropConsumer => { link with client := { link.client with consumerGone := true } }

def reach (events : List LinkEvent) : Link := run step new events

end Link

/-- The payloads pushed before the channel is closed. -/
def LinkEvent.pushed : List LinkEvent → List Payload
  | [] => []
  | .push payload :: rest => payload :: pushed rest
  | .close _ :: _ => []
  | _ :: rest => pushed rest

def LinkEvent.closes : LinkEvent → Bool
  | .close _ => true
  | _ => false

theorem LinkEvent.pushed_snoc (past : List LinkEvent) (event : LinkEvent) :
    pushed (past ++ [event]) =
      if past.any closes then pushed past else pushed past ++ pushed [event] := by
  induction past with
  | nil => simp [pushed]
  | cons first rest ih =>
    cases first with
    | push payload =>
      simp only [List.cons_append, pushed, ih, List.any_cons, closes, Bool.false_or]
      split <;> rfl
    | close now => simp [pushed, closes]
    | _ => simp only [List.cons_append, pushed, ih, List.any_cons, closes, Bool.false_or]

namespace Link

/-! ## The invariant -/

/-- What the client has, in each of its phases. -/
def Forwards (link : Link) : Prop :=
  match link.client.phase with
  | .connecting =>
    link.client.forwarded ≤ link.inner.buffer.length ∧
      link.client.received = link.inner.buffer.take link.client.forwarded
  | .reading stream taken =>
    ∃ offset, MessageChannelInner.Follows offset stream link.inner link.streams ∧
      link.client.forwarded = offset + taken ∧
      link.client.forwarded ≤ link.inner.buffer.length ∧
      link.client.received = link.inner.buffer.take link.client.forwarded
  | .ended => link.inner.closed = true ∧ link.client.received = link.inner.buffer
  | .abandoned => link.client.received <+: link.inner.buffer

structure Faithful (events : List LinkEvent) (link : Link) : Prop where
  buffer : link.inner.buffer = LinkEvent.pushed events
  closed : link.inner.closed = events.any LinkEvent.closes
  wired : link.inner.Wired link.streams
  forwards : link.Forwards

/-- The channel changes and the client does not. The payloads stay, or one more
is pushed while the channel is open. -/
theorem Forwards.withChannel {link : Link} (forwards : link.Forwards)
    {channel : MessageChannelInner × Streams}
    (follows : ∀ offset index, MessageChannelInner.Follows offset index link.inner link.streams →
      MessageChannelInner.Follows offset index channel.1 channel.2)
    (buffer : link.inner.buffer <+: channel.1.buffer)
    (closed : link.inner.closed = true →
      channel.1.closed = true ∧ channel.1.buffer = link.inner.buffer) :
    (link.withChannel channel).Forwards := by
  obtain ⟨more, grown⟩ := buffer
  have taken : link.client.forwarded ≤ link.inner.buffer.length →
      link.client.forwarded ≤ channel.1.buffer.length ∧
        channel.1.buffer.take link.client.forwarded =
          link.inner.buffer.take link.client.forwarded := by
    intro within
    rw [← grown, List.length_append, List.take_append_of_le_length within]
    exact ⟨within.trans (Nat.le_add_right _ _), rfl⟩
  obtain ⟨inner, streams, ⟨forwarded, received, consumerGone, phase⟩⟩ := link
  cases phase with
  | connecting =>
    obtain ⟨within, prefixIs⟩ := forwards
    exact ⟨(taken within).1, prefixIs.trans (taken within).2.symm⟩
  | reading stream position =>
    obtain ⟨offset, follow, counted, within, prefixIs⟩ := forwards
    exact ⟨offset, follows offset stream follow, counted, (taken within).1,
      prefixIs.trans (taken within).2.symm⟩
  | ended =>
    obtain ⟨isClosed, whole⟩ := forwards
    exact ⟨(closed isClosed).1, whole.trans (closed isClosed).2.symm⟩
  | abandoned => exact List.IsPrefix.trans forwards ⟨more, grown⟩

/-- The next message of the stream is the next payload, or the end. -/
theorem Forwards.next {link : Link} (forwards : link.Forwards) : link.next.Forwards := by
  obtain ⟨inner, streams, ⟨forwarded, received, consumerGone, phase⟩⟩ := link
  cases phase with
  | reading stream taken =>
    obtain ⟨offset, follows, counted, within, soFar⟩ := forwards
    dsimp only at follows counted within soFar
    cases found : (streams.sentTo stream)[taken]? with
    | none =>
      simp only [Link.next, found]
      exact ⟨offset, follows, counted, within, soFar⟩
    | some response =>
      simp only [Link.next, found]
      have inStream : (inner.streamFrom offset)[taken]? = some response := by
        obtain ⟨more, whole⟩ := follows.sent
        have early := (List.getElem?_eq_some_iff.mp found).1
        rw [← whole, List.getElem?_append_left early]
        exact found
      rcases MessageChannelInner.response_of_streamFrom follows.within inStream
        with ⟨data, rfl, here⟩ | ⟨rfl, closed, last⟩
      · have early := (List.getElem?_eq_some_iff.mp here).1
        have grown : inner.buffer.take (forwarded + 1) = received ++ [data] := by
          rw [List.take_add_one, counted, here, soFar, counted]
          rfl
        cases consumerGone with
        | true =>
          change received <+: inner.buffer
          rw [soFar]
          exact List.take_prefix _ _
        | false =>
          refine ⟨offset, follows, ?_, ?_, grown.symm⟩
          · change forwarded + 1 = offset + (taken + 1)
            omega
          · change forwarded + 1 ≤ inner.buffer.length
            omega
      · refine ⟨closed, ?_⟩
        change received = inner.buffer
        rw [soFar, List.take_of_length_le (by omega)]
  | _ => exact forwards

theorem Forwards.connect {link : Link} (forwards : link.Forwards) : link.connect.Forwards := by
  obtain ⟨inner, streams, ⟨forwarded, received, consumerGone, phase⟩⟩ := link
  cases phase with
  | connecting =>
    obtain ⟨within, soFar⟩ := forwards
    have buffer : (inner.attachSubscriber forwarded streams).1.buffer = inner.buffer :=
      inner.buffer_attachSubscriber streams forwarded
    refine ⟨forwarded, MessageChannelInner.follows_attachSubscriber within, rfl, ?_, ?_⟩
    · change forwarded ≤ (inner.attachSubscriber forwarded streams).1.buffer.length
      rw [buffer]
      exact within
    · change received = (inner.attachSubscriber forwarded streams).1.buffer.take forwarded
      rw [buffer]
      exact soFar
  | _ => exact forwards

theorem Forwards.giveUp {link : Link} (forwards : link.Forwards) : link.giveUp.Forwards := by
  obtain ⟨inner, streams, ⟨forwarded, received, consumerGone, phase⟩⟩ := link
  cases phase with
  | connecting =>
    obtain ⟨-, soFar⟩ := forwards
    change received <+: inner.buffer
    rw [show received = inner.buffer.take forwarded from soFar]
    exact List.take_prefix _ _
  | _ => exact forwards

theorem Forwards.breaks {link : Link} (forwards : link.Forwards) (failed : Bool) :
    (link.breaks failed).Forwards := by
  obtain ⟨inner, streams, ⟨forwarded, received, consumerGone, phase⟩⟩ := link
  cases phase with
  | reading stream taken =>
    obtain ⟨-, -, -, within, soFar⟩ := forwards
    cases failed <;> exact ⟨within, soFar⟩
  | _ => exact forwards

theorem Forwards.dropConsumer {link : Link} (forwards : link.Forwards) :
    (link.step .dropConsumer).Forwards := by
  obtain ⟨inner, streams, ⟨forwarded, received, consumerGone, phase⟩⟩ := link
  cases phase <;> exact forwards

theorem Faithful.snoc {past : List LinkEvent} {link link' : Link} {event : LinkEvent}
    (faithful : link.Faithful past)
    (buffer : link'.inner.buffer =
      if link.inner.closed then link.inner.buffer
      else link.inner.buffer ++ LinkEvent.pushed [event])
    (closed : link'.inner.closed = (link.inner.closed || event.closes))
    (wired : link'.inner.Wired link'.streams) (forwards : link'.Forwards) :
    link'.Faithful (past ++ [event]) where
  buffer := by rw [buffer, LinkEvent.pushed_snoc, faithful.buffer, faithful.closed]
  closed := by
    rw [closed, faithful.closed, List.any_append]
    simp
  wired := wired
  forwards := forwards

/-- An event that leaves the channel alone. -/
theorem Faithful.rest {past : List LinkEvent} {link link' : Link} {event : LinkEvent}
    (faithful : link.Faithful past) (silent : LinkEvent.pushed [event] = [])
    (opened : event.closes = false) (inner : link'.inner = link.inner)
    (streams : link'.streams = link.streams) (forwards : link'.Forwards) :
    link'.Faithful (past ++ [event]) := by
  refine faithful.snoc ?_ ?_ ?_ forwards
  · rw [inner, silent, List.append_nil, ite_self]
  · rw [inner, opened, Bool.or_false]
  · rw [inner, streams]
    exact faithful.wired

theorem Faithful.step {past : List LinkEvent} {link : Link} (faithful : link.Faithful past)
    (event : LinkEvent) : (link.step event).Faithful (past ++ [event]) := by
  have wired := faithful.wired
  have forwards := faithful.forwards
  have attached : ∀ startOffset, (link.inner.attachSubscriber startOffset link.streams).1.buffer =
      if link.inner.closed then link.inner.buffer else link.inner.buffer ++ [] := by
    intro startOffset
    rw [link.inner.buffer_attachSubscriber, List.append_nil, ite_self]
  cases event with
  | push payload =>
    refine faithful.snoc (link.inner.buffer_push link.streams payload) ?_ (wired.push payload) ?_
    · exact (link.inner.closed_push link.streams payload).trans (Bool.or_false _).symm
    · refine forwards.withChannel (fun _ _ follows => follows.push wired payload) ?_ ?_
      · rw [link.inner.buffer_push]
        split
        · exact List.prefix_rfl
        · exact List.prefix_append _ _
      · intro closed
        rw [link.inner.buffer_push, if_pos closed]
        exact ⟨(link.inner.closed_push _ _).trans closed, rfl⟩
  | close now =>
    refine faithful.snoc ?_ ?_ (wired.close now) ?_
    · exact (link.inner.buffer_close link.streams now).trans
        (by rw [LinkEvent.pushed, List.append_nil, ite_self])
    · exact (link.inner.closed_close link.streams now).trans (Bool.or_true _).symm
    · refine forwards.withChannel (fun _ _ follows => follows.close wired now) ?_ ?_
      · rw [link.inner.buffer_close]
      · intro _
        exact ⟨link.inner.closed_close _ _, link.inner.buffer_close _ _⟩
  | attach startOffset =>
    refine faithful.snoc (attached startOffset) ?_ (wired.attachSubscriber startOffset) ?_
    · exact (link.inner.closed_attachSubscriber link.streams startOffset).trans
        (Bool.or_false _).symm
    · refine forwards.withChannel (fun _ _ follows => follows.attachSubscriber startOffset) ?_ ?_
      · rw [link.inner.buffer_attachSubscriber]
      · intro closed
        exact ⟨(link.inner.closed_attachSubscriber _ _).trans closed,
          link.inner.buffer_attachSubscriber _ _⟩
  | dropReceiver index =>
    refine faithful.snoc ?_ (Bool.or_false _).symm
      (wired.mono (Mailboxes.length_drop index link.streams).ge) ?_
    · change link.inner.buffer = if link.inner.closed then link.inner.buffer
        else link.inner.buffer ++ []
      rw [List.append_nil, ite_self]
    · exact forwards.withChannel (fun _ _ follows => follows.drop index) List.prefix_rfl
        fun closed => ⟨closed, rfl⟩
  | connect =>
    by_cases waiting : link.client.phase = .connecting
    · have served : link.connect = (link.withChannel (link.inner.attachSubscriber
          link.client.forwarded link.streams)).setPhase (.reading link.streams.length 0) := by
        simp only [Link.connect, waiting]
      have forwards' := forwards.connect
      rw [served] at forwards'
      change link.connect.Faithful _
      rw [served]
      exact faithful.snoc (attached _) ((link.inner.closed_attachSubscriber _ _).trans
        (Bool.or_false _).symm) (wired.attachSubscriber _) forwards'
    · have same : link.connect = link := by
        unfold Link.connect
        split
        · next connecting => exact absurd connecting waiting
        · rfl
      refine faithful.rest rfl rfl ?_ ?_ forwards.connect
      · exact congrArg Link.inner same
      · exact congrArg Link.streams same
  | giveUp =>
    refine faithful.rest rfl rfl ?_ ?_ forwards.giveUp
    · change link.giveUp.inner = _
      unfold Link.giveUp
      split <;> rfl
    · change link.giveUp.streams = _
      unfold Link.giveUp
      split <;> rfl
  | next =>
    refine faithful.rest rfl rfl ?_ ?_ forwards.next
    · change link.next.inner = _
      unfold Link.next
      split
      · split <;> rfl
      · rfl
    · change link.next.streams = _
      unfold Link.next
      split
      · split <;> rfl
      · rfl
  | breaks failed =>
    refine faithful.rest rfl rfl ?_ ?_ (forwards.breaks failed)
    · change (link.breaks failed).inner = _
      unfold Link.breaks
      split <;> rfl
    · change (link.breaks failed).streams = _
      unfold Link.breaks
      split <;> rfl
  | dropConsumer => exact faithful.rest rfl rfl rfl rfl forwards.dropConsumer

theorem reach_faithful (events : List LinkEvent) : (reach events).Faithful events := by
  refine run_invariant_always (fun past (link : Link) => link.Faithful past) ?_ ?_ events
  · refine ⟨rfl, rfl, MessageChannelInner.wired_empty [], ?_⟩
    exact ⟨le_rfl, rfl⟩
  · intro past link event faithful
    exact faithful.step event

end Link

/-- **Streams are delivered exactly once and in order.** For all events, what the
client has forwarded to its consumer is a prefix of the payloads pushed before
the channel was closed, and all of them once the client has stopped at the end
of the stream. -/
theorem streams_delivered_once (events : List LinkEvent) :
    (Link.reach events).client.received <+: LinkEvent.pushed events ∧
      ((Link.reach events).client.phase = .ended →
        (Link.reach events).client.received = LinkEvent.pushed events) := by
  obtain ⟨buffer, -, -, forwards⟩ := Link.reach_faithful events
  rw [← buffer]
  unfold Link.Forwards at forwards
  constructor
  · split at forwards
    · rw [forwards.2]
      exact List.take_prefix _ _
    · obtain ⟨offset, -, -, -, soFar⟩ := forwards
      rw [soFar]
      exact List.take_prefix _ _
    · rw [forwards.2]
    · exact forwards
  · intro ended
    rw [ended] at forwards
    exact forwards.2

-- The stream breaks after one payload; the next one is read after reconnecting.
example : (Link.reach [.push [1], .connect, .next, .push [2], .breaks true, .connect, .close 0,
    .next, .next]).client = ⟨2, [[1], [2]], false, .ended⟩ := by decide

end Sp1Cluster
