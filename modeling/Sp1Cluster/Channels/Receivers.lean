import Sp1Cluster.Channels.Service
import Mathlib.Data.List.Count

/-!
# Receivers and subscribers

A stream is a list of payloads, and at most one end after them. A receiver that
has not got its end is a subscriber of the entry of its task. An operation on an
entry sends something only to its subscribers, and takes a receiver that is still
there off the list only when its stream has ended.
-/

set_option autoImplicit false

namespace Sp1Cluster

open Systems

/-! ## Streams with one end -/

/-- Payloads, and at most one end after them. -/
def EndsOnce (messages : List MessageStreamResponse) : Prop :=
  ∃ payloads : List Payload, messages = payloads.map payloadResponse ∨
    messages = payloads.map payloadResponse ++ [endOfStreamResponse]

theorem endOfStream_notMem_payloads (payloads : List Payload) :
    endOfStreamResponse ∉ payloads.map payloadResponse := by
  intro member
  obtain ⟨payload, -, isEnd⟩ := List.mem_map.mp member
  exact payloadResponse_ne_endOfStream payload isEnd

namespace EndsOnce

variable {messages : List MessageStreamResponse}

variable (endsOnce : EndsOnce messages)
include endsOnce

theorem payloads (unended : endOfStreamResponse ∉ messages) :
    ∃ payloads : List Payload, messages = payloads.map payloadResponse := by
  obtain ⟨payloads, rfl | rfl⟩ := endsOnce
  · exact ⟨payloads, rfl⟩
  · simp at unended

theorem push (unended : endOfStreamResponse ∉ messages) (payload : Payload) :
    EndsOnce (messages ++ [payloadResponse payload]) := by
  obtain ⟨payloads, rfl⟩ := endsOnce.payloads unended
  exact ⟨payloads ++ [payload], .inl (by simp)⟩

theorem close (unended : endOfStreamResponse ∉ messages) :
    EndsOnce (messages ++ [endOfStreamResponse]) := by
  obtain ⟨payloads, rfl⟩ := endsOnce.payloads unended
  exact ⟨payloads, .inr rfl⟩

theorem count_le : messages.count endOfStreamResponse ≤ 1 := by
  obtain ⟨payloads, rfl | rfl⟩ := endsOnce
  · rw [List.count_eq_zero_of_not_mem (endOfStream_notMem_payloads payloads)]
    exact Nat.zero_le _
  · rw [List.count_append, List.count_eq_zero_of_not_mem (endOfStream_notMem_payloads payloads)]
    simp

theorem nothing_after {before after : List MessageStreamResponse}
    (split : messages = before ++ endOfStreamResponse :: after) : after = [] := by
  obtain ⟨payloads, rfl | rfl⟩ := endsOnce
  · have member : endOfStreamResponse ∈ payloads.map payloadResponse := by
      rw [split]
      simp
    exact absurd member (endOfStream_notMem_payloads payloads)
  · rcases List.eq_nil_or_concat after with rfl | ⟨front, last, rfl⟩
    · rfl
    · have regrouped : payloads.map payloadResponse ++ [endOfStreamResponse] =
          (before ++ endOfStreamResponse :: front) ++ [last] := by
        simpa using split
      obtain ⟨same, -⟩ := List.append_inj' regrouped rfl
      have member : endOfStreamResponse ∈ payloads.map payloadResponse := by
        rw [same]
        simp
      exact absurd member (endOfStream_notMem_payloads payloads)

end EndsOnce

/-! ## Operations on one entry -/

namespace MessageChannelInner

variable {inner : MessageChannelInner} {streams : Streams}

/-- What an operation on an entry that returns no receiver does to the receivers:
only subscribers are sent anything, they keep being subscribers until their
stream ends, and it ends at most once. -/
structure Continues (inner : MessageChannelInner) (streams : Streams)
    (result : MessageChannelInner × Streams) : Prop where
  length : result.2.length = streams.length
  live : ∀ index, result.2.isLive index = streams.isLive index
  others : ∀ index, index ∉ inner.subscribers → result.2.sentTo index = streams.sentTo index
  endsOnce : ∀ index ∈ inner.subscribers, endOfStreamResponse ∉ streams.sentTo index →
    EndsOnce (streams.sentTo index) → EndsOnce (result.2.sentTo index)
  older : ∀ index ∈ result.1.subscribers, index ∈ inner.subscribers
  unended : ∀ index ∈ result.1.subscribers, endOfStreamResponse ∉ streams.sentTo index →
    endOfStreamResponse ∉ result.2.sentTo index
  kept : ∀ index ∈ inner.subscribers, streams.isLive index = true →
    endOfStreamResponse ∉ result.2.sentTo index → index ∈ result.1.subscribers

theorem continues_refl (inner : MessageChannelInner) (streams : Streams) :
    Continues inner streams (inner, streams) where
  length := rfl
  live _ := rfl
  others _ _ := rfl
  endsOnce _ _ _ endsOnce := endsOnce
  older _ member := member
  unended _ _ unended := unended
  kept _ member _ _ := member

theorem Wired.continues_push (wired : inner.Wired streams) (payload : Payload) :
    Continues inner streams (inner.push payload streams) := by
  unfold MessageChannelInner.push
  split
  · exact continues_refl inner streams
  · have sent := Mailboxes.sentTo_retainLive (payloadResponse payload) wired.distinct streams
    dsimp only
    refine ⟨Mailboxes.length_retainLive .., fun _ => Mailboxes.isLive_retainLive .., ?_, ?_, ?_, ?_,
      ?_⟩
    · intro index absent
      rw [sent, if_neg fun listed => absent listed.1]
    · intro index _ unended endsOnce
      rw [sent]
      split
      · exact endsOnce.push unended payload
      · exact endsOnce
    · intro index member
      rw [Mailboxes.retainLive_fst] at member
      exact List.mem_of_mem_filter member
    · intro index _ unended
      rw [sent]
      split
      · rw [List.mem_append, List.mem_singleton]
        rintro (before | isEnd)
        · exact unended before
        · exact payloadResponse_ne_endOfStream payload isEnd.symm
      · exact unended
    · intro index member live _
      rw [Mailboxes.retainLive_fst]
      exact List.mem_filter.mpr ⟨member, live⟩

theorem Wired.continues_close (wired : inner.Wired streams) (now : ℕ) :
    Continues inner streams (inner.close now streams) := by
  unfold MessageChannelInner.close
  split
  · exact continues_refl inner streams
  · have sent := Mailboxes.sentTo_retainLive endOfStreamResponse wired.distinct streams
    refine ⟨Mailboxes.length_retainLive .., fun _ => Mailboxes.isLive_retainLive .., ?_, ?_, ?_, ?_,
      ?_⟩
    · intro index absent
      rw [sent, if_neg fun listed => absent listed.1]
    · intro index _ unended endsOnce
      rw [sent]
      split
      · exact endsOnce.close unended
      · exact endsOnce
    · intro index member
      cases member
    · intro index member
      cases member
    · intro index member live unended
      rw [sent, if_pos ⟨member, live⟩] at unended
      simp at unended

/-- An entry that was closed at some time is closed. -/
def Dated (inner : MessageChannelInner) : Prop := inner.closedAt ≠ none → inner.closed = true

theorem Dated.push (dated : inner.Dated) (payload : Payload) (streams : Streams) :
    (inner.push payload streams).1.Dated := by
  unfold MessageChannelInner.push
  split <;> exact dated

theorem Dated.attachSubscriber (dated : inner.Dated) (startOffset : ℕ) (streams : Streams) :
    (inner.attachSubscriber startOffset streams).1.Dated := by
  unfold MessageChannelInner.attachSubscriber
  dsimp only
  split <;> exact dated

theorem dated_close (inner : MessageChannelInner) (now : ℕ) (streams : Streams) :
    (inner.close now streams).1.Dated :=
  fun _ => inner.closed_close streams now

end MessageChannelInner

namespace ChannelService

open MessageChannelInner

/-! ## What an event changes -/

section Changes

variable {P : Type} {service : ChannelService P} {taskId : String}

theorem openChannel_of_lookup {inner : MessageChannelInner}
    (found : service.taskChannels.lookup taskId = some inner) :
    service.openChannel taskId = inner := by
  simp [openChannel, found]

/-- What an event does. It runs a section of the coordinator, lets the running section close an
entry, works on an entry, collects one, or returns or drops a receiver. An operation finds its
entry, or creates it under the lock for a task that can still send. -/
inductive Change [AssignmentPolicy P] (build : Build) (service : ChannelService P) :
    ChannelEvent → ChannelService P → Prop where
  | wait {event : ChannelEvent} (sending : List SendRequest)
      (subscribing : List SubscribeRequest) :
      Change build service event
        { service with sending := sending, subscribing := subscribing }
  | call (event : Event) (free : service.closing = []) :
      Change build service (.call event) { service with
        state := service.state.step build event
        closing := (service.state.step build event).outbox.flatMap
          (Effect.closedChannels (event.env.shuffle service.taskChannels.keys)) }
  | skip {event : ChannelEvent} {taskId : String} {rest : List String}
      (waiting : service.closing = taskId :: rest) (absent : taskId ∉ service.taskChannels) :
      Change build service event { service with closing := rest }
  | close {event : ChannelEvent} {taskId : String} {rest : List String} (now : ℕ)
      (waiting : service.closing = taskId :: rest) (present : taskId ∈ service.taskChannels) :
      Change build service event (({ service with closing := rest }).setEntry taskId
        ((service.openChannel taskId).close now service.streams))
  | push {event : ChannelEvent} {taskId : String} (payload : Payload) (sending : List SendRequest)
      (known : taskId ∈ service.taskChannels ∨
        service.closing = [] ∧ service.state.taskCanStillSend taskId = true) :
      Change build service event (({ service with sending := sending }).setEntry taskId
        ((service.openChannel taskId).push payload service.streams))
  | attach {event : ChannelEvent} {taskId : String} (startOffset : ℕ)
      (subscribing : List SubscribeRequest)
      (known : taskId ∈ service.taskChannels ∨
        service.closing = [] ∧ service.state.taskCanStillSend taskId = true) :
      Change build service event ((({ service with subscribing := subscribing }).setEntry taskId
        ((service.openChannel taskId).attachSubscriber startOffset service.streams)).grant taskId)
  | ended {event : ChannelEvent} (taskId : String) (subscribing : List SubscribeRequest) :
      Change build service event (({ service with
        subscribing := subscribing
        streams := Mailboxes.create [endOfStreamResponse] service.streams }).grant taskId)
  | collect {event : ChannelEvent} {taskId : String}
      (closed : (service.openChannel taskId).closedAt ≠ none) :
      Change build service event
        { service with taskChannels := service.taskChannels.erase taskId }
  | drop {event : ChannelEvent} (index : ℕ) :
      Change build service event (service.dropReceiver index)

theorem step_change [AssignmentPolicy P] (build : Build) (service : ChannelService P)
    (event : ChannelEvent) : Change build service event (service.step build event) := by
  cases event with
  | call event =>
    change Change build service _ (service.call build event)
    unfold call
    split
    · next free => exact .call event (List.isEmpty_iff.mp free)
    · exact .wait service.sending service.subscribing
  | closeNext now =>
    change Change build service _ (service.closeNext now)
    unfold closeNext
    split
    · exact .wait service.sending service.subscribing
    · next waiting =>
      dsimp only
      split
      · next absent => exact .skip waiting (AList.lookup_eq_none.mp absent)
      · next found =>
        rw [← openChannel_of_lookup found]
        exact .close now waiting (Table.mem_of_lookup found)
  | send taskId payload =>
    change Change build service _ (service.send taskId payload)
    unfold send
    split
    · next found =>
      rw [← openChannel_of_lookup found]
      exact .push payload service.sending (.inl (Table.mem_of_lookup found))
    · exact .wait _ service.subscribing
  | sendLocked index =>
    change Change build service _ (service.sendLocked index)
    unfold sendLocked
    split
    · next free =>
      split
      · exact .wait service.sending service.subscribing
      · next request _ =>
        unfold sendUnderLock
        split
        · next found =>
          rw [← openChannel_of_lookup found]
          exact .push request.payload _ (.inl (Table.mem_of_lookup found))
        · split
          · next sends =>
            exact .push request.payload _ (.inr ⟨List.isEmpty_iff.mp free, sends⟩)
          · exact .wait _ service.subscribing
    · exact .wait service.sending service.subscribing
  | subscribe taskId startOffset =>
    change Change build service _ (service.subscribe taskId startOffset)
    unfold subscribe
    split
    · next found =>
      rw [← openChannel_of_lookup found]
      exact .attach startOffset service.subscribing (.inl (Table.mem_of_lookup found))
    · exact .wait service.sending _
  | subscribeLocked index =>
    change Change build service _ (service.subscribeLocked index)
    unfold subscribeLocked
    split
    · next free =>
      split
      · exact .wait service.sending service.subscribing
      · next request _ =>
        dsimp only
        split
        · next found =>
          rw [← openChannel_of_lookup found]
          exact .attach request.startOffset _ (.inl (Table.mem_of_lookup found))
        · split
          · next sends =>
            exact .attach request.startOffset _
              (.inr ⟨List.isEmpty_iff.mp free, sends⟩)
          · exact .ended request.taskId _
    · exact .wait service.sending service.subscribing
  | collect taskId now =>
    change Change build service _ (service.collect taskId now)
    unfold collect
    split
    · exact .wait service.sending service.subscribing
    · next found =>
      split
      · exact .wait service.sending service.subscribing
      · next marked =>
        split
        · refine .collect ?_
          rw [openChannel_of_lookup found, marked]
          exact Option.some_ne_none _
        · exact .wait service.sending service.subscribing
  | dropReceiver index => exact .drop index

end Changes

section Attended

variable {P : Type} {service service' : ChannelService P} {taskId : String}

/-! ## Receivers and entries -/

theorem openChannel_setEntry (taskId : String) (result : MessageChannelInner × Streams)
    (other : String) :
    (service.setEntry taskId result).openChannel other =
      if other = taskId then result.1 else service.openChannel other := by
  unfold openChannel setEntry
  dsimp only
  rw [Table.lookup_insert_eq]
  split <;> rfl

/-- The receivers that have not got the end of their stream are the subscribers of
the entries of their tasks. -/
structure Attended (service : ChannelService P) : Prop where
  owned : service.owners.length = service.streams.length
  wired : ∀ taskId, (service.openChannel taskId).Wired service.streams
  dated : ∀ taskId, (service.openChannel taskId).Dated
  endsOnce : ∀ index, EndsOnce (service.streams.sentTo index)
  subscriber : ∀ taskId, ∀ index ∈ (service.openChannel taskId).subscribers,
    service.owners[index]? = some taskId ∧
      endOfStreamResponse ∉ service.streams.sentTo index
  listening : ∀ index taskId, service.owners[index]? = some taskId →
    service.streams.isLive index = true →
      endOfStreamResponse ∉ service.streams.sentTo index →
        index ∈ (service.openChannel taskId).subscribers

namespace Attended

theorem new [AssignmentPolicy P] : (ChannelService.new : ChannelService P).Attended where
  owned := rfl
  wired _ := wired_empty []
  dated _ isClosed := absurd rfl isClosed
  endsOnce _ := ⟨[], .inl rfl⟩
  subscriber _ _ member := by cases member
  listening index taskId owner := by cases owner

variable (attended : service.Attended)
include attended

theorem of_subscribers (subscribers : ∀ taskId,
      (service'.openChannel taskId).subscribers = (service.openChannel taskId).subscribers)
    (wired : ∀ taskId, (service'.openChannel taskId).Wired service'.streams)
    (dated : ∀ taskId, (service'.openChannel taskId).Dated)
    (streams : service'.streams = service.streams) (owners : service'.owners = service.owners) :
    service'.Attended where
  owned := by
    rw [streams, owners]
    exact attended.owned
  wired := wired
  dated := dated
  endsOnce := by
    rw [streams]
    exact attended.endsOnce
  subscriber taskId := by
    rw [subscribers, streams, owners]
    exact attended.subscriber taskId
  listening index taskId := by
    rw [subscribers, streams, owners]
    exact attended.listening index taskId

theorem of_same (taskChannels : service'.taskChannels = service.taskChannels)
    (streams : service'.streams = service.streams) (owners : service'.owners = service.owners) :
    service'.Attended := by
  have entries : ∀ taskId, service'.openChannel taskId = service.openChannel taskId := by
    intro taskId
    unfold openChannel
    rw [taskChannels]
  refine attended.of_subscribers (fun taskId => by rw [entries]) ?_ ?_ streams owners
  · intro taskId
    rw [entries, streams]
    exact attended.wired taskId
  · intro taskId
    rw [entries]
    exact attended.dated taskId

theorem notMem_of_ne {index : ℕ} {other : String}
    (member : index ∈ (service.openChannel other).subscribers) (different : other ≠ taskId) :
    index ∉ (service.openChannel taskId).subscribers := by
  intro here
  have first := (attended.subscriber other index member).1
  have second := (attended.subscriber taskId index here).1
  exact different (Option.some.inj (first.symm.trans second))

theorem setEntry {result : MessageChannelInner × Streams}
    (continues : (service.openChannel taskId).Continues service.streams result)
    (wired : result.1.Wired result.2) (dated : result.1.Dated) :
    (service.setEntry taskId result).Attended where
  owned := attended.owned.trans continues.length.symm
  wired other := by
    rw [openChannel_setEntry]
    split
    · exact wired
    · exact (attended.wired other).mono continues.length.ge
  dated other := by
    rw [openChannel_setEntry]
    split
    · exact dated
    · exact attended.dated other
  endsOnce index := by
    change EndsOnce (result.2.sentTo index)
    by_cases member : index ∈ (service.openChannel taskId).subscribers
    · exact continues.endsOnce index member (attended.subscriber taskId index member).2
        (attended.endsOnce index)
    · rw [continues.others index member]
      exact attended.endsOnce index
  subscriber other index member := by
    change service.owners[index]? = some other ∧ endOfStreamResponse ∉ result.2.sentTo index
    rw [openChannel_setEntry] at member
    split at member
    · next same =>
      obtain ⟨owner, unended⟩ := attended.subscriber taskId index (continues.older index member)
      rw [same]
      exact ⟨owner, continues.unended index member unended⟩
    · next different =>
      obtain ⟨owner, unended⟩ := attended.subscriber other index member
      rw [continues.others index (attended.notMem_of_ne member different)]
      exact ⟨owner, unended⟩
  listening index other owner live unended := by
    change service.owners[index]? = some other at owner
    change result.2.isLive index = true at live
    change endOfStreamResponse ∉ result.2.sentTo index at unended
    rw [continues.live] at live
    rw [openChannel_setEntry]
    split
    · next same =>
      rw [same] at owner
      by_cases member : index ∈ (service.openChannel taskId).subscribers
      · exact continues.kept index member live unended
      · rw [continues.others index member] at unended
        exact absurd (attended.listening index taskId owner live unended) member
    · next different =>
      by_cases member : index ∈ (service.openChannel taskId).subscribers
      · have isTask := (attended.subscriber taskId index member).1
        exact absurd (Option.some.inj (owner.symm.trans isTask)) different
      · rw [continues.others index member] at unended
        exact attended.listening index other owner live unended

theorem granted {initial : List MessageStreamResponse} (endsOnce : EndsOnce initial)
    (streams : service'.streams = Mailboxes.create initial service.streams)
    (owners : service'.owners = service.owners ++ [taskId])
    (wired : ∀ other, (service'.openChannel other).Wired service'.streams)
    (dated : ∀ other, (service'.openChannel other).Dated)
    (subscribers : ∀ other, (service'.openChannel other).subscribers =
      if other = taskId ∧ endOfStreamResponse ∉ initial then
      (service.openChannel other).subscribers ++ [service.streams.length]
      else (service.openChannel other).subscribers) : service'.Attended := by
  have owner : ∀ index, service'.owners[index]? =
      if index = service.streams.length then some taskId else service.owners[index]? := by
    intro index
    rw [owners, ← attended.owned]
    rcases Nat.lt_trichotomy index service.owners.length with before | rfl | after
    · rw [List.getElem?_append_left before, if_neg before.ne]
    · simp
    · rw [if_neg after.ne', List.getElem?_eq_none (by simp; omega),
        List.getElem?_eq_none after.le]
  have sent : ∀ index, service'.streams.sentTo index =
      if index = service.streams.length then initial else service.streams.sentTo index := by
    rw [streams]
    exact Mailboxes.sentTo_create initial service.streams
  have older : ∀ other, ∀ index ∈ (service.openChannel other).subscribers,
      index ≠ service.streams.length :=
    fun other index member => ((attended.wired other).present index member).ne
  refine ⟨?_, wired, dated, ?_, ?_, ?_⟩
  · rw [streams, owners, Mailboxes.length_create, List.length_append, attended.owned]
    rfl
  · intro index
    rw [sent]
    split
    · exact endsOnce
    · exact attended.endsOnce index
  · intro other index member
    rw [owner, sent]
    have before : index ∈ (service.openChannel other).subscribers →
        (if index = service.streams.length then some taskId else service.owners[index]?) =
            some other ∧
          endOfStreamResponse ∉
            if index = service.streams.length then initial else service.streams.sentTo index := by
      intro here
      rw [if_neg (older other index here), if_neg (older other index here)]
      exact attended.subscriber other index here
    rw [subscribers] at member
    split at member
    · next new =>
      rcases List.mem_append.mp member with here | isNew
      · exact before here
      · rw [if_pos (List.mem_singleton.mp isNew), if_pos (List.mem_singleton.mp isNew)]
        exact ⟨congrArg some new.1.symm, new.2⟩
    · exact before member
  · intro index other isOwner live unended
    rw [owner] at isOwner
    rw [sent] at unended
    rw [subscribers]
    by_cases new : index = service.streams.length
    · rw [if_pos new] at isOwner unended
      rw [if_pos ⟨(Option.some.inj isOwner).symm, unended⟩, new]
      simp
    · rw [if_neg new] at isOwner unended
      have wasLive : service.streams.isLive index = true := by
        rw [streams, Mailboxes.isLive_create, if_neg new] at live
        exact live
      have here := attended.listening index other isOwner wasLive unended
      split
      · exact List.mem_append_left _ here
      · exact here

theorem attachSubscriber (startOffset : ℕ) :
    ((service.setEntry taskId ((service.openChannel taskId).attachSubscriber startOffset
      service.streams)).grant taskId).Attended := by
  let inner := service.openChannel taskId
  let replay := (inner.buffer.drop startOffset).map payloadResponse
  have unended : endOfStreamResponse ∉ replay := endOfStream_notMem_payloads _
  have entry : ∀ other, ((service.setEntry taskId (inner.attachSubscriber startOffset
      service.streams)).grant taskId).openChannel other =
        if other = taskId then (inner.attachSubscriber startOffset service.streams).1
        else service.openChannel other :=
    openChannel_setEntry taskId (inner.attachSubscriber startOffset service.streams)
  have longer : service.streams.length ≤
      (inner.attachSubscriber startOffset service.streams).2.length := by
    unfold MessageChannelInner.attachSubscriber
    dsimp only
    split <;> simp
  have wired : ∀ other, (((service.setEntry taskId (inner.attachSubscriber startOffset
      service.streams)).grant taskId).openChannel other).Wired
        (inner.attachSubscriber startOffset service.streams).2 := by
    intro other
    rw [entry]
    split
    · exact (attended.wired taskId).attachSubscriber startOffset
    · exact (attended.wired other).mono longer
  have dated : ∀ other, (((service.setEntry taskId (inner.attachSubscriber startOffset
      service.streams)).grant taskId).openChannel other).Dated := by
    intro other
    rw [entry]
    split
    · exact (attended.dated taskId).attachSubscriber startOffset service.streams
    · exact attended.dated other
  by_cases closed : inner.closed = true
  · have result : inner.attachSubscriber startOffset service.streams =
        (inner, Mailboxes.create (replay ++ [endOfStreamResponse]) service.streams) := by
      simp [MessageChannelInner.attachSubscriber, closed, replay]
    refine attended.granted ⟨_, .inr rfl⟩ (congrArg Prod.snd result) rfl wired dated ?_
    intro other
    have atEnd : ¬ (other = taskId ∧ endOfStreamResponse ∉
        List.map payloadResponse (inner.buffer.drop startOffset) ++ [endOfStreamResponse]) :=
      fun both => both.2 (by simp)
    rw [entry, result, if_neg atEnd]
    split
    · next same => rw [same]
    · rfl
  · have result : inner.attachSubscriber startOffset service.streams =
        ({ inner with subscribers := inner.subscribers ++ [service.streams.length] },
          Mailboxes.create replay service.streams) := by
      simp [MessageChannelInner.attachSubscriber, closed, replay]
    refine attended.granted ⟨_, .inl rfl⟩ (congrArg Prod.snd result) rfl wired dated ?_
    intro other
    rw [entry, result]
    by_cases same : other = taskId
    · rw [if_pos same, if_pos ⟨same, unended⟩, same]
    · rw [if_neg same, if_neg fun both => same both.1]

theorem ended (taskId : String) :
    (({ service with
      streams := Mailboxes.create [endOfStreamResponse] service.streams }).grant
        taskId).Attended := by
  refine attended.granted ⟨[], .inr rfl⟩ rfl rfl ?_ attended.dated ?_
  · intro other
    exact (attended.wired other).mono (by simp [grant])
  · intro other
    rw [if_neg fun both => both.2 (by simp)]
    rfl

theorem push (taskId : String) (payload : Payload) :
    (service.setEntry taskId
      ((service.openChannel taskId).push payload service.streams)).Attended :=
  attended.setEntry ((attended.wired taskId).continues_push payload)
    ((attended.wired taskId).push payload) ((attended.dated taskId).push payload service.streams)

theorem close (taskId : String) (now : ℕ) :
    (service.setEntry taskId ((service.openChannel taskId).close now service.streams)).Attended :=
  attended.setEntry ((attended.wired taskId).continues_close now)
    ((attended.wired taskId).close now) (dated_close _ now service.streams)

theorem erase (closed : (service.openChannel taskId).closed = true) :
    Attended { service with taskChannels := service.taskChannels.erase taskId } := by
  have entry : ∀ other, openChannel other { service with
      taskChannels := service.taskChannels.erase taskId } =
        if other = taskId then .empty else service.openChannel other := by
    intro other
    unfold openChannel
    rw [Table.lookup_erase_eq]
    split <;> rfl
  refine attended.of_subscribers ?_ ?_ ?_ rfl rfl
  · intro other
    rw [entry]
    split
    · next same =>
      rw [same, (attended.wired taskId).closed closed]
      rfl
    · rfl
  · intro other
    rw [entry]
    split
    · exact wired_empty service.streams
    · exact attended.wired other
  · intro other
    rw [entry]
    split
    · exact fun isClosed => absurd rfl isClosed
    · exact attended.dated other

theorem dropReceiver (index : ℕ) : (service.dropReceiver index).Attended where
  owned := by
    change service.owners.length = (Mailboxes.drop index service.streams).length
    rw [Mailboxes.length_drop]
    exact attended.owned
  wired taskId := (attended.wired taskId).mono (Mailboxes.length_drop index service.streams).ge
  dated := attended.dated
  endsOnce other := by
    change EndsOnce ((Mailboxes.drop index service.streams).sentTo other)
    rw [Mailboxes.sentTo_drop]
    exact attended.endsOnce other
  subscriber taskId other member := by
    change _ ∧ endOfStreamResponse ∉ (Mailboxes.drop index service.streams).sentTo other
    rw [Mailboxes.sentTo_drop]
    exact attended.subscriber taskId other member
  listening other taskId owner live unended := by
    change endOfStreamResponse ∉ (Mailboxes.drop index service.streams).sentTo other at unended
    rw [Mailboxes.sentTo_drop] at unended
    exact attended.listening other taskId owner (Mailboxes.isLive_of_isLive_drop live) unended

theorem step [AssignmentPolicy P] (build : Build) (event : ChannelEvent) :
    (service.step build event).Attended := by
  have change := step_change build service event
  generalize service.step build event = next at change ⊢
  cases change with
  | wait | call | skip => exact attended.of_same rfl rfl rfl
  | @close _ taskId rest now =>
    have waiting : Attended { service with closing := rest } := attended.of_same rfl rfl rfl
    exact waiting.close taskId now
  | @push _ taskId payload sending =>
    have waiting : Attended { service with sending := sending } := attended.of_same rfl rfl rfl
    exact waiting.push taskId payload
  | attach startOffset subscribing =>
    have waiting : Attended { service with subscribing := subscribing } :=
      attended.of_same rfl rfl rfl
    exact waiting.attachSubscriber startOffset
  | ended taskId subscribing =>
    have waiting : Attended { service with subscribing := subscribing } :=
      attended.of_same rfl rfl rfl
    exact waiting.ended taskId
  | @collect _ taskId closed => exact attended.erase (attended.dated taskId closed)
  | drop index => exact attended.dropReceiver index

end Attended

end Attended

end ChannelService

end Sp1Cluster
