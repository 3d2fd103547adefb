import Sp1Cluster.Channels.Receivers
import Sp1Cluster.Coordinator.Closings

/-!
# Every message stream ends

An open entry is that of a task which can still send, or the section that holds
the lock has still to close it. An entry with subscribers is open, and a receiver
without the end of its stream is a subscriber. So the stream of a task that
cannot send any more has ended.
-/

set_option autoImplicit false

namespace Sp1Cluster

open Systems

/-! ## Tasks that can still send -/

namespace CoordinatorState

variable {P : Type} {state : CoordinatorState P} {taskId : String}

/-- A task with this identifier is stored in some proof and unfinished. -/
def Live (state : CoordinatorState P) (taskId : String) : Prop :=
  ∃ proofId, state.Alive (proofId, taskId)

theorem taskCanStillSend_iff : state.taskCanStillSend taskId = true ↔ state.Live taskId := by
  unfold taskCanStillSend
  rw [List.any_eq_true]
  constructor
  · rintro ⟨⟨proofId, proof⟩, member, sends⟩
    dsimp only at sends
    cases stored : proof.tasks.lookup taskId with
    | none =>
      rw [stored] at sends
      cases sends
    | some task =>
      rw [stored] at sends
      have found := Table.mem_entries_iff.mp member
      exact ⟨proofId, task, (taskOf.of_lookup found).trans stored, sends⟩
  · rintro ⟨proofId, task, stored, unfinished⟩
    obtain ⟨proof, found, inProof⟩ := taskOf.exists_of_eq_some stored
    refine ⟨⟨proofId, proof⟩, Table.mem_entries_iff.mpr found, ?_⟩
    dsimp only at inProof ⊢
    rw [inProof]
    exact unfinished

theorem live_iff : state.Live taskId ↔ ∃ proofId task, state.getTask proofId taskId = some task ∧
    task.status ≠ .succeeded ∧ task.status ≠ .failedFatal := by
  unfold Live Alive
  simp only [unfinished_iff]
  rfl

end CoordinatorState

namespace ChannelService

/-! ## Open entries -/

section Guarded

variable {P : Type} {service service' : ChannelService P} {taskId : String}

/-- An open entry is that of a task which can still send, or the section that
holds the lock has still to close it. -/
def Guarded (service : ChannelService P) : Prop :=
  ∀ taskId inner, service.taskChannels.lookup taskId = some inner → inner.closed = false →
    service.state.Live taskId ∨ taskId ∈ service.closing

namespace Guarded

theorem of_same (guarded : service.Guarded)
    (taskChannels : service'.taskChannels = service.taskChannels)
    (state : service'.state = service.state) (closing : service'.closing = service.closing) :
    service'.Guarded := by
  unfold Guarded
  rw [taskChannels, state, closing]
  exact guarded

theorem setEntry (guarded : service.Guarded) {result : MessageChannelInner × Streams}
    (same : result.1.closed = (service.openChannel taskId).closed)
    (known : taskId ∈ service.taskChannels ∨
      service.closing = [] ∧ service.state.taskCanStillSend taskId = true) :
    (service.setEntry taskId result).Guarded := by
  intro other inner found unclosed
  change (service.taskChannels.insert taskId result.1).lookup other = some inner at found
  rcases Table.lookup_insert_cases found with ⟨rfl, rfl⟩ | ⟨_, found⟩
  · rcases known with present | ⟨-, sends⟩
    · obtain ⟨entry, stored⟩ := Table.exists_lookup present
      rw [same, openChannel_of_lookup stored] at unclosed
      exact guarded other entry stored unclosed
    · exact .inl (CoordinatorState.taskCanStillSend_iff.mp sends)
  · exact guarded other inner found unclosed

theorem closeNext (guarded : service.Guarded) {first : String} {rest : List String}
    (waiting : service.closing = first :: rest) (closing : service'.closing = rest)
    (state : service'.state = service.state)
    (entries : ∀ taskId inner, service'.taskChannels.lookup taskId = some inner →
      inner.closed = false → taskId ≠ first ∧ service.taskChannels.lookup taskId = some inner) :
    service'.Guarded := by
  intro taskId inner found unclosed
  obtain ⟨different, stored⟩ := entries taskId inner found unclosed
  rw [state, closing]
  refine (guarded taskId inner stored unclosed).imp_right ?_
  rw [waiting]
  exact fun member => (List.mem_cons.mp member).resolve_left different

end Guarded

end Guarded

/-! ## Runs -/

section Runs

variable {P : Type} [LawfulPolicy P] {build : Build} {service : ChannelService P}
  {transit : Set TaskKey} {issued : Set String} {past : List Event}

/-- A section closes the entries of the tasks it ends. -/
theorem Guarded.call (guarded : service.Guarded)
    (sane : service.state.Sane build past transit issued) (event : Event)
    (fresh : Event.FreshIds (past ++ [event])) (free : service.closing = []) :
    Guarded { service with
      state := service.state.step build event
      closing := (service.state.step build event).outbox.flatMap
        (Effect.closedChannels (event.env.shuffle service.taskChannels.keys)) } := by
  intro taskId inner found unclosed
  have live : service.state.Live taskId := by
    refine (guarded taskId inner found unclosed).resolve_right ?_
    rw [free]
    exact List.not_mem_nil
  obtain ⟨proofId, alive⟩ := live
  have filed : LawfulPolicy.Filed service.state.clearOutbox.policy := sane.filed
  have followed : (service.state.step build event).Followed (proofId, taskId) :=
    CoordinatorState.exec_follows filed sane.sound alive event
      fun drawnId drawn member => fresh.drawn_fresh drawn (sane.issued_drawn drawnId member)
  refine followed.imp (fun still => ⟨proofId, still⟩) fun closed => ?_
  exact List.mem_flatMap.mpr ⟨_, closed, List.mem_singleton_self _⟩

theorem Guarded.step (guarded : service.Guarded)
    (sane : service.state.Sane build past transit issued) (event : ChannelEvent)
    (fresh : Event.FreshIds (past ++ ChannelEvent.calls [event])) :
    (service.step build event).Guarded := by
  have change := step_change build service event
  generalize service.step build event = next at change ⊢
  cases change with
  | call event free => exact guarded.call sane event fresh free
  | skip waiting absent =>
    refine guarded.closeNext waiting rfl rfl fun taskId inner found _ => ⟨?_, found⟩
    rintro rfl
    exact absent (Table.mem_of_lookup found)
  | @close _ first _ now waiting present =>
    refine guarded.closeNext waiting rfl rfl ?_
    intro taskId inner found unclosed
    change (service.taskChannels.insert first _).lookup taskId = some inner at found
    rcases Table.lookup_insert_cases found with ⟨_, rfl⟩ | ⟨different, found⟩
    · rw [MessageChannelInner.closed_close] at unclosed
      cases unclosed
    · exact ⟨different, found⟩
  | push payload sending known =>
    have waiting : Guarded { service with sending := sending } := guarded.of_same rfl rfl rfl
    exact waiting.setEntry (MessageChannelInner.closed_push ..) known
  | attach startOffset subscribing known =>
    have waiting : Guarded { service with subscribing := subscribing } :=
      guarded.of_same rfl rfl rfl
    exact waiting.setEntry (MessageChannelInner.closed_attachSubscriber ..) known
  | collect =>
    exact fun taskId inner found => guarded taskId inner (Table.lookup_of_erase found)
  | wait | ended | drop => exact guarded.of_same rfl rfl rfl

theorem state_step (build : Build) (service : ChannelService P) (event : ChannelEvent) :
    (service.step build event).state = service.state ∨
      ∃ call, event = .call call ∧
        (service.step build event).state = service.state.step build call := by
  have change := step_change build service event
  generalize service.step build event = next at change ⊢
  cases change with
  | call event => exact .inr ⟨event, rfl, rfl⟩
  | _ => exact .inl rfl

/-- What holds of the channels after every run. -/
structure Tended (build : Build) (past : List ChannelEvent) (service : ChannelService P) :
    Prop where
  sane : ∃ transit issued,
    service.state.Sane build (ChannelEvent.calls past) transit issued
  attended : service.Attended
  guarded : service.Guarded

theorem reach_tended (events : List ChannelEvent)
    (fresh : Event.FreshIds (ChannelEvent.calls events)) :
    (reach P build events).Tended build events := by
  refine run_invariant_always (fun past (service : ChannelService P) =>
    Event.FreshIds (ChannelEvent.calls past) → service.Tended build past) ?_ ?_ events fresh
  · intro _
    refine ⟨⟨∅, ∅, CoordinatorState.sane_new⟩, .new, ?_⟩
    intro taskId inner found
    cases found
  · intro past service event ih freshNow
    rw [ChannelEvent.calls_append] at freshNow
    obtain ⟨⟨transit, issued, sane⟩, attended, guarded⟩ := ih freshNow.of_append
    refine ⟨?_, attended.step build event, guarded.step sane event freshNow⟩
    rw [ChannelEvent.calls_append]
    rcases state_step build service event with same | ⟨call, isCall, stepped⟩
    · rw [same]
      exact ⟨transit, issued, sane.mono _⟩
    · rw [stepped]
      rw [isCall] at freshNow ⊢
      obtain ⟨transit', issued', sane', -⟩ := sane.step call freshNow
      exact ⟨transit', issued', sane'⟩

/-- No stream hangs: every open entry is that of a stored task that is neither
succeeded nor failed for good; a stream has at most one end and nothing after it;
and it has one when its task is succeeded, failed for good or removed. While a
section is closing entries, those it has still to close are excepted; a dropped
receiver is sent nothing. -/
structure NoStreamHangs (service : ChannelService P) : Prop where
  opened : ∀ taskId inner, service.taskChannels.lookup taskId = some inner →
    inner.closed = false → taskId ∉ service.closing →
      ∃ proofId task, service.state.getTask proofId taskId = some task ∧
        task.status ≠ .succeeded ∧ task.status ≠ .failedFatal
  once : ∀ index, (service.streams.sentTo index).count endOfStreamResponse ≤ 1
  last : ∀ index before after,
    service.streams.sentTo index = before ++ endOfStreamResponse :: after → after = []
  ended : ∀ index taskId, service.owners[index]? = some taskId →
    service.streams.isLive index = true → taskId ∉ service.closing →
      (∀ proofId task, service.state.getTask proofId taskId = some task →
        task.status = .succeeded ∨ task.status = .failedFatal) →
      (service.streams.sentTo index).count endOfStreamResponse = 1

theorem Tended.noStreamHangs {past : List ChannelEvent} (tended : service.Tended build past) :
    service.NoStreamHangs where
  opened taskId inner found unclosed settled :=
    CoordinatorState.live_iff.mp ((tended.guarded taskId inner found unclosed).resolve_right settled)
  once index := (tended.attended.endsOnce index).count_le
  last index _ _ split := (tended.attended.endsOnce index).nothing_after split
  ended index taskId owner live settled final := by
    by_contra differs
    have unended : endOfStreamResponse ∉ service.streams.sentTo index := by
      intro member
      have some := List.count_pos_iff.mpr member
      have atMost := (tended.attended.endsOnce index).count_le
      omega
    have subscribed := tended.attended.listening index taskId owner live unended
    cases found : service.taskChannels.lookup taskId with
    | none =>
      unfold openChannel at subscribed
      rw [found] at subscribed
      cases subscribed
    | some inner =>
      rw [openChannel_of_lookup found] at subscribed
      have unclosed : inner.closed = false := by
        by_contra closed
        rw [Bool.not_eq_false] at closed
        have wired := tended.attended.wired taskId
        rw [openChannel_of_lookup found] at wired
        rw [wired.closed closed] at subscribed
        cases subscribed
      obtain ⟨proofId, task, stored, notSucceeded, notFatal⟩ := CoordinatorState.live_iff.mp
        ((tended.guarded taskId inner found unclosed).resolve_right settled)
      exact (final proofId task stored).elim notSucceeded notFatal

end Runs

end ChannelService

/-- A task is subscribed to, sends a message and completes. -/
def streamedShard : List ChannelEvent :=
  oneShard.map .call ++ [.subscribe "u" 0, .subscribeLocked 0, .send "u" [7],
    .call ((Call.completeTask "g" "p" "u" ⟨0⟩).plain ""), .closeNext 0]

end Sp1Cluster
