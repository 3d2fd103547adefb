import Sp1Cluster.Channels.Endings
import Sp1Cluster.Coordinator.LifeCycle
import Sp1Cluster.Coordinator.Verdicts

/-!
# Messages of live tasks are kept

A message is handled when its entry is found, or when it gets the lock. It is
kept if the entry is open. A section under the lock closes the entries of tasks
that end, and these tasks stay ended; but a failure report that sends a task back
to its queue closes its entry too, and until the entry is collected the messages
of the next run of the task are dropped.
-/

set_option autoImplicit false

namespace Sp1Cluster

open Systems

namespace CoordinatorState

variable {P : Type} [LawfulPolicy P] {build : Build} {state : CoordinatorState P}
  {transit transit' : Set TaskKey} {issued issued' : Set String} {past : List Event}
  {taskId : String}

/-- A call makes no task live whose identifier was drawn before. -/
theorem Sane.live_of_step (sane : state.Sane build past transit issued) {event : Event}
    (performs : Performs build (event.call.inputs build) transit transit' issued issued' state
      (state.step build event)) (known : taskId ∈ issued)
    (live : (state.step build event).Live taskId) : state.Live taskId := by
  obtain ⟨proofId, task', stored, unfinished⟩ := live
  have drawn : ((proofId, taskId) : TaskKey).2 ∈ (state.board transit issued).issued := known
  have storedBoard : ((state.step build event).board transit' issued').task (proofId, taskId) =
    some task' := stored
  obtain ⟨task, was, ages⟩ := (performs.evolves sane.sound).ages drawn storedBoard
  refine ⟨proofId, task, was, ?_⟩
  by_contra finished
  rw [Bool.not_eq_true] at finished
  rw [ages.finished finished] at unfinished
  cases unfinished

/-- The task whose stream a call ends is not live afterwards, unless the call
sends it back. -/
theorem Sane.not_live_of_closed (sane : state.Sane build past transit issued)
    (tidy : (state.board transit issued).Tidy) {event : Event}
    (performs : Performs build (event.call.inputs build) transit transit' issued issued' state
      (state.step build event))
    (closed : .closeTaskChannel taskId ∈ (state.step build event).outbox)
    (kept : state.sentBack event.call ≠ some taskId) :
    ¬ (state.step build event).Live taskId := by
  have filed : LawfulPolicy.Filed state.clearOutbox.policy := sane.filed
  have sound : (state.clearOutbox.board transit issued).Sound build := sane.sound
  obtain ⟨proofId, task, stored, ended⟩ :=
    (exec_clears filed sound rfl event closed).resolve_left kept
  have here : (state.board transit issued).task (proofId, taskId) = some task := stored
  have known : taskId ∈ issued := sane.sound.task_issued here
  rintro ⟨otherProof, task', storedAfter, unfinished⟩
  have drawn : ((otherProof, taskId) : TaskKey).2 ∈ (state.board transit issued).issued := known
  have storedBoard : ((state.step build event).board transit' issued').task
    (otherProof, taskId) = some task' := storedAfter
  obtain ⟨other, was, -⟩ := (performs.evolves sane.sound).ages drawn storedBoard
  have same : ((otherProof, taskId) : TaskKey) = (proofId, taskId) := tidy.distinct rfl was here
  rw [same] at storedAfter
  exact ended ⟨task', storedAfter, unfinished⟩

end CoordinatorState

namespace ChannelService

section Settled

variable {P : Type} {service service' : ChannelService P} {taskId : String}

/-- A closed entry, or one that is about to be closed, is that of a task that is
not live. -/
def Settled (service : ChannelService P) : Prop :=
  ∀ taskId inner, service.taskChannels.lookup taskId = some inner →
    inner.closed = true ∨ taskId ∈ service.closing → ¬ service.state.Live taskId

namespace Settled

theorem of_same (settled : service.Settled)
    (taskChannels : service'.taskChannels = service.taskChannels)
    (state : service'.state = service.state) (closing : service'.closing = service.closing) :
    service'.Settled := by
  unfold Settled
  rw [taskChannels, state, closing]
  exact settled

theorem setEntry (settled : service.Settled) {result : MessageChannelInner × Streams}
    (same : result.1.closed = (service.openChannel taskId).closed)
    (present : taskId ∈ service.taskChannels ∨ service.closing = []) :
    (service.setEntry taskId result).Settled := by
  intro other inner found ended
  change (service.taskChannels.insert taskId result.1).lookup other = some inner at found
  rcases Table.lookup_insert_cases found with ⟨rfl, rfl⟩ | ⟨_, found⟩
  · cases stored : service.taskChannels.lookup other with
    | none =>
      have absent := AList.lookup_eq_none.mp stored
      rcases ended with closed | waiting
      · rw [same] at closed
        simp [openChannel, stored, MessageChannelInner.empty] at closed
      · change other ∈ service.closing at waiting
        rw [present.resolve_left absent] at waiting
        cases waiting
    | some entry =>
      rw [same, openChannel_of_lookup stored] at ended
      exact settled other entry stored ended
  · exact settled other inner found ended

end Settled

end Settled

/-! ## Runs -/

section Runs

variable {P : Type} [LawfulPolicy P] {build : Build} {service : ChannelService P}
  {past : List ChannelEvent} {event : ChannelEvent}

/-- A failure report sends back only tasks that have no entry. -/
def SparesEntries (service : ChannelService P) : ChannelEvent → Prop
  | .call event => service.closing = [] → ∀ taskId ∈ service.taskChannels.keys,
      service.state.sentBack event.call ≠ some taskId
  | _ => True

instance decidableSparesEntries (service : ChannelService P) (event : ChannelEvent) :
    Decidable (service.SparesEntries event) := by
  unfold SparesEntries
  split <;> infer_instance

/-- What holds after every run that spares the entries of tasks that are sent
back: closed entries are those of ended tasks, and entries are named by
identifiers that were drawn. -/
structure Retaining (build : Build) (past : List ChannelEvent) (service : ChannelService P) :
    Prop where
  settled : service.Settled
  named : ∃ transit issued,
    service.state.Sane build (ChannelEvent.calls past) transit issued ∧
      (service.state.board transit issued).Tidy ∧ ∀ taskId ∈ service.taskChannels, taskId ∈ issued

theorem Settled.call {transit transit' : Set TaskKey} {issued issued' : Set String}
    {calls : List Event} (settled : service.Settled)
    (sane : service.state.Sane build calls transit issued)
    (tidy : (service.state.board transit issued).Tidy)
    (named : ∀ taskId ∈ service.taskChannels, taskId ∈ issued) {event : Event}
    (performs : CoordinatorState.Performs build (event.call.inputs build) transit transit' issued
      issued' service.state (service.state.step build event))
    (running : event.call.stops = false) (spares : service.SparesEntries (.call event))
    (free : service.closing = []) :
    Settled { service with
      state := service.state.step build event
      closing := (service.state.step build event).outbox.flatMap
        (Effect.closedChannels (event.env.shuffle service.taskChannels.keys)) } := by
  intro taskId inner found ended
  have member : taskId ∈ service.taskChannels := Table.mem_of_lookup found
  rcases ended with closed | closing
  · exact fun live => settled taskId inner found (.inl closed)
      (sane.live_of_step performs (named taskId member) live)
  · obtain ⟨effect, sent, closes⟩ := List.mem_flatMap.mp closing
    cases effect with
    | closeTaskChannel other =>
      obtain rfl : taskId = other := List.mem_singleton.mp closes
      exact sane.not_live_of_closed tidy performs sent
        (spares free taskId (AList.mem_keys.mp member))
    | endStreams =>
      have stops : event.call.stops = true :=
        ((CoordinatorState.exec_sends event.env event.call).mem sent).resolve_left (by
          exact List.not_mem_nil)
      cases running.symm.trans stops
    | _ => cases closes

theorem Settled.step (settled : service.Settled)
    (call : ∀ call, event = .call call → service.closing = [] → Settled { service with
      state := service.state.step build call
      closing := (service.state.step build call).outbox.flatMap
        (Effect.closedChannels (call.env.shuffle service.taskChannels.keys)) }) :
    (service.step build event).Settled := by
  have later : ∀ {first : String} {rest : List String}, service.closing = first :: rest →
      Settled { service with closing := rest } := by
    intro first rest waiting taskId inner found ended
    refine settled taskId inner found (ended.imp_right ?_)
    rw [waiting]
    exact List.mem_cons_of_mem first
  have change := step_change build service event
  generalize service.step build event = next at change ⊢
  cases change with
  | call event free => exact call event rfl free
  | skip waiting => exact later waiting
  | @close _ first rest now waiting present =>
    intro taskId inner stored ended
    change (service.taskChannels.insert first _).lookup taskId = some inner at stored
    rcases Table.lookup_insert_cases stored with ⟨rfl, _⟩ | ⟨_, stored⟩
    · obtain ⟨entry, found⟩ := Table.exists_lookup present
      exact settled taskId entry found (.inr (by simp [waiting]))
    · exact later waiting taskId inner stored ended
  | push payload sending known =>
    have waiting : Settled { service with sending := sending } := settled.of_same rfl rfl rfl
    exact waiting.setEntry (MessageChannelInner.closed_push ..) (known.imp_right And.left)
  | attach startOffset subscribing known =>
    have waiting : Settled { service with subscribing := subscribing } :=
      settled.of_same rfl rfl rfl
    exact waiting.setEntry (MessageChannelInner.closed_attachSubscriber ..)
      (known.imp_right And.left)
  | collect =>
    exact fun taskId inner found => settled taskId inner (Table.lookup_of_erase found)
  | wait | ended | drop => exact settled.of_same rfl rfl rfl

theorem mem_or_live_of_step {taskId : String}
    (member : taskId ∈ (service.step build event).taskChannels) :
    taskId ∈ service.taskChannels ∨ service.state.Live taskId := by
  have change := step_change build service event
  generalize service.step build event = next at change member
  cases change with
  | close now waiting present =>
    rcases (AList.mem_insert _).mp member with rfl | before
    · exact .inl present
    · exact .inl before
  | push payload sending known =>
    rcases (AList.mem_insert _).mp member with rfl | before
    · exact known.imp_right fun sends => CoordinatorState.taskCanStillSend_iff.mp sends.2
    · exact .inl before
  | attach startOffset subscribing known =>
    rcases (AList.mem_insert _).mp member with rfl | before
    · exact known.imp_right fun sends => CoordinatorState.taskCanStillSend_iff.mp sends.2
    · exact .inl before
  | collect => exact .inl (AList.mem_erase.mp member).2
  | _ => exact .inl member

theorem Retaining.step (retaining : service.Retaining build past)
    (fresh : Event.FreshIds (ChannelEvent.calls (past ++ [event])))
    (running : ∀ call ∈ ChannelEvent.calls [event], call.call.stops = false)
    (spares : service.SparesEntries event) :
    (service.step build event).Retaining build (past ++ [event]) := by
  obtain ⟨settled, transit, issued, sane, tidy, named⟩ := retaining
  have known : ∀ taskId ∈ (service.step build event).taskChannels, taskId ∈ issued := by
    intro taskId member
    rcases mem_or_live_of_step member with before | ⟨proofId, task, stored, -⟩
    · exact named taskId before
    · have here : (service.state.board transit issued).task (proofId, taskId) = some task := stored
      exact sane.sound.task_issued here
  rw [ChannelEvent.calls_append] at fresh
  have calls := ChannelEvent.calls_append past [event]
  by_cases isCall : ∃ call, event = .call call
  · obtain ⟨call, rfl⟩ := isCall
    obtain ⟨transit', issued', sane', performs⟩ := sane.step call fresh
    have stops := running call (List.mem_singleton_self call)
    refine ⟨settled.step ?_, ?_⟩
    · rintro _ ⟨⟩ free
      exact settled.call sane tidy named performs stops spares free
    rcases state_step build service (.call call) with same | ⟨other, isSame, stepped⟩
    · rw [same, calls]
      exact ⟨transit, issued, sane.mono _, tidy, known⟩
    · cases isSame
      rw [stepped, calls]
      refine ⟨transit', issued', sane', performs.tidy sane.sound tidy, ?_⟩
      exact fun taskId member => (performs.evolves sane.sound).issued (known taskId member)
  · have same := (state_step build service event).resolve_right
      fun ⟨call, isSame, _⟩ => isCall ⟨call, isSame⟩
    refine ⟨settled.step fun call isSame => absurd ⟨call, isSame⟩ isCall, ?_⟩
    rw [same, calls]
    exact ⟨transit, issued, sane.mono _, tidy, known⟩

theorem reach_retaining (events : List ChannelEvent)
    (fresh : Event.FreshIds (ChannelEvent.calls events))
    (running : ∀ event ∈ ChannelEvent.calls events, event.call.stops = false)
    (spares : Along (ChannelService.step (P := P) build) new SparesEntries events) :
    (reach P build events).Retaining build events := by
  refine run_invariant (fun past service => Event.FreshIds (ChannelEvent.calls past) →
    (∀ event ∈ ChannelEvent.calls past, event.call.stops = false) →
      service.Retaining build past) ?_ ?_ spares fresh running
  · intro _ _
    refine ⟨?_, ∅, ∅, CoordinatorState.sane_new, ⟨?_, ?_⟩, fun taskId member => by cases member⟩
    · intro taskId inner found
      cases found
    · intro first second task task' _ stored
      cases stored
    · intro key task stored
      cases stored
  · intro past service event ih spared freshNow runningNow
    rw [ChannelEvent.calls_append] at runningNow
    have freshBefore := freshNow
    rw [ChannelEvent.calls_append] at freshBefore
    exact (ih freshBefore.of_append fun call member =>
      runningNow call (List.mem_append_left _ member)).step freshNow
        (fun call member => runningNow call (List.mem_append_right _ member)) spared

/-! ## What is handled is kept -/

/-- The message that an event handles: one whose entry is found without the lock,
or one that has waited for the lock and gets it. -/
def handled (service : ChannelService P) : ChannelEvent → Option SendRequest
  | .send taskId payload =>
    if taskId ∈ service.taskChannels then some ⟨taskId, payload⟩ else none
  | .sendLocked index => if service.closing.isEmpty then service.sending[index]? else none
  | _ => none

/-- The message that an event handles is in the buffer afterwards, if its task is
stored and neither succeeded nor failed for good. -/
def Keeps (build : Build) (service : ChannelService P) (event : ChannelEvent) : Prop :=
  ∀ request proofId task, service.handled event = some request →
    service.state.getTask proofId request.taskId = some task →
    task.status ≠ .succeeded → task.status ≠ .failedFatal →
      ∃ inner, (service.step build event).taskChannels.lookup request.taskId = some inner ∧
        inner.buffer = (service.openChannel request.taskId).buffer ++ [request.payload]

omit [LawfulPolicy P] in
theorem Settled.buffer_push (settled : service.Settled) {taskId : String} {inner : MessageChannelInner}
    (found : service.taskChannels.lookup taskId = some inner) (live : service.state.Live taskId)
    (payload : Payload) :
    (inner.push payload service.streams).1.buffer = inner.buffer ++ [payload] := by
  rw [inner.buffer_push, if_neg]
  exact fun closed => settled taskId inner found (.inl closed) live

omit [LawfulPolicy P] in
/-- Under the lock, a message of a live task goes into its buffer. -/
theorem Settled.buffer_sendUnderLock (settled : service.Settled) {request : SendRequest}
    (live : service.state.Live request.taskId) :
    ∃ inner, (service.sendUnderLock request).taskChannels.lookup request.taskId = some inner ∧
      inner.buffer = (service.openChannel request.taskId).buffer ++ [request.payload] := by
  unfold ChannelService.sendUnderLock
  cases found : service.taskChannels.lookup request.taskId with
  | none =>
    dsimp only
    rw [if_pos (CoordinatorState.taskCanStillSend_iff.mpr live)]
    refine ⟨_, AList.lookup_insert _, ?_⟩
    rw [MessageChannelInner.buffer_push, if_neg]
    simp [openChannel, found, MessageChannelInner.empty]
  | some inner =>
    refine ⟨_, AList.lookup_insert _, ?_⟩
    rw [openChannel_of_lookup found]
    exact settled.buffer_push found live request.payload

theorem Settled.keeps (settled : service.Settled) (event : ChannelEvent) :
    service.Keeps build event := by
  intro request proofId task handles stored notSucceeded notFatal
  have live : service.state.Live request.taskId :=
    CoordinatorState.live_iff.mpr ⟨proofId, task, stored, notSucceeded, notFatal⟩
  cases event with
  | send taskId payload =>
    change (if taskId ∈ service.taskChannels then some _ else none) = some request at handles
    split at handles
    · next present =>
      cases handles
      cases found : service.taskChannels.lookup taskId with
      | none => exact absurd present (AList.lookup_eq_none.mp found)
      | some inner =>
        refine ⟨(inner.push payload service.streams).1, ?_, ?_⟩
        · change (service.send taskId payload).taskChannels.lookup taskId = _
          unfold ChannelService.send
          rw [found]
          exact AList.lookup_insert _
        · rw [openChannel_of_lookup found]
          exact settled.buffer_push found live payload
    · cases handles
  | sendLocked index =>
    change (if service.closing.isEmpty then service.sending[index]? else none) = some request
      at handles
    split at handles
    · next free =>
      change ∃ inner, (service.sendLocked index).taskChannels.lookup request.taskId =
        some inner ∧ _
      unfold ChannelService.sendLocked
      rw [if_pos free, handles]
      have waiting : Settled { service with sending := service.sending.eraseIdx index } :=
        settled.of_same rfl rfl rfl
      exact waiting.buffer_sendUnderLock live
    · cases handles
  | _ => cases handles

/-- Every step of a run keeps the message it handles. -/
def KeepsMessages (P : Type) [LawfulPolicy P] (build : Build) (events : List ChannelEvent) : Prop :=
  Along (ChannelService.step (P := P) build) new (Keeps build) events

/-- Every failure report of a run sends back only tasks that have no entry. -/
def Spares (P : Type) [LawfulPolicy P] (build : Build) (events : List ChannelEvent) : Prop :=
  Along (ChannelService.step (P := P) build) new SparesEntries events

theorem keepsMessages_of_spares (events : List ChannelEvent)
    (fresh : Event.FreshIds (ChannelEvent.calls events))
    (running : ∀ event ∈ ChannelEvent.calls events, event.call.stops = false)
    (spares : Spares P build events) : KeepsMessages P build events := by
  rintro past event future rfl
  have sparesPast : Along (ChannelService.step (P := P) build) new SparesEntries past :=
    spares.of_append
  rw [ChannelEvent.calls_append] at fresh running
  exact (reach_retaining past fresh.of_append (fun call member =>
    running call (List.mem_append_left _ member)) sparesPast).settled.keeps event

end Runs

end ChannelService

/-- **The messages of live tasks are kept** in every run without shutdown in which
no failure report sends a task back that has an entry. -/
theorem live_messages_kept (build : Build) (events : List ChannelEvent)
    (fresh : Event.FreshIds (ChannelEvent.calls events))
    (running : ∀ event ∈ ChannelEvent.calls events, event.call.stops = false) :
    (ChannelService.Spares DefaultPolicy build events →
      ChannelService.KeepsMessages DefaultPolicy build events) ∧
    (ChannelService.Spares BalancedPolicy build events →
      ChannelService.KeepsMessages BalancedPolicy build events) :=
  ⟨ChannelService.keepsMessages_of_spares events fresh running,
    ChannelService.keepsMessages_of_spares events fresh running⟩

theorem live_messages_kept_streamedShard :
    Event.FreshIds (ChannelEvent.calls streamedShard) ∧
      (∀ event ∈ ChannelEvent.calls streamedShard, event.call.stops = false) ∧
      ChannelService.Spares DefaultPolicy .plain streamedShard ∧
      ChannelService.KeepsMessages DefaultPolicy .plain streamedShard := by
  have fresh : Event.FreshIds (ChannelEvent.calls streamedShard) := by
    unfold Event.FreshIds
    decide
  have running : ∀ event ∈ ChannelEvent.calls streamedShard, event.call.stops = false := by decide
  have spares : ChannelService.Spares DefaultPolicy .plain streamedShard := by
    unfold ChannelService.Spares
    decide
  exact ⟨fresh, running, spares, (live_messages_kept .plain _ fresh running).1 spares⟩

/-- A task sends a message, fails in a way that sends it back, and runs again. -/
def retriedShard : List ChannelEvent :=
  oneShard.map .call ++ [.send "u" [1], .sendLocked 0, .call shardFails, .closeNext 0]

/-- The message that the task sends in its second run is dropped. -/
theorem retried_message_dropped :
    Event.FreshIds (ChannelEvent.calls (retriedShard ++ [.send "u" [2]])) ∧
      (∀ event ∈ ChannelEvent.calls (retriedShard ++ [.send "u" [2]]),
        event.call.stops = false) ∧
      (ChannelService.reach DefaultPolicy .plain retriedShard).state.isHeldBy "g" "p" "u" = true ∧
      ((ChannelService.reach DefaultPolicy .plain (retriedShard ++
        [.send "u" [2]])).taskChannels.lookup "u").map (·.buffer) = some [[1]] ∧
      ¬ ChannelService.KeepsMessages DefaultPolicy .plain (retriedShard ++ [.send "u" [2]]) := by
  have fresh : Event.FreshIds (ChannelEvent.calls (retriedShard ++ [.send "u" [2]])) := by
    unfold Event.FreshIds
    decide
  have dropped : ((ChannelService.reach DefaultPolicy .plain (retriedShard ++
    [.send "u" [2]])).taskChannels.lookup "u").map (·.buffer) = some [[1]] := by decide
  refine ⟨fresh, by decide, by decide, dropped, ?_⟩
  intro keeps
  have runs : ((ChannelService.reach DefaultPolicy .plain retriedShard).state.getTask "p" "u").map
    (·.status) = some .running := by decide
  obtain ⟨task, stored, status⟩ := Option.map_eq_some_iff.mp runs
  obtain ⟨inner, found, buffer⟩ := keeps retriedShard (.send "u" [2]) [] rfl ⟨"u", [2]⟩ "p" task
    (by decide) stored (by simp [status]) (by simp [status])
  have before : ((ChannelService.reach DefaultPolicy .plain retriedShard).openChannel "u").buffer =
    [[1]] := by decide
  have after : inner.buffer = [[1]] := by
    have same := dropped
    unfold ChannelService.reach at same
    rw [run_snoc, found] at same
    exact Option.some.inj same
  change inner.buffer = ((ChannelService.reach DefaultPolicy .plain retriedShard).openChannel
    "u").buffer ++ [[2]] at buffer
  rw [before, after] at buffer
  cases buffer

end Sp1Cluster
