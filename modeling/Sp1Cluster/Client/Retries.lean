import Sp1Cluster.Channels.Retention

/-!
# Calls that the worker client retries

The worker client repeats a call until it gets an answer: an attempt whose
request or reply is lost looks like a transient error to it. The server draws a
new task identifier, or appends to the buffer, for every request that it handles.
So a call takes effect exactly once as long as the reply to a request that was
handled arrives, and the server's clock does not make it fail after it has
stored the task.
-/

set_option autoImplicit false

namespace Sp1Cluster

open Systems

/-! ## Attempts -/

/-- `tonic::Code`. -/
inductive RpcCode where
  | ok
  | cancelled
  | unknown
  | invalidArgument
  | deadlineExceeded
  | notFound
  | alreadyExists
  | permissionDenied
  | resourceExhausted
  | failedPrecondition
  | aborted
  | outOfRange
  | unimplemented
  | internal
  | unavailable
  | dataLoss
  | unauthenticated
deriving DecidableEq, Repr

/-- `status_to_backoff_error`: whether an error is transient. -/
def RpcCode.isTransient : RpcCode → Bool
  | .internal | .unavailable | .unknown | .cancelled | .deadlineExceeded | .resourceExhausted
  | .aborted | .dataLoss => true
  | _ => false

/-- The codes that the coordinator answers with. -/
def Code.rpc : Code → RpcCode
  | .notFound => .notFound
  | .alreadyExists => .alreadyExists
  | .failedPrecondition => .failedPrecondition
  | .internal => .internal
  | .invalidArgument => .invalidArgument

/-- What the client sees of a call that fails. A panic of the handler resets the
stream. -/
def Fault.rpc : Fault → RpcCode
  | .status answer => answer.code.rpc
  | .panic _ => .unknown

/-- What becomes of an attempt: its request does not arrive, or its reply does not,
and the transport reports an error; or the client gets the reply. -/
inductive Fate where
  | requestLost (code : RpcCode)
  | replyLost (code : RpcCode)
  | answered
deriving DecidableEq, Repr

/-- `backoff::future::retry` after one attempt: the result of the call, or nothing
if it is tried again. -/
def retry {α : Type} : Except RpcCode α → Option (Except RpcCode α)
  | .ok value => some (.ok value)
  | .error code => if code.isTransient then none else some (.error code)

theorem retry_eq_some {α : Type} {answer result : Except RpcCode α}
    (final : retry answer = some result) : result = answer := by
  unfold retry at final
  split at final
  · exact (Option.some.inj final).symm
  · split at final
    · cases final
    · exact (Option.some.inj final).symm

/-! ## Submitting a task -/

namespace CoordinatorState

variable {P : Type}

/-- The tasks of a proof. -/
def tasksOf (proofId : String) (state : CoordinatorState P) : List String :=
  match state.proofs.lookup proofId with
  | none => []
  | some proof => proof.tasks.keys

/-- The tasks that a proof has and had not before. -/
def newTasks (proofId : String) (before after : CoordinatorState P) : List String :=
  (after.tasksOf proofId).filter fun taskId => decide (taskId ∉ before.tasksOf proofId)

theorem mem_tasksOf {proofId taskId : String} {state : CoordinatorState P} :
    taskId ∈ state.tasksOf proofId ↔
      ∃ task, taskOf state.proofs (proofId, taskId) = some task := by
  unfold tasksOf
  cases found : state.proofs.lookup proofId with
  | none => simp [taskOf, found]
  | some proof =>
    rw [taskOf.of_lookup found]
    dsimp only
    rw [← Option.isSome_iff_exists, AList.lookup_isSome]
    exact AList.mem_keys.symm

theorem nodup_tasksOf (proofId : String) (state : CoordinatorState P) :
    (state.tasksOf proofId).Nodup := by
  unfold tasksOf
  split
  · exact List.nodup_nil
  · exact AList.keys_nodup _

theorem newTasks_eq_singleton {proofId taskId : String} {before after : CoordinatorState P}
    (stored : taskId ∈ after.tasksOf proofId) (absent : taskId ∉ before.tasksOf proofId)
    (only : ∀ other ∈ after.tasksOf proofId, other = taskId ∨ other ∈ before.tasksOf proofId) :
    newTasks proofId before after = [taskId] := by
  refine List.perm_singleton.mp ((List.perm_ext_iff_of_nodup
    ((nodup_tasksOf proofId after).filter _) (List.nodup_singleton taskId)).mpr ?_)
  intro other
  rw [List.mem_filter, List.mem_singleton, decide_eq_true_iff]
  constructor
  · rintro ⟨here, new⟩
    exact (only other here).resolve_right new
  · rintro rfl
    exact ⟨stored, absent⟩

theorem newTasks_self (proofId : String) {before after : CoordinatorState P}
    (same : after.proofs = before.proofs) : newTasks proofId before after = [] := by
  have tasks : after.tasksOf proofId = before.tasksOf proofId := by
    unfold tasksOf
    rw [same]
  unfold newTasks
  rw [tasks, List.filter_eq_nil_iff]
  intro taskId member
  simpa using member

end CoordinatorState

/-- A call of `submit_task`: the coordinator, the result once the client has
returned, and the tasks that the attempts have added to the proof. -/
structure Submission (P : Type) where
  state : CoordinatorState P
  result : Option (Except RpcCode String)
  added : List String

/-- What happens around a submission: another call of the coordinator, an attempt,
or the client gives up after a transient error. -/
inductive SubmitEvent where
  | other (event : Event)
  | attempt (fate : Fate) (env : Env)
  | giveUp (code : RpcCode)

namespace Submission

variable {P : Type} [AssignmentPolicy P]

def new : Submission P := ⟨.new, none, []⟩

/-- The server handles a request. -/
def handle (build : Build) (data : TaskData) (env : Env) (submission : Submission P) :
    Submission P × Except RpcCode String :=
  let outcome := submission.state.clearOutbox.createTask build env data
  ({ submission with
      state := outcome.state
      added := submission.added ++
        CoordinatorState.newTasks data.proofId submission.state outcome.state },
    outcome.reply.mapError Fault.rpc)

def attempt (build : Build) (data : TaskData) (fate : Fate) (env : Env)
    (submission : Submission P) : Submission P :=
  match fate with
  | .requestLost code => { submission with result := retry (.error code) }
  | .replyLost code => { (submission.handle build data env).1 with result := retry (.error code) }
  | .answered =>
    { (submission.handle build data env).1 with
      result := retry (submission.handle build data env).2 }

def step (build : Build) (data : TaskData) (submission : Submission P) :
    SubmitEvent → Submission P
  | .other event => { submission with state := submission.state.step build event }
  | .attempt fate env =>
    if submission.result.isSome then submission else submission.attempt build data fate env
  | .giveUp code =>
    if submission.result.isSome then submission
    else { submission with result := some (.error code) }

def reach (P : Type) [AssignmentPolicy P] (build : Build) (data : TaskData)
    (events : List SubmitEvent) : Submission P :=
  run (step build data) new events

end Submission

namespace SubmitEvent

def calls (data : TaskData) (events : List SubmitEvent) : List Event :=
  events.filterMap fun
    | .other event => some event
    | .attempt _ env => some ⟨env, .createTask data⟩
    | .giveUp _ => none

theorem calls_append (data : TaskData) (first second : List SubmitEvent) :
    calls data (first ++ second) = calls data first ++ calls data second := by
  simp [calls]

/-- The reply to a request that is handled arrives, and the clock of the server is
not before the epoch. -/
def Delivers : SubmitEvent → Prop
  | .attempt (.replyLost _) _ => False
  | .attempt .answered env => ∀ read, 0 ≤ env.clock read
  | _ => True

end SubmitEvent

namespace CoordinatorState

variable {P : Type} [LawfulPolicy P] {build : Build} {state : CoordinatorState P}
  {transit : Set TaskKey} {issued : Set String}

theorem newTasks_assignTasks {next : CoordinatorState P} {proofId taskId : String} {task : Task}
    (filed : LawfulPolicy.Filed next.policy) (sound : (next.board transit issued).Sound build)
    (env : Env)
    (written : ∀ key, taskOf next.proofs key =
      if key = (proofId, taskId) then some task else taskOf state.proofs key)
    (unfinished : task.unfinished = true)
    (absent : taskOf state.proofs (proofId, taskId) = none) :
    newTasks proofId state (AssignmentPolicy.assignTasks build env next).1 = [taskId] := by
  refine newTasks_eq_singleton ?_ ?_ ?_
  · have alive : next.Alive (proofId, taskId) := ⟨task, (written _).trans (if_pos rfl), unfinished⟩
    obtain ⟨task', stored, -⟩ := alive.assignTasks filed sound env
    exact mem_tasksOf.mpr ⟨task', stored⟩
  · rw [mem_tasksOf, absent]
    rintro ⟨other, stored⟩
    cases stored
  · intro other member
    obtain ⟨task', stored⟩ := mem_tasksOf.mp member
    obtain ⟨before, was, -⟩ := task_of_assignTasks filed sound env _ stored
    rw [written] at was
    split at was
    · next same => exact .inl (congrArg Prod.snd same)
    · exact .inr (mem_tasksOf.mpr ⟨before, was⟩)

/-- A request is refused and changes no proof, or it adds the one task whose
identifier it answers with. -/
theorem createTask_adds (filed : LawfulPolicy.Filed state.policy)
    (sound : (state.board transit issued).Sound build) {env : Env} (data : TaskData)
    (fresh : env.taskId ∉ issued) (clock : ∀ read, 0 ≤ env.clock read) :
    (∃ message, (state.createTask build env data).reply = .error (.status (.notFound message)) ∧
      newTasks data.proofId state (state.createTask build env data).state = []) ∨
    ((state.createTask build env data).reply = .ok env.taskId ∧
      newTasks data.proofId state (state.createTask build env data).state = [env.taskId]) := by
  unfold createTask createTaskInternal
  dsimp only
  split
  · exact .inl ⟨_, rfl, newTasks_self _ rfl⟩
  · next proof found =>
    have weight : data.weight ∈ ((Call.createTask data).inputs build).weights := rfl
    obtain ⟨transit', -, issued', -, steps⟩ : ∃ transit' ⊆ transit,
        ∃ issued' ⊆ insert env.taskId issued, Steps build _ transit transit' issued issued' state
          _ := steps_createTask env data found fresh weight
    have absent : taskOf state.proofs (data.proofId, env.taskId) = none := by
      cases stored : taskOf state.proofs (data.proofId, env.taskId) with
      | none => rfl
      | some task =>
        have here : (state.board transit issued).task (data.proofId, env.taskId) =
          some task := stored
        exact absurd (sound.task_issued here) fresh
    refine .inr ⟨?_, ?_⟩
    · have assigned := LawfulPolicy.assigns_ok build env (enqueueTask build (Task.new env data)
        { state with
          totalTasks := state.totalTasks + 1
          proofs := state.proofs.insert data.proofId (proof.addTask (Task.new env data)) }) clock
      unfold assignThen
      split
      · next result =>
        rw [result] at assigned
        cases assigned
      · rfl
    · have unfinished : (Task.new env data).unfinished = true := rfl
      rw [assignThen_state]
      refine newTasks_assignTasks (steps.filed filed) (steps.sound sound) env ?_ unfinished absent
      intro key
      rw [proofs_enqueueTask]
      exact taskOf.set_eq found rfl key

end CoordinatorState

namespace Submission

variable {P : Type} [LawfulPolicy P] {build : Build} {data : TaskData}
  {submission : Submission P} {past : List Event} {transit : Set TaskKey} {issued : Set String}

/-- While the client tries, and when it fails, nothing was added; when it returns an
identifier, that task was. -/
def Once (submission : Submission P) : Prop :=
  match submission.result with
  | some (.ok taskId) => submission.added = [taskId]
  | _ => submission.added = []

omit [LawfulPolicy P] in
theorem once_of_none (trying : submission.result = none) :
    submission.Once ↔ submission.added = [] := by
  unfold Once
  rw [trying]

omit [LawfulPolicy P] in
theorem once_of_retry_error {code : RpcCode} (nothing : submission.added = []) :
    Once { submission with result := retry (.error code) } := by
  unfold Once retry
  dsimp only
  split
  · next returned =>
    split at returned <;> cases returned
  · exact nothing

theorem Once.attempt (once : submission.Once) (trying : submission.result = none)
    (sane : submission.state.Sane build past transit issued) {fate : Fate} {env : Env}
    (fresh : env.taskId ∉ issued) (delivers : SubmitEvent.Delivers (.attempt fate env)) :
    (submission.attempt build data fate env).Once := by
  have nothing : submission.added = [] := (once_of_none trying).mp once
  cases fate with
  | requestLost code => exact once_of_retry_error nothing
  | replyLost code => exact delivers.elim
  | answered =>
    have filed : LawfulPolicy.Filed submission.state.clearOutbox.policy := sane.filed
    have sound : (submission.state.clearOutbox.board transit issued).Sound build := sane.sound
    have added : (submission.handle build data env).1.added =
        CoordinatorState.newTasks data.proofId submission.state
          (submission.state.clearOutbox.createTask build env data).state := by
      unfold handle
      dsimp only
      rw [nothing, List.nil_append]
    rcases CoordinatorState.createTask_adds filed sound data fresh delivers with
      ⟨message, refused, none⟩ | ⟨answer, one⟩
    · have reply : (submission.handle build data env).2 = .error .notFound := by
        unfold handle
        dsimp only
        rw [refused]
        rfl
      change Once { (submission.handle build data env).1 with
        result := retry (submission.handle build data env).2 }
      rw [reply]
      exact once_of_retry_error (added.trans none)
    · have reply : (submission.handle build data env).2 = .ok env.taskId := by
        unfold handle
        dsimp only
        rw [answer]
        rfl
      change Once { (submission.handle build data env).1 with
        result := retry (submission.handle build data env).2 }
      rw [reply]
      exact added.trans one

theorem state_step (build : Build) (data : TaskData) (submission : Submission P)
    (event : SubmitEvent) :
    (submission.step build data event).state = submission.state ∨
      ∃ call, SubmitEvent.calls data [event] = [call] ∧
        (submission.step build data event).state = submission.state.step build call := by
  cases event with
  | other event => exact .inr ⟨event, rfl, rfl⟩
  | giveUp code =>
    refine .inl ?_
    change (if submission.result.isSome then submission else _ : Submission P).state = _
    split <;> rfl
  | attempt fate env =>
    change (if submission.result.isSome then submission else _ : Submission P).state = _ ∨
      ∃ call, _ ∧ (if submission.result.isSome then submission else _ : Submission P).state = _
    split
    · exact .inl rfl
    · cases fate with
      | requestLost code => exact .inl rfl
      | replyLost code => exact .inr ⟨⟨env, .createTask data⟩, rfl, rfl⟩
      | answered => exact .inr ⟨⟨env, .createTask data⟩, rfl, rfl⟩

theorem Once.step (once : submission.Once)
    (sane : submission.state.Sane build past transit issued) {event : SubmitEvent}
    (fresh : Event.FreshIds (past ++ SubmitEvent.calls data [event])) (delivers : event.Delivers) :
    (submission.step build data event).Once := by
  cases event with
  | other event => exact once
  | giveUp code =>
    change Once (if submission.result.isSome then submission else _)
    split
    · exact once
    · next trying =>
      rw [Option.not_isSome_iff_eq_none] at trying
      exact (once_of_none trying).mp once
  | attempt fate env =>
    change Once (if submission.result.isSome then submission else _)
    split
    · exact once
    · next trying =>
      rw [Option.not_isSome_iff_eq_none] at trying
      refine once.attempt trying sane ?_ delivers
      intro member
      exact fresh.drawn_fresh (rfl : Event.drawn ⟨env, .createTask data⟩ = some env.taskId)
        (sane.issued_drawn _ member)

theorem reach_once (events : List SubmitEvent)
    (fresh : Event.FreshIds (SubmitEvent.calls data events))
    (delivers : ∀ event ∈ events, event.Delivers) :
    (reach P build data events).Once ∧ ∃ transit issued,
      (reach P build data events).state.Sane build (SubmitEvent.calls data events) transit
        issued := by
  have along : Along (Submission.step (P := P) build data) new (fun _ event => event.Delivers)
      events := by
    rintro past event future rfl
    exact delivers event (by simp)
  refine run_invariant (fun past submission => Event.FreshIds (SubmitEvent.calls data past) →
    submission.Once ∧ ∃ transit issued, submission.state.Sane build
      (SubmitEvent.calls data past) transit issued) ?_ ?_ along fresh
  · exact fun _ => ⟨rfl, ∅, ∅, CoordinatorState.sane_new⟩
  · intro past submission event ih delivered freshNow
    rw [SubmitEvent.calls_append] at freshNow ⊢
    obtain ⟨once, transit, issued, sane⟩ := ih freshNow.of_append
    refine ⟨once.step sane freshNow delivered, ?_⟩
    rcases state_step build data submission event with same | ⟨call, isCall, stepped⟩
    · rw [same]
      exact ⟨transit, issued, sane.mono _⟩
    · rw [isCall] at freshNow ⊢
      rw [stepped]
      obtain ⟨transit', issued', sane', -⟩ := sane.step call freshNow
      exact ⟨transit', issued', sane'⟩

end Submission

/-! ## Sending a message -/

/-- Where a call of `send_task_message` is: the client is about to try, the server
has found no entry and waits for the lock, or the client has returned. -/
inductive SendPhase where
  | trying
  | waiting (fate : Fate)
  | returned (result : Except RpcCode Unit)
deriving DecidableEq

/-- A call of `send_task_message`: the service, where the call is, and the payloads
that its attempts have put into the buffer. -/
structure Sending (P : Type) where
  service : ChannelService P
  phase : SendPhase
  appended : List Payload

/-- What happens around a call: another event of the service, an attempt, an attempt
that gets the lock, or the client gives up. -/
inductive SendEvent where
  | other (event : ChannelEvent)
  | attempt (fate : Fate)
  | locked
  | giveUp (code : RpcCode)

/-- Where the client is after an attempt with a fate. -/
def Fate.phase (fate : Fate) : SendPhase :=
  match retry (match fate with
    | .requestLost code | .replyLost code => .error code
    | .answered => .ok ()) with
  | none => .trying
  | some result => .returned result

namespace Sending

variable {P : Type} [AssignmentPolicy P]

def new : Sending P := ⟨.new, .trying, []⟩

def handled (request : SendRequest) (fate : Fate) (service : ChannelService P)
    (sending : Sending P) : Sending P where
  service := service
  phase := fate.phase
  appended := sending.appended ++ (service.openChannel request.taskId).buffer.drop
    (sending.service.openChannel request.taskId).buffer.length

/-- One attempt, up to the lock. -/
def attempt (request : SendRequest) (fate : Fate) (sending : Sending P) : Sending P :=
  match fate with
  | .requestLost _ => { sending with phase := fate.phase }
  | _ =>
    if request.taskId ∈ sending.service.taskChannels then
      sending.handled request fate (sending.service.send request.taskId request.payload)
    else { sending with phase := .waiting fate }

def step (build : Build) (request : SendRequest) (sending : Sending P) : SendEvent → Sending P
  | .other event => { sending with service := sending.service.step build event }
  | .attempt fate =>
    match sending.phase with
    | .trying => sending.attempt request fate
    | _ => sending
  | .locked =>
    match sending.phase with
    | .waiting fate =>
      if sending.service.closing.isEmpty then
        sending.handled request fate (sending.service.sendUnderLock request)
      else sending
    | _ => sending
  | .giveUp code =>
    match sending.phase with
    | .trying => { sending with phase := .returned (.error code) }
    | _ => sending

def reach (P : Type) [AssignmentPolicy P] (build : Build) (request : SendRequest)
    (events : List SendEvent) : Sending P :=
  run (step build request) new events

/-- Whether an event makes the server push the payload. -/
def pushes (request : SendRequest) (sending : Sending P) : SendEvent → Bool
  | .attempt fate =>
    match sending.phase, fate with
    | .trying, .requestLost _ => false
    | .trying, _ => decide (request.taskId ∈ sending.service.taskChannels)
    | _, _ => false
  | .locked =>
    match sending.phase with
    | .waiting _ => sending.service.closing.isEmpty
    | _ => false
  | _ => false

/-- The task has an open entry when the server pushes the payload. -/
abbrev MeetsOpenEntry (request : SendRequest) (sending : Sending P) (event : SendEvent) : Prop :=
  sending.pushes request event = true →
    (sending.service.taskChannels.lookup request.taskId).map (·.closed) = some false

end Sending

def SendEvent.Delivers : SendEvent → Prop
  | .attempt (.replyLost _) => False
  | _ => True

namespace Sending

section Once

variable {P : Type} {request : SendRequest} {sending : Sending P}

/-- While the client tries, and when it fails, nothing was put into the buffer; when
it returns, the payload was. -/
structure Once (request : SendRequest) (sending : Sending P) : Prop where
  returned : sending.phase = .returned (.ok ()) → sending.appended = [request.payload]
  nothing : sending.phase ≠ .returned (.ok ()) → sending.appended = []
  waiting : ∀ fate, sending.phase = .waiting fate → fate = .answered

theorem phase_lost (code : RpcCode) :
    (Fate.requestLost code).phase ≠ .returned (.ok ()) ∧
      ∀ fate, (Fate.requestLost code).phase ≠ .waiting fate := by
  unfold Fate.phase retry
  dsimp only
  cases code.isTransient <;> simp

theorem Once.handled (once : sending.Once request) (unreturned : sending.phase ≠ .returned (.ok ()))
    {service : ChannelService P} {inner : MessageChannelInner}
    (found : sending.service.taskChannels.lookup request.taskId = some inner)
    (unclosed : inner.closed = false)
    (pushed : service = sending.service.setEntry request.taskId
      (inner.push request.payload sending.service.streams)) :
    (sending.handled request .answered service).Once request := by
  have buffer : (service.openChannel request.taskId).buffer =
      (sending.service.openChannel request.taskId).buffer ++ [request.payload] := by
    rw [pushed, ChannelService.openChannel_setEntry, if_pos rfl,
      ChannelService.openChannel_of_lookup found, inner.buffer_push, unclosed]
    rfl
  have appended : (sending.handled request .answered service).appended = [request.payload] := by
    change sending.appended ++ List.drop _ _ = _
    rw [once.nothing unreturned, buffer, List.drop_left]
    rfl
  exact ⟨fun _ => appended, fun differs => absurd rfl differs, nofun⟩

theorem Once.attempt (once : sending.Once request) (trying : sending.phase = .trying) {fate : Fate}
    (delivers : SendEvent.Delivers (.attempt fate))
    (opened : sending.MeetsOpenEntry request (.attempt fate)) :
    (sending.attempt request fate).Once request := by
  have unreturned : sending.phase ≠ .returned (.ok ()) := by
    rw [trying]
    simp
  have nothing := once.nothing unreturned
  cases fate with
  | requestLost code =>
    exact ⟨fun returned => absurd returned (phase_lost code).1, fun _ => nothing,
      fun fate waits => absurd waits ((phase_lost code).2 fate)⟩
  | replyLost code => exact delivers.elim
  | answered =>
    unfold Sending.attempt
    dsimp only
    split
    · next present =>
      have pushes : sending.pushes request (.attempt .answered) = true := by
        simp [Sending.pushes, trying, present]
      obtain ⟨inner, found, unclosed⟩ := Option.map_eq_some_iff.mp (opened pushes)
      refine once.handled unreturned found unclosed ?_
      unfold ChannelService.send
      rw [found]
    · refine ⟨nofun, fun _ => nothing, ?_⟩
      intro fate waits
      cases waits
      rfl

theorem Once.step [AssignmentPolicy P] (once : sending.Once request) (build : Build)
    {event : SendEvent} (delivers : event.Delivers)
    (opened : sending.MeetsOpenEntry request event) :
    (sending.step build request event).Once request := by
  cases event with
  | other event => exact ⟨once.returned, once.nothing, once.waiting⟩
  | attempt fate =>
    cases phase : sending.phase with
    | trying =>
      have same : sending.step build request (.attempt fate) = sending.attempt request fate := by
        simp only [Sending.step, phase]
      rw [same]
      exact once.attempt phase delivers opened
    | _ =>
      have same : sending.step build request (.attempt fate) = sending := by
        simp only [Sending.step, phase]
      rw [same]
      exact once
  | locked =>
    cases phase : sending.phase with
    | waiting fate =>
      obtain rfl := once.waiting fate phase
      have unreturned : sending.phase ≠ .returned (.ok ()) := by
        rw [phase]
        simp
      have same : sending.step build request .locked =
          if sending.service.closing.isEmpty then
            sending.handled request .answered (sending.service.sendUnderLock request)
          else sending := by
        simp only [Sending.step, phase]
      rw [same]
      split
      · next free =>
        have pushes : sending.pushes request .locked = true := by
          simp only [Sending.pushes, phase]
          exact free
        obtain ⟨inner, found, unclosed⟩ := Option.map_eq_some_iff.mp (opened pushes)
        refine once.handled unreturned found unclosed ?_
        unfold ChannelService.sendUnderLock
        rw [found]
      · exact once
    | _ =>
      have same : sending.step build request .locked = sending := by
        simp only [Sending.step, phase]
      rw [same]
      exact once
  | giveUp code =>
    cases phase : sending.phase with
    | trying =>
      have same : sending.step build request (.giveUp code) =
          { sending with phase := .returned (.error code) } := by
        simp only [Sending.step, phase]
      rw [same]
      refine ⟨nofun, fun _ => once.nothing ?_, nofun⟩
      rw [phase]
      simp
    | _ =>
      have same : sending.step build request (.giveUp code) = sending := by
        simp only [Sending.step, phase]
      rw [same]
      exact once

theorem reach_once [AssignmentPolicy P] (build : Build) (request : SendRequest)
    (events : List SendEvent) (delivers : ∀ event ∈ events, event.Delivers)
    (opened : Along (Sending.step (P := P) build request) new (MeetsOpenEntry request) events) :
    (reach P build request events).Once request := by
  have along : Along (Sending.step (P := P) build request) new
      (fun sending event => event.Delivers ∧ sending.MeetsOpenEntry request event) events := by
    intro past event future split
    exact ⟨delivers event (by rw [split]; simp), opened past event future split⟩
  refine run_invariant (fun _ sending => sending.Once request) ?_ ?_ along
  · exact ⟨nofun, fun _ => rfl, nofun⟩
  · intro past sending event once met
    exact once.step build met.1 met.2

end Once

end Sending

/-! ## Retried calls take effect once -/

/-- A submission that returns an identifier has added exactly that task. -/
def SubmitsOnce (P : Type) [AssignmentPolicy P] (build : Build) (data : TaskData)
    (events : List SubmitEvent) : Prop :=
  ∀ taskId, (Submission.reach P build data events).result = some (.ok taskId) →
    (Submission.reach P build data events).added = [taskId]

/-- A message whose task has an open entry whenever the server pushes it, and whose
sender returns, is in the buffer exactly once. -/
def SendsOnce (P : Type) [AssignmentPolicy P] (build : Build) (request : SendRequest)
    (events : List SendEvent) : Prop :=
  Along (Sending.step (P := P) build request) .new (Sending.MeetsOpenEntry request) events →
    (Sending.reach P build request events).phase = .returned (.ok ()) →
      (Sending.reach P build request events).appended = [request.payload]

theorem submitsOnce {P : Type} [LawfulPolicy P] (build : Build) (data : TaskData)
    (events : List SubmitEvent) (fresh : Event.FreshIds (SubmitEvent.calls data events))
    (delivers : ∀ event ∈ events, event.Delivers) : SubmitsOnce P build data events := by
  intro taskId returned
  have once : (Submission.reach P build data events).Once :=
    (Submission.reach_once events fresh delivers).1
  unfold Submission.Once at once
  rw [returned] at once
  exact once

/-- **Retried calls take effect exactly once**, for every pattern of lost requests
and any number of retries, when the reply to a request that is handled arrives and
the server's clock is not before the epoch. -/
theorem retried_calls_once (build : Build) (data : TaskData) (submits : List SubmitEvent)
    (request : SendRequest) (sends : List SendEvent)
    (fresh : Event.FreshIds (SubmitEvent.calls data submits))
    (submitsDelivered : ∀ event ∈ submits, event.Delivers)
    (sendsDelivered : ∀ event ∈ sends, event.Delivers) :
    (SubmitsOnce DefaultPolicy build data submits ∧ SendsOnce DefaultPolicy build request sends) ∧
      SubmitsOnce BalancedPolicy build data submits ∧
        SendsOnce BalancedPolicy build request sends :=
  ⟨⟨submitsOnce build data submits fresh submitsDelivered, fun opened =>
      (Sending.reach_once build request sends sendsDelivered opened).returned⟩,
    submitsOnce build data submits fresh submitsDelivered, fun opened =>
      (Sending.reach_once build request sends sendsDelivered opened).returned⟩

/-- The data of a GPU task of weight 4. -/
def shardData : TaskData := ⟨.proveShard, [], [], "", "p", none, 4, ""⟩

/-- Another call of the coordinator creates the proof; then the task is submitted
with the given fates of the attempts. -/
def submitted (first second : Fate) : List SubmitEvent :=
  [.other ((Call.claim "p").plain "t"), .attempt first (.plain 1000000000 "u"),
    .attempt second (.plain 1000000000 "v")]

/-- A task is subscribed to, so that its entry is open, and sends a message with the
given fates of the attempts. -/
def sent (first second : Fate) : List SendEvent :=
  oneShard.map (fun event => .other (.call event)) ++
    [.other (.subscribe "u" 0), .other (.subscribeLocked 0), .attempt first, .attempt second]

/-- The first request is lost, the second is answered. -/
theorem retried_calls_once_requestLost :
    Event.FreshIds (SubmitEvent.calls shardData (submitted (.requestLost .unavailable) .answered)) ∧
      (Submission.reach DefaultPolicy .plain shardData
        (submitted (.requestLost .unavailable) .answered)).result = some (.ok "v") ∧
      SubmitsOnce DefaultPolicy .plain shardData (submitted (.requestLost .unavailable) .answered) ∧
      Along (Sending.step (P := DefaultPolicy) .plain ⟨"u", [7]⟩) .new
        (Sending.MeetsOpenEntry ⟨"u", [7]⟩) (sent (.requestLost .unavailable) .answered) ∧
      (Sending.reach DefaultPolicy .plain ⟨"u", [7]⟩
        (sent (.requestLost .unavailable) .answered)).phase = .returned (.ok ()) ∧
      SendsOnce DefaultPolicy .plain ⟨"u", [7]⟩ (sent (.requestLost .unavailable) .answered) := by
  have fresh : Event.FreshIds
      (SubmitEvent.calls shardData (submitted (.requestLost .unavailable) .answered)) := by
    unfold Event.FreshIds
    decide
  have submits : ∀ event ∈ submitted (.requestLost .unavailable) .answered, event.Delivers := by
    simp [submitted, SubmitEvent.Delivers, Env.plain]
  have sends : ∀ event ∈ sent (.requestLost .unavailable) .answered, event.Delivers := by
    simp [sent, oneShard, SendEvent.Delivers]
  have once := (retried_calls_once .plain shardData _ ⟨"u", [7]⟩ _ fresh submits sends).1
  exact ⟨fresh, by decide, once.1, by decide, by decide, once.2⟩

/-- The reply to the first request is lost: two tasks are added and the payload is in
the buffer twice, although the entry of the running task is open throughout. -/
theorem lost_reply_repeats :
    Event.FreshIds (SubmitEvent.calls shardData (submitted (.replyLost .unavailable) .answered)) ∧
      (Submission.reach DefaultPolicy .plain shardData
        (submitted (.replyLost .unavailable) .answered)).result = some (.ok "v") ∧
      (Submission.reach DefaultPolicy .plain shardData
        (submitted (.replyLost .unavailable) .answered)).added = ["u", "v"] ∧
      ¬ SubmitsOnce DefaultPolicy .plain shardData (submitted (.replyLost .unavailable) .answered) ∧
      (Sending.reach DefaultPolicy .plain ⟨"u", [7]⟩
        (sent (.replyLost .unavailable) .answered)).service.state.isHeldBy "g" "p" "u" = true ∧
      (Sending.reach DefaultPolicy .plain ⟨"u", [7]⟩
        (sent (.replyLost .unavailable) .answered)).appended = [[7], [7]] ∧
      ¬ SendsOnce DefaultPolicy .plain ⟨"u", [7]⟩ (sent (.replyLost .unavailable) .answered) := by
  have fresh : Event.FreshIds
      (SubmitEvent.calls shardData (submitted (.replyLost .unavailable) .answered)) := by
    unfold Event.FreshIds
    decide
  have twice : (Submission.reach DefaultPolicy .plain shardData
    (submitted (.replyLost .unavailable) .answered)).added = ["u", "v"] := by decide
  have doubled : (Sending.reach DefaultPolicy .plain ⟨"u", [7]⟩
    (sent (.replyLost .unavailable) .answered)).appended = [[7], [7]] := by decide
  refine ⟨fresh, by decide, twice, ?_, by decide, doubled, ?_⟩
  · intro once
    have single := once "v" (by decide)
    rw [twice] at single
    exact absurd single (by decide)
  · intro once
    have single := once (by decide) (by decide)
    rw [doubled] at single
    exact absurd single (by decide)

end Sp1Cluster
