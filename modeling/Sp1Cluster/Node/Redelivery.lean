import Sp1Cluster.Coordinator.Quiescence
import Sp1Cluster.Node.Attempts

/-!
# Tasks that come back to the same worker

When the coordinator accepts a failure report as retryable it puts the task back
into its queue and assigns tasks in the same call, so the task may go back to the
reporting worker at once. The message then races the reply that lets the worker
clear its entry. Here a worker, its reporters and the channel from the coordinator
are put together: any calls of the coordinator interleave with the steps of the
worker, reports may be served more than once, and a reconnection replaces the
channel with what is left in it.

A task is *due* from the call that accepts a retryable failure of this worker until
it is sent to the worker again. The message that does that, in the same call or in
any later one, is the *redelivery* of the task.
-/

set_option autoImplicit false

namespace Sp1Cluster

open CoordinatorState

/-- A message in the channel of a worker. -/
structure Incoming where
  message : ServerMessage
  redelivery : Bool
deriving DecidableEq, Repr

/-- The first message that starts a task that is due is its redelivery. -/
def redeliver (due : List (String × String)) : List ServerMessage → List Incoming
  | [] => []
  | message :: rest =>
    ⟨message, decide (∃ key ∈ due, message.started = some key)⟩ ::
      redeliver (due.filter fun key => message.started ≠ some key) rest

/-- What a call has sent to a worker on one channel, in order. -/
def messagesOn (workerId : String) (channel : Channel) (effects : List Effect) :
    List ServerMessage :=
  effects.filterMap fun effect =>
    match effect with
    | .toWorker receiver stream message =>
      if receiver = workerId ∧ stream = channel then some message else none
    | _ => none

/-- Whether a retryable failure of a worker's attempt at a task is accepted as such. -/
def CoordinatorState.retries {P : Type} (workerId proofId taskId : String)
    (state : CoordinatorState P) : Bool :=
  state.isHeldBy workerId proofId taskId &&
    match state.getTask proofId taskId with
    | some task => task.status != .succeeded && (Task.fail true task).status == .failedRetryable
    | none => false

/-- The task that a call of a worker makes the coordinator try again. -/
def CoordinatorState.retried {P : Type} (workerId : String) (call : Call)
    (state : CoordinatorState P) : Option (String × String) :=
  match call with
  | .failTask reporter proofId taskId true =>
    if reporter = workerId ∧ state.retries workerId proofId taskId = true then
      some (proofId, taskId)
    else none
  | _ => none

def Report.call (workerId : String) (key : String × String) : Report → Option Call
  | .complete metadata => some (.completeTask workerId key.1 key.2 metadata)
  | .fail retryable => some (.failTask workerId key.1 key.2 retryable)
  | .nothing => none

/-- The coordinator, one worker and the channel between them. -/
structure WorkerLink (P : Type) where
  coordinator : CoordinatorState P
  channel : Channel
  node : WorkerNode
  inbox : List Incoming
  /-- The tasks of which a retryable failure of this worker has been accepted, and that have
  not been sent to it since. -/
  due : List (String × String)

inductive WorkerLinkEvent where
  /-- Any call of the coordinator, this worker's other calls and late requests included. -/
  | call (event : Event)
  /-- The call of a reporter is served. -/
  | report (work : ℕ) (env : Env)
  /-- The worker opens a new channel. -/
  | reconnect (env : Env) (workerType : WorkerType) (maxWeight : ℕ) (channel : Channel)
      (identity : WorkerIdentity)
  /-- The message loop handles the next message. -/
  | receive
  | node (event : NodeEvent)

namespace WorkerLink

section Model

variable {P : Type} [AssignmentPolicy P]

def start (P : Type) [AssignmentPolicy P] (workerId : String) : WorkerLink P where
  coordinator := .new
  channel := 0
  node := .new workerId
  inbox := []
  due := []

/-- What a call of the coordinator puts into the channel. -/
def sent (build : Build) (event : Event) (link : WorkerLink P) : List ServerMessage :=
  messagesOn link.node.workerId link.channel (link.coordinator.sentBy build event)

/-- The tasks that are due once a call has accepted what it accepts. -/
def accepted (event : Event) (link : WorkerLink P) : List (String × String) :=
  link.due ++ (link.coordinator.retried link.node.workerId event.call).toList

def serve (build : Build) (event : Event) (link : WorkerLink P) : WorkerLink P :=
  { link with
    coordinator := link.coordinator.step build event
    inbox := link.inbox ++ redeliver (link.accepted event) (link.sent build event)
    due := (link.accepted event).filter fun key =>
      ∀ message ∈ link.sent build event, message.started ≠ some key }

def reportEvent (work : ℕ) (env : Env) (link : WorkerLink P) : Option Event :=
  match link.node.attempts.lookup work with
  | some attempt =>
    match attempt.phase with
    | .reporting report =>
      (report.call link.node.workerId attempt.key).map fun call => ⟨env, call⟩
    | _ => none
  | none => none

def step (build : Build) (link : WorkerLink P) : WorkerLinkEvent → WorkerLink P
  | .call event => link.serve build event
  | .report work env =>
    match link.reportEvent work env with
    | some event => link.serve build event
    | none => link
  | .reconnect env workerType maxWeight channel identity =>
    serve build ⟨env, .addWorker link.node.workerId workerType maxWeight channel identity⟩
      { link with channel := channel, inbox := [] }
  | .receive =>
    match link.inbox with
    | [] => link
    | incoming :: rest =>
      { link with node := link.node.receive incoming.message, inbox := rest }
  | .node event => { link with node := link.node.step event }

def reach (P : Type) [AssignmentPolicy P] (build : Build) (workerId : String)
    (events : List WorkerLinkEvent) : WorkerLink P :=
  Systems.run (step build) (start P workerId) events

/-- When the coordinator accepts a retryable failure of this worker, no message for the task
is left in the channel and the worker's entry of it, if it has one, is of ended work. -/
abbrev Settled (link : WorkerLink P) (event : Event) : Prop :=
  ∀ key ∈ link.coordinator.retried link.node.workerId event.call,
    link.node.Ended key ∧ ∀ incoming ∈ link.inbox, incoming.message.started ≠ some key

/-- The next message does not meet an entry whose work has ended and whose reporter has not
dropped it yet. -/
abbrev Cleared (link : WorkerLink P) : Prop :=
  ∀ incoming ∈ link.inbox.head?, ∀ key ∈ incoming.message.started,
    ∀ entry ∈ link.node.tasks.lookup key, link.node.phaseOf entry.work = .running

def Prompt (link : WorkerLink P) : WorkerLinkEvent → Prop
  | .call event => link.Settled event
  | .report work env => ∀ event ∈ link.reportEvent work env, link.Settled event
  | .receive => link.Cleared
  | _ => True

instance (link : WorkerLink P) (event : WorkerLinkEvent) : Decidable (link.Prompt event) := by
  unfold Prompt
  split <;> infer_instance

end Model

/-! ## Messages in order -/

/-- Of two messages, the later is not the redelivery of a task that the earlier starts. -/
def Ahead (earlier later : Incoming) : Prop :=
  later.redelivery = true → earlier.message.started ≠ later.message.started

theorem message_mem_of_mem_redeliver {messages : List ServerMessage} {incoming : Incoming} :
    ∀ {due : List (String × String)}, incoming ∈ redeliver due messages →
      incoming.message ∈ messages := by
  induction messages with
  | nil => nofun
  | cons message rest ih =>
    intro due member
    rcases List.mem_cons.mp member with rfl | later
    · exact List.mem_cons_self
    · exact List.mem_cons_of_mem _ (ih later)

/-- A redelivery starts a task that was due. -/
theorem due_of_mem_redeliver {messages : List ServerMessage} {incoming : Incoming}
    (tagged : incoming.redelivery = true) :
    ∀ {due : List (String × String)}, incoming ∈ redeliver due messages →
      ∃ key ∈ due, incoming.message.started = some key := by
  induction messages with
  | nil => nofun
  | cons message rest ih =>
    intro due member
    rcases List.mem_cons.mp member with rfl | later
    · exact of_decide_eq_true tagged
    · obtain ⟨key, stillDue, starts⟩ := ih later
      exact ⟨key, (List.mem_filter.mp stillDue).1, starts⟩

theorem ahead_redeliver (messages : List ServerMessage) :
    ∀ due : List (String × String), (redeliver due messages).Pairwise Ahead := by
  induction messages with
  | nil => exact fun _ => .nil
  | cons message rest ih =>
    intro due
    refine (ih _).cons fun later member tagged => ?_
    obtain ⟨key, stillDue, starts⟩ := due_of_mem_redeliver tagged member
    rw [starts]
    exact of_decide_eq_true (List.mem_filter.mp stillDue).2

section Proofs

variable {P : Type} [AssignmentPolicy P] {build : Build} {link : WorkerLink P}

/-- A task is past when the worker's entry of it, if there is one, is of ended work and no
message for it is in the channel. -/
def Past (link : WorkerLink P) (key : String × String) : Prop :=
  link.node.Ended key ∧ ∀ incoming ∈ link.inbox, incoming.message.started ≠ some key

/-- A redelivery in the channel is the first message for its task, and the entry of the task,
if there is one, is of ended work; a task that is due is past. -/
structure Waiting (link : WorkerLink P) : Prop where
  numbered : link.node.Numbered
  ahead : link.inbox.Pairwise Ahead
  ended : ∀ incoming ∈ link.inbox, incoming.redelivery = true →
    ∃ key, incoming.message.started = some key ∧ link.node.Ended key
  due : ∀ key ∈ link.due, link.Past key

theorem waiting_start (workerId : String) : (start P workerId).Waiting where
  numbered _ _ found := by cases found
  ahead := .nil
  ended _ member := by cases member
  due _ member := by cases member

omit [AssignmentPolicy P] in
/-- What a call accepts is past, and so is what was due. -/
theorem Waiting.past_of_accepted (waiting : link.Waiting) {event : Event}
    (settled : link.Settled event) {key : String × String} (isDue : key ∈ link.accepted event) :
    link.Past key := by
  rcases List.mem_append.mp isDue with before | now
  · exact waiting.due key before
  · exact settled key (Option.mem_toList.mp now)

theorem Waiting.serve (waiting : link.Waiting) {event : Event} (settled : link.Settled event) :
    (link.serve build event).Waiting where
  numbered := waiting.numbered
  ahead := by
    refine List.pairwise_append.mpr ⟨waiting.ahead, ahead_redeliver _ _, ?_⟩
    intro earlier before later member tagged
    obtain ⟨key, isDue, starts⟩ := due_of_mem_redeliver tagged member
    rw [starts]
    exact (waiting.past_of_accepted settled isDue).2 earlier before
  ended incoming member tagged := by
    rcases List.mem_append.mp member with before | sent
    · exact waiting.ended incoming before tagged
    · obtain ⟨key, isDue, starts⟩ := due_of_mem_redeliver tagged sent
      exact ⟨key, starts, (waiting.past_of_accepted settled isDue).1⟩
  due key member := by
    obtain ⟨isDue, unsent⟩ := List.mem_filter.mp member
    obtain ⟨ended, before⟩ := waiting.past_of_accepted settled isDue
    refine ⟨ended, fun incoming there => ?_⟩
    rcases List.mem_append.mp there with earlier | sent
    · exact before incoming earlier
    · exact of_decide_eq_true unsent _ (message_mem_of_mem_redeliver sent)

omit [AssignmentPolicy P] in
theorem Waiting.receive (waiting : link.Waiting) {first : Incoming} {rest : List Incoming}
    (next : link.inbox = first :: rest) :
    Waiting { link with node := link.node.receive first.message, inbox := rest } := by
  obtain ⟨numbered, ahead, ended, due⟩ := waiting
  rw [next] at ahead ended
  obtain ⟨before, ahead⟩ := List.pairwise_cons.mp ahead
  refine ⟨numbered.receive first.message, ahead, fun incoming member tagged => ?_,
    fun key isDue => ?_⟩
  · obtain ⟨key, starts, past⟩ := ended incoming (List.mem_cons_of_mem _ member) tagged
    -- the message handled starts another task, if any
    have other : first.message.started ≠ some key := starts ▸ before incoming member tagged
    exact ⟨key, starts, past.receive numbered other⟩
  · obtain ⟨past, absent⟩ := due key isDue
    rw [next] at absent
    exact ⟨past.receive numbered (absent first List.mem_cons_self),
      fun incoming member => absent incoming (List.mem_cons_of_mem _ member)⟩

/-- **One step keeps redeliveries waiting for their turn**, when it is prompt. -/
theorem Waiting.step (waiting : link.Waiting) {event : WorkerLinkEvent} (prompt : link.Prompt event) :
    (link.step build event).Waiting := by
  cases event with
  | call event => exact waiting.serve prompt
  | report work env =>
    simp only [WorkerLink.step]
    split
    · next event called => exact waiting.serve (prompt event called)
    · exact waiting
  | reconnect env workerType maxWeight channel identity =>
    -- the new channel starts empty, and the call that opens it fails no task
    have empty : Waiting { link with channel := channel, inbox := [] } :=
      ⟨waiting.numbered, .nil, (fun _ member => by cases member),
        fun key isDue => ⟨(waiting.due key isDue).1, fun _ member => by cases member⟩⟩
    exact empty.serve fun key accepted => by cases accepted
  | receive =>
    simp only [WorkerLink.step]
    split
    · exact waiting
    · next first rest next => exact waiting.receive next
  | node event =>
    have recedes := WorkerNode.recedes_step link.node event
    refine ⟨recedes.numbered waiting.numbered, waiting.ahead, fun incoming member tagged => ?_,
      fun key isDue => ?_⟩
    · obtain ⟨key, starts, ended⟩ := waiting.ended incoming member tagged
      exact ⟨key, starts, recedes.keeps_ended ended⟩
    · obtain ⟨ended, absent⟩ := waiting.due key isDue
      exact ⟨recedes.keeps_ended ended, absent⟩

/-- **A redelivery is not ignored.** In every run in which the coordinator accepts a
retryable failure of the worker only while no message for the task is left in the channel and
the worker's entry of it is of ended work, and in which the worker handles a message for a
task only when its entry is not of ended work: a worker that is not draining starts a new
attempt when it handles a redelivery, whichever call sent it. -/
theorem redelivery_starts {workerId : String} {events : List WorkerLinkEvent}
    (prompt : Systems.Along (step build) (start P workerId) Prompt (events ++ [.receive]))
    {taskId metadata : String} {data : TaskData} {rest : List Incoming}
    (next : (reach P build workerId events).inbox =
      ⟨.newTask taskId data metadata, true⟩ :: rest)
    (opened : (reach P build workerId events).node.closed = false) :
    (reach P build workerId (events ++ [.receive])).node =
      (reach P build workerId events).node.start (data.proofId, taskId) data := by
  obtain ⟨before, cleared⟩ := Systems.along_snoc.mp prompt
  have waiting : (reach P build workerId events).Waiting :=
    Systems.run_invariant (fun _ link => link.Waiting) (waiting_start workerId)
      (fun _ _ _ waiting prompt => waiting.step prompt) before
  have handled : (reach P build workerId (events ++ [.receive])).node =
      (reach P build workerId events).node.receive (.newTask taskId data metadata) := by
    unfold reach at next ⊢
    rw [Systems.run_snoc]
    simp only [step, next]
  have absent : (data.proofId, taskId) ∉ (reach P build workerId events).node.tasks := by
    intro present
    obtain ⟨entry, found⟩ := Table.exists_lookup present
    obtain ⟨key, starts, ended⟩ := waiting.ended _ (by rw [next]; exact List.mem_cons_self) rfl
    cases starts
    have head : ⟨.newTask taskId data metadata, true⟩ ∈
        (reach P build workerId events).inbox.head? := by
      rw [next]
      rfl
    exact ended entry found (cleared _ head _ rfl entry found)
  rw [handled, WorkerNode.receive, opened, if_neg Bool.false_ne_true, if_neg absent]

end Proofs

/-! ## Two runs -/

/-- A shard fails while a vkey setup waits, which the worker is given first. The reporter of
the shard drops its entry, and the call that completes the setup redelivers the shard. -/
def setupBetween : List WorkerLinkEvent :=
  [.reconnect (.plain 1000000000 "") .gpu 8 0 ⟨"", "", "", "", 0, ""⟩,
    .call ((Call.claim "p").plain "c"), .call ((Call.spawn "p" .proveShard 8).plain "t"),
    .call ((Call.spawn "p" .setupVkey 8).plain "u"), .receive,
    .node (.finish 0 (.finished .failedRetryable none)), .report 0 (.plain 1000000000 ""),
    .receive, .node (.reply 0), .node (.drop 0),
    .node (.finish 1 (.finished .succeeded none)), .report 1 (.plain 1000000000 "")]

theorem redelivery_starts_setupBetween :
    Systems.Along (step .plain) (start DefaultPolicy "w") Prompt (setupBetween ++ [.receive]) ∧
      (reach DefaultPolicy .plain "w" (setupBetween ++ [.receive])).node =
        (reach DefaultPolicy .plain "w" setupBetween).node.start ("p", "t")
          ⟨.proveShard, [], [], "", "p", none, 8, ""⟩ := by
  have prompt : Systems.Along (step .plain) (start DefaultPolicy "w") Prompt
      (setupBetween ++ [.receive]) := by decide +kernel
  have next : (reach DefaultPolicy .plain "w" setupBetween).inbox =
      [⟨.newTask "t" ⟨.proveShard, [], [], "", "p", none, 8, ""⟩ "null", true⟩] := by
    decide +kernel
  exact ⟨prompt, redelivery_starts prompt next (by decide +kernel)⟩

/-- A worker takes the controller task of a proof and fails it, and the coordinator accepts
that as retryable. -/
def failedOnce : List WorkerLinkEvent :=
  [.reconnect (.plain 1000000000 "") .cpu 8 0 ⟨"", "", "", "", 0, ""⟩,
    .call ((Call.claim "p").plain "t"), .receive,
    .node (.finish 0 (.finished .failedRetryable none)), .report 0 (.plain 1000000000 "")]

/-- **A redelivery is lost.** The worker is not draining and handles the redelivery while the
entry of the failed attempt is still there. It starts nothing, and after the reporter has
dropped the entry it does not work on the task, which the coordinator has recorded for it. -/
theorem redelivery_ignored :
    (reach DefaultPolicy .plain "w" failedOnce).inbox.map (fun incoming =>
        (incoming.message.started, incoming.redelivery)) = [(some ("p", "t"), true)] ∧
      (reach DefaultPolicy .plain "w" failedOnce).node.closed = false ∧
      (reach DefaultPolicy .plain "w" (failedOnce ++ [.receive])).inbox = [] ∧
      (reach DefaultPolicy .plain "w" (failedOnce ++ [.receive])).node.spawned = 1 ∧
      ("p", "t") ∉ (reach DefaultPolicy .plain "w"
        (failedOnce ++ [.receive, .node (.reply 0), .node (.drop 0)])).node.tasks ∧
      (reach DefaultPolicy .plain "w"
        (failedOnce ++ [.receive, .node (.reply 0), .node (.drop 0)])).coordinator.isHeldBy
          "w" "p" "t" = true := by
  decide +kernel

end WorkerLink

end Sp1Cluster
