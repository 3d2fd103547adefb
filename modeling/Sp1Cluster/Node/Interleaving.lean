import Sp1Cluster.Node.Attempts

/-!
# The loop of a node and its tasks, operation by operation

The message loop of a node, the work of its attempts, their reporters and the reports
of wedged tasks run side by side. They share the table of tasks, the counter of
reporters in flight and, for each attempt, the time at which the watchdog aborted it.
Here every operation on something shared is a step of its own, so that the steps of
the others come between any two of them. In particular

* a new task is spawned, counted and only then entered into the table, and its reporter
  may have ended by that time;
* the watchdog looks at the entries one after another and acts on what it saw later;
* the exit of the loop tests the table first and the counter after it.

Which entry comes next is open when the loop goes over a table or a set. The channel
to the coordinator is left out: a tick may find it silent for too long, or fail to
reconnect, at any time. Reporters do not panic. The calls of the coordinator return at
any time, with any result.

Left alone, the loop handles a message as the loop without attempts does
(`Shows.settles`), and so it does any messages (`message_loops_agree`).
-/

set_option autoImplicit false

namespace Sp1Cluster

/-! ## Attempts -/

/-- `ActiveTask`, with the number of its work. -/
structure TimedTask where
  data : TaskData
  startedAt : ℕ
  work : ℕ
deriving DecidableEq, Repr

/-- Where the reporter of an attempt is. -/
inductive ReporterPhase where
  /-- It is not counted yet. -/
  | uncounted
  /-- It is counted and not spawned yet. -/
  | unspawned
  /-- It waits for the work. -/
  | awaiting
  /-- The work has ended, and the abort is not looked at yet. -/
  | joined (result : WorkResult)
  /-- It has called the coordinator. -/
  | calling (report : Report)
  /-- The call has returned. -/
  | returned
  /-- It has nothing left to do but to be taken off the counter. -/
  | leaving
  | released
  | finished
deriving DecidableEq, Repr

/-- Reporters that are on the counter. -/
def ReporterPhase.inFlight : ReporterPhase → Bool
  | .uncounted | .released | .finished => false
  | _ => true

/-- An attempt at a task. `reported` and `cancelled` are for the record: the call of its
reporter has returned, and a `CancelTask` aborted it when its work had not ended. -/
structure TrackedAttempt where
  key : String × String
  result : Option WorkResult
  aborted : Bool
  abortedAt : Option ℕ
  reporter : ReporterPhase
  reported : Bool
  cancelled : Bool
deriving DecidableEq, Repr

/-- A new attempt, with its work just spawned. -/
def TrackedAttempt.new (key : String × String) : TrackedAttempt where
  key := key
  result := none
  aborted := false
  abortedAt := none
  reporter := .uncounted
  reported := false
  cancelled := false

def TrackedAttempt.endWork (result : WorkResult) (attempt : TrackedAttempt) : TrackedAttempt :=
  { attempt with result := some result }

/-- `CancelTask` aborts the work. -/
def TrackedAttempt.cancel (attempt : TrackedAttempt) : TrackedAttempt :=
  { attempt with
    aborted := true
    cancelled := attempt.cancelled || attempt.result.isNone }

/-- The watchdog marks the attempt before it aborts the work. A mark is set once. -/
def TrackedAttempt.mark (now : ℕ) (attempt : TrackedAttempt) : TrackedAttempt :=
  { attempt with abortedAt := attempt.abortedAt.orElse fun _ => some now }

/-- The watchdog aborts the work. -/
def TrackedAttempt.abort (attempt : TrackedAttempt) : TrackedAttempt :=
  { attempt with aborted := true }

def TrackedAttempt.goTo (phase : ReporterPhase) (attempt : TrackedAttempt) : TrackedAttempt :=
  { attempt with reporter := phase }

/-- The reporter's call returns. -/
def TrackedAttempt.reply (attempt : TrackedAttempt) : TrackedAttempt :=
  { attempt with reporter := .returned, reported := true }

/-! ## The loop -/

/-- `ABORT_GRACE`, in seconds. -/
def abortGrace : ℕ := 10

/-- The timeouts of a node, in seconds. -/
structure NodeTimeouts where
  taskTimeout : ℕ
  drainTimeout : ℕ
deriving DecidableEq, Repr

inductive TimeoutAction where
  | leave
  | abort
  | report
deriving DecidableEq, Repr

/-- `timeout_action`. -/
def timeoutAction (timeouts : NodeTimeouts) (now : ℕ) (entry : TimedTask)
    (attempt : TrackedAttempt) : TimeoutAction :=
  if attempt.result.isSome ∨ now - entry.startedAt ≤ timeouts.taskTimeout then .leave
  else
    match attempt.abortedAt with
    | some abortedAt => if abortGrace < now - abortedAt then .report else .abort
    | none => .abort

/-- The sweep of a tick: entries that are not looked at yet, what is to be done with those
that were, and the wedged tasks that have been removed. -/
structure Sweep where
  unvisited : List (String × String)
  panicked : List (String × String)
  timedOut : List (String × String)
  wedged : List (String × String)
  removed : List (String × String)
deriving DecidableEq, Repr

def Sweep.done (sweep : Sweep) : Bool :=
  sweep.unvisited.isEmpty && sweep.panicked.isEmpty && sweep.timedOut.isEmpty &&
    sweep.wedged.isEmpty

/-- Why the loop has ended. -/
inductive LoopExit where
  /-- It is closed, the table is empty and no reporter is in flight. -/
  | drained
  /-- Draining took too long. -/
  | forced
  /-- The coordinator was silent for too long. -/
  | silent
deriving DecidableEq, Repr

/-- Where the loop is: the operation that it does next. -/
inductive LoopPhase where
  /-- It waits for a message, a tick or the signal to shut down. -/
  | selecting
  /-- `contains_key` for a new task -/
  | arriving (key : String × String) (data : TaskData)
  /-- `tokio::spawn` of its work -/
  | spawningWork (key : String × String) (data : TaskData)
  /-- `fetch_add` for its reporter -/
  | counting (key : String × String) (data : TaskData) (work : ℕ)
  /-- `tokio::spawn` of its reporter -/
  | spawningReporter (key : String × String) (data : TaskData) (work : ℕ)
  /-- `insert` of its entry -/
  | inserting (key : String × String) (data : TaskData) (work : ℕ)
  /-- `get` and `abort` for a task to cancel -/
  | cancelling (key : String × String)
  /-- `remove` of its entry -/
  | removing (key : String × String)
  /-- The call to close is out. -/
  | closing
  /-- `is_empty`, on a tick or after the signal to shut down -/
  | testingTable (onTick : Bool)
  /-- `load` of the counter -/
  | testingCount (onTick : Bool)
  /-- The checks of a tick before its sweep -/
  | watching
  | sweeping (sweep : Sweep)
  /-- `abort` of work that has been marked -/
  | aborting (work : ℕ) (sweep : Sweep)
  /-- `abort` of wedged work whose entry has been removed -/
  | retiring (key : String × String) (work : ℕ) (sweep : Sweep)
  /-- `tokio::spawn` of a report of wedged tasks, which is counted already -/
  | spawningWedged (keys : List (String × String))
  | exited (reason : LoopExit)
deriving DecidableEq, Repr

/-- Where a report of wedged tasks is. -/
inductive WedgedPhase where
  /-- It waits for the call to close. -/
  | closing (keys : List (String × String))
  /-- It fails the tasks one after another. -/
  | failing (keys : List (String × String))
  | ended
deriving DecidableEq, Repr

/-- Reports of wedged tasks that are on the counter. -/
def WedgedPhase.inFlight : WedgedPhase → Bool
  | .ended => false
  | _ => true

/-- A node with everything that runs in it. -/
structure WorkerLoop where
  tasks : Table (String × String) TimedTask
  attempts : Table ℕ TrackedAttempt
  /-- How many attempts have been started. -/
  spawned : ℕ
  /-- `reporters_in_flight` -/
  inFlight : ℕ
  wedgedReports : Table ℕ WedgedPhase
  /-- How many reports of wedged tasks have been spawned. -/
  wedgedSpawned : ℕ
  closed : Bool
  drainStartedAt : Option ℕ
  phase : LoopPhase
  clock : ℕ

inductive LoopEvent where
  /-- The loop takes a message. -/
  | message (message : ServerMessage)
  | tick
  /-- The loop takes the signal to shut down. -/
  | shutdown
  /-- The loop does its next operation. -/
  | proceed
  /-- The sweep goes on with the entry of a task. -/
  | handle (key : String × String)
  /-- A tick finds the coordinator silent. -/
  | silence
  /-- A tick fails to reconnect. -/
  | reconnectFails
  /-- The work of an attempt ends. -/
  | workEnds (work : ℕ) (result : WorkResult)
  /-- The reporter of an attempt does its next operation. -/
  | report (work : ℕ)
  /-- A report of wedged tasks does its next operation. -/
  | wedgedReport (number : ℕ)
  /-- Time passes. -/
  | elapse (seconds : ℕ)
deriving DecidableEq, Repr

namespace WorkerLoop

def new : WorkerLoop where
  tasks := ∅
  attempts := ∅
  spawned := 0
  inFlight := 0
  wedgedReports := ∅
  wedgedSpawned := 0
  closed := false
  drainStartedAt := none
  phase := .selecting
  clock := 0

def modifyAttempt (work : ℕ) (change : TrackedAttempt → TrackedAttempt) (state : WorkerLoop) :
    WorkerLoop :=
  { state with attempts := state.attempts.modify work change }

def goTo (phase : LoopPhase) (state : WorkerLoop) : WorkerLoop := { state with phase := phase }

def erase (key : String × String) (state : WorkerLoop) : WorkerLoop :=
  { state with tasks := state.tasks.erase key }

/-- The start of a message's arm. -/
def receive (state : WorkerLoop) : ServerMessage → WorkerLoop
  | .newTask taskId data _ =>
    if state.closed then state else state.goTo (.arriving (data.proofId, taskId) data)
  | .cancelTask proofId taskId => state.goTo (.cancelling (proofId, taskId))
  | .serverHeartbeat => state

/-- What follows a test of the exit that fails. -/
def afterTest (onTick : Bool) : LoopPhase := if onTick then .watching else .selecting

variable (timeouts : NodeTimeouts)

/-- The checks of a tick between the exit test and the sweep: the drain timeout. -/
def watch (state : WorkerLoop) : WorkerLoop :=
  if state.drainStartedAt.any fun startedAt => timeouts.drainTimeout < state.clock - startedAt then
    state.goTo (.exited .forced)
  else state.goTo (.sweeping ⟨state.tasks.keys, [], [], [], []⟩)

/-- The end of a sweep. Wedged tasks close the node, and their report is counted. -/
def endSweep (sweep : Sweep) (state : WorkerLoop) : WorkerLoop :=
  if sweep.removed.isEmpty then state.goTo .selecting
  else
    { state with
      closed := true
      drainStartedAt := state.drainStartedAt.orElse fun _ => some state.clock
      inFlight := state.inFlight + 1
      phase := .spawningWedged sweep.removed }

/-- The next operation of the loop, if it is determined by where the loop is. -/
def proceed (state : WorkerLoop) : WorkerLoop :=
  match state.phase with
  | .selecting => state
  | .arriving key data =>
    if key ∈ state.tasks then state.goTo .selecting else state.goTo (.spawningWork key data)
  | .spawningWork key data =>
    { state with
      attempts := state.attempts.insert state.spawned (.new key)
      spawned := state.spawned + 1
      phase := .counting key data state.spawned }
  | .counting key data work =>
    { state.modifyAttempt work (·.goTo .unspawned) with
      inFlight := state.inFlight + 1
      phase := .spawningReporter key data work }
  | .spawningReporter key data work =>
    (state.modifyAttempt work (·.goTo .awaiting)).goTo (.inserting key data work)
  | .inserting key data work =>
    { state with
      tasks := state.tasks.insert key ⟨data, state.clock, work⟩
      phase := .selecting }
  | .cancelling key =>
    match state.tasks.lookup key with
    | some entry => (state.modifyAttempt entry.work (·.cancel)).goTo (.removing key)
    | none => state.goTo .selecting
  | .removing key => (state.erase key).goTo .selecting
  | .closing => state.goTo (.testingTable false)
  | .testingTable onTick =>
    if state.tasks.keys.isEmpty then state.goTo (.testingCount onTick)
    else state.goTo (afterTest onTick)
  | .testingCount onTick =>
    if state.inFlight = 0 then state.goTo (.exited .drained) else state.goTo (afterTest onTick)
  | .watching => state.watch timeouts
  | .sweeping sweep => if sweep.done then state.endSweep sweep else state
  | .aborting work sweep => (state.modifyAttempt work (·.abort)).goTo (.sweeping sweep)
  | .retiring key work sweep =>
    (state.modifyAttempt work (·.abort)).goTo
      (.sweeping { sweep with removed := sweep.removed ++ [key] })
  | .spawningWedged keys =>
    { state with
      wedgedReports := state.wedgedReports.insert state.wedgedSpawned (.closing keys)
      wedgedSpawned := state.wedgedSpawned + 1
      phase := .selecting }
  | .exited _ => state

def visit (key : String × String) (sweep : Sweep) (state : WorkerLoop) : Sweep :=
  let sweep := { sweep with unvisited := sweep.unvisited.erase key }
  match state.tasks.lookup key with
  | none => sweep
  | some entry =>
    match state.attempts.lookup entry.work with
    | none => sweep
    | some attempt =>
      if attempt.reporter = .finished then { sweep with panicked := key :: sweep.panicked }
      else
        match timeoutAction timeouts state.clock entry attempt with
        | .leave => sweep
        | .abort => { sweep with timedOut := key :: sweep.timedOut }
        | .report => { sweep with wedged := key :: sweep.wedged }

local instance : LawfulBEq (String × String) := inferInstance

/-- The sweep goes on with the entry of a task: it first looks at all entries, then clears
those whose reporter has ended, marks those that have timed out, and removes the wedged ones. -/
def handle (key : String × String) (sweep : Sweep) (state : WorkerLoop) : WorkerLoop :=
  if !sweep.unvisited.isEmpty then
    if key ∈ sweep.unvisited then state.goTo (.sweeping (state.visit timeouts key sweep)) else state
  else if !sweep.panicked.isEmpty then
    -- the reporter has not panicked, so nothing is reported
    if key ∈ sweep.panicked then
      (state.erase key).goTo (.sweeping { sweep with panicked := sweep.panicked.erase key })
    else state
  else if !sweep.timedOut.isEmpty then
    if key ∈ sweep.timedOut then
      let sweep := { sweep with timedOut := sweep.timedOut.erase key }
      match state.tasks.lookup key with
      | some entry =>
        (state.modifyAttempt entry.work (·.mark state.clock)).goTo (.aborting entry.work sweep)
      | none => state.goTo (.sweeping sweep)
    else state
  else if key ∈ sweep.wedged then
    let sweep := { sweep with wedged := sweep.wedged.erase key }
    match state.tasks.lookup key with
    | some entry => (state.erase key).goTo (.retiring key entry.work sweep)
    | none => state.goTo (.sweeping sweep)
  else state

/-- `drop_if_current`. -/
def dropIfCurrent (key : String × String) (work : ℕ) (state : WorkerLoop) : WorkerLoop :=
  match state.tasks.lookup key with
  | some entry => if entry.work = work then state.erase key else state
  | none => state

def report (work : ℕ) (attempt : TrackedAttempt) (state : WorkerLoop) : WorkerLoop :=
  match attempt.reporter with
  | .uncounted | .unspawned | .finished => state
  | .awaiting =>
    match attempt.result with
    | some result => state.modifyAttempt work (·.goTo (.joined result))
    | none => state
  | .joined result =>
    match reportFor result attempt.abortedAt.isSome with
    | .nothing => state.modifyAttempt work (·.goTo .leaving)
    | report => state.modifyAttempt work (·.goTo (.calling report))
  | .calling _ => state.modifyAttempt work (·.reply)
  | .returned => (state.dropIfCurrent attempt.key work).modifyAttempt work (·.goTo .leaving)
  | .leaving =>
    { state.modifyAttempt work (·.goTo .released) with inFlight := state.inFlight - 1 }
  | .released => state.modifyAttempt work (·.goTo .finished)

def reportWedged (number : ℕ) (state : WorkerLoop) : WorkerLoop :=
  match state.wedgedReports.lookup number with
  | some (.closing keys) =>
    { state with wedgedReports := state.wedgedReports.insert number (.failing keys) }
  | some (.failing (_ :: keys)) =>
    { state with wedgedReports := state.wedgedReports.insert number (.failing keys) }
  | some (.failing []) =>
    { state with
      wedgedReports := state.wedgedReports.insert number .ended
      inFlight := state.inFlight - 1 }
  | some .ended | none => state

def step (state : WorkerLoop) : LoopEvent → WorkerLoop
  | .message message => if state.phase = .selecting then state.receive message else state
  | .tick =>
    if state.phase = .selecting then
      state.goTo (if state.closed then .testingTable true else .watching)
    else state
  | .shutdown =>
    if state.phase = .selecting ∧ state.closed = false then
      { state with closed := true, drainStartedAt := some state.clock, phase := .closing }
    else state
  | .proceed => state.proceed timeouts
  | .handle key =>
    match state.phase with
    | .sweeping sweep => state.handle timeouts key sweep
    | _ => state
  | .silence =>
    if state.phase = .watching ∧ state.closed = false then state.goTo (.exited .silent) else state
  | .reconnectFails => if state.phase = .watching then state.goTo .selecting else state
  | .workEnds work result =>
    match state.attempts.lookup work with
    | some attempt =>
      -- work is only cancelled when it was aborted
      if attempt.result = none ∧ (result = .cancelled → attempt.aborted = true) then
        state.modifyAttempt work (·.endWork result)
      else state
    | none => state
  | .report work =>
    match state.attempts.lookup work with
    | some attempt => state.report work attempt
    | none => state
  | .wedgedReport number => state.reportWedged number
  | .elapse seconds => { state with clock := state.clock + seconds }

def after (events : List LoopEvent) : WorkerLoop := Systems.run (step timeouts) new events

/-! ## The loop left alone -/

/-- A node without its attempts is a node of the message loop. -/
abbrev Shows (state : WorkerLoop) (plain : Node) : Prop :=
  plain.Reads TimedTask.data state.closed state.tasks

variable {timeouts} {state : WorkerLoop} {plain : Node}

/-- The loop takes a message and does operations, and nobody else does any. -/
def settle (timeouts : NodeTimeouts) (message : ServerMessage) (operations : ℕ)
    (state : WorkerLoop) : WorkerLoop :=
  Systems.run (step timeouts) state (.message message :: List.replicate operations .proceed)

theorem settle_eq_iterate (idle : state.phase = .selecting) (message : ServerMessage)
    (operations : ℕ) :
    state.settle timeouts message operations =
      (proceed timeouts)^[operations] (state.receive message) := by
  have proceeds : ∀ (start : WorkerLoop) (count : ℕ),
      Systems.run (step timeouts) start (List.replicate count .proceed) =
        (proceed timeouts)^[count] start := by
    intro start count
    induction count generalizing start with
    | zero => rfl
    | succ count ih => exact ih (start.proceed timeouts)
  change Systems.run (step timeouts) (state.step timeouts (.message message)) _ = _
  rw [proceeds]
  exact congrArg _ (if_pos idle)

/-- The operations that start an attempt. -/
theorem proceed_spawningWork (key : String × String) (data : TaskData) :
    (proceed timeouts)^[4] (state.goTo (.spawningWork key data)) =
      { state with
        attempts := Table.modify state.spawned (·.goTo .awaiting)
          (Table.modify state.spawned (·.goTo .unspawned)
            (state.attempts.insert state.spawned (.new key)))
        spawned := state.spawned + 1
        inFlight := state.inFlight + 1
        tasks := state.tasks.insert key ⟨data, state.clock, state.spawned⟩
        phase := .selecting } :=
  rfl

/-- **A message that is handled with nobody else in between** is handled as by the loop without
attempts. -/
theorem Shows.settles (shows : state.Shows plain) (idle : state.phase = .selecting)
    (timeouts : NodeTimeouts) (message : ServerMessage) :
    ∃ operations, (state.settle timeouts message operations).phase = .selecting ∧
      (state.settle timeouts message operations).Shows (plain.receive message) := by
  simp only [settle_eq_iterate idle]
  cases message with
  | newTask taskId data metadata =>
    dsimp only [Node.receive, receive]
    rw [shows.closed]
    by_cases closed : state.closed = true
    · rw [if_pos closed, if_pos closed]
      exact ⟨0, idle, shows⟩
    · rw [if_neg closed, if_neg closed]
      by_cases present : (data.proofId, taskId) ∈ state.tasks
      · have ignored : (state.goTo (.arriving (data.proofId, taskId) data)).proceed timeouts =
            state.goTo .selecting := if_pos present
        rw [if_pos ((shows.mem_iff _).mpr present)]
        refine ⟨1, ?_⟩
        rw [Function.iterate_one, ignored]
        exact ⟨rfl, shows.closed, shows.tasks⟩
      · have accepted : (state.goTo (.arriving (data.proofId, taskId) data)).proceed timeouts =
            state.goTo (.spawningWork (data.proofId, taskId) data) := if_neg present
        rw [if_neg (mt (shows.mem_iff _).mp present)]
        refine ⟨5, ?_⟩
        rw [Function.iterate_succ_apply, accepted, proceed_spawningWork]
        refine ⟨rfl, rfl, fun key => ?_⟩
        rw [Table.lookup_insert_eq, Table.lookup_insert_eq]
        split
        · rfl
        · exact shows.tasks key
  | cancelTask proofId taskId =>
    have erased : ∀ key, (plain.tasks.erase (proofId, taskId)).lookup key =
        ((state.tasks.erase (proofId, taskId)).lookup key).map TimedTask.data := by
      intro key
      rw [Table.lookup_erase_eq, Table.lookup_erase_eq]
      split
      · rfl
      · exact shows.tasks key
    cases found : state.tasks.lookup (proofId, taskId) with
    | some entry =>
      have aborted : (state.goTo (.cancelling (proofId, taskId))).proceed timeouts =
          (state.modifyAttempt entry.work (·.cancel)).goTo (.removing (proofId, taskId)) := by
        change (match state.tasks.lookup (proofId, taskId) with | some entry => _ | none => _) = _
        rw [found]
        rfl
      refine ⟨2, ?_⟩
      rw [receive, Function.iterate_succ_apply, aborted]
      exact ⟨rfl, shows.closed, erased⟩
    | none =>
      have missed : (state.goTo (.cancelling (proofId, taskId))).proceed timeouts =
          state.goTo .selecting := by
        change (match state.tasks.lookup (proofId, taskId) with | some entry => _ | none => _) = _
        rw [found]
        rfl
      have same : state.tasks.erase (proofId, taskId) = state.tasks :=
        Table.erase_of_notMem (AList.lookup_eq_none.mp found)
      refine ⟨1, ?_⟩
      rw [receive, Function.iterate_one, missed]
      exact ⟨rfl, shows.closed, fun key => (erased key).trans (by rw [same]; rfl)⟩
  | serverHeartbeat => exact ⟨0, idle, shows⟩

/-- The message that an event brings. -/
def arrival : LoopEvent → Option ServerMessage
  | .message message => some message
  | _ => none

theorem exists_settled (timeouts : NodeTimeouts) (workerId : String)
    (messages : List ServerMessage) :
    ∃ events : List LoopEvent, events.filterMap arrival = messages ∧
      (Systems.run (step timeouts) new events).phase = .selecting ∧
      (Systems.run (step timeouts) new events).Shows
        (Node.receiveAll ⟨workerId, ∅, false⟩ messages) := by
  induction messages using List.reverseRecOn with
  | nil => exact ⟨[], rfl, rfl, rfl, fun _ => rfl⟩
  | append_singleton messages message ih =>
    obtain ⟨events, arrived, idle, shows⟩ := ih
    obtain ⟨operations, idleNext, showsNext⟩ := shows.settles idle timeouts message
    refine ⟨events ++ .message message :: List.replicate operations .proceed, ?_, ?_⟩
    · simp [List.filterMap_append, List.filterMap_replicate, arrived, arrival]
    · rw [Systems.run_append, Node.receiveAll, List.foldl_append]
      exact ⟨idleNext, showsNext⟩

end WorkerLoop

/-- **The three models of the message loop agree.** After any messages, the node that keeps its
attempts has the tasks and the closing mark of the node that keeps none; and the loop of single
operations has a run that takes the same messages, in order, and ends with them too. -/
theorem message_loops_agree (timeouts : NodeTimeouts) (workerId : String)
    (messages : List ServerMessage) :
    (messages.foldl WorkerNode.receive (.new workerId)).Shows
        (Node.receiveAll ⟨workerId, ∅, false⟩ messages) ∧
      ∃ events : List LoopEvent, events.filterMap WorkerLoop.arrival = messages ∧
        (Systems.run (WorkerLoop.step timeouts) .new events).phase = .selecting ∧
        (Systems.run (WorkerLoop.step timeouts) .new events).Shows
          (Node.receiveAll ⟨workerId, ∅, false⟩ messages) := by
  refine ⟨?_, WorkerLoop.exists_settled timeouts workerId messages⟩
  induction messages using List.reverseRecOn with
  | nil => exact ⟨⟨rfl, fun _ => rfl⟩, rfl⟩
  | append_singleton messages message ih =>
    rw [List.foldl_append, Node.receiveAll, List.foldl_append]
    exact ih.receive message

end Sp1Cluster
