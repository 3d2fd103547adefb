import Sp1Cluster.Node.Loop

/-!
# Attempts of a node at its tasks

A node works on a task in an attempt: the work runs in a task of its own, and a
reporter waits for it, reports the outcome to the coordinator and, once the call
has returned, drops the entry of the task unless another attempt has taken its
place. The message loop starts and cancels attempts, and its watchdog aborts those
that take too long and clears entries that nobody else will.

An attempt is known by the number of its work. Each operation on the table of tasks
is one step. Reading the table without the attempts gives the node of the message
loop (`Shows.receive`).
-/

set_option autoImplicit false

namespace Sp1Cluster

def ServerMessage.started : ServerMessage → Option (String × String)
  | .newTask taskId data _ => some (data.proofId, taskId)
  | _ => none

/-- `ActiveTask`, with the number of its work. -/
structure ActiveTask where
  data : TaskData
  work : ℕ
deriving DecidableEq, Repr

/-- How the work of an attempt ends. -/
inductive WorkResult where
  | finished (status : TaskStatus) (metadata : Option TaskMetadata)
  | cancelled
  | panicked
deriving DecidableEq, Repr

/-- What a reporter owes the coordinator. -/
inductive Report where
  | complete (metadata : TaskMetadata)
  | fail (retryable : Bool)
  | nothing
deriving DecidableEq, Repr

/-- `report_for`. -/
def reportFor (result : WorkResult) (timedOut : Bool) : Report :=
  match result with
  | .finished .succeeded (some metadata) => .complete metadata
  | .finished .succeeded none => .fail false
  | .finished status _ => .fail (status == .failedRetryable)
  | .cancelled => if timedOut then .fail true else .nothing
  | .panicked => .fail false

/-- Where an attempt is. -/
inductive AttemptPhase where
  /-- The work has not ended. -/
  | running
  /-- The reporter has called the coordinator. -/
  | reporting (report : Report)
  /-- The call has returned, and the entry is not dropped yet. -/
  | replied
  /-- The reporter has ended. -/
  | ended
deriving DecidableEq, Repr

/-- An attempt at a task. `aborted` says that its work was told to stop, `timedOut` that the
watchdog did that. -/
structure Attempt where
  key : String × String
  aborted : Bool
  timedOut : Bool
  phase : AttemptPhase
deriving DecidableEq, Repr

/-- A node with the attempts it has made. -/
structure WorkerNode where
  workerId : String
  tasks : Table (String × String) ActiveTask
  attempts : Table ℕ Attempt
  /-- How many attempts have been started. -/
  spawned : ℕ
  closed : Bool

inductive NodeEvent where
  /-- The work of an attempt ends. -/
  | finish (work : ℕ) (result : WorkResult)
  /-- The reporter's call returns, with any result. -/
  | reply (work : ℕ)
  /-- The reporter drops the entry. -/
  | drop (work : ℕ)
  /-- The watchdog aborts a task that has run for too long. -/
  | abort (key : String × String)
  /-- The watchdog removes an entry whose reporter has ended. -/
  | sweep (key : String × String)
  /-- The watchdog gives up on work that ignores its abort, and the node drains. -/
  | wedge (key : String × String)
  /-- The node is told to shut down. -/
  | close
deriving DecidableEq, Repr

namespace WorkerNode

def new (workerId : String) : WorkerNode where
  workerId := workerId
  tasks := ∅
  attempts := ∅
  spawned := 0
  closed := false

/-- Where an attempt is; one that was never made has ended. -/
def phaseOf (node : WorkerNode) (work : ℕ) : AttemptPhase :=
  ((node.attempts.lookup work).map Attempt.phase).getD .ended

def modifyAttempt (work : ℕ) (change : Attempt → Attempt) (node : WorkerNode) : WorkerNode :=
  { node with attempts := node.attempts.modify work change }

def start (key : String × String) (data : TaskData) (node : WorkerNode) : WorkerNode :=
  { node with
    tasks := node.tasks.insert key ⟨data, node.spawned⟩
    attempts := node.attempts.insert node.spawned
      { key := key, aborted := false, timedOut := false, phase := .running }
    spawned := node.spawned + 1 }

/-- The arms of the message loop in `run_worker_inner`. The spawns and the entry of a new task
are one step. -/
def receive (node : WorkerNode) : ServerMessage → WorkerNode
  | .newTask taskId data _ =>
    if node.closed then node
    else if (data.proofId, taskId) ∈ node.tasks then node
    else node.start (data.proofId, taskId) data
  | .cancelTask proofId taskId =>
    match node.tasks.lookup (proofId, taskId) with
    | some entry =>
      ({ node with tasks := node.tasks.erase (proofId, taskId) }).modifyAttempt entry.work
        fun attempt => { attempt with aborted := true }
    | none => node
  | .serverHeartbeat => node

/-- `drop_if_current`. -/
def dropIfCurrent (key : String × String) (work : ℕ) (node : WorkerNode) : WorkerNode :=
  match node.tasks.lookup key with
  | some entry =>
    if entry.work = work then { node with tasks := node.tasks.erase key } else node
  | none => node

/-- The steps of the work, the reporters and the watchdog. -/
def step (node : WorkerNode) : NodeEvent → WorkerNode
  | .finish work result =>
    match node.attempts.lookup work with
    | some attempt =>
      -- work is only cancelled when it was told to stop
      if attempt.phase = .running ∧ (result = .cancelled → attempt.aborted = true) then
        node.modifyAttempt work fun attempt =>
          { attempt with
            phase :=
              match reportFor result attempt.timedOut with
              | .nothing => .ended
              | report => .reporting report }
      else node
    | none => node
  | .reply work =>
    match node.phaseOf work with
    | .reporting _ => node.modifyAttempt work fun attempt => { attempt with phase := .replied }
    | _ => node
  | .drop work =>
    match node.attempts.lookup work with
    | some attempt =>
      if attempt.phase = .replied then
        (node.dropIfCurrent attempt.key work).modifyAttempt work fun attempt =>
          { attempt with phase := .ended }
      else node
    | none => node
  | .abort key =>
    match node.tasks.lookup key with
    | some entry =>
      if node.phaseOf entry.work = .running then
        node.modifyAttempt entry.work fun attempt =>
          { attempt with aborted := true, timedOut := true }
      else node
    | none => node
  | .sweep key =>
    match node.tasks.lookup key with
    | some entry =>
      if node.phaseOf entry.work = .ended then { node with tasks := node.tasks.erase key }
      else node
    | none => node
  | .wedge key =>
    match node.tasks.lookup key with
    | some entry =>
      if node.phaseOf entry.work = .running ∧
          (node.attempts.lookup entry.work).any Attempt.timedOut = true then
        { node with tasks := node.tasks.erase key, closed := true }
      else node
    | none => node
  | .close => { node with closed := true }

/-! ## The node of the message loop -/

/-- A node without its attempts is a node of the message loop. -/
structure Shows (node : WorkerNode) (plain : Node) : Prop
    extends plain.Reads ActiveTask.data node.closed node.tasks where
  workerId : plain.workerId = node.workerId

/-- **The loop that keeps attempts handles a message as the loop without them does.** -/
theorem Shows.receive {node : WorkerNode} {plain : Node} (shows : node.Shows plain)
    (message : ServerMessage) : (node.receive message).Shows (plain.receive message) := by
  cases message with
  | newTask taskId data metadata =>
    unfold WorkerNode.receive Node.receive
    simp only [shows.closed, shows.mem_iff]
    split
    · exact shows
    · split
      · exact shows
      · refine ⟨⟨rfl, fun key => ?_⟩, shows.workerId⟩
        unfold start
        rw [Table.lookup_insert_eq, Table.lookup_insert_eq]
        split
        · rfl
        · exact shows.tasks key
  | cancelTask proofId taskId =>
    -- a node without an entry has nothing to erase
    cases found : node.tasks.lookup (proofId, taskId) with
    | some entry =>
      simp only [WorkerNode.receive, Node.receive, found]
      refine ⟨⟨shows.closed, fun key => ?_⟩, shows.workerId⟩
      change (plain.tasks.erase (proofId, taskId)).lookup key =
        ((node.tasks.erase (proofId, taskId)).lookup key).map ActiveTask.data
      rw [Table.lookup_erase_eq, Table.lookup_erase_eq]
      split
      · rfl
      · exact shows.tasks key
    | none =>
      simp only [WorkerNode.receive, Node.receive, found]
      refine ⟨⟨shows.closed, fun key => ?_⟩, shows.workerId⟩
      change (plain.tasks.erase (proofId, taskId)).lookup key = _
      rw [Table.lookup_erase_eq]
      split
      · next same => rw [same, found, Option.map_none]
      · exact shows.tasks key
  | serverHeartbeat => exact shows

/-! ## What steps leave of a task -/

/-- Every entry is of an attempt that has been made. -/
def Numbered (node : WorkerNode) : Prop :=
  ∀ key entry, node.tasks.lookup key = some entry → entry.work < node.spawned

/-- The entry of a task, if it has one, is of work that has ended. -/
abbrev Ended (node : WorkerNode) (key : String × String) : Prop :=
  ∀ entry ∈ node.tasks.lookup key, node.phaseOf entry.work ≠ .running

variable {node : WorkerNode} {key : String × String}

/-- Entries that are there were there before, and work that has ended stays so. -/
structure Recedes (node after : WorkerNode) : Prop where
  spawned : after.spawned = node.spawned
  tasks : ∀ {key entry}, after.tasks.lookup key = some entry →
    node.tasks.lookup key = some entry
  ended : ∀ {work}, after.phaseOf work = .running → node.phaseOf work = .running

theorem Recedes.refl (node : WorkerNode) : node.Recedes node := ⟨rfl, id, id⟩

theorem Recedes.trans {first second third : WorkerNode} (earlier : first.Recedes second)
    (later : second.Recedes third) : first.Recedes third where
  spawned := later.spawned.trans earlier.spawned
  tasks found := earlier.tasks (later.tasks found)
  ended running := earlier.ended (later.ended running)

theorem Recedes.numbered {after : WorkerNode} (recedes : node.Recedes after)
    (numbered : node.Numbered) : after.Numbered := by
  intro key entry found
  rw [recedes.spawned]
  exact numbered key entry (recedes.tasks found)

theorem Recedes.keeps_ended {after : WorkerNode} (recedes : node.Recedes after)
    (ended : node.Ended key) : after.Ended key := by
  intro entry found running
  exact ended entry (recedes.tasks found) (recedes.ended running)

theorem recedes_erase (node : WorkerNode) (key : String × String) :
    node.Recedes { node with tasks := node.tasks.erase key } where
  spawned := rfl
  tasks {other entry} found := by
    change (node.tasks.erase key).lookup other = some entry at found
    exact Table.lookup_of_erase found
  ended running := running

theorem recedes_modifyAttempt (node : WorkerNode) (work : ℕ) {change : Attempt → Attempt}
    (ended : ∀ attempt, (change attempt).phase = .running → attempt.phase = .running) :
    node.Recedes (node.modifyAttempt work change) where
  spawned := rfl
  tasks found := found
  ended {other} running := by
    unfold phaseOf modifyAttempt at *
    rw [Table.lookup_modify_eq] at running
    split at running
    · next same =>
      rw [same]
      cases found : node.attempts.lookup work with
      | none =>
        rw [found] at running
        cases running
      | some attempt =>
        rw [found] at running
        exact ended attempt running
    · exact running

theorem recedes_dropIfCurrent (node : WorkerNode) (key : String × String) (work : ℕ) :
    node.Recedes (node.dropIfCurrent key work) := by
  unfold dropIfCurrent
  split
  · split
    · exact recedes_erase node key
    · exact .refl node
  · exact .refl node

/-- **Work, reporters and the watchdog start nothing.** -/
theorem recedes_step (node : WorkerNode) (event : NodeEvent) : node.Recedes (node.step event) := by
  cases event with
  | finish work result =>
    simp only [step]
    split
    · split
      · refine recedes_modifyAttempt node work fun attempt running => ?_
        dsimp only at running
        split at running <;> cases running
      · exact .refl node
    · exact .refl node
  | reply work =>
    simp only [step]
    split
    · exact recedes_modifyAttempt node work nofun
    · exact .refl node
  | drop work =>
    simp only [step]
    split
    · split
      · exact (recedes_dropIfCurrent node _ work).trans (recedes_modifyAttempt _ work nofun)
      · exact .refl node
    · exact .refl node
  | abort key =>
    simp only [step]
    split
    · split
      · exact recedes_modifyAttempt node _ fun _ running => running
      · exact .refl node
    · exact .refl node
  | sweep key =>
    simp only [step]
    split
    · split
      · exact recedes_erase node key
      · exact .refl node
    · exact .refl node
  | wedge key =>
    simp only [step]
    split
    · split
      · exact ⟨rfl, (recedes_erase node key).tasks, id⟩
      · exact .refl node
    · exact .refl node
  | close => exact ⟨rfl, id, id⟩

theorem recedes_cancelTask (node : WorkerNode) (proofId taskId : String) :
    node.Recedes (node.receive (.cancelTask proofId taskId)) := by
  simp only [receive]
  split
  · exact (recedes_erase node _).trans (recedes_modifyAttempt _ _ fun _ running => running)
  · exact .refl node

theorem Numbered.receive (numbered : node.Numbered) (message : ServerMessage) :
    (node.receive message).Numbered := by
  cases message with
  | newTask taskId data metadata =>
    simp only [WorkerNode.receive]
    split
    · exact numbered
    · split
      · exact numbered
      · intro other entry found
        unfold start at found ⊢
        rcases Table.lookup_insert_cases found with ⟨_, rfl⟩ | ⟨_, found⟩
        · exact Nat.lt_succ_self _
        · exact Nat.lt_succ_of_lt (numbered other entry found)
  | cancelTask proofId taskId => exact (recedes_cancelTask node proofId taskId).numbered numbered
  | serverHeartbeat => exact numbered

theorem Ended.receive (ended : node.Ended key) (numbered : node.Numbered)
    {message : ServerMessage} (other : message.started ≠ some key) :
    (node.receive message).Ended key := by
  cases message with
  | newTask taskId data metadata =>
    simp only [WorkerNode.receive]
    split
    · exact ended
    · split
      · exact ended
      · intro entry found running
        have distinct : key ≠ (data.proofId, taskId) := fun same => other (congrArg some same.symm)
        have present : node.tasks.lookup key = some entry :=
          (AList.lookup_insert_ne distinct).symm.trans found
        -- the new attempt has a number that no entry has
        have older : entry.work ≠ node.spawned := (numbered key entry present).ne
        refine ended entry present ?_
        unfold phaseOf start at running
        rw [Table.lookup_insert_eq, if_neg older] at running
        exact running
  | cancelTask proofId taskId => exact (recedes_cancelTask node proofId taskId).keeps_ended ended
  | serverHeartbeat => exact ended

end WorkerNode

end Sp1Cluster
