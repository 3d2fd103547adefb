import Sp1Cluster.Coordinator.Calls

/-!
# The message loop of a node

A node keeps the tasks it works on under the pair of the proof and the task, and
its loop takes the messages of the coordinator one after the other. The handles
of the work, its reporters and the watchdog of the loop are not part of this
module.
-/

set_option autoImplicit false

namespace Sp1Cluster

/-- The tasks a node works on, and whether it is draining. -/
structure Node where
  workerId : String
  tasks : Table (String × String) TaskData
  closed : Bool

namespace Node

/-- The arms of the message loop in `run_worker_inner`. A task that is already
being worked on is not started again; a draining node starts nothing. -/
def receive (node : Node) : ServerMessage → Node
  | .newTask taskId data _ =>
    if node.closed then node
    else if (data.proofId, taskId) ∈ node.tasks then node
    else { node with tasks := node.tasks.insert (data.proofId, taskId) data }
  | .cancelTask proofId taskId => { node with tasks := node.tasks.erase (proofId, taskId) }
  | .serverHeartbeat => node

def receiveAll (node : Node) (messages : List ServerMessage) : Node :=
  messages.foldl receive node

end Node

/-! ## Entries that hold more than the task

The other models of a node keep more under a key than the data of the task. What they share with
this one reads the data out of an entry. -/

section Entries

variable {Entry : Type} (data : Entry → TaskData)

/-- `build_heartbeat_request`: one pass over the table of tasks, in the order in
which it lists them. -/
def heartbeatOf (workerId : String) (tasks : Table (String × String) Entry) (env : Env) : Call :=
  let entries := env.shuffle tasks.entries
  .handleHeartbeat workerId (entries.map fun entry => entry.1.1)
    (entries.map fun entry => entry.1.2)
    ((entries.map fun entry => (data entry.2).weight).sum % 2 ^ 32)

/-- A table of entries and a closing mark, read without what else the entries hold, are those of
a node of the message loop. -/
structure Node.Reads (closed : Bool) (tasks : Table (String × String) Entry) (plain : Node) :
    Prop where
  closed : plain.closed = closed
  tasks : ∀ key, plain.tasks.lookup key = (tasks.lookup key).map data

variable {data} {closed : Bool} {tasks : Table (String × String) Entry} {plain : Node}

theorem Node.Reads.mem_iff (reads : Node.Reads data closed tasks plain) (key : String × String) :
    key ∈ plain.tasks ↔ key ∈ tasks := by
  rw [← AList.lookup_isSome, ← AList.lookup_isSome, reads.tasks, Option.isSome_map]

end Entries

/-- `build_heartbeat_request`. -/
def Node.buildHeartbeatRequest (env : Env) (node : Node) : Call :=
  heartbeatOf id node.workerId node.tasks env

theorem mem_reported {ν : Type} {tasks : Table (String × String) ν} (env : Env)
    (key : String × String) :
    key ∈ ((env.shuffle tasks.entries).map fun entry => entry.1.1).zip
        ((env.shuffle tasks.entries).map fun entry => entry.1.2) ↔ key ∈ tasks := by
  rw [List.zip_map']
  constructor
  · intro listed
    obtain ⟨entry, member, rfl⟩ := List.mem_map.mp listed
    exact Table.mem_of_lookup (Table.mem_entries_iff.mp (env.mem_shuffle.mp member))
  · intro member
    obtain ⟨data, found⟩ := Table.exists_lookup member
    exact List.mem_map.mpr
      ⟨⟨key, data⟩, env.mem_shuffle.mpr (Table.mem_entries_iff.mpr found), rfl⟩

/-- The messages that a call has sent to a worker, in order. -/
def messagesTo (workerId : String) (effects : List Effect) : List ServerMessage :=
  effects.filterMap fun effect =>
    match effect with
    | .toWorker receiver _ message => if receiver = workerId then some message else none
    | _ => none

/-! ## What messages do to the tasks of a node -/

namespace Node

variable {node : Node} {key : String × String}

theorem receiveAll_append (node : Node) (first second : List ServerMessage) :
    node.receiveAll (first ++ second) = (node.receiveAll first).receiveAll second :=
  List.foldl_append

theorem closed_receive (node : Node) (message : ServerMessage) :
    (node.receive message).closed = node.closed := by
  unfold receive
  split
  · split
    · rfl
    · split <;> rfl
  · rfl
  · rfl

theorem closed_receiveAll (node : Node) (messages : List ServerMessage) :
    (node.receiveAll messages).closed = node.closed := by
  refine List.foldlRecOn (motive := fun next : Node => next.closed = node.closed) messages _ rfl ?_
  intro next same message _
  rw [closed_receive, same]

/-- A node that is not draining works on a task it has received. -/
theorem mem_receive_newTask (opened : node.closed = false) (taskId : String) (data : TaskData)
    (metadata : String) :
    key ∈ (node.receive (.newTask taskId data metadata)).tasks ↔
      key = (data.proofId, taskId) ∨ key ∈ node.tasks := by
  unfold receive
  rw [opened]
  dsimp only
  rw [if_neg Bool.false_ne_true]
  split
  · next present =>
    constructor
    · exact .inr
    · rintro (rfl | member)
      · exact present
      · exact member
  · exact AList.mem_insert _

theorem mem_receiveAll_cancelTasks (node : Node) (keys : List (String × String)) :
    key ∈ (node.receiveAll (keys.map fun key => .cancelTask key.1 key.2)).tasks ↔
      key ∈ node.tasks ∧ key ∉ keys := by
  induction keys generalizing node with
  | nil => simp [receiveAll]
  | cons first rest ih =>
    change key ∈ ((node.receive (.cancelTask first.1 first.2)).receiveAll _).tasks ↔ _
    rw [ih, receive, AList.mem_erase, List.mem_cons, not_or]
    tauto

def startMessage (metadata : String) (task : Task) : ServerMessage :=
  .newTask task.id task.data metadata

theorem mem_receiveAll_newTasks (metadata : String) (opened : node.closed = false)
    (tasks : List Task) :
    key ∈ (node.receiveAll (tasks.map (startMessage metadata))).tasks ↔
      key ∈ node.tasks ∨ ∃ task ∈ tasks, key = (task.data.proofId, task.id) := by
  induction tasks generalizing node with
  | nil => simp [receiveAll]
  | cons first rest ih =>
    change key ∈ ((node.receive (startMessage metadata first)).receiveAll _).tasks ↔ _
    rw [ih ((closed_receive ..).trans opened), startMessage, mem_receive_newTask opened]
    simp only [List.mem_cons, exists_eq_or_imp]
    tauto

end Node

theorem messagesTo_append (workerId : String) (first second : List Effect) :
    messagesTo workerId (first ++ second) = messagesTo workerId first ++ messagesTo workerId second :=
  List.filterMap_append

end Sp1Cluster
