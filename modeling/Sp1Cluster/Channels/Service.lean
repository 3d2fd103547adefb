import Sp1Cluster.Channels.Entry
import Sp1Cluster.Coordinator.Calls

/-!
# The coordinator and its message channels

The table of channels is not behind the coordinator's lock. Sending to a task
and subscribing to it first look the entry up without the lock, and only if
there is none take the lock, look again and create the entry for a task that can
still send. Sections under the lock close the entries of the tasks they end, one
after the other, while lookups without the lock go on; no other section runs
until the last of them is closed.
-/

set_option autoImplicit false

namespace Sp1Cluster

open Systems

/-- A `send_task_message` that has found no entry and waits for the lock. -/
structure SendRequest where
  taskId : String
  payload : Payload
deriving DecidableEq, Repr

/-- A `subscribe_task_channel` that has found no entry and waits for the lock. -/
structure SubscribeRequest where
  taskId : String
  startOffset : ℕ
deriving DecidableEq, Repr

/-- The coordinator with its task channels, the receivers it has returned and
the tasks they were returned for, the operations that wait for the lock, and the
entries that the section holding the lock has still to close. -/
structure ChannelService (P : Type) where
  state : CoordinatorState P
  taskChannels : Table String MessageChannelInner
  streams : Streams
  owners : List String
  sending : List SendRequest
  subscribing : List SubscribeRequest
  closing : List String

inductive ChannelEvent where
  | call (event : Event)
  | closeNext (now : ℕ)
  | send (taskId : String) (payload : Payload)
  | sendLocked (index : ℕ)
  | subscribe (taskId : String) (startOffset : ℕ)
  | subscribeLocked (index : ℕ)
  | collect (taskId : String) (now : ℕ)
  | dropReceiver (index : ℕ)

/-- The entries that an effect of a section closes. Shutting down closes all. -/
def Effect.closedChannels (all : List String) : Effect → List String
  | .closeTaskChannel taskId => [taskId]
  | .endStreams => all
  | _ => []

/-- `STALE_THRESHOLD`, in nanoseconds. -/
def staleThreshold : ℕ := 60 * 1000000000

/-- `task_can_still_send`. -/
def CoordinatorState.taskCanStillSend {P : Type} (taskId : String) (state : CoordinatorState P) :
    Bool :=
  state.proofs.entries.any fun entry =>
    match entry.2.tasks.lookup taskId with
    | none => false
    | some task => !task.status.isFinal

namespace ChannelService

variable {P : Type} [AssignmentPolicy P]

/-- `Coordinator::new`. -/
def new : ChannelService P where
  state := CoordinatorState.new
  taskChannels := ∅
  streams := []
  owners := []
  sending := []
  subscribing := []
  closing := []

/-- Store what an operation leaves of an entry and of the receivers. -/
def setEntry (taskId : String) (result : MessageChannelInner × Streams)
    (service : ChannelService P) : ChannelService P :=
  { service with
    taskChannels := service.taskChannels.insert taskId result.1
    streams := result.2 }

def grant (taskId : String) (service : ChannelService P) : ChannelService P :=
  { service with owners := service.owners ++ [taskId] }

/-- `open_channel`: the entry of a task, or a new one. -/
def openChannel (taskId : String) (service : ChannelService P) : MessageChannelInner :=
  (service.taskChannels.lookup taskId).getD .empty

/-- A section under the lock. It waits while another one holds it. -/
def call (build : Build) (event : Event) (service : ChannelService P) : ChannelService P :=
  if service.closing.isEmpty then
    let state := service.state.step build event
    { service with
      state := state
      closing := state.outbox.flatMap
        (Effect.closedChannels (event.env.shuffle service.taskChannels.keys)) }
  else service

/-- `close_task_channel` for the next entry of the running section. -/
def closeNext (now : ℕ) (service : ChannelService P) : ChannelService P :=
  match service.closing with
  | [] => service
  | taskId :: rest =>
    let service := { service with closing := rest }
    match service.taskChannels.lookup taskId with
    | none => service
    | some inner => service.setEntry taskId (inner.close now service.streams)

/-- `send_task_message` up to the lock. -/
def send (taskId : String) (payload : Payload) (service : ChannelService P) : ChannelService P :=
  match service.taskChannels.lookup taskId with
  | some inner => service.setEntry taskId (inner.push payload service.streams)
  | none => { service with sending := service.sending ++ [⟨taskId, payload⟩] }

/-- `send_task_message` under the lock. A message for a task that cannot send any
more is dropped. -/
def sendUnderLock (request : SendRequest) (service : ChannelService P) : ChannelService P :=
  match service.taskChannels.lookup request.taskId with
  | some inner => service.setEntry request.taskId (inner.push request.payload service.streams)
  | none =>
    if service.state.taskCanStillSend request.taskId then
      service.setEntry request.taskId
        ((service.openChannel request.taskId).push request.payload service.streams)
    else service

/-- A message that waits for the lock gets it. -/
def sendLocked (index : ℕ) (service : ChannelService P) : ChannelService P :=
  if service.closing.isEmpty then
    match service.sending[index]? with
    | none => service
    | some request =>
      ({ service with sending := service.sending.eraseIdx index }).sendUnderLock request
  else service

/-- `subscribe_task_channel` up to the lock. -/
def subscribe (taskId : String) (startOffset : ℕ) (service : ChannelService P) :
    ChannelService P :=
  match service.taskChannels.lookup taskId with
  | some inner =>
    (service.setEntry taskId (inner.attachSubscriber startOffset service.streams)).grant taskId
  | none => { service with subscribing := service.subscribing ++ [⟨taskId, startOffset⟩] }

/-- `subscribe_task_channel` under the lock. For a task that cannot send any more
the stream ends at once. -/
def subscribeLocked (index : ℕ) (service : ChannelService P) : ChannelService P :=
  if service.closing.isEmpty then
    match service.subscribing[index]? with
    | none => service
    | some request =>
      let service := { service with subscribing := service.subscribing.eraseIdx index }
      match service.taskChannels.lookup request.taskId with
      | some inner =>
        (service.setEntry request.taskId
          (inner.attachSubscriber request.startOffset service.streams)).grant request.taskId
      | none =>
        if service.state.taskCanStillSend request.taskId then
          (service.setEntry request.taskId
            ((service.openChannel request.taskId).attachSubscriber request.startOffset
              service.streams)).grant request.taskId
        else
          ({ service with
            streams := Mailboxes.create [endOfStreamResponse] service.streams }).grant
              request.taskId
  else service

/-- `cleanup_stale_task_channels` for one entry. -/
def collect (taskId : String) (now : ℕ) (service : ChannelService P) : ChannelService P :=
  match service.taskChannels.lookup taskId with
  | none => service
  | some inner =>
    match inner.closedAt with
    | none => service
    | some closedAt =>
      if staleThreshold < now - closedAt then
        { service with taskChannels := service.taskChannels.erase taskId }
      else service

def dropReceiver (index : ℕ) (service : ChannelService P) : ChannelService P :=
  { service with streams := Mailboxes.drop index service.streams }

def step (build : Build) (service : ChannelService P) : ChannelEvent → ChannelService P
  | .call event => service.call build event
  | .closeNext now => service.closeNext now
  | .send taskId payload => service.send taskId payload
  | .sendLocked index => service.sendLocked index
  | .subscribe taskId startOffset => service.subscribe taskId startOffset
  | .subscribeLocked index => service.subscribeLocked index
  | .collect taskId now => service.collect taskId now
  | .dropReceiver index => service.dropReceiver index

def reach (P : Type) [AssignmentPolicy P] (build : Build) (events : List ChannelEvent) :
    ChannelService P :=
  run (step build) new events

end ChannelService

namespace ChannelEvent

def calls (events : List ChannelEvent) : List Event :=
  events.filterMap fun
    | .call event => some event
    | _ => none

theorem calls_append (first second : List ChannelEvent) :
    calls (first ++ second) = calls first ++ calls second := by
  simp [calls]

end ChannelEvent

end Sp1Cluster
