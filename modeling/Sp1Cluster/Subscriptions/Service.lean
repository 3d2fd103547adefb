import Sp1Cluster.Coordinator.Calls

/-!
# The coordinator and its subscribers

The registry of subscribers is not behind the coordinator's lock, so a call and
the notifications it sends can interleave with everything else. The state is
that of the coordinator together with the registry and the operations that are
still running: subscriptions that have looked up their subscriber and wait for
the lock, creations that have found no subscriber and not inserted one yet, and
notifications that a call sends after it has released the lock.

Every section under the lock is one event, with the notifications it sends
inside. Every turn of a notification after the lock is an event of its own.
-/

set_option autoImplicit false

namespace Sp1Cluster

/-- `Subscriber`. -/
structure Subscriber where
  tx : Channel
  activeSubscriptions : KeySet String
  proofId : String
  lastUpdate : SystemTime

/-- A message sent to a subscriber. `readAt` is the number of events before the
one in which the sending operation read the channel from the registry. -/
structure Delivery where
  subId : String
  channel : Channel
  message : SubMessage
  readAt : ℕ
deriving DecidableEq, Repr

/-- A call of `add_subscriptions` that has looked up its subscriber and waits
for the lock. -/
structure Subscription where
  subId : String
  proofId : String
  channel : Channel
  taskIds : List String
  readAt : ℕ
deriving DecidableEq, Repr

/-- A call of `notify_subscribers` without the lock, with the subscribers that
are still to be told. -/
structure Notification where
  subscribers : List String
  proofId : String
  taskId : String
  status : TaskStatus
deriving DecidableEq, Repr

/-- The coordinator with its registry of subscribers, the operations that are
running, the messages sent to subscribers so far, and the number of events so
far. -/
structure Coordinator (P : Type) where
  state : CoordinatorState P
  subscribers : Table String Subscriber
  creating : List (String × Subscriber)
  subscribing : List Subscription
  notifying : List Notification
  deliveries : List Delivery
  time : ℕ

/-- The notification that a call leaves for after the lock. -/
def Effect.notification : Effect → Option Notification
  | .notifySubscribers subscribers proofId taskId status =>
    some ⟨subscribers, proofId, taskId, status⟩
  | _ => none

/-- Twice `COORDINATOR_PERIODIC_INTERVAL`, in nanoseconds. -/
def subscriberTimeout : ℤ := 2 * 10 * 1000000000

namespace Coordinator

variable {P : Type} [AssignmentPolicy P]

/-- `Coordinator::new`. -/
def new : Coordinator P where
  state := CoordinatorState.new
  subscribers := ∅
  creating := []
  subscribing := []
  notifying := []
  deliveries := []
  time := 0

/-- One turn of the loop in `notify_subscribers`: the channel is read from the
registry and the message is sent to it. -/
def notifySubscriber (taskId : String) (status : TaskStatus) (coordinator : Coordinator P)
    (subId : String) : Coordinator P :=
  match coordinator.subscribers.lookup subId with
  | none => coordinator
  | some sub =>
    { coordinator with
      subscribers := coordinator.subscribers.insert subId
        { sub with activeSubscriptions := sub.activeSubscriptions.erase taskId }
      deliveries := coordinator.deliveries ++
        [⟨subId, sub.tx, .taskResult taskId status, coordinator.time⟩] }

/-- What a section under the lock does to subscribers. A message that is sent
directly goes to a channel that was read `readAt` events after the start. -/
def perform (readAt : ℕ) (coordinator : Coordinator P) : Effect → Coordinator P
  | .notifySubscribers subscribers _ taskId status =>
    subscribers.foldl (notifySubscriber taskId status) coordinator
  | .toSubscriber subId channel message =>
    { coordinator with
      deliveries := coordinator.deliveries ++ [⟨subId, channel, message, readAt⟩] }
  | _ => coordinator

/-- A call of the coordinator other than a subscription. -/
def call (build : Build) (event : Event) (coordinator : Coordinator P) : Coordinator P :=
  if event.call.subscribes then coordinator
  else
    let outcome := coordinator.state.clearOutbox.exec build event.env event.call
    outcome.state.outbox.foldl (perform coordinator.time)
      { coordinator with
        state := outcome.state
        notifying := coordinator.notifying ++ outcome.after.filterMap Effect.notification }

/-- The first part of `create_subscriber`: the channel of a subscriber that
exists is replaced; otherwise the subscriber is still to be inserted. -/
def createSubscriber (subId proofId : String) (channel : Channel) (now : SystemTime)
    (coordinator : Coordinator P) : Coordinator P :=
  match coordinator.subscribers.lookup subId with
  | some sub =>
    { coordinator with
      subscribers := coordinator.subscribers.insert subId
        { sub with tx := channel, lastUpdate := now } }
  | none =>
    { coordinator with
      creating := coordinator.creating ++ [(subId,
        { tx := channel, activeSubscriptions := ∅, proofId := proofId, lastUpdate := now })] }

/-- The insertion of `create_subscriber`. -/
def insertSubscriber (index : ℕ) (coordinator : Coordinator P) : Coordinator P :=
  match coordinator.creating[index]? with
  | none => coordinator
  | some (subId, sub) =>
    { coordinator with
      subscribers := coordinator.subscribers.insert subId sub
      creating := coordinator.creating.eraseIdx index }

/-- The part of `add_subscriptions` before the lock. An unknown subscriber is
refused; without tasks there is nothing more to do. -/
def addSubscriptions (subId : String) (taskIds : List String) (now : SystemTime)
    (coordinator : Coordinator P) : Coordinator P :=
  match coordinator.subscribers.lookup subId with
  | none => coordinator
  | some sub =>
    { coordinator with
      subscribers := coordinator.subscribers.insert subId
        { sub with
          activeSubscriptions := taskIds.foldl (fun keys taskId => KeySet.add taskId keys)
            sub.activeSubscriptions
          lastUpdate := now }
      subscribing :=
        if taskIds.isEmpty then coordinator.subscribing
        else coordinator.subscribing ++
          [⟨subId, sub.proofId, sub.tx, taskIds, coordinator.time⟩] }

/-- The section of `add_subscriptions` under the lock, after which it returns
`Ok`. -/
def subscribe (index : ℕ) (coordinator : Coordinator P) : Coordinator P :=
  match coordinator.subscribing[index]? with
  | none => coordinator
  | some request =>
    let state := coordinator.state.clearOutbox.addSubscriptions request.subId request.proofId
      request.channel request.taskIds
    state.outbox.foldl (perform request.readAt)
      { coordinator with
        state := state
        subscribing := coordinator.subscribing.eraseIdx index }

/-- One turn of a notification without the lock. A set lists its elements in
any order. -/
def notify (index position : ℕ) (coordinator : Coordinator P) : Coordinator P :=
  match coordinator.notifying[index]? with
  | none => coordinator
  | some notification =>
    match notification.subscribers[position]? with
    | none => coordinator
    | some subId =>
      notifySubscriber notification.taskId notification.status
        { coordinator with
          notifying := coordinator.notifying.set index
            { notification with
              subscribers := notification.subscribers.eraseIdx position } } subId

/-- What `cleanup_dead_subscribers` does to one subscriber. -/
def cleanupDeadSubscriber (subId : String) (now : SystemTime) (coordinator : Coordinator P) :
    Coordinator P :=
  match coordinator.subscribers.lookup subId with
  | none => coordinator
  | some sub =>
    if subscriberTimeout < now - sub.lastUpdate then
      { coordinator with subscribers := coordinator.subscribers.erase subId }
    else coordinator

end Coordinator

/-! ## Runs -/

/-- What can happen next. -/
inductive ServiceEvent where
  | call (event : Event)
  | createSubscriber (subId proofId : String) (channel : Channel) (now : SystemTime)
  | insertSubscriber (index : ℕ)
  | addSubscriptions (subId : String) (taskIds : List String) (now : SystemTime)
  | subscribe (index : ℕ)
  | notify (index position : ℕ)
  | cleanupDeadSubscriber (subId : String) (now : SystemTime)

namespace ServiceEvent

/-- The task identifier an event draws, if it draws one. -/
def drawn : ServiceEvent → Option String
  | .call event => event.drawn
  | _ => none

/-- Task identifiers are fresh: no identifier is drawn twice. -/
def FreshIds (events : List ServiceEvent) : Prop := (events.filterMap drawn).Nodup

/-- The clock that a call reads is after the epoch. -/
def AfterEpoch : ServiceEvent → Prop
  | .call event => ∀ read, 0 ≤ event.env.clock read
  | _ => True

end ServiceEvent

namespace Coordinator

variable {P : Type} [AssignmentPolicy P]

def apply (build : Build) (coordinator : Coordinator P) : ServiceEvent → Coordinator P
  | .call event => coordinator.call build event
  | .createSubscriber subId proofId channel now =>
    coordinator.createSubscriber subId proofId channel now
  | .insertSubscriber index => coordinator.insertSubscriber index
  | .addSubscriptions subId taskIds now => coordinator.addSubscriptions subId taskIds now
  | .subscribe index => coordinator.subscribe index
  | .notify index position => coordinator.notify index position
  | .cleanupDeadSubscriber subId now => coordinator.cleanupDeadSubscriber subId now

/-- The coordinator after one event. -/
def step (build : Build) (coordinator : Coordinator P) (event : ServiceEvent) : Coordinator P :=
  { coordinator.apply build event with time := coordinator.time + 1 }

/-- What a new coordinator becomes by a list of events. -/
def reach (P : Type) [AssignmentPolicy P] (build : Build) (events : List ServiceEvent) :
    Coordinator P :=
  Systems.run (step build) new events

/-- The channel a subscriber is registered with. -/
def channelOf (coordinator : Coordinator P) (subId : String) : Option Channel :=
  (coordinator.subscribers.lookup subId).map (·.tx)

end Coordinator

end Sp1Cluster
