import Sp1Cluster.Coordinator.Types
import Sp1Cluster.Systems.Runs

/-!
# The streams of one subscriber

The coordinator sends the messages of a subscriber to a channel. A forwarder
task moves them from the channel to the stream of the client and keeps each one
in a table until the client acknowledges it; every two seconds it sends those
again that have waited too long. When the client opens its stream again, the
forwarder is aborted and another one takes over the table, with a new channel.

The state is what the server keeps for one subscriber. Every read and write
that other tasks can observe is an event of its own: the lookup of the handler
when a stream is opened, the insertion of a first handler, the test whether the
stream is closed, each turn over the table, the test whether the table is
drained, and the end of the task. An existing handler is replaced under the lock
of its lookup. A message is known by its identifier; what it says is not looked
at.
-/

set_option autoImplicit false

namespace Sp1Cluster

/-- An entry of `unacked`: when the message was last sent, and how often it has
been sent again. -/
structure Unacked where
  lastAcked : SystemTime
  retries : ℕ
deriving DecidableEq, Repr

/-- Where a forwarder is in its loop. -/
inductive ForwarderPhase where
  /-- In `select!`, where an abort takes effect. -/
  | waiting
  /-- In the pass over `unacked`, with the time the pass read. -/
  | resending (now : SystemTime)
  /-- Before the test whether the table is drained. -/
  | checking
  /-- After that test, when it was. -/
  | leaving
deriving DecidableEq, Repr

/-- The task of `spawn_subscriber_channel_task`. `map` names the table it shares
with the handler; a finished task has dropped its end of the channel. -/
structure Forwarder where
  outerRx : List String
  map : ℕ
  streamOpen : Bool
  aborted : Bool
  finished : Bool
  phase : ForwarderPhase
deriving DecidableEq, Repr

/-- A forwarder that has just been spawned. -/
def Forwarder.spawned (map : ℕ) : Forwarder where
  outerRx := []
  map := map
  streamOpen := true
  aborted := false
  finished := false
  phase := .waiting

/-- `GenericSubscriberHandler`: the forwarder of the subscriber and the table of
its unacknowledged messages. -/
structure SubscriberHandler where
  current : ℕ
  unacked : ℕ
deriving DecidableEq, Repr

/-- What the server keeps for one subscriber. A forwarder and its channel have
the same number.

`registered` is the channel in the coordinator's entry of the subscriber.
`inserting` lists the calls of `open_sub` that have found no handler and not
inserted theirs yet, and `opening` those whose forwarder is in the handler and
whose channel is not registered yet. The last two fields only record the past:
every message that was sent again, and the messages the subscriber is still
owed. -/
structure StreamServer where
  forwarders : Table ℕ Forwarder
  maps : ℕ → Table String Unacked
  handler : Option SubscriberHandler
  registered : Option ℕ
  inserting : List ℕ
  opening : List ℕ
  next : ℕ
  resent : List String
  owed : List String

inductive StreamEvent where
  /-- `open_sub` up to its lookup of the handler, with the replacement of one it finds. -/
  | openSub
  /-- The insertion of a new handler by a call of `open_sub` that has found none. -/
  | insertSub (channel : ℕ)
  /-- `create_subscriber` of a call of `open_sub`. -/
  | createSubscriber (channel : ℕ)
  /-- The coordinator sends a message, on the registered channel or on one it
  read earlier. -/
  | send (channel : ℕ) (msgId : String)
  /-- `ack_sub`. -/
  | ackSub (msgId : String)
  /-- The coordinator drops its entry of the subscriber. -/
  | evict
  /-- The client drops the stream of a forwarder. -/
  | close (forwarder : ℕ)
  | receive (forwarder : ℕ) (now : SystemTime)
  | tick (forwarder : ℕ) (now : SystemTime)
  /-- One turn of the pass over `unacked`. -/
  | resend (forwarder : ℕ) (msgId : String)
  | endPass (forwarder : ℕ)
  | check (forwarder : ℕ)
  | leave (forwarder : ℕ)
  /-- An aborted forwarder is dropped. -/
  | drop (forwarder : ℕ)
deriving DecidableEq, Repr

/-- A message that has waited for four seconds is sent again. -/
def Unacked.due (now : SystemTime) (entry : Unacked) : Bool :=
  decide (4 * 1000000000 < now - entry.lastAcked)

namespace StreamServer

def start : StreamServer where
  forwarders := ∅
  maps _ := ∅
  handler := none
  registered := none
  inserting := []
  opening := []
  next := 0
  resent := []
  owed := []

def setForwarder (id : ℕ) (forwarder : Forwarder) (server : StreamServer) : StreamServer :=
  { server with forwarders := server.forwarders.insert id forwarder }

def setMap (map : ℕ) (table : Table String Unacked) (server : StreamServer) : StreamServer :=
  { server with maps := Function.update server.maps map table }

/-- The lookup of `open_sub`. The forwarder of an existing handler is aborted and the new
one shares its table; without a handler the new one gets a table of its own. -/
def openSub (server : StreamServer) : StreamServer :=
  match server.handler with
  | some handler =>
    { server with
      forwarders := (Table.modify handler.current (fun old => { old with aborted := true })
        server.forwarders).insert server.next (.spawned handler.unacked)
      handler := some { handler with current := server.next }
      opening := server.opening ++ [server.next]
      next := server.next + 1 }
  | none =>
    { server with
      forwarders := server.forwarders.insert server.next (.spawned server.next)
      maps := Function.update server.maps server.next ∅
      inserting := server.inserting ++ [server.next]
      next := server.next + 1 }

/-- The new handler takes the place of one that was inserted since the lookup. -/
def insertSub (channel : ℕ) (server : StreamServer) : StreamServer :=
  if channel ∈ server.inserting then
    { server with
      handler := some { current := channel, unacked := channel }
      inserting := server.inserting.erase channel
      opening := server.opening ++ [channel] }
  else server

def createSubscriber (channel : ℕ) (server : StreamServer) : StreamServer :=
  if channel ∈ server.opening then
    { server with registered := some channel, opening := server.opening.erase channel }
  else server

/-- A message is accepted when the receiving end of its channel still exists. It is
owed to the subscriber when the channel is the registered one. -/
def send (channel : ℕ) (msgId : String) (server : StreamServer) : StreamServer :=
  match server.forwarders.lookup channel with
  | none => server
  | some forwarder =>
    if forwarder.finished then server
    else
      { server.setForwarder channel { forwarder with outerRx := forwarder.outerRx ++ [msgId] } with
        owed := if server.registered = some channel then server.owed ++ [msgId] else server.owed }

/-- `ack_sub`; without a handler the call is refused. -/
def ackSub (msgId : String) (server : StreamServer) : StreamServer :=
  match server.handler with
  | none => server
  | some handler =>
    { server.setMap handler.unacked ((server.maps handler.unacked).erase msgId) with
      owed := server.owed.filter (· ≠ msgId) }

def evict (server : StreamServer) : StreamServer :=
  { server with registered := none, owed := [] }

/-- A step of a forwarder that has not finished. -/
def act (id : ℕ) (change : Forwarder → StreamServer) (server : StreamServer) : StreamServer :=
  match server.forwarders.lookup id with
  | none => server
  | some forwarder => if forwarder.finished then server else change forwarder

/-- The first branch of `select!`. -/
def receive (id : ℕ) (now : SystemTime) (server : StreamServer) : StreamServer :=
  server.act id fun forwarder =>
    match forwarder.phase, forwarder.outerRx with
    | .waiting, msgId :: rest =>
      (server.setForwarder id { forwarder with outerRx := rest }).setMap forwarder.map
        ((server.maps forwarder.map).insert msgId ⟨now, 0⟩)
    | _, _ => server

/-- The second branch of `select!`: a closed stream skips the pass. -/
def tick (id : ℕ) (now : SystemTime) (server : StreamServer) : StreamServer :=
  server.act id fun forwarder =>
    if forwarder.phase = .waiting then
      server.setForwarder id
        { forwarder with
          phase := if forwarder.streamOpen then .resending now else .checking }
    else server

/-- The table after the turn of the pass over a due message. -/
def resendEntry (now : SystemTime) (streamOpen : Bool) (msgId : String) (entry : Unacked)
    (table : Table String Unacked) : Table String Unacked :=
  if streamOpen && decide (entry.retries + 1 ≤ 3) then
    table.insert msgId ⟨now, entry.retries + 1⟩
  else table.erase msgId

/-- One turn of `retain`. A message that has really been sent again more than three
times is owed no longer. -/
def resend (id : ℕ) (msgId : String) (server : StreamServer) : StreamServer :=
  server.act id fun forwarder =>
    match forwarder.phase, (server.maps forwarder.map).lookup msgId with
    | .resending now, some entry =>
      if entry.due now then
        let resent := if forwarder.streamOpen then server.resent ++ [msgId] else server.resent
        { server.setMap forwarder.map
            (resendEntry now forwarder.streamOpen msgId entry (server.maps forwarder.map)) with
          resent := resent
          owed := server.owed.filter fun owed => !(owed == msgId && decide (3 < resent.count msgId)) }
      else server
    | _, _ => server

def endPass (id : ℕ) (server : StreamServer) : StreamServer :=
  server.act id fun forwarder =>
    match forwarder.phase with
    | .resending _ => server.setForwarder id { forwarder with phase := .checking }
    | _ => server

/-- The test whether the table is drained. -/
def check (id : ℕ) (server : StreamServer) : StreamServer :=
  server.act id fun forwarder =>
    if forwarder.phase = .checking then
      server.setForwarder id
        { forwarder with
          phase :=
            if (server.maps forwarder.map).entries.isEmpty || !forwarder.streamOpen then .leaving
            else .waiting }
    else server

/-- No sender of a channel is left: it is not registered and not about to be. -/
def channelClosed (id : ℕ) (server : StreamServer) : Bool :=
  decide (server.registered ≠ some id ∧ id ∉ server.inserting ∧ id ∉ server.opening)

/-- The end of a forwarder whose channel is closed and empty; it removes the handler if
it is still the forwarder of it. -/
def leave (id : ℕ) (server : StreamServer) : StreamServer :=
  server.act id fun forwarder =>
    if forwarder.phase = .leaving then
      if server.channelClosed id && forwarder.outerRx.isEmpty then
        let ended := server.setForwarder id { forwarder with finished := true }
        if server.handler.map SubscriberHandler.current = some id then
          { ended with handler := none }
        else ended
      else server.setForwarder id { forwarder with phase := .waiting }
    else server

/-- The end of an aborted forwarder: its channel is dropped with what is in it. -/
def drop (id : ℕ) (server : StreamServer) : StreamServer :=
  server.act id fun forwarder =>
    if forwarder.aborted && decide (forwarder.phase = .waiting) then
      server.setForwarder id { forwarder with finished := true, outerRx := [] }
    else server

def close (id : ℕ) (server : StreamServer) : StreamServer :=
  match server.forwarders.lookup id with
  | none => server
  | some forwarder => server.setForwarder id { forwarder with streamOpen := false }

def step (server : StreamServer) : StreamEvent → StreamServer
  | .openSub => server.openSub
  | .insertSub channel => server.insertSub channel
  | .createSubscriber channel => server.createSubscriber channel
  | .send channel msgId => server.send channel msgId
  | .ackSub msgId => server.ackSub msgId
  | .evict => server.evict
  | .close id => server.close id
  | .receive id now => server.receive id now
  | .tick id now => server.tick id now
  | .resend id msgId => server.resend id msgId
  | .endPass id => server.endPass id
  | .check id => server.check id
  | .leave id => server.leave id
  | .drop id => server.drop id

/-- What the server becomes by a list of events. -/
def reach (events : List StreamEvent) : StreamServer := Systems.run step start events

/-! ## Where messages are kept -/

/-- A message is in the table of the handler, or in the channel of a forwarder that
will move it there. -/
def Keeps (server : StreamServer) (msgId : String) : Prop :=
  ∃ handler, server.handler = some handler ∧
    (msgId ∈ server.maps handler.unacked ∨
      ∃ id forwarder, server.forwarders.lookup id = some forwarder ∧
        forwarder.finished = false ∧ forwarder.map = handler.unacked ∧ msgId ∈ forwarder.outerRx)

/-- What a channel holds. -/
def queueOf (server : StreamServer) (id : ℕ) : List String :=
  ((server.forwarders.lookup id).map Forwarder.outerRx).getD []

/-- Whether the stream of a forwarder is open. -/
def hasStream (server : StreamServer) (id : ℕ) : Bool :=
  ((server.forwarders.lookup id).map Forwarder.streamOpen).getD false

/-- The condition under which nothing is lost: a subscriber opens its streams one
after the other, from the lookup of the handler to the registered channel, an
aborted forwarder is dropped with an empty channel, and no stream closes during
a pass over its table. -/
def Careful (server : StreamServer) : StreamEvent → Prop
  | .openSub => server.inserting = [] ∧ server.opening = []
  | .drop id => server.queueOf id = []
  | .resend id _ => server.hasStream id = true
  | _ => True

instance (server : StreamServer) (event : StreamEvent) : Decidable (server.Careful event) := by
  unfold Careful
  split <;> infer_instance

end StreamServer

end Sp1Cluster
