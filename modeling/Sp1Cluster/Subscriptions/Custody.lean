import Sp1Cluster.Subscriptions.Streams

/-!
# Custody of unacknowledged messages

A message that the registered channel of a subscriber has accepted is in that
channel or in the table of unacknowledged messages until the client
acknowledges it, until it has been sent again more than three times, or until
the coordinator drops the subscriber.

This needs care at three places. A forwarder that is replaced takes what is
left in its channel with it. A stream that closes after a pass has started
loses the messages the pass finds due. A second `open_sub` during another can
leave the channel of the other one registered, so that the current forwarder
sees its own channel closed and removes the table although the subscriber is
still there; and when both have found no handler, the second insertion separates
the table of the first from the subscriber.
-/

set_option autoImplicit false

namespace Sp1Cluster.StreamServer

variable {server : StreamServer}

/-- The invariant of careful runs. The handler names a running forwarder with its
table; a registered channel belongs to that forwarder or to the one it is about to
replace; a call that inserts a handler is alone; every message owed is kept; and an
entry counts no more retries than there were. -/
structure Custody (server : StreamServer) : Prop where
  served : ∀ {handler}, server.handler = some handler →
    ∃ forwarder, server.forwarders.lookup handler.current = some forwarder ∧
      forwarder.map = handler.unacked ∧ forwarder.aborted = false ∧ forwarder.finished = false
  registered_known : ∀ {channel}, server.registered = some channel →
    ∃ handler forwarder, server.handler = some handler ∧
      (channel = handler.current ∨ handler.current ∈ server.opening) ∧
      server.forwarders.lookup channel = some forwarder ∧ forwarder.map = handler.unacked
  opening_current : ∀ {channel}, channel ∈ server.opening →
    ∃ handler, server.handler = some handler ∧ handler.current = channel
  inserting_alone : ∀ {channel rest}, server.inserting = channel :: rest →
    rest = [] ∧ server.handler = none ∧
      ∃ forwarder, server.forwarders.lookup channel = some forwarder ∧
        forwarder.map = channel ∧ forwarder.aborted = false ∧ forwarder.finished = false
  owed_registered : ∀ msgId ∈ server.owed, server.registered ≠ none
  kept : ∀ msgId ∈ server.owed, server.Keeps msgId
  counted : ∀ {map msgId entry}, (server.maps map).lookup msgId = some entry →
    entry.retries ≤ server.resent.count msgId
  numbered : ∀ {id forwarder}, server.forwarders.lookup id = some forwarder → id < server.next

theorem custody_start : start.Custody where
  served found := by cases found
  registered_known found := by cases found
  opening_current member := absurd member List.not_mem_nil
  inserting_alone isFirst := by cases isFirst
  owed_registered _ member := absurd member List.not_mem_nil
  kept _ member := absurd member List.not_mem_nil
  counted found := by cases found
  numbered found := by cases found

/-! ## Changes of one forwarder -/

theorem lookup_setForwarder (id other : ℕ) (forwarder : Forwarder) :
    (server.setForwarder id forwarder).forwarders.lookup other =
      if other = id then some forwarder else server.forwarders.lookup other :=
  Table.lookup_insert_eq _ _ _ _

theorem lt_of_lookup_insert {table : Table ℕ Forwarder} {bound id : ℕ} {forwarder : Forwarder}
    (bounded : ∀ {other owner}, table.lookup other = some owner → other < bound)
    (below : id < bound) {other : ℕ} {owner : Forwarder}
    (found : (table.insert id forwarder).lookup other = some owner) : other < bound := by
  rcases Table.lookup_insert_cases found with ⟨same, _⟩ | ⟨_, found⟩
  · rw [same]
    exact below
  · exact bounded found

/-- A forwarder is that of the handler, or of the handler that is about to be inserted. -/
def Serves (server : StreamServer) (id : ℕ) : Prop :=
  server.handler.map SubscriberHandler.current = some id ∨ id ∈ server.inserting

/-- A forwarder may change when it goes on running while it serves the subscriber, and
what was in its channel stays there or is in its table. -/
theorem Custody.setForwarder (custody : server.Custody) {id : ℕ} {forwarder forwarder' : Forwarder}
    (found : server.forwarders.lookup id = some forwarder)
    (sameMap : forwarder'.map = forwarder.map)
    (runs : server.Serves id → forwarder.aborted = false → forwarder.finished = false →
      forwarder'.aborted = false ∧ forwarder'.finished = false)
    (holds : forwarder.finished = false → ∀ msgId ∈ forwarder.outerRx,
      (forwarder'.finished = false ∧ msgId ∈ forwarder'.outerRx) ∨
        msgId ∈ server.maps forwarder.map) :
    (server.setForwarder id forwarder').Custody where
  served {handler} current := by
    obtain ⟨running, foundRunning, map, aborted, finished⟩ := custody.served current
    rw [lookup_setForwarder]
    split
    · next same =>
      rw [same, found] at foundRunning
      cases foundRunning
      refine ⟨forwarder', rfl, sameMap.trans map, runs (.inl ?_) aborted finished⟩
      exact Option.map_eq_some_iff.mpr ⟨handler, current, same⟩
    · exact ⟨running, foundRunning, map, aborted, finished⟩
  registered_known {channel} registered := by
    obtain ⟨handler, owner, current, place, foundOwner, map⟩ := custody.registered_known registered
    rw [lookup_setForwarder]
    split
    · next same =>
      rw [same, found] at foundOwner
      cases foundOwner
      exact ⟨handler, forwarder', current, place, rfl, sameMap.trans map⟩
    · exact ⟨handler, owner, current, place, foundOwner, map⟩
  opening_current := custody.opening_current
  inserting_alone {channel rest} isFirst := by
    obtain ⟨alone, nobody, running, foundRunning, map, aborted, finished⟩ :=
      custody.inserting_alone isFirst
    refine ⟨alone, nobody, ?_⟩
    rw [lookup_setForwarder]
    split
    · next same =>
      rw [same, found] at foundRunning
      cases foundRunning
      refine ⟨forwarder', rfl, sameMap.trans map, runs (.inr ?_) aborted finished⟩
      rw [← same]
      exact isFirst ▸ List.mem_cons_self
    · exact ⟨running, foundRunning, map, aborted, finished⟩
  owed_registered := custody.owed_registered
  kept msgId member := by
    obtain ⟨handler, current, inMap | ⟨other, owner, foundOwner, running, map, queued⟩⟩ :=
      custody.kept msgId member
    · exact ⟨handler, current, .inl inMap⟩
    · by_cases same : other = id
      · rw [same, found] at foundOwner
        cases foundOwner
        rcases holds running msgId queued with ⟨running', queued'⟩ | inMap
        · refine ⟨handler, current, .inr ⟨id, forwarder', ?_, running', sameMap.trans map, queued'⟩⟩
          rw [lookup_setForwarder, if_pos rfl]
        · exact ⟨handler, current, .inl (map ▸ inMap)⟩
      · refine ⟨handler, current, .inr ⟨other, owner, ?_, running, map, queued⟩⟩
        rw [lookup_setForwarder, if_neg same]
        exact foundOwner
  counted := custody.counted
  numbered := lt_of_lookup_insert custody.numbered (custody.numbered found)

theorem Custody.setPhase (custody : server.Custody) {id : ℕ} {forwarder : Forwarder}
    (found : server.forwarders.lookup id = some forwarder) (streamOpen : Bool)
    (phase : ForwarderPhase) :
    (server.setForwarder id
      { forwarder with streamOpen := streamOpen, phase := phase }).Custody :=
  custody.setForwarder found rfl (fun _ aborted finished => ⟨aborted, finished⟩)
    fun finished _ queued => .inl ⟨finished, queued⟩

theorem Custody.act (custody : server.Custody) {id : ℕ} {change : Forwarder → StreamServer}
    (changes : ∀ forwarder, server.forwarders.lookup id = some forwarder →
      forwarder.finished = false → (change forwarder).Custody) : (server.act id change).Custody := by
  unfold StreamServer.act
  split
  · exact custody
  · next forwarder found =>
    split
    · exact custody
    · next running => exact changes forwarder found (by simpa using running)

/-! ## Changes of a table -/

/-- A table may change where it keeps what is owed and counts real retries. -/
theorem Custody.setMap (custody : server.Custody) (map : ℕ) {table : Table String Unacked}
    {resent owed : List String} (fewer : ∀ msgId ∈ owed, msgId ∈ server.owed)
    (more : ∀ msgId, server.resent.count msgId ≤ resent.count msgId)
    (holds : ∀ msgId ∈ owed, msgId ∈ server.maps map → msgId ∈ table)
    (counted : ∀ {msgId entry}, table.lookup msgId = some entry →
      entry.retries ≤ resent.count msgId) :
    Custody { server.setMap map table with resent := resent, owed := owed } where
  served := custody.served
  registered_known := custody.registered_known
  opening_current := custody.opening_current
  inserting_alone := custody.inserting_alone
  owed_registered msgId member := custody.owed_registered msgId (fewer msgId member)
  kept msgId member := by
    obtain ⟨handler, current, inMap | queued⟩ := custody.kept msgId (fewer msgId member)
    · refine ⟨handler, current, .inl ?_⟩
      change msgId ∈ Function.update server.maps map table handler.unacked
      by_cases same : handler.unacked = map
      · rw [same, Function.update_self]
        rw [same] at inMap
        exact holds msgId member inMap
      · rw [Function.update_of_ne same]
        exact inMap
    · exact ⟨handler, current, .inr queued⟩
  counted {other msgId entry} found := by
    change (Function.update server.maps map table other).lookup msgId = some entry at found
    by_cases same : other = map
    · rw [same, Function.update_self] at found
      exact counted found
    · rw [Function.update_of_ne same] at found
      exact (custody.counted found).trans (more msgId)
  numbered := custody.numbered

/-! ## The steps -/

/-- What the forwarders of the past are after `open_sub` with an existing handler. -/
theorem lookup_aborting {current id next : ℕ} {forwarder spawned : Forwarder}
    (found : server.forwarders.lookup id = some forwarder) (older : id ≠ next) :
    ∃ forwarder', ((Table.modify current (fun old => { old with aborted := true })
        server.forwarders).insert next spawned).lookup id = some forwarder' ∧
      forwarder'.map = forwarder.map ∧ forwarder'.finished = forwarder.finished ∧
      forwarder'.outerRx = forwarder.outerRx := by
  rw [Table.lookup_insert_eq, if_neg older, Table.lookup_modify_eq]
  split
  · next same =>
    rw [← same, found]
    exact ⟨_, rfl, rfl, rfl, rfl⟩
  · exact ⟨forwarder, found, rfl, rfl, rfl⟩

section Kept

variable (custody : server.Custody)
include custody

theorem Custody.unregistered (nobody : server.handler = none) : server.registered = none := by
  cases registered : server.registered with
  | none => rfl
  | some channel =>
    obtain ⟨handler, -, isHandler, -⟩ := custody.registered_known registered
    rw [nobody] at isHandler
    cases isHandler

theorem Custody.openSub (careful : server.Careful .openSub) : server.openSub.Custody := by
  obtain ⟨uninserted, alone⟩ := careful
  have older : ∀ {id forwarder}, server.forwarders.lookup id = some forwarder →
      id ≠ server.next := fun found => (custody.numbered found).ne
  unfold StreamServer.openSub
  split
  · next handler current =>
    constructor
    · intro _ isHandler
      cases isHandler
      refine ⟨.spawned handler.unacked, ?_, rfl, rfl, rfl⟩
      rw [Table.lookup_insert_eq, if_pos rfl]
    · intro channel registered
      obtain ⟨known, owner, isKnown, -, foundOwner, map⟩ := custody.registered_known registered
      obtain ⟨owner', found', map', -, -⟩ := lookup_aborting foundOwner (older foundOwner)
      rw [current] at isKnown
      cases isKnown
      exact ⟨_, owner', rfl, .inr (by simp), found', map'.trans map⟩
    · intro channel member
      rw [alone, List.nil_append, List.mem_singleton] at member
      exact ⟨_, rfl, member.symm⟩
    · intro channel rest isFirst
      change server.inserting = channel :: rest at isFirst
      rw [uninserted] at isFirst
      cases isFirst
    · exact custody.owed_registered
    · intro msgId member
      obtain ⟨known, isKnown, held⟩ := custody.kept msgId member
      rw [current] at isKnown
      cases isKnown
      refine ⟨_, rfl, held.imp_right ?_⟩
      rintro ⟨id, owner, foundOwner, running, map, queued⟩
      obtain ⟨owner', found', map', running', queue'⟩ :=
        lookup_aborting foundOwner (older foundOwner)
      exact ⟨id, owner', found', running'.trans running, map'.trans map, queue' ▸ queued⟩
    · exact custody.counted
    · refine lt_of_lookup_insert ?_ (Nat.lt_succ_self _)
      intro id forwarder found
      rw [Table.lookup_modify_eq] at found
      split at found
      · next same =>
        obtain ⟨before, foundBefore, -⟩ := Option.map_eq_some_iff.mp found
        rw [same]
        exact Nat.lt_succ_of_lt (custody.numbered foundBefore)
      · exact Nat.lt_succ_of_lt (custody.numbered found)
  · next nobody =>
    -- No channel is registered, so nothing is owed.
    have unregistered := custody.unregistered nobody
    constructor
    · intro _ isHandler
      change server.handler = some _ at isHandler
      rw [nobody] at isHandler
      cases isHandler
    · intro channel registered
      change server.registered = some channel at registered
      rw [unregistered] at registered
      cases registered
    · intro channel member
      change channel ∈ server.opening at member
      rw [alone] at member
      cases member
    · intro channel rest isFirst
      change server.inserting ++ [server.next] = channel :: rest at isFirst
      rw [uninserted] at isFirst
      cases isFirst
      refine ⟨rfl, nobody, .spawned server.next, ?_, rfl, rfl, rfl⟩
      rw [Table.lookup_insert_eq, if_pos rfl]
    · exact custody.owed_registered
    · intro msgId member
      exact absurd unregistered (custody.owed_registered msgId member)
    · intro map msgId entry found
      change (Function.update server.maps server.next ∅ map).lookup msgId = some entry at found
      by_cases same : map = server.next
      · rw [same, Function.update_self] at found
        cases found
      · rw [Function.update_of_ne same] at found
        exact custody.counted found
    · exact lt_of_lookup_insert (fun found => Nat.lt_succ_of_lt (custody.numbered found))
        (Nat.lt_succ_self _)

theorem Custody.insertSub (channel : ℕ) : (server.insertSub channel).Custody := by
  unfold StreamServer.insertSub
  split
  · next inserts =>
    obtain ⟨first, rest, isFirst⟩ := List.exists_cons_of_ne_nil (List.ne_nil_of_mem inserts)
    obtain ⟨rfl, nobody, running⟩ := custody.inserting_alone isFirst
    rw [isFirst] at inserts
    cases List.mem_singleton.mp inserts
    have unregistered := custody.unregistered nobody
    refine { custody with
      served := ?_, registered_known := ?_, opening_current := ?_, inserting_alone := ?_,
      kept := ?_ }
    · intro _ isHandler
      cases isHandler
      exact running
    · intro other registered
      change server.registered = some other at registered
      rw [unregistered] at registered
      cases registered
    · intro other member
      rcases List.mem_append.mp member with before | now
      · obtain ⟨handler, isHandler, -⟩ := custody.opening_current before
        rw [nobody] at isHandler
        cases isHandler
      · exact ⟨_, rfl, (List.mem_singleton.mp now).symm⟩
    · intro other others isOther
      change server.inserting.erase channel = other :: others at isOther
      rw [isFirst, List.erase_cons_head] at isOther
      cases isOther
    · intro msgId member
      exact absurd unregistered (custody.owed_registered msgId member)
  · exact custody

theorem Custody.createSubscriber (channel : ℕ) : (server.createSubscriber channel).Custody := by
  unfold StreamServer.createSubscriber
  split
  · next opened =>
    obtain ⟨handler, current, isCurrent⟩ := custody.opening_current opened
    obtain ⟨forwarder, found, map, -, -⟩ := custody.served current
    refine { custody with registered_known := ?_, opening_current := ?_, owed_registered := ?_ }
    · intro other registered
      cases registered
      exact ⟨handler, forwarder, current, .inl isCurrent.symm, isCurrent ▸ found, map⟩
    · intro other member
      exact custody.opening_current (List.mem_of_mem_erase member)
    · intro msgId _ none
      cases none
  · exact custody

theorem Custody.send (channel : ℕ) (msgId : String) : (server.send channel msgId).Custody := by
  unfold StreamServer.send
  split
  · exact custody
  · next forwarder found =>
    split
    · exact custody
    · next running =>
      have unfinished : forwarder.finished = false := by simpa using running
      have sent : (server.setForwarder channel
          { forwarder with outerRx := forwarder.outerRx ++ [msgId] }).Custody :=
        custody.setForwarder found rfl (fun _ aborted finished => ⟨aborted, finished⟩)
          fun finished _ queued => .inl ⟨finished, List.mem_append_left _ queued⟩
      split
      · next registered =>
        obtain ⟨handler, owner, current, -, foundOwner, map⟩ :=
          custody.registered_known registered
        rw [found] at foundOwner
        cases foundOwner
        refine { sent with owed_registered := ?_, kept := ?_ }
        · intro _ _ missing
          change server.registered = none at missing
          rw [registered] at missing
          cases missing
        · intro other member
          rcases List.mem_append.mp member with before | new
          · exact sent.kept other before
          · rw [List.mem_singleton.mp new]
            refine ⟨handler, current, .inr ⟨channel,
              { forwarder with outerRx := forwarder.outerRx ++ [msgId] }, ?_, unfinished, map,
              List.mem_append_right _ (List.mem_singleton_self _)⟩⟩
            exact (lookup_setForwarder channel channel _).trans (if_pos rfl)
      · exact sent

theorem Custody.ackSub (msgId : String) : (server.ackSub msgId).Custody := by
  unfold StreamServer.ackSub
  split
  · exact custody
  · next handler current =>
    refine custody.setMap handler.unacked (fun _ member => (List.mem_filter.mp member).1)
      (fun _ => le_rfl) ?_ ?_
    · intro other member inMap
      have distinct : other ≠ msgId := by simpa using (List.mem_filter.mp member).2
      exact AList.mem_erase.mpr ⟨distinct, inMap⟩
    · intro other entry found
      exact custody.counted (Table.lookup_of_erase found)

theorem Custody.evict : server.evict.Custody :=
  { custody with
    registered_known := fun registered => by cases registered
    owed_registered := fun _ member => absurd member List.not_mem_nil
    kept := fun _ member => absurd member List.not_mem_nil }

theorem Custody.close (id : ℕ) : (server.close id).Custody := by
  unfold StreamServer.close
  split
  · exact custody
  · next forwarder found => exact custody.setPhase found false forwarder.phase

theorem Custody.receive (id : ℕ) (now : SystemTime) : (server.receive id now).Custody := by
  refine custody.act ?_
  intro forwarder found running
  split
  · next msgId rest _ queue =>
    -- The message is in the table before it leaves the channel.
    have filed : (server.setMap forwarder.map
        ((server.maps forwarder.map).insert msgId ⟨now, 0⟩)).Custody := by
      refine custody.setMap forwarder.map (fun _ member => member) (fun _ => le_rfl) ?_ ?_
      · intro other _ inMap
        exact (AList.mem_insert _).mpr (.inr inMap)
      · intro other entry inTable
        rcases Table.lookup_insert_cases inTable with ⟨_, rfl⟩ | ⟨_, inTable⟩
        · exact Nat.zero_le _
        · exact custody.counted inTable
    refine filed.setForwarder found rfl (fun _ aborted finished => ⟨aborted, finished⟩) ?_
    intro finished other queued
    rw [queue] at queued
    rcases List.mem_cons.mp queued with rfl | later
    · refine .inr ?_
      change other ∈ Function.update server.maps forwarder.map _ forwarder.map
      rw [Function.update_self]
      exact (AList.mem_insert _).mpr (.inl rfl)
    · exact .inl ⟨finished, later⟩
  · exact custody

theorem Custody.tick (id : ℕ) (now : SystemTime) : (server.tick id now).Custody := by
  refine custody.act ?_
  intro forwarder found _
  split
  · exact custody.setPhase found forwarder.streamOpen _
  · exact custody

theorem Custody.resend {id : ℕ} (msgId : String) (streaming : server.hasStream id = true) :
    (server.resend id msgId).Custody := by
  refine custody.act ?_
  intro forwarder found _
  have streamOpen : forwarder.streamOpen = true := by
    unfold hasStream at streaming
    rw [found] at streaming
    exact streaming
  split
  · next now entry _ inMap =>
    split
    · rw [streamOpen]
      have counted : (server.resent ++ [msgId]).count msgId = server.resent.count msgId + 1 := by
        simp
      refine custody.setMap forwarder.map (fun _ member => (List.mem_filter.mp member).1)
        (fun other => (List.sublist_append_left _ _).count_le other) ?_ ?_
      · intro other member present
        unfold resendEntry
        split
        · exact (AList.mem_insert _).mpr (.inr present)
        · next exhausted =>
          -- The entry is removed, so it was sent again four times and is not owed.
          refine AList.mem_erase.mpr ⟨?_, present⟩
          rintro rfl
          have real := custody.counted inMap
          have stillOwed := (List.mem_filter.mp member).2
          have often : 3 < (server.resent ++ [other]).count other := by
            rw [counted]
            simp only [Bool.true_and, decide_eq_true_eq, not_le] at exhausted
            omega
          rw [beq_self_eq_true, decide_eq_true often] at stillOwed
          cases stillOwed
      · intro other entry' found'
        unfold resendEntry at found'
        split at found'
        · rcases Table.lookup_insert_cases found' with ⟨same, rfl⟩ | ⟨_, found'⟩
          · rw [same, counted]
            exact Nat.succ_le_succ (custody.counted inMap)
          · exact (custody.counted found').trans
              ((List.sublist_append_left _ _).count_le other)
        · have found' := Table.lookup_of_erase found'
          exact (custody.counted found').trans
            ((List.sublist_append_left _ _).count_le other)
    · exact custody
  · exact custody

theorem Custody.endPass (id : ℕ) : (server.endPass id).Custody := by
  refine custody.act ?_
  intro forwarder found _
  split
  · exact custody.setPhase found forwarder.streamOpen _
  · exact custody

theorem Custody.check (id : ℕ) : (server.check id).Custody := by
  refine custody.act ?_
  intro forwarder found _
  split
  · exact custody.setPhase found forwarder.streamOpen _
  · exact custody

theorem Custody.leave (id : ℕ) : (server.leave id).Custody := by
  refine custody.act ?_
  intro forwarder found _
  split
  · split
    · next ending =>
      obtain ⟨closed, empty⟩ := Bool.and_eq_true_iff.mp ending
      have empty : forwarder.outerRx = [] := List.isEmpty_iff.mp empty
      obtain ⟨unregistered, uninserted, unopened⟩ := of_decide_eq_true closed
      dsimp only
      split
      · -- The channel of the current forwarder is closed only after an eviction.
        next isCurrent =>
          obtain ⟨handler, current, same⟩ := Option.map_eq_some_iff.mp isCurrent
          have nobody : server.registered = none := by
            cases registered : server.registered with
            | none => rfl
            | some channel =>
              obtain ⟨known, -, isKnown, place, -⟩ := custody.registered_known registered
              rw [current] at isKnown
              cases isKnown
              rw [same] at place
              rcases place with rfl | opened
              · exact absurd registered unregistered
              · exact absurd opened unopened
          constructor
          · intro other isHandler
            cases isHandler
          · intro channel registered
            change server.registered = some channel at registered
            rw [nobody] at registered
            cases registered
          · intro channel opened
            obtain ⟨known, isKnown, isChannel⟩ := custody.opening_current opened
            rw [current] at isKnown
            cases isKnown
            rw [same] at isChannel
            exact absurd (isChannel ▸ opened) unopened
          · intro channel rest isFirst
            obtain ⟨-, absent, -⟩ := custody.inserting_alone isFirst
            rw [current] at absent
            cases absent
          · exact custody.owed_registered
          · intro msgId member
            exact absurd nobody (custody.owed_registered msgId member)
          · exact custody.counted
          · exact lt_of_lookup_insert custody.numbered (custody.numbered found)
      · next notCurrent =>
        refine custody.setForwarder found rfl ?_ ?_
        · intro serves _ _
          exact (serves.elim notCurrent uninserted).elim
        · intro _ msgId queued
          rw [empty] at queued
          exact absurd queued List.not_mem_nil
    · exact custody.setPhase found forwarder.streamOpen _
  · exact custody

theorem Custody.drop {id : ℕ} (empty : server.queueOf id = []) : (server.drop id).Custody := by
  refine custody.act ?_
  intro forwarder found _
  unfold queueOf at empty
  rw [found] at empty
  change forwarder.outerRx = [] at empty
  split
  · next stopping =>
    have aborted : forwarder.aborted = true := (Bool.and_eq_true_iff.mp stopping).1
    refine custody.setForwarder found rfl ?_ ?_
    · -- A forwarder that serves the subscriber is not an aborted one.
      intro _ notAborted _
      rw [aborted] at notAborted
      cases notAborted
    · intro _ msgId queued
      rw [empty] at queued
      exact absurd queued List.not_mem_nil
  · exact custody

theorem Custody.step {event : StreamEvent} (careful : server.Careful event) :
    (server.step event).Custody := by
  cases event with
  | openSub => exact custody.openSub careful
  | insertSub channel => exact custody.insertSub channel
  | createSubscriber channel => exact custody.createSubscriber channel
  | send channel msgId => exact custody.send channel msgId
  | ackSub msgId => exact custody.ackSub msgId
  | evict => exact custody.evict
  | close id => exact custody.close id
  | receive id now => exact custody.receive id now
  | tick id now => exact custody.tick id now
  | resend id msgId => exact custody.resend msgId careful
  | endPass id => exact custody.endPass id
  | check id => exact custody.check id
  | leave id => exact custody.leave id
  | drop id => exact custody.drop careful

end Kept

/-- **Unacknowledged messages survive.** In every run of careful events, a message
that the registered channel has accepted is in a channel or in the table of the
handler until it is acknowledged, has been sent again more than three times, or
the subscriber is evicted. -/
theorem owed_messages_kept (events : List StreamEvent)
    (careful : Systems.Along step start Careful events) :
    ∀ msgId ∈ (reach events).owed, (reach events).Keeps msgId := by
  have custody : (reach events).Custody :=
    Systems.run_invariant (fun _ server => server.Custody) custody_start
      (fun _ _ _ custody careful => custody.step careful) careful
  exact custody.kept

/-- A client that opens its stream, gets a message, and opens its stream again after
its forwarder has taken the message. -/
def carefulReconnect : List StreamEvent :=
  [.openSub, .insertSub 0, .createSubscriber 0, .send 0 "m", .receive 0 0, .close 0, .openSub,
    .drop 0, .createSubscriber 1, .send 1 "n", .tick 1 5000000000, .resend 1 "m"]

theorem owed_messages_kept_carefulReconnect :
    Systems.Along step start Careful carefulReconnect ∧
      (reach carefulReconnect).owed = ["m", "n"] ∧
      (reach carefulReconnect).resent = ["m"] ∧
      ∀ msgId ∈ (reach carefulReconnect).owed, (reach carefulReconnect).Keeps msgId := by
  have careful : Systems.Along step start Careful carefulReconnect := by decide
  exact ⟨careful, by decide, by decide, owed_messages_kept carefulReconnect careful⟩

/-! ## Runs that lose a message -/

/-- A message that is in no channel and not in the table of the handler is lost. -/
theorem not_keeps {msgId : String}
    (unqueued : ∀ entry ∈ server.forwarders.entries, msgId ∉ entry.2.outerRx)
    (unlisted : ∀ handler ∈ server.handler, msgId ∉ server.maps handler.unacked) :
    ¬ server.Keeps msgId := by
  rintro ⟨handler, current, inMap | ⟨id, forwarder, found, -, -, queued⟩⟩
  · exact unlisted handler current inMap
  · exact unqueued ⟨id, forwarder⟩ (Table.mem_entries_iff.mpr found) queued

/-- The client opens its stream again while its message is still in the channel. -/
def hastyReconnect : List StreamEvent :=
  [.openSub, .insertSub 0, .createSubscriber 0, .send 0 "m", .openSub, .drop 0, .createSubscriber 1]

/-- The stream closes between the test of a pass and the turn over its message. -/
def closedDuringPass : List StreamEvent :=
  [.openSub, .insertSub 0, .createSubscriber 0, .send 0 "m", .receive 0 0, .tick 0 5000000000,
    .close 0, .resend 0 "m"]

/-- Two streams are opened at once and registered in the other order. -/
def crossedReconnects : List StreamEvent :=
  [.openSub, .insertSub 0, .createSubscriber 0, .send 0 "m", .receive 0 0, .openSub, .openSub,
    .createSubscriber 2, .createSubscriber 1, .close 2, .tick 2 0, .check 2, .leave 2]

/-- Two streams are opened at once and neither finds a handler: the second handler takes the
place of the first, whose forwarder leaves with its table. -/
def crossedInsertions : List StreamEvent :=
  [.openSub, .openSub, .insertSub 0, .createSubscriber 0, .send 0 "m", .receive 0 0, .insertSub 1,
    .createSubscriber 1, .close 0, .tick 0 0, .check 0, .leave 0]

/-- A message that was never acknowledged nor sent again is lost while its subscriber is
registered. -/
def Loses (events : List StreamEvent) (msgId : String) : Prop :=
  msgId ∈ (reach events).owed ∧ (reach events).resent = [] ∧
    (reach events).registered ≠ none ∧ ¬ (reach events).Keeps msgId

/-- **Messages are lost**, by each of the four runs. -/
theorem reconnect_drops_message :
    Loses hastyReconnect "m" ∧ Loses closedDuringPass "m" ∧ Loses crossedReconnects "m" ∧
      Loses crossedInsertions "m" := by
  refine ⟨?_, ?_, ?_, ?_⟩
  all_goals exact ⟨by decide, by decide, by decide, not_keeps (by decide) (by decide)⟩

end Sp1Cluster.StreamServer
