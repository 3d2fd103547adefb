import Sp1Cluster.Coordinator.Rosters
import Sp1Cluster.Coordinator.Settings

/-!
# Sweeps that act on a scan

The two periodic sweeps look for dead workers and for expired proofs under the
read lock, release it, and act on the list they have made under the write lock,
without looking again. Any call can run in between.

The sweeps run here beside the calls of the coordinator, each in its two steps,
and every removal is noted with what the coordinator stored at that moment. A
heartbeat, a registration or the creation of a proof between the two steps can
renew what the scan has listed, and the sweep removes it all the same. When
nothing that a pending scan has listed is renewed, sweeps remove only what is
still due.
-/

set_option autoImplicit false

namespace Sp1Cluster

open Relation

/-- The list a sweep has made, with the time it has read. -/
inductive Scan where
  | workers (now : ℕ) (dead : List String)
  | proofs (now : SystemTime) (expired : List String)
deriving DecidableEq, Repr

/-- What a sweep has removed: the record at the moment of removal, and the time
the sweep uses. -/
inductive Removal where
  | worker (workerId : String) (lastHeartbeat timeoutSecs now : ℕ)
  | proof (proofId : String) (expiresAt : Option SystemTime) (now : SystemTime)
deriving DecidableEq, Repr

/-- The worker has timed out, or the proof has expired, at the sweep's time. -/
def Removal.due : Removal → Bool
  | .worker _ lastHeartbeat timeoutSecs now => lastHeartbeat + timeoutSecs < now
  | .proof _ expiresAt now => expiresAt.any (· < now)

/-- The coordinator with the scans that have not been acted on and the removals
made so far. -/
structure Sweeper (P : Type) where
  coordinator : CoordinatorState P
  pending : List Scan
  removals : List Removal

/-- A call of the coordinator, a scan of one of the sweeps, or the write section
of a sweep for a pending scan. -/
inductive SweepEvent where
  | call (event : Event)
  | scanWorkers (env : Env)
  | scanProofs (env : Env)
  | act (env : Env) (index : ℕ)

namespace Sweeper

section Model

variable {P : Type} [AssignmentPolicy P]

/-- The workers that the write section of `cleanup_dead_workers` removes, one
after the other. -/
def workerRemovals (build : Build) (env : Env) (now : ℕ) :
    List String → CoordinatorState P → List Removal
  | [], _ => []
  | workerId :: rest, state =>
    (match state.workers.lookup workerId with
      | none => []
      | some worker =>
        [.worker workerId worker.lastHeartbeat state.workerHeartbeatTimeoutSecs now]) ++
      workerRemovals build env now rest (state.removeWorkerInternal build env workerId)

/-- The proofs that the write section of `cleanup_cancel_expired_proofs` fails,
one after the other. -/
def proofRemovals (build : Build) (env : Env) (now : SystemTime) :
    List String → CoordinatorState P → List Removal
  | [], _ => []
  | proofId :: rest, state =>
    (match state.proofs.lookup proofId with
      | none => []
      | some proof => if state.shuttingDown then [] else [.proof proofId proof.expiresAt now]) ++
      proofRemovals build env now rest
        (state.failProofInternal build env proofId none false none none).state

def new : Sweeper P where
  coordinator := .new
  pending := []
  removals := []

/-- A scan that has found nothing is not acted on. -/
def note (scan : Scan) (listed : List String) (sweeper : Sweeper P) : Sweeper P :=
  if listed.isEmpty then sweeper else { sweeper with pending := sweeper.pending ++ [scan] }

def step (build : Build) (sweeper : Sweeper P) : SweepEvent → Sweeper P
  | .call event => { sweeper with coordinator := sweeper.coordinator.step build event }
  | .scanWorkers env =>
    match (env.clock .call).sinceEpoch with
    | none => sweeper
    | some now =>
      let dead := sweeper.coordinator.deadWorkers env (asSecs now)
      sweeper.note (.workers (asSecs now) dead) dead
  | .scanProofs env =>
    let expired := sweeper.coordinator.expiredProofs env (env.clock .call)
    sweeper.note (.proofs (env.clock .call) expired) expired
  | .act env index =>
    let state := sweeper.coordinator.clearOutbox
    match sweeper.pending[index]? with
    | none => sweeper
    | some (.workers now dead) =>
      { coordinator := (state.removeDeadWorkers build env dead).state
        pending := sweeper.pending.eraseIdx index
        removals := sweeper.removals ++ workerRemovals build env now dead state }
    | some (.proofs now expired) =>
      { coordinator := (state.failExpiredProofs build env expired).state
        pending := sweeper.pending.eraseIdx index
        removals := sweeper.removals ++ proofRemovals build env now expired state }

def reach (P : Type) [AssignmentPolicy P] (build : Build) (events : List SweepEvent) : Sweeper P :=
  Systems.run (step build) new events

/-- Every removal so far was due. -/
abbrev OnlyDue (sweeper : Sweeper P) : Prop := ∀ removal ∈ sweeper.removals, removal.due = true

end Model

end Sweeper

/-! ## Renewals -/

/-- Whether a call renews something a scan has listed: a heartbeat or a
registration of a listed worker, a new timeout, or the creation of a listed
proof. -/
def Scan.renewedBy (call : Call) : Scan → Bool
  | .workers _ dead =>
    call.beats.any (· ∈ dead) || call.enrols.any (· ∈ dead) ||
      match call with
      | .setWorkerHeartbeatTimeout _ => true
      | _ => false
  | .proofs _ expired => call.createsProof.any (· ∈ expired)

namespace Sweeper

variable {P : Type}

/-- No call renews what a pending scan has listed, and the sums a scan of the
workers computes fit into 64-bit words. -/
def Undisturbed (sweeper : Sweeper P) : SweepEvent → Prop
  | .call event => ∀ scan ∈ sweeper.pending, scan.renewedBy event.call = false
  | .scanWorkers _ => ∀ entry ∈ sweeper.coordinator.workers.entries,
      entry.2.lastHeartbeat + sweeper.coordinator.workerHeartbeatTimeoutSecs < 2 ^ 64
  | _ => True

instance (sweeper : Sweeper P) (event : SweepEvent) : Decidable (sweeper.Undisturbed event) := by
  unfold Undisturbed
  split <;> infer_instance

end Sweeper

/-! ## What the changes of a roster keep -/

namespace Roster

variable {call : Call} {roster roster' : Roster}

theorem lastHeartbeat_of_change {workerId : String} {worker' : Worker}
    (unheard : call.beats ≠ some workerId) (unenrolled : call.enrols ≠ some workerId)
    (change : Change call roster roster')
    (registered : roster'.workers.lookup workerId = some worker') :
    ∃ worker, roster.workers.lookup workerId = some worker ∧
      worker'.lastHeartbeat = worker.lastHeartbeat := by
  cases change with
  | @worker changedId worker changed registeredBefore change =>
    rcases Table.lookup_insert_cases registered with ⟨rfl, rfl⟩ | ⟨_, registered⟩
    · refine ⟨worker, registeredBefore, ?_⟩
      cases change with
      | release key weight =>
        unfold Worker.release
        dsimp only
        split <;> rfl
      | reconcile now assigned activeTasks beats => exact absurd beats unheard
      | _ => rfl
    · exact ⟨worker', registered, rfl⟩
  | @enrol enrolledId workerType maxWeight channel identity lastHeartbeat absent enrols =>
    rcases Table.lookup_insert_cases registered with ⟨same, _⟩ | ⟨_, registered⟩
    · exact absurd (same ▸ enrols) unenrolled
    · exact ⟨worker', registered, rfl⟩
  | dismiss removedId =>
    exact ⟨worker', Table.lookup_of_erase registered, rfl⟩
  | stop stops =>
    rw [Table.lookup_mapValues] at registered
    obtain ⟨worker, registeredBefore, rfl⟩ := Option.map_eq_some_iff.mp registered
    exact ⟨worker, registeredBefore, rfl⟩
  | create expiresAt creates => exact ⟨worker', registered, rfl⟩
  | remove proofId => exact ⟨worker', registered, rfl⟩

theorem lastHeartbeat_of_changes {workerId : String} {worker' : Worker}
    (unheard : call.beats ≠ some workerId) (unenrolled : call.enrols ≠ some workerId)
    (changes : Changes call roster roster')
    (registered : roster'.workers.lookup workerId = some worker') :
    ∃ worker, roster.workers.lookup workerId = some worker ∧
      worker'.lastHeartbeat = worker.lastHeartbeat := by
  induction changes generalizing worker' with
  | refl => exact ⟨worker', registered, rfl⟩
  | tail _ change ih =>
    obtain ⟨between, registeredBetween, same⟩ :=
      lastHeartbeat_of_change unheard unenrolled change registered
    obtain ⟨worker, registeredBefore, sameBefore⟩ := ih registeredBetween
    exact ⟨worker, registeredBefore, same.trans sameBefore⟩

theorem deadline_of_changes {proofId : String} {expiresAt : Option SystemTime}
    (uncreated : call.createsProof ≠ some proofId) (changes : Changes call roster roster')
    (stored : roster'.deadlines proofId = some expiresAt) :
    roster.deadlines proofId = some expiresAt := by
  induction changes with
  | refl => exact stored
  | tail _ change ih =>
    refine ih ?_
    cases change with
    | create newDeadline creates =>
      dsimp only at stored
      rw [Function.update_apply] at stored
      split at stored
      · next same => exact absurd (same ▸ creates) uncreated
      · exact stored
    | remove removedId =>
      dsimp only at stored
      rw [Function.update_apply] at stored
      split at stored
      · cases stored
      · exact stored
    | _ => exact stored

end Roster

/-! ## Scans that still hold -/

namespace Scan

variable {P : Type} {scan : Scan} {state state' : CoordinatorState P}

/-- What a scan has listed is still due, as far as it is stored. -/
def Holds (state : CoordinatorState P) : Scan → Prop
  | .workers now dead => ∀ workerId ∈ dead, ∀ worker,
      state.workers.lookup workerId = some worker →
        worker.lastHeartbeat + state.workerHeartbeatTimeoutSecs < now
  | .proofs now expired => ∀ proofId ∈ expired, ∀ expiresAt,
      state.roster.deadlines proofId = some expiresAt → expiresAt.any (· < now) = true

theorem ne_some_of_any_false {named : Option String} {listed : List String} {id : String}
    (unlisted : named.any (· ∈ listed) = false) (member : id ∈ listed) : named ≠ some id := by
  rintro rfl
  simp [member] at unlisted

theorem Holds.changes {call : Call} (holds : scan.Holds state)
    (undisturbed : scan.renewedBy call = false)
    (timeout : state'.workerHeartbeatTimeoutSecs = state.workerHeartbeatTimeoutSecs)
    (changes : Roster.Changes call state.roster state'.roster) : scan.Holds state' := by
  cases scan with
  | workers now dead =>
    simp only [renewedBy, Bool.or_eq_false_iff] at undisturbed
    obtain ⟨⟨unheard, unenrolled⟩, -⟩ := undisturbed
    intro workerId listed worker' registered
    obtain ⟨worker, registeredBefore, same⟩ := Roster.lastHeartbeat_of_changes
      (ne_some_of_any_false unheard listed) (ne_some_of_any_false unenrolled listed) changes
        registered
    rw [same, timeout]
    exact holds workerId listed worker registeredBefore
  | proofs now expired =>
    intro proofId listed expiresAt stored
    exact holds proofId listed expiresAt
      (Roster.deadline_of_changes (ne_some_of_any_false undisturbed listed) changes stored)

theorem Holds.writes [QueuePolicy P] {build : Build} {env : Env} (holds : scan.Holds state)
    (writes : CoordinatorState.Writes build env (.failExpiredProofs []) state state state') :
    scan.Holds state' :=
  holds.changes (by cases scan <;> rfl) (writes.settings rfl).heartbeatTimeout writes.changes

theorem Holds.exec [QueuePolicy P] {build : Build} {call : Call} (holds : scan.Holds state)
    (env : Env) (undisturbed : scan.renewedBy call = false) :
    scan.Holds (state.exec build env call).state := by
  cases scan with
  | workers now dead =>
    refine holds.changes undisturbed (state.heartbeatTimeout_exec env ?_)
      (CoordinatorState.changes_exec env call state)
    rintro secs rfl
    simp [renewedBy] at undisturbed
  | proofs now expired =>
    intro proofId listed expiresAt stored
    exact holds proofId listed expiresAt (Roster.deadline_of_changes
      (ne_some_of_any_false undisturbed listed) (CoordinatorState.changes_exec env call state)
        stored)

end Scan

namespace Sweeper

variable {P : Type}

/-! ## The two steps of a sweep -/

section Steps

variable {state : CoordinatorState P}

theorem holds_deadWorkers (env : Env) (now : ℕ)
    (fits : ∀ entry ∈ state.workers.entries,
      entry.2.lastHeartbeat + state.workerHeartbeatTimeoutSecs < 2 ^ 64) :
    (Scan.workers now (state.deadWorkers env now)).Holds state := by
  intro workerId listed worker registered
  obtain ⟨entry, member, chosen⟩ := List.mem_filterMap.mp listed
  split at chosen
  · next dead =>
    cases chosen
    have inTable := env.mem_shuffle.mp member
    have same : state.workers.lookup entry.1 = some entry.2 := Table.mem_entries_iff.mp inTable
    obtain rfl : worker = entry.2 := Option.some.inj (registered.symm.trans same)
    simp only [CoordinatorState.isDead, decide_eq_true_iff] at dead
    rwa [Nat.mod_eq_of_lt (fits entry inTable)] at dead
  · cases chosen

theorem holds_expiredProofs (env : Env) (now : SystemTime) :
    (Scan.proofs now (state.expiredProofs env now)).Holds state := by
  intro proofId listed expiresAt stored
  obtain ⟨entry, member, chosen⟩ := List.mem_filterMap.mp listed
  split at chosen
  · next expired =>
    cases chosen
    have same : state.proofs.lookup entry.1 = some entry.2 :=
      Table.mem_entries_iff.mp (env.mem_shuffle.mp member)
    change (state.proofs.lookup entry.1).map Proof.expiresAt = some expiresAt at stored
    rw [same] at stored
    cases stored
    unfold CoordinatorState.isExpired at expired
    split at expired
    · cases expired
    · next deadline found =>
      rw [found]
      exact expired
  · cases chosen

variable [QueuePolicy P] {build : Build}

theorem due_workerRemovals (env : Env) (now : ℕ) (dead : List String)
    (holds : (Scan.workers now dead).Holds state) :
    ∀ removal ∈ workerRemovals build env now dead state, removal.due = true := by
  induction dead generalizing state with
  | nil =>
    intro removal member
    cases member
  | cons workerId rest ih =>
    intro removal member
    rcases List.mem_append.mp member with here | later
    · split at here
      · cases here
      · next worker registered =>
        cases List.mem_singleton.mp here
        exact decide_eq_true (holds workerId List.mem_cons_self worker registered)
    · have holdsRest : (Scan.workers now rest).Holds state :=
        fun other listed => holds other (List.mem_cons_of_mem _ listed)
      exact ih (holdsRest.writes (CoordinatorState.writes_removeWorkerInternal state workerId))
        removal later

theorem due_proofRemovals (env : Env) (now : SystemTime) (expired : List String)
    (holds : (Scan.proofs now expired).Holds state) :
    ∀ removal ∈ proofRemovals build env now expired state, removal.due = true := by
  induction expired generalizing state with
  | nil =>
    intro removal member
    cases member
  | cons proofId rest ih =>
    intro removal member
    rcases List.mem_append.mp member with here | later
    · split at here
      · cases here
      · next proof stored =>
        split at here
        · cases here
        · cases List.mem_singleton.mp here
          refine holds proofId List.mem_cons_self proof.expiresAt ?_
          change (state.proofs.lookup proofId).map Proof.expiresAt = some proof.expiresAt
          rw [stored]
          rfl
    · have holdsRest : (Scan.proofs now rest).Holds state :=
        fun other listed => holds other (List.mem_cons_of_mem _ listed)
      exact ih (holdsRest.writes (CoordinatorState.writes_failProofInternal none false none none
        rfl (by simp))) removal later

end Steps

/-! ## Runs -/

variable {sweeper : Sweeper P}

structure Punctual (sweeper : Sweeper P) : Prop where
  holds : ∀ scan ∈ sweeper.pending, scan.Holds sweeper.coordinator
  onlyDue : sweeper.OnlyDue

theorem Punctual.note (punctual : sweeper.Punctual) {scan : Scan} (listed : List String)
    (holds : scan.Holds sweeper.coordinator) : (sweeper.note scan listed).Punctual := by
  unfold Sweeper.note
  split
  · exact punctual
  · refine ⟨?_, punctual.onlyDue⟩
    intro other member
    rcases List.mem_append.mp member with before | new
    · exact punctual.holds other before
    · rw [List.mem_singleton.mp new]
      exact holds

variable [QueuePolicy P] {build : Build}

/-- Acting on a scan: other scans still hold, and what is removed is due. -/
theorem Punctual.act (punctual : sweeper.Punctual) (env : Env) (index : ℕ) (call : Call)
    {removed : List Removal} (quiet : ∀ scan : Scan, scan.renewedBy call = false)
    (due : ∀ removal ∈ removed, removal.due = true) :
    Punctual
      { coordinator := (sweeper.coordinator.clearOutbox.exec build env call).state
        pending := sweeper.pending.eraseIdx index
        removals := sweeper.removals ++ removed } := by
  refine ⟨?_, ?_⟩
  · intro scan member
    have holds : scan.Holds sweeper.coordinator.clearOutbox :=
      punctual.holds scan (List.mem_of_mem_eraseIdx member)
    exact holds.exec env (quiet scan)
  · intro removal member
    rcases List.mem_append.mp member with before | new
    · exact punctual.onlyDue removal before
    · exact due removal new

theorem Punctual.step (punctual : sweeper.Punctual) (event : SweepEvent)
    (undisturbed : sweeper.Undisturbed event) : (sweeper.step build event).Punctual := by
  cases event with
  | call event =>
    refine ⟨?_, punctual.onlyDue⟩
    intro scan member
    have holds : scan.Holds sweeper.coordinator.clearOutbox := punctual.holds scan member
    exact holds.exec event.env (undisturbed scan member)
  | scanWorkers env =>
    unfold Sweeper.step
    dsimp only
    split
    · exact punctual
    · exact punctual.note _ (holds_deadWorkers env _ undisturbed)
  | scanProofs env => exact punctual.note _ (holds_expiredProofs env _)
  | act env index =>
    unfold Sweeper.step
    dsimp only
    split
    · exact punctual
    · next now dead found =>
      have holds : (Scan.workers now dead).Holds sweeper.coordinator.clearOutbox :=
        punctual.holds _ (List.mem_of_getElem? found)
      refine punctual.act env index (.removeDeadWorkers dead) ?_
        (due_workerRemovals env now dead holds)
      intro scan
      cases scan <;> rfl
    · next now expired found =>
      have holds : (Scan.proofs now expired).Holds sweeper.coordinator.clearOutbox :=
        punctual.holds _ (List.mem_of_getElem? found)
      refine punctual.act env index (.failExpiredProofs expired) ?_
        (due_proofRemovals env now expired holds)
      intro scan
      cases scan <;> rfl

theorem reach_punctual {events : List SweepEvent}
    (undisturbed : Systems.Along (step (P := P) build) new Undisturbed events) :
    (reach P build events).Punctual := by
  refine Systems.run_invariant (fun _ sweeper => sweeper.Punctual) ?_ ?_ undisturbed
  · constructor
    · intro scan member
      cases member
    · intro removal member
      cases member
  · intro past sweeper event punctual undisturbedNow
    exact punctual.step event undisturbedNow

end Sweeper

/-- **Sweeps only act on what is still due**, under both policies, in every state
of a run in which nothing that a pending scan has listed is renewed. -/
theorem sweeps_only_due (build : Build) (events : List SweepEvent) :
    (Systems.Along (Sweeper.step (P := DefaultPolicy) build) .new Sweeper.Undisturbed events →
      (Sweeper.reach DefaultPolicy build events).OnlyDue) ∧
    (Systems.Along (Sweeper.step (P := BalancedPolicy) build) .new Sweeper.Undisturbed events →
      (Sweeper.reach BalancedPolicy build events).OnlyDue) :=
  ⟨fun undisturbed => (Sweeper.reach_punctual undisturbed).onlyDue,
    fun undisturbed => (Sweeper.reach_punctual undisturbed).onlyDue⟩

/-- The environment at a number of seconds after the epoch. -/
def Env.atSecond (second : ℕ) : Env := .plain (second * 1000000000) "t"

/-- A worker falls silent and is removed by a sweep. -/
def silentWorker : List SweepEvent :=
  [.call ⟨.atSecond 10, .register "g" .gpu 24⟩, .scanWorkers (.atSecond 100)]

theorem sweeps_only_due_silentWorker :
    (Sweeper.reach DefaultPolicy .plain (silentWorker ++ [.act (.atSecond 100) 0])).removals =
        [.worker "g" 10 30 100] ∧
      (Sweeper.reach DefaultPolicy .plain (silentWorker ++ [.act (.atSecond 100) 0])).OnlyDue ∧
      (Sweeper.reach BalancedPolicy .plain (silentWorker ++ [.act (.atSecond 100) 0])).OnlyDue := by
  obtain ⟨default, balanced⟩ :=
    sweeps_only_due .plain (silentWorker ++ [.act (.atSecond 100) 0])
  exact ⟨by decide, default (by decide), balanced (by decide)⟩

/-- The worker is heard of between the scan and the write section. -/
def lateHeartbeat : List SweepEvent :=
  silentWorker ++ [.call ⟨.atSecond 100, .handleHeartbeat "g" [] [] 0⟩, .act (.atSecond 100) 0]

/-- A proof has expired at the scan, is failed, and is created again without a
deadline before the write section. -/
def lateCreation : List SweepEvent :=
  [.call ⟨.atSecond 10, .createDummyProof ⟨"p", 50⟩⟩, .scanProofs (.atSecond 100),
    .call ⟨.atSecond 100, .failProof "p" none false none⟩,
    .call ⟨.atSecond 100, .createDummyProof ⟨"p", 0⟩⟩, .act (.atSecond 100) 0]

/-- A worker that was just heard of is removed, and a proof that has no deadline
is failed. -/
theorem stale_scans_remove :
    (Sweeper.reach DefaultPolicy .plain lateHeartbeat).removals = [.worker "g" 100 30 100] ∧
      (Sweeper.reach DefaultPolicy .plain lateCreation).removals =
        [.proof "p" none 100000000000] ∧
      ¬ (Sweeper.reach DefaultPolicy .plain lateHeartbeat).OnlyDue ∧
      ¬ (Sweeper.reach DefaultPolicy .plain lateCreation).OnlyDue := by
  decide

end Sp1Cluster
