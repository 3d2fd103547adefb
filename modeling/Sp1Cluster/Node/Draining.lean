import Sp1Cluster.Node.LoopMoves

/-!
# A node that drains loses no outcome

The counter of reporters in flight is what the exit of the loop relies on. An attempt is
counted before its reporter is spawned and taken off the counter when the reporter has
nothing left to do, so the counter is the number of reporters on their way, together with
the reports of wedged tasks (`Sound.counted`). Between the spawn of the work and the
counting the loop is busy, and does not test for its exit.

A reporter leaves without a report only if its work was cancelled and the watchdog had
not marked the attempt. The watchdog marks an attempt before it aborts the work, so it
was a `CancelTask` that did, and the work had not ended then (`TrackedAttempt.Ok`).
-/

set_option autoImplicit false

namespace Sp1Cluster

/-! ## Attempts -/

/-- Reporters that are past their call, or had none to make. -/
def ReporterPhase.past : ReporterPhase → Bool
  | .returned | .leaving | .released | .finished => true
  | _ => false

/-- Reporters that have been spawned. -/
def ReporterPhase.started : ReporterPhase → Bool
  | .uncounted | .unspawned => false
  | _ => true

/-- Reporters that have been taken off the counter. -/
def ReporterPhase.gone : ReporterPhase → Bool
  | .released | .finished => true
  | _ => false

/-- What holds of an attempt at any time. -/
structure TrackedAttempt.Ok (attempt : TrackedAttempt) : Prop where
  /-- Work that is cancelled was aborted. -/
  aborted : attempt.result = some .cancelled → attempt.aborted = true
  /-- Work that was aborted before it ended was marked, or a `CancelTask` aborted it. -/
  excused : attempt.aborted = true →
    attempt.result = none ∨ attempt.result = some .cancelled →
      attempt.abortedAt ≠ none ∨ attempt.cancelled = true
  joined : ∀ result, attempt.reporter = .joined result → attempt.result = some result
  settled : attempt.reporter.past = true → attempt.reported = true ∨ attempt.cancelled = true

namespace TrackedAttempt

variable {attempt : TrackedAttempt}

theorem ok_new (key : String × String) : (TrackedAttempt.new key).Ok where
  aborted result := by cases result
  excused aborted := by cases aborted
  joined _ waiting := by cases waiting
  settled past := by cases past

section Attempts

variable (ok : attempt.Ok)
include ok

theorem Ok.endWork {result : WorkResult} (running : attempt.result = none)
    (allowed : result = .cancelled → attempt.aborted = true) : (attempt.endWork result).Ok where
  aborted same := allowed (Option.some.inj same)
  excused aborted _ := ok.excused aborted (.inl running)
  joined other waiting := by
    have ended := ok.joined other waiting
    rw [running] at ended
    cases ended
  settled := ok.settled

theorem Ok.cancel : attempt.cancel.Ok where
  aborted _ := rfl
  excused _ ended := by
    rcases ended with running | cancelled
    · exact .inr (by simp [TrackedAttempt.cancel, show attempt.result = none from running])
    · rcases ok.excused (ok.aborted cancelled) (.inr cancelled) with marked | before
      · exact .inl marked
      · exact .inr (by simp [TrackedAttempt.cancel, before])
  joined := ok.joined
  settled past := by
    rcases ok.settled past with reported | cancelled
    · exact .inl reported
    · exact .inr (by simp [TrackedAttempt.cancel, cancelled])

theorem Ok.mark (now : ℕ) : (attempt.mark now).Ok where
  aborted := ok.aborted
  excused _ _ := by
    refine .inl ?_
    cases marked : attempt.abortedAt <;> simp [TrackedAttempt.mark, marked]
  joined := ok.joined
  settled := ok.settled

theorem Ok.abort (marked : attempt.abortedAt ≠ none) : attempt.abort.Ok where
  aborted _ := rfl
  excused _ _ := .inl marked
  joined := ok.joined
  settled := ok.settled

theorem Ok.goTo {phase : ReporterPhase}
    (joined : ∀ result, phase = .joined result → attempt.result = some result)
    (settled : phase.past = true → attempt.reported = true ∨ attempt.cancelled = true) :
    (attempt.goTo phase).Ok where
  aborted := ok.aborted
  excused := ok.excused
  joined := joined
  settled := settled

theorem Ok.goTo_early {phase : ReporterPhase} (early : phase.past = false)
    (unjoined : ∀ result, phase ≠ .joined result) : (attempt.goTo phase).Ok := by
  refine ok.goTo (fun result same => absurd same (unjoined result)) fun past => ?_
  rw [early] at past
  cases past

theorem Ok.goTo_past {phase : ReporterPhase} (past : phase.past = true)
    (settled : attempt.reported = true ∨ attempt.cancelled = true) : (attempt.goTo phase).Ok := by
  refine ok.goTo (fun result same => ?_) fun _ => settled
  rw [same] at past
  cases past

theorem Ok.reply : attempt.reply.Ok where
  aborted := ok.aborted
  excused := ok.excused
  joined _ waiting := by cases waiting
  settled _ := .inl rfl

/-- **A reporter that has nothing to report is of an attempt that was cancelled.** -/
theorem Ok.cancelled_of_nothing {result : WorkResult} (joined : attempt.reporter = .joined result)
    (nothing : reportFor result attempt.abortedAt.isSome = .nothing) :
    attempt.cancelled = true := by
  have ended := ok.joined result joined
  have both : result = .cancelled ∧ attempt.abortedAt = none := by
    unfold reportFor at nothing
    split at nothing
    · cases nothing
    · cases nothing
    · cases nothing
    · split at nothing
      · cases nothing
      · next unmarked => exact ⟨rfl, by simpa using unmarked⟩
    · cases nothing
  obtain ⟨rfl, unmarked⟩ := both
  exact (ok.excused (ok.aborted ended) (.inr ended)).resolve_left (not_not.mpr unmarked)

theorem Ok.advances {next : TrackedAttempt} (advances : attempt.Advances next) : next.Ok := by
  cases advances with
  | joins _ ended =>
    refine ok.goTo ?_ nofun
    rintro other ⟨⟩
    exact ended
  | omits phase nothing => exact ok.goTo_past rfl (.inr (ok.cancelled_of_nothing phase nothing))
  | calls => exact ok.goTo_early rfl nofun
  | returns => exact ok.reply
  | finishes phase => exact ok.goTo_past rfl (ok.settled (by rw [phase]; rfl))

end Attempts

/-- A reporter that goes on has been spawned, and stays on the counter or off it. -/
theorem Advances.spec {next : TrackedAttempt} (advances : attempt.Advances next) :
    attempt.reporter.started = true ∧ next.reporter.started = true ∧
      next.abortedAt = attempt.abortedAt ∧
      (attempt.reporter.gone = true → next.reporter.gone = true) ∧
      next.reporter.inFlight = attempt.reporter.inFlight := by
  cases advances with
  | joins phase | omits phase | calls _ phase | returns phase =>
    rw [phase]
    exact ⟨rfl, rfl, rfl, nofun, rfl⟩
  | finishes phase =>
    rw [phase]
    exact ⟨rfl, rfl, rfl, fun _ => rfl, rfl⟩

end TrackedAttempt

/-! ## The loop -/

namespace LoopPhase

def countsNext : LoopPhase → Option ℕ
  | .counting _ _ work => some work
  | _ => none

def spawnsNext : LoopPhase → Option ℕ
  | .spawningReporter _ _ work => some work
  | _ => none

def abortsNext : LoopPhase → Option ℕ
  | .aborting work _ | .retiring _ work _ => some work
  | _ => none

/-- Reports of wedged tasks that are counted and not spawned. -/
def owes : LoopPhase → ℕ
  | .spawningWedged _ => 1
  | _ => 0

def wedged : LoopPhase → List (String × String)
  | .sweeping sweep | .aborting _ sweep | .retiring _ _ sweep => sweep.wedged
  | _ => []

/-- The loop is not in the middle of starting an attempt or a report. -/
def calm : LoopPhase → Bool
  | .counting .. | .spawningReporter .. | .spawningWedged _ => false
  | _ => true

/-- The loop is calm, has nothing in hand either, and has not found the node drained. -/
def plain : LoopPhase → Bool
  | .counting .. | .spawningReporter .. | .spawningWedged _ => false
  | .sweeping _ | .aborting .. | .retiring .. | .exited .drained => false
  | _ => true

variable {phase : LoopPhase}

theorem countsNext_of_calm (calm : phase.calm = true) : phase.countsNext = none := by
  cases phase <;> first | rfl | cases calm

theorem spawnsNext_of_calm (calm : phase.calm = true) : phase.spawnsNext = none := by
  cases phase <;> first | rfl | cases calm

theorem owes_of_calm (calm : phase.calm = true) : phase.owes = 0 := by
  cases phase <;> first | rfl | cases calm

theorem calm_of_free (free : phase.free = true) : phase.calm = true := by
  cases phase <;> first | rfl | cases free

theorem plain_of_free (free : phase.free = true) : phase.plain = true := by
  rcases phase with _ | _ | _ | _ | _ | _ | _ | _ | _ | _ | _ | _ | _ | _ | _ | _ | reason
  all_goals first | rfl | cases free | (cases reason <;> first | rfl | cases free)

theorem calm_of_plain (plain : phase.plain = true) : phase.calm = true ∧
    phase.abortsNext = none ∧ phase.wedged = [] ∧ phase ≠ .exited .drained := by
  refine ⟨?_, ?_, ?_, by rintro rfl; cases plain⟩ <;> cases phase <;> first | rfl | cases plain

end LoopPhase

namespace WorkerLoop

/-- The watchdog has marked an attempt. -/
def Marked (state : WorkerLoop) (work : ℕ) : Prop :=
  ∀ attempt, state.attempts.lookup work = some attempt → attempt.abortedAt ≠ none

/-! ### Changing one attempt -/

section

variable {state : WorkerLoop} {work : ℕ} {attempt : TrackedAttempt}
  (found : state.attempts.lookup work = some attempt) (change : TrackedAttempt → TrackedAttempt)

include found

theorem attempts_modifyAttempt :
    (state.modifyAttempt work change).attempts = state.attempts.insert work (change attempt) :=
  Table.modify_of_lookup found change

theorem lookup_modifyAttempt {other : ℕ} {later : TrackedAttempt}
    (next : (state.modifyAttempt work change).attempts.lookup other = some later) :
    other = work ∧ later = change attempt ∨
      other ≠ work ∧ state.attempts.lookup other = some later := by
  rw [attempts_modifyAttempt found] at next
  exact Table.lookup_insert_cases next

theorem mem_modifyAttempt (other : ℕ) :
    other ∈ (state.modifyAttempt work change).attempts ↔ other ∈ state.attempts := by
  rw [attempts_modifyAttempt found, AList.mem_insert]
  exact or_iff_right_of_imp fun same => same ▸ Table.mem_of_lookup found

theorem count_modifyAttempt :
    (state.modifyAttempt work change).attempts.count (·.reporter.inFlight) +
        attempt.reporter.inFlight.toNat =
      state.attempts.count (·.reporter.inFlight) + (change attempt).reporter.inFlight.toNat := by
  rw [attempts_modifyAttempt found, Table.count_insert, Table.count_of_lookup _ found]
  cases attempt.reporter.inFlight <;> cases (change attempt).reporter.inFlight <;> simp

theorem marked_modifyAttempt
    (marked : attempt.abortedAt ≠ none → (change attempt).abortedAt ≠ none) {other : ℕ}
    (before : state.Marked other) : (state.modifyAttempt work change).Marked other := by
  intro later next
  rcases lookup_modifyAttempt found change next with ⟨rfl, rfl⟩ | ⟨-, same⟩
  · exact marked (before attempt found)
  · exact before later same

end

/-- What holds of a node at any time. -/
structure Sound (state : WorkerLoop) : Prop where
  numbered : ∀ work, work ∈ state.attempts ↔ work < state.spawned
  wedgedNumbered : ∀ number ∈ state.wedgedReports, number < state.wedgedSpawned
  ok : ∀ work attempt, state.attempts.lookup work = some attempt → attempt.Ok
  /-- **The counter is the number of reporters and reports that are on their way.** -/
  counted : state.inFlight = state.attempts.count (·.reporter.inFlight) +
    state.wedgedReports.count (·.inFlight) + state.phase.owes
  uncounted : ∀ work attempt, state.attempts.lookup work = some attempt →
    (attempt.reporter = .uncounted ↔ state.phase.countsNext = some work)
  unspawned : ∀ work attempt, state.attempts.lookup work = some attempt →
    (attempt.reporter = .unspawned ↔ state.phase.spawnsNext = some work)
  /-- The attempt that the loop is starting has been made. -/
  starting : ∀ work, state.phase.countsNext = some work ∨ state.phase.spawnsNext = some work →
    work ∈ state.attempts
  aborts : ∀ work, state.phase.abortsNext = some work → state.Marked work
  wedged : ∀ key ∈ state.phase.wedged, ∀ entry, state.tasks.lookup key = some entry →
    state.Marked entry.work
  drained : state.phase = .exited .drained →
    ∀ work attempt, state.attempts.lookup work = some attempt → attempt.reporter.gone = true

namespace Sound

variable {state : WorkerLoop} {work : ℕ} {attempt : TrackedAttempt} {timeouts : NodeTimeouts}
  {key : String × String} {drainStartedAt : Option ℕ}

theorem initial : new.Sound where
  numbered work := by simp [new]
  wedgedNumbered number member := by simp [new] at member
  ok work attempt found := by cases found
  counted := rfl
  uncounted work attempt found := by cases found
  unspawned work attempt found := by cases found
  starting work next := by rcases next with next | next <;> cases next
  aborts work next := by cases next
  wedged key member := by cases member
  drained exit := by cases exit

section Steps

variable (sound : state.Sound)
include sound

theorem calm (before : state.phase.calm = true) {closed : Bool} {phase : LoopPhase}
    (after : phase.calm = true) (aborts : ∀ work, phase.abortsNext = some work → state.Marked work)
    (wedged : ∀ key ∈ phase.wedged, ∀ entry, state.tasks.lookup key = some entry →
      state.Marked entry.work) (drained : phase = .exited .drained → ∀ work attempt,
      state.attempts.lookup work = some attempt → attempt.reporter.gone = true) :
    ({ state with
        closed := closed, drainStartedAt := drainStartedAt, phase := phase }).Sound :=
  { sound with
    counted := by
      have counted := sound.counted
      rwa [LoopPhase.owes_of_calm before, ← LoopPhase.owes_of_calm after] at counted
    uncounted := by
      intro work attempt found
      rw [sound.uncounted work attempt found, LoopPhase.countsNext_of_calm before,
        LoopPhase.countsNext_of_calm after]
    unspawned := by
      intro work attempt found
      rw [sound.unspawned work attempt found, LoopPhase.spawnsNext_of_calm before,
        LoopPhase.spawnsNext_of_calm after]
    starting := by
      intro work next
      rw [LoopPhase.countsNext_of_calm after, LoopPhase.spawnsNext_of_calm after] at next
      rcases next with next | next <;> cases next
    aborts := aborts
    wedged := wedged
    drained := drained }

theorem plain (before : state.phase.calm = true) {closed : Bool} {phase : LoopPhase}
    (after : phase.plain = true) :
    ({ state with
        closed := closed, drainStartedAt := drainStartedAt, phase := phase }).Sound := by
  obtain ⟨calm, unaborted, nothing, undrained⟩ := LoopPhase.calm_of_plain after
  refine sound.calm before calm ?_ ?_ fun exit => absurd exit undrained
  · intro work aborts
    rw [unaborted] at aborts
    cases aborts
  · intro key member
    rw [nothing] at member
    cases member

theorem sweepTo (before : state.phase.calm = true) {sweep : Sweep}
    (wedged : ∀ key ∈ sweep.wedged, ∀ entry, state.tasks.lookup key = some entry →
      state.Marked entry.work) : (state.goTo (.sweeping sweep)).Sound :=
  sound.calm before rfl nofun wedged nofun

/-- One attempt changes, and the loop goes on with no more in hand than before. -/
theorem modifyThen (found : state.attempts.lookup work = some attempt)
    (change : TrackedAttempt → TrackedAttempt) {phase : LoopPhase} {inFlight : ℕ}
    (ok : (change attempt).Ok)
    (uncounted : (change attempt).reporter = .uncounted ↔ phase.countsNext = some work)
    (unspawned : (change attempt).reporter = .unspawned ↔ phase.spawnsNext = some work)
    (counts : ∀ other, other ≠ work →
      (phase.countsNext = some other ↔ state.phase.countsNext = some other))
    (spawns : ∀ other, other ≠ work →
      (phase.spawnsNext = some other ↔ state.phase.spawnsNext = some other))
    (marked : attempt.abortedAt ≠ none → (change attempt).abortedAt ≠ none)
    (aborts : ∀ other, phase.abortsNext = some other → state.phase.abortsNext = some other)
    (wedged : phase.wedged ⊆ state.phase.wedged)
    (drained : phase = .exited .drained → state.phase = .exited .drained)
    (gone : attempt.reporter.gone = true → (change attempt).reporter.gone = true)
    (owes : phase.owes = state.phase.owes) (balance : inFlight + attempt.reporter.inFlight.toNat =
      state.inFlight + (change attempt).reporter.inFlight.toNat) :
    ({ state.modifyAttempt work change with inFlight := inFlight, phase := phase }).Sound := by
  have keeps : ∀ {other}, state.Marked other →
      (state.modifyAttempt work change).Marked other := fun before =>
    marked_modifyAttempt found change marked before
  refine ⟨fun other => (mem_modifyAttempt found change other).trans (sound.numbered other),
    sound.wedgedNumbered, fun other later next => ?_, ?_, fun other later next => ?_,
    fun other later next => ?_, fun other next => ?_,
    fun other next => keeps (sound.aborts other (aborts other next)),
    fun key member entry here => keeps (sound.wedged key (wedged member) entry here),
    fun exit other later next => ?_⟩
  · rcases lookup_modifyAttempt found change next with ⟨-, rfl⟩ | ⟨-, same⟩
    · exact ok
    · exact sound.ok other later same
  · have before := sound.counted
    have moved := count_modifyAttempt found change
    change inFlight = (state.modifyAttempt work change).attempts.count _ +
      state.wedgedReports.count _ + phase.owes
    omega
  · rcases lookup_modifyAttempt found change next with ⟨rfl, rfl⟩ | ⟨different, same⟩
    · exact uncounted
    · exact (sound.uncounted other later same).trans (counts other different).symm
  · rcases lookup_modifyAttempt found change next with ⟨rfl, rfl⟩ | ⟨different, same⟩
    · exact unspawned
    · exact (sound.unspawned other later same).trans (spawns other different).symm
  · refine (mem_modifyAttempt found change other).mpr ?_
    by_cases same : other = work
    · exact same ▸ Table.mem_of_lookup found
    · exact sound.starting other (next.imp (counts other same).mp (spawns other same).mp)
  · rcases lookup_modifyAttempt found change next with ⟨rfl, rfl⟩ | ⟨-, same⟩
    · exact gone (sound.drained (drained exit) other attempt found)
    · exact sound.drained (drained exit) other later same

theorem modify (found : state.attempts.lookup work = some attempt)
    (change : TrackedAttempt → TrackedAttempt) {inFlight : ℕ} (ok : (change attempt).Ok)
    (uncounted : (change attempt).reporter = .uncounted ↔ attempt.reporter = .uncounted)
    (unspawned : (change attempt).reporter = .unspawned ↔ attempt.reporter = .unspawned)
    (marked : attempt.abortedAt ≠ none → (change attempt).abortedAt ≠ none)
    (gone : attempt.reporter.gone = true → (change attempt).reporter.gone = true)
    (balance : inFlight + attempt.reporter.inFlight.toNat =
      state.inFlight + (change attempt).reporter.inFlight.toNat) :
    ({ state.modifyAttempt work change with inFlight := inFlight }).Sound :=
  sound.modifyThen found change ok (uncounted.trans (sound.uncounted work attempt found))
    (unspawned.trans (sound.unspawned work attempt found)) (fun _ _ => Iff.rfl)
    (fun _ _ => Iff.rfl) marked (fun _ => id) (List.Subset.refl _) id gone rfl balance

theorem touch (work : ℕ) (change : TrackedAttempt → TrackedAttempt)
    (ok : ∀ attempt, state.attempts.lookup work = some attempt → (change attempt).Ok)
    (reporter : ∀ attempt, (change attempt).reporter = attempt.reporter)
    (marked : ∀ attempt, attempt.abortedAt ≠ none → (change attempt).abortedAt ≠ none) :
    (state.modifyAttempt work change).Sound := by
  cases found : state.attempts.lookup work with
  | none =>
    have same : state.modifyAttempt work change = state := by
      simp [WorkerLoop.modifyAttempt, Table.modify, found]
    rwa [same]
  | some attempt =>
    refine sound.modify found change (ok attempt found) ?_ ?_ (marked attempt) ?_ ?_
    all_goals rw [reporter]
    exact id

theorem erase (key : String × String) : (state.erase key).Sound :=
  { sound with
    wedged := by
      intro other member entry found
      change (state.tasks.erase key).lookup other = some entry at found
      exact sound.wedged other member entry (Table.lookup_of_erase found) }

theorem dropIfCurrent (key : String × String) (work : ℕ) :
    (state.dropIfCurrent key work).Sound := by
  unfold WorkerLoop.dropIfCurrent
  split
  · split
    · exact sound.erase key
    · exact sound
  · exact sound

end Steps

theorem attempts_dropIfCurrent (key : String × String) (work : ℕ) :
    (state.dropIfCurrent key work).attempts = state.attempts := by
  unfold WorkerLoop.dropIfCurrent
  split
  · split <;> rfl
  · rfl

/-- A reporter on its way is on the counter. -/
theorem inFlight_pos (sound : state.Sound) (found : state.attempts.lookup work = some attempt)
    (tracked : attempt.reporter.inFlight = true) : 0 < state.inFlight := by
  have one : 0 < state.attempts.count (·.reporter.inFlight) :=
    (Table.count_pos_iff _ _).mpr ⟨work, attempt, found, tracked⟩
  rw [sound.counted]
  omega

/-! ## Reporters and work -/

theorem reporterMoves (sound : state.Sound) (found : state.attempts.lookup work = some attempt)
    (change : TrackedAttempt → TrackedAttempt) {inFlight : ℕ} (ok : (change attempt).Ok)
    (before : attempt.reporter.started = true) (after : (change attempt).reporter.started = true)
    (marks : (change attempt).abortedAt = attempt.abortedAt)
    (gone : attempt.reporter.gone = true → (change attempt).reporter.gone = true)
    (balance : inFlight + attempt.reporter.inFlight.toNat =
      state.inFlight + (change attempt).reporter.inFlight.toNat) :
    ({ state.modifyAttempt work change with inFlight := inFlight }).Sound := by
  have started : ∀ {phase : ReporterPhase}, phase.started = true →
      phase ≠ .uncounted ∧ phase ≠ .unspawned := by
    intro phase started
    constructor
    · rintro rfl
      cases started
    · rintro rfl
      cases started
  exact sound.modify found change ok (iff_of_false (started after).1 (started before).1)
    (iff_of_false (started after).2 (started before).2) (by rw [marks]; exact id) gone balance

/-! ## Reports of wedged tasks -/

theorem setWedged (sound : state.Sound) {number : ℕ} {old : WedgedPhase}
    (found : state.wedgedReports.lookup number = some old) (next : WedgedPhase) {inFlight : ℕ}
    (balance : inFlight + old.inFlight.toNat = state.inFlight + next.inFlight.toNat) :
    ({ state with
        wedgedReports := state.wedgedReports.insert number next
        inFlight := inFlight }).Sound :=
  { sound with
    wedgedNumbered := by
      intro other member
      rcases (AList.mem_insert _).mp member with rfl | before
      · exact sound.wedgedNumbered other (Table.mem_of_lookup found)
      · exact sound.wedgedNumbered other before
    counted := by
      have before := sound.counted
      rw [Table.count_of_lookup _ found] at before
      change inFlight =
        state.attempts.count _ + Table.count _ (AList.insert _ _ _) + state.phase.owes
      rw [Table.count_insert]
      cases held : old.inFlight <;> cases holds : next.inFlight <;>
        simp [held, holds] at before balance ⊢ <;> omega }

/-! ## The loop starts attempts and reports -/

theorem spawnWork (sound : state.Sound) (before : state.phase.calm = true) (key : String × String)
    (data : TaskData) :
    ({ state with
        attempts := state.attempts.insert state.spawned (.new key)
        spawned := state.spawned + 1
        phase := .counting key data state.spawned }).Sound := by
  have fresh : state.spawned ∉ state.attempts := fun member =>
    lt_irrefl _ ((sound.numbered _).mp member)
  have lookup : ∀ {work attempt},
      (state.attempts.insert state.spawned (.new key)).lookup work = some attempt →
        work = state.spawned ∧ attempt = .new key ∨
          work ≠ state.spawned ∧ state.attempts.lookup work = some attempt := by
    intro work attempt next
    exact Table.lookup_insert_cases next
  refine ⟨fun work => ?_, sound.wedgedNumbered, fun work attempt next => ?_, ?_,
    fun work attempt next => ?_, fun work attempt next => ?_, fun work next => ?_,
    fun work next => ?_, fun key member => ?_, fun exit => ?_⟩
  · change work ∈ state.attempts.insert _ _ ↔ work < state.spawned + 1
    rw [AList.mem_insert, sound.numbered]
    omega
  · rcases lookup next with ⟨-, rfl⟩ | ⟨-, same⟩
    · exact TrackedAttempt.ok_new key
    · exact sound.ok work attempt same
  · change state.inFlight = Table.count _ (AList.insert _ _ _) + state.wedgedReports.count _ + 0
    have counted := sound.counted
    rw [LoopPhase.owes_of_calm before] at counted
    rw [Table.count_insert, Table.erase_of_notMem fresh]
    exact counted
  · rcases lookup next with ⟨rfl, rfl⟩ | ⟨other, same⟩
    · exact iff_of_true rfl rfl
    · refine iff_of_false ?_ fun equal => other (Option.some.inj equal).symm
      rw [sound.uncounted work attempt same, LoopPhase.countsNext_of_calm before]
      simp
  · rcases lookup next with ⟨rfl, rfl⟩ | ⟨-, same⟩
    · exact iff_of_false (by simp [TrackedAttempt.new]) (by simp [LoopPhase.spawnsNext])
    · rw [sound.unspawned work attempt same, LoopPhase.spawnsNext_of_calm before]
      simp [LoopPhase.spawnsNext]
  · rcases next with next | next
    · exact (AList.mem_insert _).mpr (.inl (Option.some.inj next).symm)
    · cases next
  · cases next
  · cases member
  · cases exit

theorem countReporter (sound : state.Sound) {data : TaskData}
    (phase : state.phase = .counting key data work) :
    ({ state.modifyAttempt work (·.goTo .unspawned) with
        inFlight := state.inFlight + 1
        phase := .spawningReporter key data work }).Sound := by
  have counts : state.phase.countsNext = some work := by rw [phase]; rfl
  obtain ⟨attempt, found⟩ := Table.exists_lookup (sound.starting work (.inl counts))
  have uncounted := (sound.uncounted work attempt found).mpr counts
  have ok : (attempt.goTo .unspawned).Ok := (sound.ok work attempt found).goTo_early rfl nofun
  refine sound.modifyThen found (·.goTo .unspawned) ok (iff_of_false nofun nofun)
    (iff_of_true rfl rfl) (fun other different => ?_) (fun other different => ?_) id nofun nofun
    nofun (by rw [uncounted]; exact nofun) (by rw [phase]; rfl) (by rw [uncounted]; rfl)
  · rw [counts]
    exact iff_of_false nofun fun same => different (Option.some.inj same).symm
  · rw [phase]
    exact iff_of_false (fun same => different (Option.some.inj same).symm) nofun

theorem spawnReporter (sound : state.Sound) {data : TaskData}
    (phase : state.phase = .spawningReporter key data work) :
    ((state.modifyAttempt work (·.goTo .awaiting)).goTo (.inserting key data work)).Sound := by
  have spawns : state.phase.spawnsNext = some work := by rw [phase]; rfl
  obtain ⟨attempt, found⟩ := Table.exists_lookup (sound.starting work (.inr spawns))
  have unspawned := (sound.unspawned work attempt found).mpr spawns
  have ok : (attempt.goTo .awaiting).Ok := (sound.ok work attempt found).goTo_early rfl nofun
  refine sound.modifyThen found (·.goTo .awaiting) ok (iff_of_false nofun nofun)
    (iff_of_false nofun nofun) (fun other different => ?_) (fun other different => ?_) id nofun
    nofun nofun (by rw [unspawned]; exact nofun) (by rw [phase]; rfl) (by rw [unspawned]; rfl)
  · rw [phase]
    exact Iff.rfl
  · rw [spawns]
    exact iff_of_false nofun fun same => different (Option.some.inj same).symm

/-- The end of a sweep that has removed wedged tasks. -/
theorem closes (sound : state.Sound) (before : state.phase.calm = true) {closed : Bool}
    (keys : List (String × String)) :
    ({ state with
        closed := closed
        drainStartedAt := drainStartedAt
        inFlight := state.inFlight + 1
        phase := .spawningWedged keys }).Sound := by
  have idle : (state.goTo .selecting).Sound := sound.plain before rfl
  refine { idle with counted := ?_, drained := nofun }
  have counted : state.inFlight = state.attempts.count _ + state.wedgedReports.count _ + 0 :=
    idle.counted
  change state.inFlight + 1 = state.attempts.count _ + state.wedgedReports.count _ + 1
  omega

theorem spawnWedged (sound : state.Sound) {keys : List (String × String)}
    (phase : state.phase = .spawningWedged keys) :
    ({ state with
        wedgedReports := state.wedgedReports.insert state.wedgedSpawned (.closing keys)
        wedgedSpawned := state.wedgedSpawned + 1
        phase := .selecting }).Sound := by
  have fresh : state.wedgedSpawned ∉ state.wedgedReports := fun member =>
    lt_irrefl _ (sound.wedgedNumbered _ member)
  have uncounted := sound.uncounted
  have unspawned := sound.unspawned
  have counted := sound.counted
  rw [phase] at uncounted unspawned counted
  refine
    { sound with
      wedgedNumbered := ?_, counted := ?_, uncounted := uncounted, unspawned := unspawned,
      starting := nofun, aborts := nofun, wedged := nofun, drained := nofun }
  · intro number member
    rcases (AList.mem_insert _).mp member with rfl | before
    · exact Nat.lt_succ_self _
    · exact (sound.wedgedNumbered number before).trans (Nat.lt_succ_self _)
  · change state.inFlight = state.attempts.count _ + Table.count _ (AList.insert _ _ _) + 0
    rw [Table.count_insert, Table.erase_of_notMem fresh]
    exact counted

/-! ## The loop sweeps -/

/-- The watchdog finds a task wedged only if it has marked its attempt. -/
theorem marked_of_report {now : ℕ} {entry : TimedTask}
    (report : timeoutAction timeouts now entry attempt = .report) : attempt.abortedAt ≠ none := by
  unfold timeoutAction at report
  split at report
  · cases report
  · split at report
    · next marked => simp [marked]
    · cases report

theorem wedged_visit {sweep : Sweep}
    (wedged : ∀ key ∈ sweep.wedged, ∀ entry, state.tasks.lookup key = some entry →
      state.Marked entry.work) :
    ∀ other ∈ (state.visit timeouts key sweep).wedged, ∀ entry,
      state.tasks.lookup other = some entry → state.Marked entry.work := by
  unfold WorkerLoop.visit
  dsimp only
  split
  · exact wedged
  · next entry here =>
    split
    · exact wedged
    · next attempt found =>
      split
      · exact wedged
      · split
        · exact wedged
        · exact wedged
        · next report =>
          intro other member seen there
          rcases List.mem_cons.mp member with rfl | before
          · rw [here] at there
            cases there
            intro later same
            rw [found] at same
            cases same
            exact marked_of_report report
          · exact wedged other before seen there

theorem marked_mark (work now : ℕ) : (state.modifyAttempt work (·.mark now)).Marked work := by
  intro attempt found
  change (Table.modify work _ state.attempts).lookup work = some attempt at found
  rw [Table.lookup_modify_eq, if_pos rfl] at found
  obtain ⟨before, -, rfl⟩ := Option.map_eq_some_iff.mp found
  cases marked : before.abortedAt <;> simp [TrackedAttempt.mark, marked]

theorem mark (sound : state.Sound) (work now : ℕ) :
    (state.modifyAttempt work (·.mark now)).Sound := by
  refine sound.touch work _ (fun attempt found => (sound.ok work attempt found).mark now)
    (fun _ => rfl) fun attempt marked => ?_
  cases same : attempt.abortedAt <;> simp [TrackedAttempt.mark, same]

theorem abort (sound : state.Sound) (marked : state.Marked work) :
    (state.modifyAttempt work (·.abort)).Sound :=
  sound.touch work _ (fun attempt found => (sound.ok work attempt found).abort
    (marked attempt found)) (fun _ => rfl) fun _ marked => marked

/-! ## Steps -/

/-- When the counter is zero and no attempt is being started, all reporters are gone. -/
theorem gone_of_idle (sound : state.Sound) (before : state.phase.calm = true)
    (idle : state.inFlight = 0) (work : ℕ) (attempt : TrackedAttempt)
    (found : state.attempts.lookup work = some attempt) : attempt.reporter.gone = true := by
  have started : attempt.reporter ≠ .uncounted := by
    rw [ne_eq, sound.uncounted work attempt found, LoopPhase.countsNext_of_calm before]
    simp
  cases tracked : attempt.reporter.inFlight with
  | true =>
    have positive := sound.inFlight_pos found tracked
    omega
  | false => cases phase : attempt.reporter <;> simp_all [ReporterPhase.inFlight, ReporterPhase.gone]

theorem moves (sound : state.Sound) {next : WorkerLoop} (moves : state.Moves timeouts next) :
    next.Sound := by
  cases moves with
  | stays => exact sound
  | elapses seconds => exact { sound with }
  | goes _ _ before after =>
    exact sound.plain (LoopPhase.calm_of_free before) (LoopPhase.plain_of_free after)
  | drains before idle =>
    have calm := LoopPhase.calm_of_free before
    exact sound.calm calm rfl nofun nofun fun _ => sound.gone_of_idle calm idle
  | admits before => exact sound.plain (LoopPhase.calm_of_free before) rfl
  | spawnsWork phase => exact sound.spawnWork (by rw [phase]; rfl) _ _
  | counts phase => exact sound.countReporter phase
  | spawnsReporter phase => exact sound.spawnReporter phase
  | inserts phase =>
    have idle : (state.goTo .selecting).Sound := sound.plain (by rw [phase]; rfl) rfl
    exact { idle with wedged := nofun }
  | @cancels key entry before here =>
    have cancelled : (state.modifyAttempt entry.work (·.cancel)).Sound :=
      sound.touch entry.work _ (fun attempt found => (sound.ok _ attempt found).cancel)
        (fun _ => rfl) fun _ marked => marked
    exact cancelled.plain (LoopPhase.calm_of_free before) rfl
  | @removes key phase =>
    exact (sound.erase key).plain (show state.phase.calm = true by rw [phase]; rfl) rfl
  | sweeps before => exact sound.sweepTo (LoopPhase.calm_of_free before) nofun
  | visits phase =>
    have wedged := sound.wedged
    rw [phase] at wedged
    exact sound.sweepTo (by rw [phase]; rfl) (wedged_visit wedged)
  | @clears key sweep phase =>
    have erased : ((state.erase key).goTo (.sweeping sweep)).Sound := phase ▸ sound.erase key
    exact erased.sweepTo rfl erased.wedged
  | skips phase _ fewer =>
    have wedged := sound.wedged
    rw [phase] at wedged
    exact sound.sweepTo (by rw [phase]; rfl) fun key kept => wedged key (fewer kept)
  | @marks key entry sweep later phase here _ fewer =>
    have marked := sound.mark entry.work state.clock
    refine marked.calm (show state.phase.calm = true by rw [phase]; rfl) rfl ?_ ?_ nofun
    · rintro work ⟨⟩
      exact marked_mark entry.work state.clock
    · intro other kept
      refine marked.wedged other ?_
      change other ∈ state.phase.wedged
      rw [phase]
      exact fewer kept
  | @retires key entry sweep phase listed here =>
    have erased : ((state.erase key).goTo (.sweeping sweep)).Sound := phase ▸ sound.erase key
    refine erased.calm rfl rfl ?_ (fun other kept => ?_) nofun
    · rintro work ⟨⟩
      exact sound.wedged key (by rw [phase]; exact listed) entry here
    · exact erased.wedged other (List.mem_of_mem_erase kept)
  | @aborts work sweep later phase _ fewer =>
    have now : state.phase.abortsNext = some work ∧ state.phase.wedged = sweep.wedged ∧
        state.phase.calm = true := by
      rcases phase with phase | ⟨key, phase⟩ <;> exact phase ▸ ⟨rfl, rfl, rfl⟩
    have aborted := sound.abort (sound.aborts work now.1)
    refine aborted.sweepTo now.2.2 fun key kept => aborted.wedged key ?_
    change key ∈ state.phase.wedged
    rw [now.2.1]
    exact fewer kept
  | ends phase => exact sound.plain (by rw [phase]; rfl) rfl
  | closes phase => exact sound.closes (by rw [phase]; rfl) _
  | spawnsWedged phase => exact sound.spawnWedged phase
  | wedgedGoesOn keys found running =>
    exact sound.setWedged found (.failing keys) (by rw [running]; rfl)
  | @wedgedEnds number _ found running =>
    have one : 0 < state.wedgedReports.count (·.inFlight) :=
      (Table.count_pos_iff _ _).mpr ⟨number, _, found, running⟩
    have counted := sound.counted
    refine sound.setWedged found .ended ?_
    rw [running]
    change state.inFlight - 1 + 1 = state.inFlight + 0
    omega
  | workEnds found running allowed =>
    exact sound.modify found _ ((sound.ok _ _ found).endWork running allowed) Iff.rfl Iff.rfl id
      id rfl
  | advances found advances =>
    obtain ⟨before, after, marks, gone, counted⟩ := advances.spec
    exact sound.reporterMoves found _ ((sound.ok _ _ found).advances advances) before after marks
      gone (by rw [counted])
  | @drops work attempt found phase =>
    have settled := (sound.ok work attempt found).settled (by rw [phase]; rfl)
    have still : (state.dropIfCurrent attempt.key work).attempts.lookup work = some attempt := by
      rw [attempts_dropIfCurrent, found]
    have drops := (sound.dropIfCurrent attempt.key work).reporterMoves still
    rw [phase] at drops
    exact drops (·.goTo .leaving) ((sound.ok _ _ found).goTo_past rfl settled) rfl rfl rfl nofun
      rfl
  | releases found phase =>
    have settled := (sound.ok _ _ found).settled (by rw [phase]; rfl)
    have tracked := sound.inFlight_pos found (by rw [phase]; rfl)
    refine sound.reporterMoves found (·.goTo .released) ((sound.ok _ _ found).goTo_past rfl settled)
      (by rw [phase]; rfl) rfl rfl (fun _ => rfl) ?_
    rw [phase]
    change state.inFlight - 1 + 1 = state.inFlight + 0
    omega

end Sound

theorem sound_after (timeouts : NodeTimeouts) (events : List LoopEvent) :
    (after timeouts events).Sound :=
  Systems.run_preserves Sound Sound.initial
    (fun state event sound => sound.moves (moves_step timeouts state event)) events

/-- **A node that drains loses no outcome.** Whatever the order of the operations of the loop,
the work, the reporters and the reports of wedged tasks: if the loop has exited because it is
closed, its table is empty and no reporter is in flight, then for every attempt that was ever
started the call that reports it has returned, or a `CancelTask` aborted it before its work had
ended. -/
theorem drained_settled (timeouts : NodeTimeouts) (events : List LoopEvent)
    (exited : (after timeouts events).phase = .exited .drained) (work : ℕ)
    (started : work < (after timeouts events).spawned) :
    ∃ attempt, (after timeouts events).attempts.lookup work = some attempt ∧
      (attempt.reported = true ∨ attempt.cancelled = true) := by
  have sound := sound_after timeouts events
  obtain ⟨attempt, found⟩ := Table.exists_lookup ((sound.numbered work).mpr started)
  refine ⟨attempt, found, (sound.ok work attempt found).settled ?_⟩
  have gone := sound.drained exited work attempt found
  cases phase : attempt.reporter <;> rw [phase] at gone <;> first | rfl | cases gone

/-- Three attempts and the end of a node. The first panics and is reported before its entry is
in the table, the second is cancelled, and the third is wedged until its task has been failed. -/
def drainingRun : List LoopEvent :=
  let data : TaskData := ⟨.proveShard, [], [], "", "p", none, 4, ""⟩
  let proceeds (count : ℕ) : List LoopEvent := List.replicate count .proceed
  let reports (work count : ℕ) : List LoopEvent := List.replicate count (.report work)
  List.flatten
    [[.message (.newTask "a" data "")], proceeds 4, [.workEnds 0 .panicked], reports 0 6,
      proceeds 1,
      [.message (.newTask "b" data "")], proceeds 5, [.message (.cancelTask "p" "b")], proceeds 2,
      [.workEnds 1 .cancelled], reports 1 4,
      [.message (.newTask "c" data "")], proceeds 5, [.elapse 6, .tick, .proceed],
      [.handle ("p", "a"), .handle ("p", "c"), .handle ("p", "a"), .handle ("p", "c")], proceeds 2,
      [.elapse 11, .tick, .proceed, .handle ("p", "c"), .handle ("p", "c")], proceeds 3,
      List.replicate 3 (.wedgedReport 0), [.workEnds 2 .cancelled], reports 2 5,
      [.tick], proceeds 2]

theorem drained_settled_drainingRun :
    (after ⟨5, 100⟩ drainingRun).phase = .exited .drained ∧
      (after ⟨5, 100⟩ drainingRun).spawned = 3 ∧
      ∃ attempt, (after ⟨5, 100⟩ drainingRun).attempts.lookup 2 = some attempt ∧
        (attempt.reported = true ∨ attempt.cancelled = true) := by
  have exited : (after ⟨5, 100⟩ drainingRun).phase = .exited .drained := by decide +kernel
  have spawned : (after ⟨5, 100⟩ drainingRun).spawned = 3 := by decide +kernel
  exact ⟨exited, spawned, drained_settled ⟨5, 100⟩ drainingRun exited 2 (by rw [spawned]; decide)⟩

end WorkerLoop

end Sp1Cluster
