import Sp1Cluster.Node.Interleaving

/-!
# What one operation of a node can do

`Moves` lists the operations of the loop, of the work, of the reporters and of the reports of
wedged tasks, each with what it finds and what it leaves. Every event is one of them
(`moves_step`), so what a node keeps at any time is proved by going over this list.
-/

set_option autoImplicit false

namespace Sp1Cluster

/-- The loop is neither starting nor ending anything, and has not found the node drained. -/
def LoopPhase.free : LoopPhase → Bool
  | .selecting | .arriving .. | .cancelling _ | .closing | .testingTable _ | .testingCount _
  | .watching | .exited .forced | .exited .silent => true
  | _ => false

/-- The steps of a reporter between the end of the work and its own end, apart from those
that touch the table or the counter. -/
inductive TrackedAttempt.Advances (attempt : TrackedAttempt) : TrackedAttempt → Prop
  | joins {result : WorkResult} (phase : attempt.reporter = .awaiting)
      (ended : attempt.result = some result) : Advances attempt (attempt.goTo (.joined result))
  | omits {result : WorkResult} (phase : attempt.reporter = .joined result)
      (nothing : reportFor result attempt.abortedAt.isSome = .nothing) :
      Advances attempt (attempt.goTo .leaving)
  | calls {result : WorkResult} (report : Report) (phase : attempt.reporter = .joined result) :
      Advances attempt (attempt.goTo (.calling report))
  | returns {report : Report} (phase : attempt.reporter = .calling report) :
      Advances attempt attempt.reply
  | finishes (phase : attempt.reporter = .released) : Advances attempt (attempt.goTo .finished)

namespace WorkerLoop

/-- What one operation can do. -/
inductive Moves (timeouts : NodeTimeouts) (state : WorkerLoop) : WorkerLoop → Prop
  | stays : Moves timeouts state state
  | elapses (seconds : ℕ) : Moves timeouts state { state with clock := state.clock + seconds }
  | goes (closed : Bool) (drainStartedAt : Option ℕ) {phase : LoopPhase}
      (before : state.phase.free = true) (after : phase.free = true) :
      Moves timeouts state
        { state with closed := closed, drainStartedAt := drainStartedAt, phase := phase }
  | drains (before : state.phase.free = true) (idle : state.inFlight = 0) :
      Moves timeouts state (state.goTo (.exited .drained))
  -- a new task
  | admits {key : String × String} {data : TaskData} (before : state.phase.free = true)
      (absent : key ∉ state.tasks) : Moves timeouts state (state.goTo (.spawningWork key data))
  | spawnsWork {key : String × String} {data : TaskData}
      (phase : state.phase = .spawningWork key data) :
      Moves timeouts state
        { state with
          attempts := state.attempts.insert state.spawned (.new key)
          spawned := state.spawned + 1
          phase := .counting key data state.spawned }
  | counts {key : String × String} {data : TaskData} {work : ℕ}
      (phase : state.phase = .counting key data work) :
      Moves timeouts state
        { state.modifyAttempt work (·.goTo .unspawned) with
          inFlight := state.inFlight + 1
          phase := .spawningReporter key data work }
  | spawnsReporter {key : String × String} {data : TaskData} {work : ℕ}
      (phase : state.phase = .spawningReporter key data work) :
      Moves timeouts state
        ((state.modifyAttempt work (·.goTo .awaiting)).goTo (.inserting key data work))
  | inserts {key : String × String} {data : TaskData} {work : ℕ}
      (phase : state.phase = .inserting key data work) :
      Moves timeouts state
        { state with
          tasks := state.tasks.insert key ⟨data, state.clock, work⟩
          phase := .selecting }
  -- a task to cancel
  | cancels {key : String × String} {entry : TimedTask} (before : state.phase.free = true)
      (here : state.tasks.lookup key = some entry) :
      Moves timeouts state ((state.modifyAttempt entry.work (·.cancel)).goTo (.removing key))
  | removes {key : String × String} (phase : state.phase = .removing key) :
      Moves timeouts state ((state.erase key).goTo .selecting)
  -- a sweep
  | sweeps (before : state.phase.free = true) :
      Moves timeouts state (state.goTo (.sweeping ⟨state.tasks.keys, [], [], [], []⟩))
  | visits {key : String × String} {sweep : Sweep} (phase : state.phase = .sweeping sweep) :
      Moves timeouts state (state.goTo (.sweeping (state.visit timeouts key sweep)))
  | clears {key : String × String} {sweep : Sweep} (phase : state.phase = .sweeping sweep)
      (listed : key ∈ sweep.panicked) :
      Moves timeouts state
        ((state.erase key).goTo (.sweeping { sweep with panicked := sweep.panicked.erase key }))
  | skips {sweep later : Sweep} (phase : state.phase = .sweeping sweep)
      (panicked : later.panicked ⊆ sweep.panicked) (wedged : later.wedged ⊆ sweep.wedged) :
      Moves timeouts state (state.goTo (.sweeping later))
  | marks {key : String × String} {entry : TimedTask} {sweep later : Sweep}
      (phase : state.phase = .sweeping sweep) (here : state.tasks.lookup key = some entry)
      (panicked : later.panicked ⊆ sweep.panicked) (wedged : later.wedged ⊆ sweep.wedged) :
      Moves timeouts state
        ((state.modifyAttempt entry.work (·.mark state.clock)).goTo (.aborting entry.work later))
  | retires {key : String × String} {entry : TimedTask} {sweep : Sweep}
      (phase : state.phase = .sweeping sweep) (listed : key ∈ sweep.wedged)
      (here : state.tasks.lookup key = some entry) :
      Moves timeouts state
        ((state.erase key).goTo
          (.retiring key entry.work { sweep with wedged := sweep.wedged.erase key }))
  | aborts {work : ℕ} {sweep later : Sweep}
      (phase : state.phase = .aborting work sweep ∨ ∃ key, state.phase = .retiring key work sweep)
      (panicked : later.panicked ⊆ sweep.panicked) (wedged : later.wedged ⊆ sweep.wedged) :
      Moves timeouts state ((state.modifyAttempt work (·.abort)).goTo (.sweeping later))
  | ends {sweep : Sweep} (phase : state.phase = .sweeping sweep) :
      Moves timeouts state (state.goTo .selecting)
  | closes {sweep : Sweep} (phase : state.phase = .sweeping sweep) :
      Moves timeouts state
        { state with
          closed := true
          drainStartedAt := state.drainStartedAt.orElse fun _ => some state.clock
          inFlight := state.inFlight + 1
          phase := .spawningWedged sweep.removed }
  -- reports of wedged tasks
  | spawnsWedged {keys : List (String × String)} (phase : state.phase = .spawningWedged keys) :
      Moves timeouts state
        { state with
          wedgedReports := state.wedgedReports.insert state.wedgedSpawned (.closing keys)
          wedgedSpawned := state.wedgedSpawned + 1
          phase := .selecting }
  | wedgedGoesOn {number : ℕ} {old : WedgedPhase} (keys : List (String × String))
      (found : state.wedgedReports.lookup number = some old) (running : old.inFlight = true) :
      Moves timeouts state
        { state with wedgedReports := state.wedgedReports.insert number (.failing keys) }
  | wedgedEnds {number : ℕ} {old : WedgedPhase}
      (found : state.wedgedReports.lookup number = some old) (running : old.inFlight = true) :
      Moves timeouts state
        { state with
          wedgedReports := state.wedgedReports.insert number .ended
          inFlight := state.inFlight - 1 }
  -- work and reporters
  | workEnds {work : ℕ} {attempt : TrackedAttempt} {result : WorkResult}
      (found : state.attempts.lookup work = some attempt) (running : attempt.result = none)
      (allowed : result = .cancelled → attempt.aborted = true) :
      Moves timeouts state (state.modifyAttempt work (·.endWork result))
  | advances {work : ℕ} {attempt : TrackedAttempt} {change : TrackedAttempt → TrackedAttempt}
      (found : state.attempts.lookup work = some attempt)
      (advances : attempt.Advances (change attempt)) :
      Moves timeouts state (state.modifyAttempt work change)
  | drops {work : ℕ} {attempt : TrackedAttempt}
      (found : state.attempts.lookup work = some attempt)
      (phase : attempt.reporter = .returned) :
      Moves timeouts state
        ((state.dropIfCurrent attempt.key work).modifyAttempt work (·.goTo .leaving))
  | releases {work : ℕ} {attempt : TrackedAttempt}
      (found : state.attempts.lookup work = some attempt)
      (phase : attempt.reporter = .leaving) :
      Moves timeouts state
        { state.modifyAttempt work (·.goTo .released) with inFlight := state.inFlight - 1 }

variable {timeouts : NodeTimeouts} {state : WorkerLoop}

namespace Moves

theorem goTo {phase : LoopPhase} (before : state.phase.free = true) (after : phase.free = true) :
    state.Moves timeouts (state.goTo phase) :=
  .goes state.closed state.drainStartedAt before after

theorem proceed (timeouts : NodeTimeouts) (state : WorkerLoop) :
    state.Moves timeouts (state.proceed timeouts) := by
  have afterTest_free : ∀ onTick, (afterTest onTick).free = true := by
    intro onTick
    cases onTick <;> rfl
  unfold WorkerLoop.proceed
  cases phase : state.phase with
  | selecting | exited reason => exact stays
  | arriving key data =>
    have before : state.phase.free = true := by rw [phase]; rfl
    dsimp only
    split
    · exact goTo before rfl
    · next absent => exact .admits before absent
  | spawningWork key data => exact .spawnsWork phase
  | counting key data work => exact .counts phase
  | spawningReporter key data work => exact .spawnsReporter phase
  | inserting key data work => exact .inserts phase
  | cancelling key =>
    have before : state.phase.free = true := by rw [phase]; rfl
    dsimp only
    split
    · next entry here => exact .cancels before here
    · exact goTo before rfl
  | removing key => exact .removes phase
  | closing => exact goTo (by rw [phase]; rfl) rfl
  | testingTable onTick =>
    have before : state.phase.free = true := by rw [phase]; rfl
    dsimp only
    split
    · exact goTo before rfl
    · exact goTo before (afterTest_free onTick)
  | testingCount onTick =>
    have before : state.phase.free = true := by rw [phase]; rfl
    dsimp only
    split
    · next idle => exact .drains before idle
    · exact goTo before (afterTest_free onTick)
  | watching =>
    have before : state.phase.free = true := by rw [phase]; rfl
    dsimp only [watch]
    split
    · exact goTo before rfl
    · exact .sweeps before
  | sweeping sweep =>
    dsimp only [endSweep]
    split
    · split
      · exact .ends phase
      · exact .closes phase
    · exact stays
  | aborting work sweep => exact .aborts (.inl phase) (List.Subset.refl _) (List.Subset.refl _)
  | retiring key work sweep =>
    exact .aborts (.inr ⟨key, phase⟩) (List.Subset.refl _) (List.Subset.refl _)
  | spawningWedged keys => exact .spawnsWedged phase

theorem handle (key : String × String) {sweep : Sweep} (phase : state.phase = .sweeping sweep) :
    state.Moves timeouts (state.handle timeouts key sweep) := by
  unfold WorkerLoop.handle
  split
  · split
    · exact .visits phase
    · exact stays
  · split
    · split
      · next listed => exact .clears phase listed
      · exact stays
    · split
      · split
        · dsimp only
          split
          · next entry here => exact .marks phase here (List.Subset.refl _) (List.Subset.refl _)
          · exact .skips phase (List.Subset.refl _) (List.Subset.refl _)
        · exact stays
      · split
        · next listed =>
          dsimp only
          split
          · next entry here => exact .retires phase listed here
          · exact .skips phase (List.Subset.refl _) (List.erase_subset ..)
        · exact stays

theorem report {work : ℕ} {attempt : TrackedAttempt}
    (found : state.attempts.lookup work = some attempt) :
    state.Moves timeouts (state.report work attempt) := by
  unfold WorkerLoop.report
  cases phase : attempt.reporter with
  | uncounted | unspawned | finished => exact stays
  | awaiting =>
    dsimp only
    split
    · next result ended => exact .advances found (.joins phase ended)
    · exact stays
  | joined result =>
    dsimp only
    split
    · next nothing => exact .advances found (.omits phase nothing)
    · exact .advances found (.calls _ phase)
  | calling report => exact .advances found (.returns phase)
  | returned => exact .drops found phase
  | leaving => exact .releases found phase
  | released => exact .advances found (.finishes phase)

theorem reportWedged (number : ℕ) : state.Moves timeouts (state.reportWedged number) := by
  unfold WorkerLoop.reportWedged
  split
  · next keys found => exact .wedgedGoesOn keys found rfl
  · next key keys found => exact .wedgedGoesOn keys found rfl
  · next found => exact .wedgedEnds found rfl
  · exact stays
  · exact stays

end Moves

/-- **Every event is one of the operations.** -/
theorem moves_step (timeouts : NodeTimeouts) (state : WorkerLoop) (event : LoopEvent) :
    state.Moves timeouts (state.step timeouts event) := by
  cases event with
  | message message =>
    dsimp only [step]
    split
    · next phase =>
      have before : state.phase.free = true := by rw [phase]; rfl
      unfold receive
      split
      · split
        · exact .stays
        · exact .goTo before rfl
      · exact .goTo before rfl
      · exact .stays
    · exact .stays
  | tick =>
    dsimp only [step]
    split
    · next phase =>
      refine .goTo (by rw [phase]; rfl) ?_
      split <;> rfl
    · exact .stays
  | shutdown =>
    dsimp only [step]
    split
    · next phase =>
      exact .goes true (some state.clock) (by rw [phase.1]; rfl) rfl
    · exact .stays
  | proceed => exact .proceed timeouts state
  | handle key =>
    dsimp only [step]
    split
    · next sweep phase => exact .handle key phase
    · exact .stays
  | silence =>
    dsimp only [step]
    split
    · next phase => exact .goTo (by rw [phase.1]; rfl) rfl
    · exact .stays
  | reconnectFails =>
    dsimp only [step]
    split
    · next phase => exact .goTo (by rw [phase]; rfl) rfl
    · exact .stays
  | workEnds work result =>
    dsimp only [step]
    split
    · next attempt found =>
      split
      · next allowed => exact .workEnds found allowed.1 allowed.2
      · exact .stays
    · exact .stays
  | report work =>
    dsimp only [step]
    split
    · next attempt found => exact .report found
    · exact .stays
  | wedgedReport number => exact .reportWedged number
  | elapse seconds => exact .elapses seconds

end WorkerLoop

end Sp1Cluster
