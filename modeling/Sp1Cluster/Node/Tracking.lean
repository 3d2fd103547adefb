import Sp1Cluster.Node.Draining

/-!
# A running attempt is always tracked

The coordinator may deliver a task again after it was cancelled, so a key of the table
belongs to one attempt after another, and the reporter of an earlier attempt may still be on
its way when a later one is entered. Reporters remove an entry by the number of the work, the
loop removes entries by their key. The loop removes only what it has seen to be over: it
aborts an attempt before it removes a cancelled task, and a sweep clears the entries of
reporters that have ended, with no new task in between.
-/

set_option autoImplicit false

namespace Sp1Cluster

/-- Reporters that have heard of the end of the work. -/
def ReporterPhase.heard : ReporterPhase → Bool
  | .uncounted | .unspawned | .awaiting => false
  | _ => true

namespace TrackedAttempt

variable {attempt : TrackedAttempt}

/-- The work has ended, or a `CancelTask` aborted it. -/
def Over (attempt : TrackedAttempt) : Prop :=
  attempt.result ≠ none ∨ attempt.cancelled = true

/-- A reporter hears of the end of the work only if it has ended. -/
def Heard (attempt : TrackedAttempt) : Prop :=
  attempt.reporter.heard = true → attempt.result ≠ none

/-- What an operation on an attempt keeps. -/
structure Grows (attempt later : TrackedAttempt) : Prop where
  key : later.key = attempt.key
  over_of : attempt.Over → later.Over
  heard : attempt.Heard → later.Heard

theorem grows_goTo {phase : ReporterPhase} (silent : phase.heard = false) :
    attempt.Grows (attempt.goTo phase) where
  key := rfl
  over_of := id
  heard _ heard := absurd (silent.symm.trans heard) nofun

theorem grows_goTo_of_heard {phase : ReporterPhase} (heard : attempt.reporter.heard = true) :
    attempt.Grows (attempt.goTo phase) where
  key := rfl
  over_of := id
  heard before _ := before heard

theorem grows_endWork (result : WorkResult) : attempt.Grows (attempt.endWork result) where
  key := rfl
  over_of _ := .inl nofun
  heard _ _ := nofun

theorem over_cancel : attempt.cancel.Over := by
  cases ended : attempt.result with
  | none => exact .inr (by simp [cancel, ended])
  | some result => exact .inl (by simp [cancel, ended])

theorem Advances.grows {later : TrackedAttempt} (advances : attempt.Advances later) :
    attempt.Grows later := by
  cases advances with
  | joins _ ended => exact ⟨rfl, id, fun _ _ => by simp [goTo, ended]⟩
  | omits phase | calls _ phase | finishes phase =>
    exact grows_goTo_of_heard (by rw [phase]; rfl)
  | returns phase => exact ⟨rfl, id, fun before _ => before (by rw [phase]; rfl)⟩

end TrackedAttempt

namespace LoopPhase

/-- The attempt that the loop is starting. -/
def starts : LoopPhase → Option ((String × String) × ℕ)
  | .counting key _ work | .spawningReporter key _ work | .inserting key _ work => some (key, work)
  | _ => none

/-- The task for which the loop is about to enter an attempt. -/
def admits : LoopPhase → Option (String × String)
  | .spawningWork key _ | .counting key .. | .spawningReporter key .. | .inserting key .. =>
    some key
  | _ => none

/-- The tasks whose entries the loop is about to remove. -/
def doomed : LoopPhase → List (String × String)
  | .removing key => [key]
  | .sweeping sweep | .aborting _ sweep | .retiring _ _ sweep => sweep.panicked
  | _ => []

theorem idle_of_free {phase : LoopPhase} (free : phase.free = true) :
    phase.starts = none ∧ phase.admits = none ∧ phase.doomed = [] := by
  cases phase <;> first | exact ⟨rfl, rfl, rfl⟩ | cases free

end LoopPhase

namespace WorkerLoop

/-- The task of an attempt. -/
def keyOf (attempts : Table ℕ TrackedAttempt) (work : ℕ) : Option (String × String) :=
  (attempts.lookup work).map (·.key)

/-- An attempt is over. -/
def Over (state : WorkerLoop) (work : ℕ) : Prop :=
  ∀ attempt, state.attempts.lookup work = some attempt → attempt.Over

/-- The table tracks the attempts, apart from those that have been retired. -/
structure Tracks (retired : ℕ → Prop) (state : WorkerLoop) : Prop where
  owned : ∀ key entry, state.tasks.lookup key = some entry → keyOf state.attempts entry.work = some key
  newest : ∀ key entry, state.tasks.lookup key = some entry → ∀ work,
    keyOf state.attempts work = some key → work ≤ entry.work
  tracked : ∀ work attempt, state.attempts.lookup work = some attempt → ¬ attempt.Over →
    ¬ retired work → state.phase.starts = some (attempt.key, work) ∨
      ∃ entry, state.tasks.lookup attempt.key = some entry ∧ entry.work = work
  heard : ∀ work attempt, state.attempts.lookup work = some attempt → attempt.Heard
  fresh : ∀ key, state.phase.admits = some key → key ∉ state.tasks
  starting : ∀ key work, state.phase.starts = some (key, work) →
    work + 1 = state.spawned ∧ keyOf state.attempts work = some key
  doomed : ∀ key ∈ state.phase.doomed, ∀ entry, state.tasks.lookup key = some entry →
    state.Over entry.work

namespace Tracks

variable {retired : ℕ → Prop} {state : WorkerLoop} {key : String × String} {work : ℕ}
  {timeouts : NodeTimeouts}

theorem initial (retired : ℕ → Prop) : new.Tracks retired where
  owned _ _ found := by cases found
  newest _ _ found := by cases found
  tracked _ _ found := by cases found
  heard _ _ found := by cases found
  fresh _ admitted := by cases admitted
  starting _ _ started := by cases started
  doomed _ listed := by cases listed

section Steps

variable (tracks : state.Tracks retired)
include tracks

theorem goesTo {old phase : LoopPhase} (was : state.phase = old)
    (starts : phase.starts = old.starts)
    (admits : ∀ key, phase.admits = some key → key ∉ state.tasks)
    (doomed : ∀ key ∈ phase.doomed, ∀ entry, state.tasks.lookup key = some entry →
      state.Over entry.work) : (state.goTo phase).Tracks retired :=
  { tracks with
    tracked := by
      have tracked := tracks.tracked
      rwa [was, ← starts] at tracked
    fresh := admits
    starting := by
      have starting := tracks.starting
      rwa [was, ← starts] at starting
    doomed := doomed }

theorem keepsTo {old phase : LoopPhase} (was : state.phase = old) (before : old.starts = none)
    (after : phase.starts = none ∧ phase.admits = none) (fewer : phase.doomed ⊆ old.doomed) :
    (state.goTo phase).Tracks retired :=
  tracks.goesTo was (after.1.trans before.symm) (by rw [after.2]; exact nofun) fun key listed =>
    tracks.doomed key (was ▸ fewer listed)

/-- An entry is removed when its attempt is over or retired. -/
theorem erase (ended : ∀ entry, state.tasks.lookup key = some entry →
      retired entry.work ∨ state.Over entry.work) : (state.erase key).Tracks retired := by
  have before : ∀ {other entry}, (state.erase key).tasks.lookup other = some entry →
      state.tasks.lookup other = some entry := by
    intro other entry found
    change (state.tasks.erase key).lookup other = some entry at found
    exact Table.lookup_of_erase found
  refine
    { tracks with
      owned := fun other entry found => tracks.owned other entry (before found)
      newest := fun other entry found => tracks.newest other entry (before found)
      tracked := ?_
      fresh := fun other admitted member => tracks.fresh other admitted (AList.mem_erase.mp member).2
      doomed := fun other listed entry found => tracks.doomed other listed entry (before found) }
  intro work attempt found running kept
  rcases tracks.tracked work attempt found running kept with starting | ⟨entry, here, rfl⟩
  · exact .inl starting
  · have different : attempt.key ≠ key := by
      rintro rfl
      exact (ended entry here).elim kept fun ended => running (ended attempt found)
    exact .inr ⟨entry, (AList.lookup_erase_ne different).trans here, rfl⟩

theorem modify {change : TrackedAttempt → TrackedAttempt}
    (grows : ∀ attempt, state.attempts.lookup work = some attempt →
      attempt.Grows (change attempt)) : (state.modifyAttempt work change).Tracks retired := by
  have later : ∀ {other after}, (state.modifyAttempt work change).attempts.lookup other =
      some after → ∃ before, state.attempts.lookup other = some before ∧ before.Grows after := by
    intro other after found
    change (Table.modify work change state.attempts).lookup other = some after at found
    rw [Table.lookup_modify_eq] at found
    split at found
    · next same =>
      subst same
      obtain ⟨before, there, rfl⟩ := Option.map_eq_some_iff.mp found
      exact ⟨before, there, grows before there⟩
    · exact ⟨after, found, rfl, id, id⟩
  have keys : keyOf (state.modifyAttempt work change).attempts = keyOf state.attempts := by
    funext other
    change ((Table.modify work change state.attempts).lookup other).map _ = _
    rw [Table.lookup_modify_eq]
    split
    · next same =>
      subst same
      cases found : state.attempts.lookup other with
      | none => simp [keyOf, found]
      | some attempt => simp [keyOf, found, (grows attempt found).key]
    · rfl
  refine
    { tracks with
      owned := by rw [keys]; exact tracks.owned
      newest := by rw [keys]; exact tracks.newest
      starting := by rw [keys]; exact tracks.starting
      tracked := ?_, heard := ?_, doomed := ?_ }
  · intro other after found running kept
    obtain ⟨attempt, there, grown⟩ := later found
    rw [grown.key]
    exact tracks.tracked other attempt there (mt grown.over_of running) kept
  · intro other after found
    obtain ⟨attempt, there, grown⟩ := later found
    exact grown.heard (tracks.heard other attempt there)
  · intro key listed entry here after found
    obtain ⟨attempt, there, grown⟩ := later found
    exact grown.over_of (tracks.doomed key listed entry here attempt there)

theorem spawnWork (sound : state.Sound) {data : TaskData}
    (phase : state.phase = .spawningWork key data) :
    ({ state with
        attempts := state.attempts.insert state.spawned (.new key)
        spawned := state.spawned + 1
        phase := .counting key data state.spawned }).Tracks retired := by
  have absent : key ∉ state.tasks := tracks.fresh key (by rw [phase]; rfl)
  have lookup := Table.lookup_insert_eq state.attempts state.spawned
  have keys : ∀ work, keyOf (state.attempts.insert state.spawned (.new key)) work =
      if work = state.spawned then some key else keyOf state.attempts work := by
    intro work
    unfold keyOf
    rw [lookup]
    split <;> rfl
  refine ⟨?_, ?_, ?_, ?_, ?_, ?_, nofun⟩
  · intro other entry here
    have own := tracks.owned other entry here
    obtain ⟨attempt, found, -⟩ := Option.map_eq_some_iff.mp own
    exact (keys _).trans ((if_neg ((sound.numbered _).mp (Table.mem_of_lookup found)).ne).trans own)
  · intro other entry here work own
    rw [keys] at own
    split at own
    · cases own
      exact absurd (Table.mem_of_lookup here) absent
    · exact tracks.newest other entry here work own
  · intro work attempt found running kept
    rw [lookup] at found
    split at found
    · next same =>
      cases found
      exact .inl (by rw [same]; rfl)
    · have before := tracks.tracked work attempt found running kept
      rw [phase] at before
      exact .inr (before.resolve_left nofun)
  · intro work attempt found
    rw [lookup] at found
    split at found
    · cases found
      exact nofun
    · exact tracks.heard work attempt found
  · rintro other ⟨⟩
    exact absent
  · rintro other work ⟨⟩
    exact ⟨rfl, (keys _).trans (if_pos rfl)⟩

theorem insert (sound : state.Sound) {data : TaskData}
    (phase : state.phase = .inserting key data work) :
    ({ state with
        tasks := state.tasks.insert key ⟨data, state.clock, work⟩
        phase := .selecting }).Tracks retired := by
  obtain ⟨last, own⟩ := tracks.starting key work (by rw [phase]; rfl)
  have absent : key ∉ state.tasks := tracks.fresh key (by rw [phase]; rfl)
  have lookup := Table.lookup_insert_eq state.tasks key
  refine ⟨?_, ?_, ?_, tracks.heard, nofun, nofun, nofun⟩
  · intro other entry here
    rw [lookup] at here
    split at here
    · next same =>
      cases here
      exact own.trans (congrArg some same.symm)
    · exact tracks.owned other entry here
  · intro other entry here number mine
    rw [lookup] at here
    split at here
    · cases here
      obtain ⟨attempt, found, -⟩ := Option.map_eq_some_iff.mp mine
      have before := (sound.numbered number).mp (Table.mem_of_lookup found)
      change number ≤ work
      omega
    · exact tracks.newest other entry here number mine
  · intro number later there running kept
    refine .inr ?_
    change ∃ entry, (state.tasks.insert key _).lookup later.key = some entry ∧ _
    rw [lookup]
    rcases tracks.tracked number later there running kept with starting | ⟨entry, here, same⟩
    · rw [phase] at starting
      cases starting
      exact ⟨_, if_pos rfl, rfl⟩
    · have different : later.key ≠ key := fun same => absent (same ▸ Table.mem_of_lookup here)
      exact ⟨entry, (if_neg different).trans here, same⟩

/-- A sweep takes an entry for that of an ended reporter only if its attempt is over. -/
theorem doomed_visit {sweep : Sweep} (phase : state.phase = .sweeping sweep) :
    ∀ other ∈ (state.visit timeouts key sweep).panicked, ∀ entry,
      state.tasks.lookup other = some entry → state.Over entry.work := by
  have doomed := tracks.doomed
  rw [phase] at doomed
  unfold visit
  dsimp only
  split
  · exact doomed
  · next entry here =>
    split
    · exact doomed
    · next attempt found =>
      split
      · next finished =>
        intro other listed seen there
        rcases List.mem_cons.mp listed with rfl | before
        · cases here.symm.trans there
          intro later again
          cases found.symm.trans again
          exact .inl (tracks.heard _ attempt found (by rw [finished]; rfl))
        · exact doomed other before seen there
      · split <;> exact doomed

end Steps

/-- A reporter removes no entry but its own. -/
theorem lookup_dropIfCurrent {other : String × String} {entry : TimedTask}
    (here : state.tasks.lookup key = some entry) (foreign : entry.work ≠ work) :
    (state.dropIfCurrent other work).tasks.lookup key = some entry := by
  unfold dropIfCurrent
  split
  · next current there =>
    split
    · next own =>
      change (state.tasks.erase other).lookup key = some entry
      rw [Table.lookup_erase_eq, if_neg]
      · exact here
      · rintro rfl
        cases here.symm.trans there
        exact foreign own
    · exact here
  · exact here

theorem dropIfCurrent (tracks : state.Tracks retired) (ended : state.Over work) :
    (state.dropIfCurrent key work).Tracks retired := by
  unfold WorkerLoop.dropIfCurrent
  split
  · next entry here =>
    split
    · next own =>
      refine tracks.erase fun other there => .inr ?_
      cases here.symm.trans there
      exact own ▸ ended
    · exact tracks
  · exact tracks

/-- **Every operation keeps the attempts tracked.** -/
theorem moves (tracks : state.Tracks retired) (sound : state.Sound) {next : WorkerLoop}
    (moves : state.Moves timeouts next)
    (retires : ∀ key work sweep, next.phase = .retiring key work sweep → retired work) :
    next.Tracks retired := by
  have fresh := tracks.fresh
  have doomed := tracks.doomed
  cases moves with
  | stays => exact tracks
  | elapses | wedgedGoesOn | wedgedEnds => exact { tracks with }
  | goes _ _ before after =>
    obtain ⟨starts, admits, nothing⟩ := LoopPhase.idle_of_free after
    have gone := tracks.keepsTo rfl (LoopPhase.idle_of_free before).1 ⟨starts, admits⟩
      (by rw [nothing]; exact nofun)
    exact { gone with }
  | drains before | sweeps before =>
    exact tracks.keepsTo rfl (LoopPhase.idle_of_free before).1 ⟨rfl, rfl⟩ nofun
  | admits before absent =>
    refine tracks.goesTo rfl (LoopPhase.idle_of_free before).1.symm ?_ nofun
    rintro key ⟨⟩
    exact absent
  | spawnsWork phase => exact tracks.spawnWork sound phase
  | @counts key data work phase =>
    rw [phase] at fresh
    have counted : ((state.modifyAttempt work (·.goTo .unspawned)).goTo
        (.spawningReporter key data work)).Tracks retired :=
      (tracks.modify fun _ _ => TrackedAttempt.grows_goTo rfl).goesTo phase rfl fresh nofun
    exact { counted with }
  | @spawnsReporter _ _ work phase =>
    rw [phase] at fresh
    have spawned : (state.modifyAttempt work (·.goTo .awaiting)).Tracks retired :=
      tracks.modify fun _ _ => TrackedAttempt.grows_goTo rfl
    exact spawned.goesTo phase rfl fresh nofun
  | inserts phase => exact tracks.insert sound phase
  | @cancels key entry before here =>
    have cancelled : (state.modifyAttempt entry.work (·.cancel)).Tracks retired :=
      tracks.modify fun _ _ => ⟨rfl, fun _ => TrackedAttempt.over_cancel, id⟩
    refine cancelled.goesTo rfl (LoopPhase.idle_of_free before).1.symm nofun ?_
    intro other listed seen there later next
    obtain rfl := List.mem_singleton.mp listed
    cases here.symm.trans there
    change (Table.modify entry.work _ state.attempts).lookup entry.work = some later at next
    rw [Table.lookup_modify_eq, if_pos rfl] at next
    obtain ⟨attempt, -, rfl⟩ := Option.map_eq_some_iff.mp next
    exact TrackedAttempt.over_cancel
  | @removes key phase =>
    have ended := doomed key (by rw [phase]; exact List.mem_singleton_self key)
    exact (tracks.erase fun entry here => .inr (ended entry here)).keepsTo phase rfl ⟨rfl, rfl⟩
      nofun
  | visits phase => exact tracks.goesTo phase rfl nofun (tracks.doomed_visit phase)
  | @clears key sweep phase listed =>
    have ended := doomed key (by rw [phase]; exact listed)
    exact (tracks.erase fun entry here => .inr (ended entry here)).keepsTo phase rfl ⟨rfl, rfl⟩
      (List.erase_subset ..)
  | skips phase fewer => exact tracks.keepsTo phase rfl ⟨rfl, rfl⟩ fewer
  | @marks key entry _ later phase here fewer =>
    have marked : (state.modifyAttempt entry.work (·.mark state.clock)).Tracks retired :=
      tracks.modify fun _ _ => ⟨rfl, id, id⟩
    exact marked.keepsTo phase rfl ⟨rfl, rfl⟩ fewer
  | @retires key entry sweep phase listed here =>
    have retired := retires key entry.work _ rfl
    refine (tracks.erase fun other there => .inl ?_).keepsTo phase rfl ⟨rfl, rfl⟩
      (List.Subset.refl _)
    cases here.symm.trans there
    exact retired
  | @aborts work _ later phase fewer =>
    have aborted : (state.modifyAttempt work (·.abort)).Tracks retired :=
      tracks.modify fun _ _ => ⟨rfl, id, id⟩
    rcases phase with phase | ⟨key, phase⟩ <;>
      exact aborted.keepsTo phase rfl ⟨rfl, rfl⟩ fewer
  | ends phase | closes phase | spawnsWedged phase =>
    have idle : (state.goTo .selecting).Tracks retired :=
      tracks.keepsTo phase rfl ⟨rfl, rfl⟩ nofun
    exact { idle with }
  | workEnds => exact tracks.modify fun _ _ => TrackedAttempt.grows_endWork _
  | advances found advances =>
    refine tracks.modify fun attempt there => ?_
    cases found.symm.trans there
    exact advances.grows
  | @drops work attempt found phase =>
    have heard : attempt.reporter.heard = true := by rw [phase]; rfl
    refine (tracks.dropIfCurrent ?_).modify ?_
    · intro again there
      cases found.symm.trans there
      exact .inl (tracks.heard work attempt found heard)
    · intro again there
      rw [Sound.attempts_dropIfCurrent] at there
      cases found.symm.trans there
      exact TrackedAttempt.grows_goTo_of_heard heard
  | @releases work attempt found phase =>
    have left : (state.modifyAttempt work (·.goTo .released)).Tracks retired := by
      refine tracks.modify fun again there => ?_
      cases found.symm.trans there
      exact TrackedAttempt.grows_goTo_of_heard (by rw [phase]; rfl)
    exact { left with }

end Tracks

/-! ## Whole runs -/

theorem tracks_after {timeouts : NodeTimeouts} {retired : ℕ → Prop} {events : List LoopEvent}
    (retires : ∀ past, past <+: events → ∀ key work sweep,
      (after timeouts past).phase = .retiring key work sweep → retired work) :
    (after timeouts events).Tracks retired := by
  induction events using List.reverseRecOn with
  | nil => exact .initial retired
  | append_singleton past event ih =>
    have before := ih fun earlier early =>
      retires earlier (early.trans (List.prefix_append past [event]))
    have last := retires _ (List.prefix_refl (past ++ [event]))
    rw [after, Systems.run_snoc] at last ⊢
    exact before.moves (sound_after timeouts past) (moves_step timeouts _ event) last

/-- The watchdog has taken an attempt for wedged and removed its entry, to report it. -/
def RetiredIn (timeouts : NodeTimeouts) (events : List LoopEvent) (work : ℕ) : Prop :=
  ∃ past, past <+: events ∧ ∃ key sweep, (after timeouts past).phase = .retiring key work sweep

/-- `build_heartbeat_request`. -/
def buildHeartbeatRequest (workerId : String) (env : Env) (state : WorkerLoop) : Call :=
  heartbeatOf TimedTask.data workerId state.tasks env

/-- Every heartbeat of the node lists a task. -/
def Beats (state : WorkerLoop) (key : String × String) : Prop :=
  ∀ workerId env, ∃ proofIds taskIds weight,
    state.buildHeartbeatRequest workerId env = .handleHeartbeat workerId proofIds taskIds weight ∧
      key ∈ proofIds.zip taskIds

/-- An entry is subject to the timeout: a tick that comes to its sweep looks at it, and takes
it for timed out or wedged when it is older than the timeout. -/
structure Swept (timeouts : NodeTimeouts) (state : WorkerLoop) (key : String × String)
    (entry : TimedTask) : Prop where
  looked : (state.watch timeouts).phase = .exited .forced ∨
    ∃ sweep, (state.watch timeouts).phase = .sweeping sweep ∧ key ∈ sweep.unvisited
  late : timeouts.taskTimeout < state.clock - entry.startedAt → ∀ sweep,
    key ∈ (state.visit timeouts key sweep).timedOut ∨ key ∈ (state.visit timeouts key sweep).wedged

section

variable {state : WorkerLoop} {key : String × String} {entry : TimedTask}
  (here : state.tasks.lookup key = some entry)
include here

theorem beats_of_lookup : state.Beats key := fun _ env =>
  ⟨_, _, _, rfl, (mem_reported env key).mpr (Table.mem_of_lookup here)⟩

theorem swept_of_lookup (timeouts : NodeTimeouts) {attempt : TrackedAttempt}
    (found : state.attempts.lookup entry.work = some attempt) (running : attempt.result = none)
    (heard : attempt.Heard) : state.Swept timeouts key entry where
  looked := by
    unfold watch
    split
    · exact .inl rfl
    · exact .inr ⟨_, rfl, AList.mem_keys.mp (Table.mem_of_lookup here)⟩
  late elapsed sweep := by
    have unfinished : attempt.reporter ≠ .finished := fun finished =>
      heard (by rw [finished]; rfl) running
    have action : timeoutAction timeouts state.clock entry attempt = .abort ∨
        timeoutAction timeouts state.clock entry attempt = .report := by
      unfold timeoutAction
      rw [if_neg (by simp [running]; omega)]
      split
      · split
        · exact .inr rfl
        · exact .inl rfl
      · exact .inl rfl
    unfold visit
    simp only [here, found, if_neg unfinished]
    rcases action with action | action <;> simp [action]

end

/-- **A running attempt is always tracked**, whatever the order of the operations of the loop,
the work, the reporters and the reports of wedged tasks. An entry of the table is of the newest
attempt for its key. An attempt whose work has not ended, that no `CancelTask` aborted and that
was not retired as wedged has its entry, unless the loop is still starting it; so heartbeats
list it, and it is subject to the timeout. The reporter of another attempt leaves the entry
where it is. -/
theorem running_tracked (timeouts : NodeTimeouts) (events : List LoopEvent) :
    let state := after timeouts events
    (∀ key entry, state.tasks.lookup key = some entry →
      keyOf state.attempts entry.work = some key ∧
        ∀ work, keyOf state.attempts work = some key → work ≤ entry.work) ∧
      (∀ work attempt, state.attempts.lookup work = some attempt → attempt.result = none →
        attempt.cancelled = false → ¬ RetiredIn timeouts events work →
          state.phase.starts ≠ some (attempt.key, work) →
            ∃ entry, state.tasks.lookup attempt.key = some entry ∧ entry.work = work ∧
              state.Beats attempt.key ∧ state.Swept timeouts attempt.key entry) ∧
      ∀ key entry work, state.tasks.lookup key = some entry → entry.work ≠ work →
        (state.step timeouts (.report work)).tasks.lookup key = some entry := by
  intro state
  have tracks : state.Tracks (RetiredIn timeouts events) :=
    tracks_after fun past early key work sweep phase => ⟨past, early, key, sweep, phase⟩
  refine ⟨?_, ?_, ?_⟩
  · exact fun key entry here => ⟨tracks.owned key entry here, tracks.newest key entry here⟩
  · intro work attempt found running uncancelled kept entered
    have going : ¬ attempt.Over := by
      rintro (ended | cancelled)
      · exact ended running
      · exact absurd (uncancelled.symm.trans cancelled) nofun
    obtain ⟨entry, here, rfl⟩ :=
      (tracks.tracked work attempt found going kept).resolve_left entered
    exact ⟨entry, here, rfl, beats_of_lookup here,
      swept_of_lookup here timeouts found running (tracks.heard _ attempt found)⟩
  · intro key entry work here foreign
    dsimp only [step]
    split
    · next attempt found =>
        unfold report
        split
        · exact here
        · exact here
        · exact here
        · split <;> exact here
        · split <;> exact here
        · exact here
        · exact Tracks.lookup_dropIfCurrent here foreign
        · exact here
        · exact here
    · exact here

end WorkerLoop

end Sp1Cluster
