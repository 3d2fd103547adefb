import Sp1Cluster.Coordinator.Notices

/-!
# What the calls leave alone

The settings of the coordinator and the meter of GPU time. Calls that move work
around write neither; a setting is written by the call that sets it, and the
meter by a completion that credits device time.
-/

set_option autoImplicit false

namespace Sp1Cluster

namespace CoordinatorState

variable {P : Type}

/-- The settings and the meter of GPU time are those of another state. -/
structure SameSettings (state state' : CoordinatorState P) : Prop where
  proofsTx : state'.proofsTx = state.proofsTx
  shuttingDown : state'.shuttingDown = state.shuttingDown
  executeOnlyMode : state'.executeOnlyMode = state.executeOnlyMode
  heartbeatTimeout : state'.workerHeartbeatTimeoutSecs = state.workerHeartbeatTimeoutSecs
  gpuBusyMsTotal : state'.gpuBusyMsTotal = state.gpuBusyMsTotal

namespace SameSettings

variable {first second third : CoordinatorState P}

theorem refl (state : CoordinatorState P) : SameSettings state state := ⟨rfl, rfl, rfl, rfl, rfl⟩

theorem trans (earlier : SameSettings first second) (later : SameSettings second third) :
    SameSettings first third where
  proofsTx := later.proofsTx.trans earlier.proofsTx
  shuttingDown := later.shuttingDown.trans earlier.shuttingDown
  executeOnlyMode := later.executeOnlyMode.trans earlier.executeOnlyMode
  heartbeatTimeout := later.heartbeatTimeout.trans earlier.heartbeatTimeout
  gpuBusyMsTotal := later.gpuBusyMsTotal.trans earlier.gpuBusyMsTotal

end SameSettings

/-! ## The calls -/

section Calls

variable [LawfulPolicy P] {build : Build} {env : Env} {call : Call}
  {origin state state' : CoordinatorState P} {proofId taskId workerId : String}

theorem settings_assignTasks (env : Env) (state : CoordinatorState P) :
    SameSettings state (AssignmentPolicy.assignTasks build env state).1 := by
  have sends := LawfulPolicy.sends build env state
  exact ⟨sends.proofsTx, sends.shuttingDown, sends.executeOnlyMode, sends.heartbeatTimeout,
    sends.gpuBusyMsTotal⟩

theorem Write.settings (quiet : call.sets = false)
    (write : Write build env call origin state state') : SameSettings state state' := by
  cases write with
  | stop stops =>
    cases call with
    | shutdown => cases quiet
    | _ => cases stops
  | set proofsTx executeOnlyMode timeoutSecs gpuBusyMs sets =>
    exact absurd (quiet.symm.trans sets) Bool.false_ne_true
  | assign => exact settings_assignTasks env state
  | _ => exact ⟨rfl, rfl, rfl, rfl, rfl⟩

theorem Writes.settings (quiet : call.sets = false)
    (writes : Writes build env call origin state state') : SameSettings state state' := by
  induction writes with
  | refl => exact .refl state
  | tail _ write ih => exact ih.trans (write.settings quiet)

/-- Every call but those that set something leaves the settings and the meter
alone. -/
theorem settings_exec (env : Env) {call : Call} (quiet : call.sets = false) :
    SameSettings state (state.exec build env call).state :=
  Writes.settings quiet (exec_writes build env call state)

theorem settings_recordCompletion (env : Env) (proof : Proof) (task : Task)
    (metadata : TaskMetadata) :
    SameSettings
      { state with
        gpuBusyMsTotal :=
          if task.creditsGpuTime workerId then
            saturatingAdd64 state.gpuBusyMsTotal metadata.gpuMs
          else state.gpuBusyMsTotal }
      (state.recordCompletion build env workerId proofId taskId proof task metadata).1 := by
  -- the label of a call that sets nothing
  have released : ∀ (next : CoordinatorState P) (proof : Proof) skip, SameSettings next
      (next.releaseRemainingAssignments build env proof proofId skip).1 := by
    intro next proof skip
    have writes : Writes build env .sendHeartbeats next next _ :=
      writes_releaseRemainingAssignments proof proofId skip
    exact writes.settings rfl
  unfold recordCompletion
  dsimp only
  generalize stored : (if (proof.completeTask workerId taskId task).activeTasks = 0 then _ else _) =
    next
  -- what is stored and released before the meter is read
  have before : SameSettings state next.1 := by
    rw [← stored]
    split
    · refine SameSettings.trans ?_ (released _ _ _)
      exact ⟨rfl, rfl, rfl, rfl, rfl⟩
    · exact ⟨rfl, rfl, rfl, rfl, rfl⟩
  split
  · exact { before with
      gpuBusyMsTotal := congrArg (saturatingAdd64 · metadata.gpuMs) before.gpuBusyMsTotal }
  · exact { before with }

theorem settings_completeTask (state : CoordinatorState P) (env : Env)
    (workerId proofId taskId : String) (metadata : TaskMetadata) :
    SameSettings state (state.completeTask build env workerId proofId taskId metadata).state ∨
      ((∃ task, taskOf state.proofs (proofId, taskId) = some task ∧
          task.creditsGpuTime workerId = true) ∧
        SameSettings
          { state with gpuBusyMsTotal := saturatingAdd64 state.gpuBusyMsTotal metadata.gpuMs }
          (state.completeTask build env workerId proofId taskId metadata).state) := by
  refine completeTask_rule (Q := fun next => SameSettings state next ∨
    ((∃ task, taskOf state.proofs (proofId, taskId) = some task ∧
        task.creditsGpuTime workerId = true) ∧
      SameSettings { state with
        gpuBusyMsTotal := saturatingAdd64 state.gpuBusyMsTotal metadata.gpuMs } next))
    env workerId metadata (.inl (.refl state)) ?_ ?_
  · intro proof task found stored
    have recorded : SameSettings _
        (state.recordCompletion build env workerId proofId taskId proof task metadata).1 :=
      settings_recordCompletion env proof task metadata
    have released : SameSettings
        (state.recordCompletion build env workerId proofId taskId proof task metadata).1
        (state.afterCompletion build env workerId proofId taskId proof task metadata) := by
      unfold afterCompletion
      dsimp only
      split <;> exact ⟨rfl, rfl, rfl, rfl, rfl⟩
    have whole := recorded.trans released
    split at whole
    · next credited => exact .inr ⟨⟨task, (taskOf.of_lookup found).trans stored, credited⟩, whole⟩
    · exact .inl whole
  · rintro proof task - - (same | ⟨credits, same⟩)
    · exact .inl (same.trans (settings_assignTasks env _))
    · exact .inr ⟨credits, same.trans (settings_assignTasks env _)⟩

theorem heartbeatTimeout_exec (state : CoordinatorState P) (env : Env) {call : Call}
    (other : ∀ secs, call ≠ .setWorkerHeartbeatTimeout secs) :
    (state.exec build env call).state.workerHeartbeatTimeoutSecs =
      state.workerHeartbeatTimeoutSecs := by
  cases call with
  | completeTask workerId proofId taskId metadata =>
    rcases state.settings_completeTask env workerId proofId taskId metadata
      with same | ⟨-, same⟩
    · exact same.heartbeatTimeout
    · exact same.heartbeatTimeout
  | setWorkerHeartbeatTimeout secs => exact absurd rfl (other secs)
  | setProofsTx => rfl
  | setExecuteOnlyMode executeOnlyMode => rfl
  | shutdown => rfl
  | _ => exact (settings_exec env rfl).heartbeatTimeout

end Calls

end CoordinatorState

end Sp1Cluster
