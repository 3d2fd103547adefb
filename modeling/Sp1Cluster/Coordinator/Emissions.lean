import Sp1Cluster.Coordinator.Writes

/-!
# What a section sends

A section only appends to what it has sent. Sections that move work around send
to workers alone; a teardown also ends the message streams of the tasks of its
proof and may report that the proof failed; completions and failures end the
stream of their task. Every other call but a shutdown sends messages only.
-/

set_option autoImplicit false

namespace Sp1Cluster

/-- Whether an effect is a message to a worker or to subscribers. -/
def Effect.isMessage : Effect → Bool
  | .toWorker .. | .toSubscriber .. | .notifySubscribers .. => true
  | _ => false

namespace Call

/-- What the section of a call may send. -/
def MaySend {P : Type} (call : Call) (state : CoordinatorState P) : Effect → Prop
  | .toWorker .. | .toSubscriber .. | .notifySubscribers .. => True
  | .closeTaskChannel _ => call.settles = true
  | .proofResult result =>
    call.failsProof result.id = true ∧ result.success = false ∧ result.id ∈ state.proofs
  | .endStreams => call.stops = true

theorem Sends.maySend {P : Type} {call : Call} {origin state : CoordinatorState P}
    {effect : Effect} (sends : call.Sends origin state effect) : call.MaySend origin effect := by
  cases effect with
  | proofResult result => exact ⟨sends.1, sends.2.1, sends.2.2.1⟩
  | closeTaskChannel taskId => exact sends
  | endStreams => exact sends
  | _ => trivial

end Call

namespace CoordinatorState

def Emits {P : Type} (allowed : Effect → Prop) (state state' : CoordinatorState P) : Prop :=
  ∃ sent, state'.outbox = state.outbox ++ sent ∧ ∀ effect ∈ sent, allowed effect

section Rules

variable {P : Type} {allowed : Effect → Prop} {state state' state'' : CoordinatorState P}

theorem emits_of_outbox_eq (same : state'.outbox = state.outbox) : Emits allowed state state' :=
  ⟨[], by rw [same, List.append_nil], by simp⟩

@[refl] theorem Emits.refl (state : CoordinatorState P) : Emits allowed state state :=
  emits_of_outbox_eq rfl

theorem Emits.trans (first : Emits allowed state state') (second : Emits allowed state' state'') :
    Emits allowed state state'' := by
  obtain ⟨sent, outbox, kind⟩ := first
  obtain ⟨sent', outbox', kind'⟩ := second
  refine ⟨sent ++ sent', by rw [outbox', outbox, List.append_assoc], ?_⟩
  intro effect member
  exact (List.mem_append.mp member).elim (kind effect) (kind' effect)

theorem Emits.of_same (emits : Emits allowed state' state'')
    (same : state'.outbox = state.outbox) : Emits allowed state state'' :=
  (emits_of_outbox_eq same).trans emits

theorem Emits.mono {wider : Effect → Prop} (emits : Emits allowed state state')
    (implied : ∀ effect, allowed effect → wider effect) : Emits wider state state' := by
  obtain ⟨sent, outbox, kind⟩ := emits
  exact ⟨sent, outbox, fun effect member => implied effect (kind effect member)⟩

theorem emits_emitAll {effects : List Effect} (kind : ∀ effect ∈ effects, allowed effect) :
    Emits allowed state (state.emitAll effects) :=
  ⟨effects, rfl, kind⟩

theorem emits_emit {effect : Effect} (kind : allowed effect) :
    Emits allowed state (state.emit effect) :=
  ⟨[effect], rfl, by simpa using kind⟩

theorem Emits.mem (emits : Emits allowed state state') {effect : Effect}
    (member : effect ∈ state'.outbox) : effect ∈ state.outbox ∨ allowed effect := by
  obtain ⟨sent, outbox, kind⟩ := emits
  rw [outbox, List.mem_append] at member
  exact member.imp_right (kind effect)

theorem Emits.subset (emits : Emits allowed state state') : state.outbox ⊆ state'.outbox := by
  obtain ⟨sent, outbox, -⟩ := emits
  rw [outbox]
  exact List.subset_append_left _ _

end Rules

/-- Between two states something was sent to workers only. -/
abbrev ToWorkers {P : Type} (state state' : CoordinatorState P) : Prop :=
  Emits (fun effect => effect.isToWorker = true) state state'

/-! ## Sections that move work around -/

section Moving

variable {P : Type} [LawfulPolicy P] {build : Build} {state : CoordinatorState P}
  {proofId taskId workerId : String}

theorem toWorkers_assignTasks (env : Env) :
    ToWorkers state (AssignmentPolicy.assignTasks build env state).1 :=
  (LawfulPolicy.sends build env state).outbox

theorem toWorkers_releaseRemainingAssignments (env : Env) (proof : Proof)
    (skip : Option (String × String)) :
    ToWorkers state (state.releaseRemainingAssignments build env proof proofId skip).1 := by
  refine releaseRemainingAssignments_rule (Q := ToWorkers state) env proof skip (Emits.refl _) ?_
  intro next task owner worker sent
  refine sent.trans (Emits.trans (emits_emit ?_) (emits_of_outbox_eq rfl))
  rfl

end Moving

/-! ## Teardowns, completions and failures -/

section Settling

variable {P : Type} [LawfulPolicy P] {build : Build} {state : CoordinatorState P}
  {proofId taskId workerId : String}

omit [LawfulPolicy P] in
def TeardownSends (state : CoordinatorState P) (proofId : String) (notifySender : Bool)
    (extraData : Option String) : Effect → Prop
  | .toWorker .. => True
  | .notifySubscribers _ notified _ _ => notified = proofId
  | .closeTaskChannel taskId =>
    ∃ key task, taskOf state.proofs (proofId, key) = some task ∧ task.id = taskId
  | .proofResult result =>
    notifySender = true ∧ proofId ∈ state.proofs ∧
      result = { id := proofId, success := false, extraData := extraData }
  | _ => False

theorem emits_tearDown (env : Env) (notifySender : Bool) (extraData : Option String)
    (skip : Option (String × String)) :
    Emits (state.TeardownSends proofId notifySender extraData) state
      (state.tearDown build env proofId notifySender extraData skip) := by
  unfold tearDown
  cases found : state.proofs.lookup proofId with
  | none => exact emits_of_outbox_eq rfl
  | some proof =>
    have notices : ∀ effect ∈ ((env.shuffle proof.tasks.entries).map fun entry =>
        entry.2).flatMap (teardownNotice proofId),
        state.TeardownSends proofId notifySender extraData effect := by
      intro effect member
      obtain ⟨task, -, inTask⟩ := List.mem_flatMap.mp member
      unfold teardownNotice at inTask
      split at inTask
      · cases inTask
      · rw [List.mem_singleton.mp inTask]
        rfl
    have closings : ∀ effect ∈ ((env.shuffle proof.tasks.entries).map fun entry =>
        entry.2).map fun task => Effect.closeTaskChannel task.id,
        state.TeardownSends proofId notifySender extraData effect := by
      intro effect member
      obtain ⟨task, isTask, rfl⟩ := List.mem_map.mp member
      obtain ⟨entry, inProof, rfl⟩ := List.mem_map.mp isTask
      rw [env.mem_shuffle] at inProof
      exact ⟨entry.1, entry.2, (taskOf.of_lookup found).trans (Table.mem_entries_iff.mp inProof),
        rfl⟩
    have told : Emits (state.TeardownSends proofId notifySender extraData) state
        ((state.dropProof proofId).emitAll _) := (emits_emitAll notices).of_same rfl
    have released : ToWorkers _ (((state.dropProof proofId).emitAll
        (((env.shuffle proof.tasks.entries).map fun entry => entry.2).flatMap
          (teardownNotice proofId))).releaseRemainingAssignments build env proof proofId skip).1 :=
      toWorkers_releaseRemainingAssignments env proof skip
    have torn := (told.trans (released.mono fun effect toWorker => by
      cases effect <;> trivial)).trans (emits_emitAll closings)
    dsimp only
    split
    · next notified =>
      refine torn.trans (emits_emit ?_)
      exact ⟨(Bool.and_eq_true_iff.mp notified).1, Table.mem_of_lookup found, rfl⟩
    · exact torn

/-- A completion sends to workers and ends the stream of its task. -/
theorem emits_recordCompletion (env : Env) (proof : Proof) (task : Task)
    (metadata : TaskMetadata) :
    ToWorkers (state.emit (.closeTaskChannel taskId))
      (state.recordCompletion build env workerId proofId taskId proof task metadata).1 := by
  refine recordCompletion_rule (Q := ToWorkers (state.emit (.closeTaskChannel taskId))) env metadata
    rfl (emits_of_outbox_eq rfl) ?_ ?_
  · exact (toWorkers_releaseRemainingAssignments env _ _).of_same rfl
  · exact fun _ _ sent => sent.trans (emits_of_outbox_eq rfl)

end Settling

/-! ## Calls -/

section Calls

variable {P : Type} [LawfulPolicy P] {build : Build} {state : CoordinatorState P}

theorem Write.emits {env : Env} {call : Call} {origin state' : CoordinatorState P}
    (write : Write build env call origin state state') :
    Emits (call.MaySend origin) state state' := by
  cases write with
  | send effects may => exact emits_emitAll fun effect member => (may effect member).maySend
  | assign =>
    refine (toWorkers_assignTasks env).mono fun effect toWorker => ?_
    cases effect <;> trivial
  | _ => exact emits_of_outbox_eq rfl

/-- **What the section of a call sends.** -/
theorem exec_sends (env : Env) (call : Call) :
    Emits (call.MaySend state) state (state.exec build env call).state := by
  have writes := exec_writes build env call state
  generalize (state.exec build env call).state = final at writes
  induction writes with
  | refl => rfl
  | tail _ write ih => exact ih.trans write.emits

theorem messages_exec (env : Env) {call : Call} (quiet : call.settles = false)
    (running : call.stops = false) :
    Emits (fun effect => effect.isMessage = true) state (state.exec build env call).state := by
  refine (exec_sends env call).mono ?_
  intro effect sent
  cases effect with
  | closeTaskChannel taskId => exact absurd (quiet.symm.trans sent) Bool.false_ne_true
  | proofResult result =>
    obtain ⟨fails, -⟩ := sent
    cases call <;> first | cases fails | cases quiet
  | endStreams => exact absurd (running.symm.trans sent) Bool.false_ne_true
  | _ => rfl

end Calls

end CoordinatorState

end Sp1Cluster
