import Sp1Cluster.Coordinator.Simulation.Steps

/-!
# Simulation: removing a proof

The code removes the record of a proof first and takes its tasks off the
workers afterwards. On the board the order is the other way round: the tasks
are taken off while the proof is still stored, and the proof is removed when no
worker holds anything of it. Both orders reach the same board, because taking a
task off a worker does not read the proofs, and because giving weight back to a
proof without a charge does nothing.
-/

set_option autoImplicit false

namespace Sp1Cluster.CoordinatorState

open Relation Board

variable {P : Type} [LawfulPolicy P] {build : Build} {inputs : Inputs} {transit : Set TaskKey}
  {issued : Set String} {proofId : String}

/-- A state from which a proof has been dropped, and the state as it would be
with the proof. -/
structure Undropped (proofId : String) (whole dropped : CoordinatorState P) : Prop where
  proofs : dropped.proofs = whole.proofs.erase proofId
  workers : dropped.workers = whole.workers
  backlog : backlogOf dropped.policy = (backlogOf whole.policy).forget proofId
  stopped : dropped.shuttingDown = whole.shuttingDown
  filed : LawfulPolicy.Filed dropped.policy

namespace Undropped

variable {whole dropped dropped' : CoordinatorState P}

theorem release (undropped : Undropped proofId whole dropped) (workerId : String)
    (change : Worker → Worker) (data : TaskData) :
    Undropped proofId ((whole.postTaskUpdateState build proofId data).modifyWorker workerId change)
      ((dropped.postTaskUpdateState build proofId data).modifyWorker workerId change) where
  proofs := undropped.proofs
  workers := by
    change Table.modify workerId change dropped.workers = Table.modify workerId change whole.workers
    rw [undropped.workers]
  backlog := by
    change backlogOf (AssignmentPolicy.postTaskUpdateState _ _ _ dropped.policy) =
      (backlogOf (AssignmentPolicy.postTaskUpdateState _ _ _ whole.policy)).forget proofId
    rw [LawfulPolicy.backlog_postTaskUpdateState, LawfulPolicy.backlog_postTaskUpdateState,
      undropped.backlog, Backlog.forget_discharge]
  stopped := undropped.stopped
  filed := LawfulPolicy.filed_postTaskUpdateState _ _ _ undropped.filed

end Undropped

/-- The state is being emptied of a proof that has already been dropped. What
is left to be taken off are the pairs of a worker and a task in `remaining`;
the pair in `skip` is left alone. -/
def Emptying (build : Build) (inputs : Inputs) (proofId : String)
    (skip : Option (String × String)) (transit : Set TaskKey) (issued : Set String)
    (start dropped : CoordinatorState P) (remaining : String → String → Prop) : Prop :=
  ∃ whole transit', Undropped proofId whole dropped ∧
    Moves build inputs (start.board transit issued) (whole.board transit' issued) ∧
    whole.proofs = start.proofs ∧
    (∀ key ∈ transit', key ∈ transit ∨ key.1 = proofId) ∧
    (∀ workerId taskId, (whole.board transit' issued).Holds workerId (proofId, taskId) →
      remaining workerId taskId) ∧
    ∀ workerId taskId, skip = some (workerId, taskId) →
      (start.board transit issued).Holds workerId (proofId, taskId) →
        (whole.board transit' issued).Holds workerId (proofId, taskId)

/-- A record of a task of the proof, as far as taking the task off a worker
reads it. -/
structure TaskCopy (start : CoordinatorState P) (proofId taskId : String) (copy : Task) : Prop where
  original : ∃ task, taskOf start.proofs (proofId, taskId) = some task ∧ copy.id = task.id ∧
    copy.data = task.data ∧ copy.worker = task.worker

namespace Emptying

variable {skip : Option (String × String)} {start dropped dropped' : CoordinatorState P}
  {remaining remaining' : String → String → Prop}

theorem begin (undropped : Undropped proofId start dropped) :
    Emptying build inputs proofId skip transit issued start dropped
      (fun workerId taskId => (start.board transit issued).Holds workerId (proofId, taskId)) :=
  ⟨start, transit, undropped, .refl, rfl, fun _ member => .inl member, fun _ _ held => held,
    fun _ _ _ held => held⟩

section

variable (sound : (start.board transit issued).Sound build)
  (emptying : Emptying build inputs proofId skip transit issued start dropped remaining)
include emptying

theorem congr (proofs : dropped'.proofs = dropped.proofs)
    (workers : dropped'.workers = dropped.workers)
    (policy : dropped'.policy = dropped.policy)
    (stopped : dropped'.shuttingDown = dropped.shuttingDown) :
    Emptying build inputs proofId skip transit issued start dropped' remaining := by
  obtain ⟨whole, transit', undropped, rest⟩ := emptying
  exact ⟨whole, transit', ⟨proofs.trans undropped.proofs, workers.trans undropped.workers,
    policy.symm ▸ undropped.backlog, stopped.trans undropped.stopped,
    policy.symm ▸ undropped.filed⟩, rest⟩

theorem weaken
    (weaker : ∀ workerId taskId, remaining workerId taskId → remaining' workerId taskId) :
    Emptying build inputs proofId skip transit issued start dropped remaining' := by
  obtain ⟨whole, transit', undropped, moves, proofs, moving, left, kept⟩ := emptying
  exact ⟨whole, transit', undropped, moves, proofs, moving,
    fun workerId taskId held => weaker _ _ (left workerId taskId held), kept⟩

theorem unskip :
    Emptying build inputs proofId none transit issued start dropped remaining := by
  obtain ⟨whole, transit', undropped, moves, proofs, moving, left, -⟩ := emptying
  exact ⟨whole, transit', undropped, moves, proofs, moving, left, by simp⟩

include sound in
theorem release {workerId taskId : String} {worker : Worker} {copy : Task}
    {change : Worker → Worker}
    (copied : TaskCopy start proofId taskId copy)
    (registered : dropped.workers.lookup workerId = some worker)
    (held : (proofId, taskId) ∈ worker.activeTasks)
    (released : change worker = worker.release (proofId, taskId) copy.data.weight ∨
      change worker = worker.abandon (proofId, taskId) copy.data.weight)
    (unskipped : skip ≠ some (workerId, taskId)) :
    Emptying build inputs proofId skip transit issued start
      ((dropped.postTaskUpdateState build proofId copy.data).modifyWorker workerId change)
      (fun holder other => remaining holder other ∧ other ≠ taskId) := by
  obtain ⟨whole, transit', undropped, moves, proofs, moving, left, kept⟩ := emptying
  obtain ⟨task, stored, -, sameData, -⟩ := copied.original
  have registered' : whole.workers.lookup workerId = some worker := undropped.workers ▸ registered
  have storedWhole : (whole.board transit' issued).task (proofId, taskId) = some task := by
    change taskOf whole.proofs (proofId, taskId) = some task
    rw [proofs]
    exact stored
  rw [sameData] at released ⊢
  have step : Steps build inputs transit'
      (if task.unfinished || false then insert (proofId, taskId) transit' else transit') issued issued
      whole
      ((whole.postTaskUpdateState build proofId task.data).modifyWorker workerId change) :=
    steps_release registered' held storedWhole released false
  have placed := (sound.moves moves).toPlaced
  have heldWhole : (whole.board transit' issued).Holds workerId (proofId, taskId) :=
    ⟨worker, registered', held⟩
  have holds : ∀ set holder other,
      (((whole.postTaskUpdateState build proofId task.data).modifyWorker workerId change).board
        set issued).Holds holder other ↔
      (whole.board transit' issued).Holds holder other ∧
        ¬ (holder = workerId ∧ other = (proofId, taskId)) := by
    intro set holder other
    have same : ((whole.board transit' issued).release build workerId (change worker)
        (proofId, taskId) task false).Holds holder other ↔ _ :=
      holds_release_iff build task false registered' released holder other
    rw [← same]
    have sameWorkers : (((whole.postTaskUpdateState build proofId task.data).modifyWorker workerId
        change).board set issued).workers = ((whole.board transit' issued).release build workerId
          (change worker) (proofId, taskId) task false).workers := by
      change Table.modify workerId change whole.workers = whole.workers.insert workerId _
      rw [Table.modify_of_lookup registered']
    unfold Board.Holds
    rw [sameWorkers]
  refine ⟨_, _, undropped.release workerId change task.data, moves.trans step.moves, proofs, ?_, ?_,
    ?_⟩
  · intro key member
    split at member
    · rcases member with rfl | before
      · exact .inr rfl
      · exact moving key before
    · exact moving key member
  · intro holder other stillHeld
    obtain ⟨before, notReleased⟩ := (holds _ holder _).mp stillHeld
    refine ⟨left holder other before, ?_⟩
    rintro rfl
    exact notReleased ⟨placed.holder_unique before heldWhole, rfl⟩
  · intro holder other skipped heldAtStart
    refine (holds _ holder _).mpr ⟨kept holder other skipped heldAtStart, ?_⟩
    rintro ⟨rfl, same⟩
    cases same
    exact unskipped skipped

include sound in
/-- What is left are tasks of the proof as it was stored, with the workers their
records name. -/
theorem owned :
    Emptying build inputs proofId skip transit issued start dropped fun workerId taskId =>
      remaining workerId taskId ∧
        ∃ task, taskOf start.proofs (proofId, taskId) = some task ∧
          task.worker = some workerId := by
  obtain ⟨whole, transit', undropped, moves, proofs, moving, left, kept⟩ := emptying
  refine ⟨whole, transit', undropped, moves, proofs, moving, ?_, kept⟩
  intro workerId taskId held
  obtain ⟨task, stored, owner, -⟩ := (sound.moves moves).held_task held
  refine ⟨left workerId taskId held, task, ?_, owner⟩
  rw [← proofs]
  exact stored

theorem still_held :
    Emptying build inputs proofId skip transit issued start dropped fun workerId taskId =>
      remaining workerId taskId ∧
        ∃ worker, dropped.workers.lookup workerId = some worker ∧
          (proofId, taskId) ∈ worker.activeTasks := by
  obtain ⟨whole, transit', undropped, moves, proofs, moving, left, kept⟩ := emptying
  refine ⟨whole, transit', undropped, moves, proofs, moving, ?_, kept⟩
  rintro workerId taskId ⟨worker, registered, held⟩
  exact ⟨left workerId taskId ⟨worker, registered, held⟩, worker,
    undropped.workers ▸ registered, held⟩

theorem skipped_held {workerId taskId : String} (skipped : skip = some (workerId, taskId))
    (held : (start.board transit issued).Holds workerId (proofId, taskId)) :
    ∃ worker, dropped.workers.lookup workerId = some worker ∧
      (proofId, taskId) ∈ worker.activeTasks := by
  obtain ⟨whole, transit', undropped, -, -, -, -, kept⟩ := emptying
  obtain ⟨worker, registered, member⟩ := kept workerId taskId skipped held
  exact ⟨worker, undropped.workers ▸ registered, member⟩

include sound in
/-- One turn of the loop takes its task off its worker, unless it is to be left
alone. -/
theorem releaseAssignment {taskId : String} {copy : Task}
    (copied : TaskCopy start proofId taskId copy)
    (sameId : copy.id = taskId) (flag : Bool) :
    Emptying build inputs proofId skip transit issued start
      (CoordinatorState.releaseAssignment build proofId skip copy (dropped, flag)).1
      (fun workerId other => remaining workerId other ∧
        (other = taskId → skip = some (workerId, other))) := by
  have owner : ∀ {workerId other}, other = taskId →
      (∃ task, taskOf start.proofs (proofId, other) = some task ∧ task.worker = some workerId) →
        copy.worker = some workerId := by
    rintro workerId other rfl ⟨task, stored, named⟩
    obtain ⟨original, storedToo, -, -, sameWorker⟩ := copied.original
    obtain rfl : original = task := Option.some.inj (storedToo.symm.trans stored)
    exact sameWorker.trans named
  unfold CoordinatorState.releaseAssignment
  split
  · next unowned =>
    refine (emptying.owned sound).weaken ?_
    rintro workerId other ⟨left, named⟩
    refine ⟨left, fun same => ?_⟩
    rw [owner same named] at unowned
    cases unowned
  · next holder owned =>
    have only : ∀ {workerId other}, other = taskId →
        (∃ task, taskOf start.proofs (proofId, other) = some task ∧
          task.worker = some workerId) → workerId = holder := by
      intro workerId other same named
      exact Option.some.inj ((owner same named).symm.trans owned)
    split
    · next skipped =>
      refine (emptying.owned sound).weaken ?_
      rintro workerId other ⟨left, named⟩
      refine ⟨left, fun same => ?_⟩
      rw [only same named, same, ← sameId]
      exact skipped.symm
    · next unskipped =>
      dsimp only
      split
      · next unregistered =>
        refine ((emptying.owned sound).still_held).weaken ?_
        rintro workerId other ⟨⟨left, named⟩, worker, registered, -⟩
        refine ⟨left, fun same => ?_⟩
        rw [only same named, unregistered] at registered
        cases registered
      · next worker registered =>
        split
        · next held =>
          rw [sameId] at held
          have released := emptying.release sound copied registered held (.inl rfl)
            (fun skipped => unskipped (sameId ▸ skipped.symm))
          rw [sameId]
          refine Emptying.congr (released.weaken ?_) rfl rfl rfl rfl
          rintro workerId other ⟨left, different⟩
          exact ⟨left, fun same => absurd same different⟩
        · next unheld =>
          refine ((emptying.owned sound).still_held).weaken ?_
          rintro workerId other ⟨⟨left, named⟩, record, registered', held⟩
          refine ⟨left, fun same => ?_⟩
          obtain rfl : worker = record := by
            rw [only same named] at registered'
            exact Option.some.inj (registered.symm.trans registered')
          rw [same, ← sameId] at held
          exact absurd held unheld

include sound in
/-- **The loop empties the workers of the proof**, up to the pair it leaves
alone. -/
theorem releaseRemainingAssignments (env : Env) {proof : Proof}
    (copies : ∀ taskId copy, proof.tasks.lookup taskId = some copy →
      TaskCopy start proofId taskId copy ∧ copy.id = taskId)
    (complete : ∀ taskId task, taskOf start.proofs (proofId, taskId) = some task →
      taskId ∈ proof.tasks) :
    Emptying build inputs proofId skip transit issued start
      (dropped.releaseRemainingAssignments build env proof proofId skip).1
      (fun workerId taskId => skip = some (workerId, taskId)) := by
  have loop : ∀ (entries : List (Sigma fun _ : String => Task)) (dropped : CoordinatorState P)
      (flag : Bool) (remaining : String → String → Prop),
      (∀ entry ∈ entries, proof.tasks.lookup entry.1 = some entry.2) →
      Emptying build inputs proofId skip transit issued start dropped remaining →
      Emptying build inputs proofId skip transit issued start
        (entries.foldl (fun released entry =>
          CoordinatorState.releaseAssignment build proofId skip entry.2 released)
            (dropped, flag)).1
        (fun workerId taskId => remaining workerId taskId ∧
          ∀ entry ∈ entries, taskId = entry.1 → skip = some (workerId, taskId)) := by
    intro entries
    induction entries with
    | nil =>
      intro dropped flag remaining _ emptying
      exact emptying.weaken fun _ _ left => ⟨left, by simp⟩
    | cons entry rest ih =>
      intro dropped flag remaining stored emptying
      obtain ⟨copied, sameId⟩ := copies entry.1 entry.2 (stored entry List.mem_cons_self)
      have turn := emptying.releaseAssignment sound copied sameId flag
      refine (ih _ _ _ (fun other member => stored other (List.mem_cons_of_mem _ member))
        turn).weaken ?_
      rintro workerId taskId ⟨⟨left, here⟩, later⟩
      refine ⟨left, ?_⟩
      intro other member same
      rcases List.mem_cons.mp member with rfl | inRest
      · exact here same
      · exact later other inRest same
  have emptied := loop (env.shuffle proof.tasks.entries) dropped false remaining
    (fun entry member => Table.mem_entries_iff.mp (env.mem_shuffle.mp member)) emptying
  refine (emptied.owned sound).weaken ?_
  rintro workerId taskId ⟨⟨-, all⟩, task, stored, -⟩
  obtain ⟨copy, found⟩ := Option.isSome_iff_exists.mp
    (AList.lookup_isSome.mpr (complete taskId task stored))
  exact all ⟨taskId, copy⟩ (env.mem_shuffle.mpr (Table.mem_entries_iff.mpr found)) rfl

end

theorem finish (emptying : Emptying build inputs proofId skip transit issued start dropped
      fun _ _ => False) (ended : proofId ∈ inputs.ended) :
    ∃ transit' ⊆ transit, Steps build inputs transit transit' issued issued start dropped := by
  obtain ⟨whole, transit', undropped, moves, proofs, moving, left, -⟩ := emptying
  refine ⟨{key ∈ transit' | key.1 ≠ proofId}, ?_, ?_, fun _ => undropped.filed⟩
  · rintro key ⟨member, different⟩
    rcases moving key member with before | same
    · exact before
    · exact absurd same different
  · have same : dropped.board {key ∈ transit' | key.1 ≠ proofId} issued =
        (whole.board transit' issued).removeProof proofId := by
      simp only [board, Board.removeProof, undropped.proofs, undropped.workers, undropped.backlog,
        undropped.stopped]
    rw [same]
    exact moves.tail (.removeProof left ended)

end Emptying

end Sp1Cluster.CoordinatorState
