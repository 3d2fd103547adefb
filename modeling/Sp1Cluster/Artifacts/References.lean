import Sp1Cluster.Data.Table
import Sp1Cluster.Systems.Runs

/-!
# References to an artifact

Clients add their key to the set of references of an artifact and take it out
again; the one that finds the set empty deletes the set and the artifact. Every
Redis command is a step of its own, and no transaction joins them: after a
client has found the set empty, another one may add its key before the set and
the artifact are deleted, and its reference is then gone.

A command whose reply is lost has been executed, and the client starts its
operation again. An operation may also give up. The set does not expire.
-/

set_option autoImplicit false

namespace Sp1Cluster

/-- Where the client of a reference key is. -/
inductive RefPhase where
  | idle
  /-- In `add_ref`, before `SADD`. -/
  | adding
  /-- In `add_ref`, before `EXPIRE`. -/
  | expiring
  /-- `add_ref` has returned and `remove_ref` has not been called. -/
  | held
  /-- In `remove_ref`, before `SREM`. -/
  | removing
  /-- In `remove_ref`, before `SCARD`. -/
  | counting
  /-- In `remove_ref`, before `DEL`: the set was empty. -/
  | clearing
  /-- In `remove_ref`, in `try_delete`. -/
  | deleting
deriving DecidableEq, Repr

namespace RefPhase

def counts : RefPhase → Bool
  | .expiring | .held => true
  | _ => false

/-- The client has found the set empty and deletes. -/
def tearsDown : RefPhase → Bool
  | .clearing | .deleting => true
  | _ => false

end RefPhase

/-- The set of references of one artifact, the artifact, and its clients. -/
structure References where
  refs : KeySet String
  stored : Bool
  clients : Table String RefPhase

inductive RefEvent where
  | addRef (key : String)
  | sadd (key : String)
  | expire (key : String)
  | removeRef (key : String)
  | srem (key : String)
  | scard (key : String)
  | del (key : String)
  /-- `DEL` is executed and its reply is lost. -/
  | delLost (key : String)
  /-- One of the `UNLINK`s of `try_delete`. -/
  | unlink (key : String)
  | finish (key : String)
  /-- A command of the key's operation failed and the operation starts again. -/
  | retry (key : String)
  /-- The key's operation returns an error. -/
  | giveUp (key : String)
deriving DecidableEq, Repr

namespace References

def phaseOf (key : String) (references : References) : RefPhase :=
  (references.clients.lookup key).getD .idle

/-- The client of a key goes to a phase and leaves a set. -/
def move (key : String) (phase : RefPhase) (refs : KeySet String) (references : References) :
    References :=
  { references with refs := refs, clients := references.clients.insert key phase }

/-- A step that a client takes in one phase only. -/
def within (references : References) (key : String) (phase : RefPhase) (next : References) :
    References :=
  if references.phaseOf key = phase then next else references

def step (references : References) : RefEvent → References
  | .addRef key => references.within key .idle (references.move key .adding references.refs)
  | .sadd key =>
    references.within key .adding
      (references.move key .expiring (KeySet.add key references.refs))
  | .expire key => references.within key .expiring (references.move key .held references.refs)
  | .removeRef key =>
    match references.phaseOf key with
    | .idle | .held => references.move key .removing references.refs
    | _ => references
  | .srem key =>
    references.within key .removing (references.move key .counting (references.refs.erase key))
  | .scard key =>
    references.within key .counting
      (references.move key (if references.refs.entries.length ≤ 0 then .clearing else .idle)
        references.refs)
  | .del key => references.within key .clearing (references.move key .deleting ∅)
  | .delLost key => references.within key .clearing (references.move key .removing ∅)
  | .unlink key => references.within key .deleting { references with stored := false }
  | .finish key => references.within key .deleting (references.move key .idle references.refs)
  | .retry key =>
    match references.phaseOf key with
    | .expiring => references.move key .adding references.refs
    | .counting | .clearing => references.move key .removing references.refs
    | _ => references
  | .giveUp key =>
    match references.phaseOf key with
    | .held => references
    | _ => references.move key .idle references.refs

def start : References where
  refs := ∅
  stored := true
  clients := ∅

def reach (events : List RefEvent) : References := Systems.run step start events

/-- No client is between finding the set empty and the end of its deletion. -/
def quiet (references : References) : Bool :=
  references.clients.entries.all fun client => !client.2.tearsDown

/-- A key is added only while nobody deletes. -/
def Orderly (references : References) : RefEvent → Prop
  | .sadd _ => references.quiet = true
  | _ => True

instance (references : References) (event : RefEvent) : Decidable (references.Orderly event) := by
  unfold Orderly
  split <;> infer_instance

/-- Whether an event deletes the artifact for a client. -/
def deletes (references : References) : RefEvent → Bool
  | .unlink key => references.phaseOf key == .deleting
  | _ => false

/-! ## The invariant -/

variable {references : References}

theorem phaseOf_move (key other : String) (phase : RefPhase) (refs : KeySet String) :
    (references.move key phase refs).phaseOf other =
      if other = key then phase else references.phaseOf other :=
  Table.getD_lookup_insert _ _ _ _ _

theorem not_tearsDown_of_quiet (quiet : references.quiet = true) (key : String) :
    (references.phaseOf key).tearsDown = false := by
  unfold phaseOf
  cases found : references.clients.lookup key with
  | none => rfl
  | some phase =>
    have still := List.all_eq_true.mp quiet ⟨key, phase⟩ (Table.mem_entries_iff.mpr found)
    simpa using still

/-- A key that counts is in the set, and no key counts while a client deletes. -/
structure Guarded (references : References) : Prop where
  listed : ∀ key, (references.phaseOf key).counts = true → key ∈ references.refs
  exclusive : ∀ key other, (references.phaseOf key).tearsDown = true →
    (references.phaseOf other).counts = false

theorem guarded_start : start.Guarded where
  listed _ counts := by cases counts
  exclusive _ _ _ := rfl

section Guards

variable (guarded : references.Guarded)
include guarded

/-- What a client may do: it keeps the keys of the others that count, it lets its own
key count only when that key is in the set and nobody deletes, and it starts to
delete only when no other key counts. -/
theorem Guarded.move {key : String} {phase : RefPhase} {refs : KeySet String}
    (kept : ∀ other, (references.phaseOf other).counts = true → other ≠ key → other ∈ refs)
    (counts : phase.counts = true → key ∈ refs ∧
      ∀ other, (references.phaseOf other).tearsDown = false) (tearsDown : phase.tearsDown = true →
      ∀ other, other ≠ key → (references.phaseOf other).counts = false) :
    (references.move key phase refs).Guarded where
  listed other counting := by
    rw [phaseOf_move] at counting
    split at counting
    · next same =>
      rw [same]
      exact (counts counting).1
    · next distinct => exact kept other counting distinct
  exclusive remover other tearing := by
    rw [phaseOf_move] at tearing ⊢
    split at tearing
    · split
      · -- No phase counts and tears down.
        cases phase <;> first | rfl | cases tearing
      · next distinct => exact tearsDown tearing other distinct
    · split
      · cases counting : phase.counts with
        | false => rfl
        | true =>
          rw [(counts counting).2 remover] at tearing
          cases tearing
      · exact guarded.exclusive remover other tearing

theorem Guarded.rest {key : String} {phase : RefPhase} (uncounted : phase.counts = false)
    (peaceful : phase.tearsDown = false) : (references.move key phase references.refs).Guarded := by
  refine guarded.move (fun other counts _ => guarded.listed other counts) ?_ ?_
  · intro counts
    rw [uncounted] at counts
    cases counts
  · intro tearing
    rw [peaceful] at tearing
    cases tearing

theorem Guarded.within {key : String} {phase : RefPhase} {next : References}
    (entered : references.phaseOf key = phase → next.Guarded) :
    (references.within key phase next).Guarded := by
  unfold References.within
  split
  · next here => exact entered here
  · exact guarded

theorem Guarded.clear {key : String} {phase : RefPhase}
    (clearing : references.phaseOf key = .clearing) (uncounted : phase.counts = false) :
    (references.move key phase ∅).Guarded := by
  have nobody : ∀ other, (references.phaseOf other).counts = false := by
    intro other
    refine guarded.exclusive key other ?_
    rw [clearing]
    rfl
  refine guarded.move ?_ ?_ fun _ other _ => nobody other
  · intro other counts
    rw [nobody other] at counts
    cases counts
  · intro counts
    rw [uncounted] at counts
    cases counts

theorem Guarded.step {event : RefEvent} (orderly : references.Orderly event) :
    (references.step event).Guarded := by
  cases event with
  | addRef key => exact guarded.within fun _ => guarded.rest rfl rfl
  | sadd key =>
    refine guarded.within fun _ => guarded.move ?_ ?_ nofun
    · intro other counts _
      exact (KeySet.mem_add _ _ _).mpr (.inr (guarded.listed other counts))
    · intro _
      exact ⟨(KeySet.mem_add _ _ _).mpr (.inl rfl), not_tearsDown_of_quiet orderly⟩
  | expire key =>
    refine guarded.within fun expiring => guarded.move
      (fun other counts _ => guarded.listed other counts) ?_ nofun
    have counts : (references.phaseOf key).counts = true := by rw [expiring]; rfl
    intro _
    refine ⟨guarded.listed key counts, ?_⟩
    intro other
    cases tearing : (references.phaseOf other).tearsDown with
    | false => rfl
    | true =>
      rw [guarded.exclusive other key tearing] at counts
      cases counts
  | removeRef key =>
    change Guarded (match references.phaseOf key with
      | .idle | .held => references.move key .removing references.refs
      | _ => references)
    split
    · exact guarded.rest rfl rfl
    · exact guarded.rest rfl rfl
    · exact guarded
  | srem key =>
    refine guarded.within fun _ => guarded.move ?_ nofun nofun
    intro other counts distinct
    exact AList.mem_erase.mpr ⟨distinct, guarded.listed other counts⟩
  | scard key =>
    refine guarded.within fun _ => ?_
    split
    · next empty =>
      -- The set is empty, so no key counts.
      refine guarded.move (fun other counts _ => guarded.listed other counts) nofun ?_
      intro _ other _
      cases counts : (references.phaseOf other).counts with
      | false => rfl
      | true =>
        have listed := guarded.listed other counts
        have nothing : references.refs.isEmpty = true :=
          List.isEmpty_iff_length_eq_zero.mpr (Nat.le_zero.mp empty)
        exact absurd listed (KeySet.notMem_of_isEmpty nothing other)
    · exact guarded.rest rfl rfl
  | del key | delLost key => exact guarded.within fun clearing => guarded.clear clearing rfl
  | unlink key => exact guarded.within fun _ => ⟨guarded.listed, guarded.exclusive⟩
  | finish key => exact guarded.within fun _ => guarded.rest rfl rfl
  | retry key =>
    change Guarded (match references.phaseOf key with
      | .expiring => references.move key .adding references.refs
      | .counting | .clearing => references.move key .removing references.refs
      | _ => references)
    split
    · exact guarded.rest rfl rfl
    · exact guarded.rest rfl rfl
    · exact guarded.rest rfl rfl
    · exact guarded
  | giveUp key =>
    change Guarded (match references.phaseOf key with
      | .held => references
      | _ => references.move key .idle references.refs)
    split
    · exact guarded
    · exact guarded.rest rfl rfl

end Guards

/-- **A referenced artifact is never deleted**, in every run in which keys are added only
while no client is between finding the set empty and the end of its deletion. -/
theorem referenced_artifact_kept (events : List RefEvent)
    (orderly : Systems.Along step start Orderly events) {event : RefEvent}
    (deleting : (reach events).deletes event = true) (key : String) :
    (reach events).phaseOf key ≠ .held := by
  have guarded : (reach events).Guarded :=
    Systems.run_invariant (fun _ references => references.Guarded) guarded_start
      (fun _ _ _ guarded orderly => guarded.step orderly) orderly
  cases event with
  | unlink remover =>
      have isDeleting : (reach events).phaseOf remover = .deleting := beq_iff_eq.mp deleting
      intro held
      have uncounted := guarded.exclusive remover key (by rw [isDeleting]; rfl)
      rw [held] at uncounted
      cases uncounted
  | addRef _ | sadd _ | expire _ | removeRef _ | srem _ | scard _ | del _ | delLost _ | finish _
  | retry _ | giveUp _ => cases deleting

/-- Two clients hold a reference and give it up, one after the other. -/
def lastReference : List RefEvent :=
  [.addRef "a", .addRef "b", .sadd "a", .sadd "b", .expire "b", .retry "a", .sadd "a", .expire "a",
    .removeRef "a", .srem "a", .scard "a", .removeRef "b", .srem "b", .scard "b", .del "b"]

theorem referenced_artifact_kept_lastReference :
    Systems.Along step start Orderly lastReference ∧
      (reach lastReference).deletes (.unlink "b") = true ∧
      (reach lastReference).phaseOf "a" ≠ .held := by
  have orderly : Systems.Along step start Orderly lastReference := by decide
  have deleting : (reach lastReference).deletes (.unlink "b") = true := by decide
  exact ⟨orderly, deleting, referenced_artifact_kept lastReference orderly deleting "a"⟩

/-- A reference is added after the set was found empty. -/
def lateReference : List RefEvent :=
  [.addRef "a", .sadd "a", .expire "a", .removeRef "a", .srem "a", .scard "a", .addRef "b",
    .sadd "b", .expire "b", .del "a", .unlink "a"]

/-- The artifact is deleted while it is referenced, and the reference is lost. -/
theorem referenced_artifact_deleted :
    (reach (lateReference.take 10)).deletes (.unlink "a") = true ∧
      (reach (lateReference.take 10)).phaseOf "b" = .held ∧
      (reach lateReference).stored = false ∧ (reach lateReference).phaseOf "b" = .held ∧
      "b" ∉ (reach lateReference).refs := by
  decide

end References

end Sp1Cluster
