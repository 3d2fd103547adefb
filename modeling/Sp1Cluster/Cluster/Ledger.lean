import Sp1Cluster.Cluster.Service
import Mathlib.Data.Set.Insert

/-!
# The ledger of claimed proofs

What the claimer, the status task, the re-issues and the API do to a proof, without
their program counters: the status of its row, its entry in the table of tracked
proofs, the results that are on their way, the writes that may still be served, and
how far the claimer is with it. Every step of the cluster is one move on this ledger
after which some of what was outstanding may be forgotten.

**Results.** Three properties are invariants of the moves, each under a condition on
them. All of them rest on `Ledger.Sound`, which needs that an entry is removed as
missing only when its row is no longer pending.

* `Ledger.Kept`: a result that has been dealt with is in the row or in a stored
  write, if no result is looked up before its proof is tracked.
* `Ledger.FirstWins`: the row only ever shows the first result, if moreover no
  result is looked up while the write of another one is not confirmed.
* `Ledger.Unclaimed`: a finished proof is not claimed, if no entry is dropped while
  the claimer still has to come to its row.
-/

set_option autoImplicit false

namespace Sp1Cluster

/-- The ledger. `waiting` are the results before their lookup, in order; `current` is
a result that was found and is not stored yet; `settled` are the results that were
dropped or stored. `owned` are the proofs that results of the claimer's may come
from, `answered` the proofs whose write is confirmed and whose entry is still to be
dropped, and `listed` the proofs of the listing that the claimer has to come to. -/
structure Ledger where
  row : String → Option ProofRequestStatus
  entry : String → Option TaskState
  owned : Set String
  waiting : List Emission
  current : Option Emission
  settled : List Emission
  updates : Set ProofRequestUpdateRequest
  answered : Set String
  listed : Set String
  creating : Option String
  inserting : Option String

inductive Ledger.Move where
  | rest
  | emit (emissions : List Emission)
  | ignore (emission : Emission)
  | heed (emission : Emission)
  | record (emission : Emission)
  | serve (update : ProofRequestUpdateRequest)
  | drop (proofId : String)
  | openRow (proofId : String)
  | cancelRow (proofId : String)
  | list (proofIds : Set String)
  | check (proofId : String)
  | create (proofId : String)
  | insert (proofId : String)
  | remove (proofId : String)

namespace Ledger.Move

/-- The result that a move looks up: it is ignored if its proof is not tracked. -/
def lookedUp : Move → Option Emission
  | .ignore emission | .heed emission => some emission
  | _ => none

/-- The proof that a move removes as missing. -/
def removed : Move → Option String
  | .remove proofId => some proofId
  | _ => none

def dropped : Move → Option String
  | .drop proofId => some proofId
  | _ => none

end Ledger.Move

namespace Ledger

variable {ledger later : Ledger} {move : Move} {proofId : String} {emission : Emission}
  {update : ProofRequestUpdateRequest}

/-! ## Moves -/

/-- The row of a proof is no longer pending. -/
def Left (ledger : Ledger) (proofId : String) : Prop :=
  ∃ status ∈ ledger.row proofId, status ≠ .pending

def Tracked (ledger : Ledger) (proofId : String) : Prop := ledger.entry proofId ≠ none

def Stored (ledger : Ledger) (proofId : String) : Prop :=
  ∃ update, ledger.entry proofId = some (.terminal update)

/-- The API has accepted a completion write of the proof. -/
def Finished (ledger : Ledger) (proofId : String) : Prop :=
  ledger.row proofId = some .completed ∨ ledger.row proofId = some .failed

/-- The results the coordinator has sent, in order. -/
def emitted (ledger : Ledger) : List Emission :=
  ledger.settled ++ ledger.current.toList ++ ledger.waiting

/-- The first result about a proof. -/
def first (ledger : Ledger) (proofId : String) : Option Emission :=
  ledger.emitted.find? fun emission => emission.id = proofId

/-- When a move can be made. -/
def Allows (ledger : Ledger) : Move → Prop
  | .rest => True
  | .emit emissions => ∀ emission ∈ emissions, emission.claimed → emission.id ∈ ledger.owned
  | .ignore emission => ledger.waiting.head? = some emission ∧ ledger.current = none ∧
      ¬ ledger.Tracked emission.id
  | .heed emission => ledger.waiting.head? = some emission ∧ ledger.current = none ∧
      ledger.Tracked emission.id
  | .record emission => ledger.current = some emission
  | .serve update => update ∈ ledger.updates
  | .drop proofId => proofId ∈ ledger.answered ∧ ledger.Stored proofId
  | .openRow proofId => ledger.row proofId = none
  | .cancelRow proofId => ledger.row proofId = some .pending
  | .list proofIds => ∀ proofId ∈ proofIds, ledger.row proofId = some .pending
  | .check proofId => proofId ∈ ledger.listed ∧ ¬ ledger.Tracked proofId
  | .create proofId => ledger.creating = some proofId ∧ ledger.inserting = none
  | .insert proofId => ledger.inserting = some proofId ∧ ledger.creating = none
  | .remove proofId => ledger.entry proofId = some .pending ∧ ledger.listed = ∅

def setRow (proofId : String) (status : ProofRequestStatus) (ledger : Ledger) : Ledger :=
  { ledger with row := Function.update ledger.row proofId (some status) }

def setEntry (proofId : String) (entry : Option TaskState) (ledger : Ledger) : Ledger :=
  { ledger with entry := Function.update ledger.entry proofId entry }

def after (ledger : Ledger) : Move → Ledger
  | .rest => ledger
  | .emit emissions => { ledger with waiting := ledger.waiting ++ emissions }
  | .ignore emission =>
    { ledger with waiting := ledger.waiting.tail, settled := ledger.settled ++ [emission] }
  | .heed emission => { ledger with waiting := ledger.waiting.tail, current := some emission }
  | .record emission =>
    { ledger.setEntry emission.id (some (.terminal emission.update)) with
      current := none
      settled := ledger.settled ++ [emission]
      updates := insert emission.update ledger.updates }
  | .serve update =>
    { ledger with
      row := fun proofId =>
        if proofId = update.proofId ∧ ledger.row proofId = some .pending then update.proofStatus
        else ledger.row proofId
      answered := insert update.proofId ledger.answered }
  | .drop proofId => ledger.setEntry proofId none
  | .openRow proofId => ledger.setRow proofId .pending
  | .cancelRow proofId => ledger.setRow proofId .cancelled
  | .list proofIds => { ledger with listed := ledger.listed ∪ proofIds }
  | .check proofId => { ledger with creating := some proofId }
  | .create proofId =>
    { ledger with
      creating := none
      inserting := some proofId
      owned := insert proofId ledger.owned }
  | .insert proofId => { ledger.setEntry proofId (some .pending) with inserting := none }
  | .remove proofId => ledger.setEntry proofId none

/-- Of what is outstanding, some may be forgotten. -/
structure Forgets (ledger later : Ledger) : Prop where
  row : later.row = ledger.row
  entry : later.entry = ledger.entry
  owned : later.owned ⊆ ledger.owned
  waiting : later.waiting = ledger.waiting
  current : later.current = ledger.current
  settled : later.settled = ledger.settled
  updates : later.updates ⊆ ledger.updates
  answered : later.answered ⊆ ledger.answered
  listed : later.listed ⊆ ledger.listed
  creating : ∀ proofId ∈ later.creating, proofId ∈ ledger.creating
  inserting : later.inserting = ledger.inserting

/-! ## Rows only advance -/

/-- A proof whose row has left `Pending` or that is tracked. -/
def Accounted (ledger : Ledger) (proofId : String) : Prop :=
  ledger.Left proofId ∨ ledger.Tracked proofId

theorem not_left_iff :
    ¬ ledger.Left proofId ↔ ledger.row proofId = none ∨ ledger.row proofId = some .pending := by
  unfold Left
  cases row : ledger.row proofId with
  | none => simp
  | some status => simp

theorem Left.row_ne_none (left : ledger.Left proofId) : ledger.row proofId ≠ none := by
  obtain ⟨status, found, _⟩ := left
  rw [Option.mem_def.mp found]
  exact Option.some_ne_none status

theorem Stored.tracked (stored : ledger.Stored proofId) : ledger.Tracked proofId := by
  obtain ⟨update, found⟩ := stored
  unfold Tracked
  rw [found]
  exact Option.some_ne_none _

namespace Forgets

variable (forgets : ledger.Forgets later)
include forgets

theorem left (proofId : String) : later.Left proofId ↔ ledger.Left proofId := by
  unfold Left
  rw [forgets.row]

theorem tracked (proofId : String) : later.Tracked proofId ↔ ledger.Tracked proofId := by
  unfold Tracked
  rw [forgets.entry]

theorem stored (proofId : String) : later.Stored proofId ↔ ledger.Stored proofId := by
  unfold Stored
  rw [forgets.entry]

theorem finished (proofId : String) : later.Finished proofId ↔ ledger.Finished proofId := by
  unfold Finished
  rw [forgets.row]

theorem accounted (proofId : String) : later.Accounted proofId ↔ ledger.Accounted proofId :=
  or_congr (forgets.left proofId) (forgets.tracked proofId)

theorem first (proofId : String) : later.first proofId = ledger.first proofId := by
  unfold Ledger.first emitted
  rw [forgets.settled, forgets.current, forgets.waiting]

end Forgets

/-! ## What a move can do

One lemma for each part of the ledger. -/

/-- A missing row appears, and a pending one gets a status. -/
theorem row_after (allowed : ledger.Allows move) (proofId : String) :
    (ledger.after move).row proofId = ledger.row proofId ∨
      (ledger.row proofId = none ∧ (ledger.after move).row proofId = some .pending) ∨
      (ledger.row proofId = some .pending ∧ (ledger.after move).row proofId = some .cancelled) ∨
      ∃ update ∈ ledger.updates, update.proofId = proofId ∧
        ledger.row proofId = some .pending ∧
          (ledger.after move).row proofId = update.proofStatus := by
  cases move with
  | serve update =>
    by_cases pending : proofId = update.proofId ∧ ledger.row proofId = some .pending
    · exact .inr (.inr (.inr ⟨update, allowed, pending.1.symm, pending.2, if_pos pending⟩))
    · exact .inl (if_neg pending)
  | openRow opened =>
    by_cases same : proofId = opened
    · subst same
      exact .inr (.inl ⟨allowed, Function.update_self _ _ _⟩)
    · exact .inl (Function.update_of_ne same _ _)
  | cancelRow cancelled =>
    by_cases same : proofId = cancelled
    · subst same
      exact .inr (.inr (.inl ⟨allowed, Function.update_self _ _ _⟩))
    · exact .inl (Function.update_of_ne same _ _)
  | _ => exact .inl rfl

theorem entry_after (ledger : Ledger) (move : Move) (proofId : String) :
    (ledger.after move).entry proofId = ledger.entry proofId ∨
      (∃ emission, move = .record emission ∧ emission.id = proofId ∧
        (ledger.after move).entry proofId = some (.terminal emission.update)) ∨
      (move = .insert proofId ∧ (ledger.after move).entry proofId = some .pending) ∨
      ((move = .drop proofId ∨ move = .remove proofId) ∧
        (ledger.after move).entry proofId = none) := by
  cases move with
  | record emission =>
    by_cases same : proofId = emission.id
    · subst same
      exact .inr (.inl ⟨emission, rfl, rfl, Function.update_self _ _ _⟩)
    · exact .inl (Function.update_of_ne same _ _)
  | insert inserted =>
    by_cases same : proofId = inserted
    · subst same
      exact .inr (.inr (.inl ⟨rfl, Function.update_self _ _ _⟩))
    · exact .inl (Function.update_of_ne same _ _)
  | drop dropped =>
    by_cases same : proofId = dropped
    · subst same
      exact .inr (.inr (.inr ⟨.inl rfl, Function.update_self _ _ _⟩))
    · exact .inl (Function.update_of_ne same _ _)
  | remove removed =>
    by_cases same : proofId = removed
    · subst same
      exact .inr (.inr (.inr ⟨.inr rfl, Function.update_self _ _ _⟩))
    · exact .inl (Function.update_of_ne same _ _)
  | _ => exact .inl rfl

theorem mem_updates_after (member : update ∈ (ledger.after move).updates) :
    update ∈ ledger.updates ∨ ∃ emission, move = .record emission ∧ update = emission.update := by
  cases move with
  | record emission =>
    rcases Set.mem_insert_iff.mp member with rfl | before
    · exact .inr ⟨emission, rfl, rfl⟩
    · exact .inl before
  | _ => exact .inl member

theorem mem_answered_after (member : proofId ∈ (ledger.after move).answered) :
    proofId ∈ ledger.answered ∨ ∃ update, move = .serve update ∧ proofId = update.proofId := by
  cases move with
  | serve update =>
    rcases Set.mem_insert_iff.mp member with rfl | before
    · exact .inr ⟨update, rfl, rfl⟩
    · exact .inl before
  | _ => exact .inl member

theorem mem_listed_after (member : proofId ∈ (ledger.after move).listed) :
    proofId ∈ ledger.listed ∨ ∃ proofIds, move = .list proofIds ∧ proofId ∈ proofIds := by
  cases move with
  | list proofIds =>
    rcases member with before | added
    · exact .inl before
    · exact .inr ⟨proofIds, rfl, added⟩
  | _ => exact .inl member

theorem mem_owned_after (member : proofId ∈ (ledger.after move).owned) :
    proofId ∈ ledger.owned ∨ move = .create proofId := by
  cases move with
  | create created =>
    rcases Set.mem_insert_iff.mp member with rfl | before
    · exact .inr rfl
    · exact .inl before
  | _ => exact .inl member

theorem mem_creating_after (member : proofId ∈ (ledger.after move).creating) :
    proofId ∈ ledger.creating ∨ move = .check proofId := by
  cases move with
  | check checked =>
    cases member
    exact .inr rfl
  | create created => cases member
  | _ => exact .inl member

theorem mem_inserting_after (member : proofId ∈ (ledger.after move).inserting) :
    proofId ∈ ledger.inserting ∨ move = .create proofId := by
  cases move with
  | create created =>
    cases member
    exact .inr rfl
  | insert inserted => cases member
  | _ => exact .inl member

/-- The claimer stays between creating a proof and tracking it until it tracks it. -/
theorem inserting_after (allowed : ledger.Allows move) (member : proofId ∈ ledger.inserting) :
    proofId ∈ (ledger.after move).inserting ∨ move = .insert proofId := by
  cases move with
  | create created =>
    have free : ledger.inserting = none := allowed.2
    rw [free] at member
    cases member
  | insert inserted =>
    have same : some inserted = some proofId := allowed.1.symm.trans member
    cases same
    exact .inr rfl
  | _ => exact .inl member

theorem mem_current_after (member : emission ∈ (ledger.after move).current) :
    emission ∈ ledger.current ∨ move = .heed emission := by
  cases move with
  | heed heeded =>
    cases member
    exact .inr rfl
  | record recorded => cases member
  | _ => exact .inl member

theorem mem_settled_after (member : emission ∈ (ledger.after move).settled) :
    emission ∈ ledger.settled ∨ move = .ignore emission ∨ move = .record emission := by
  cases move with
  | ignore ignored =>
    rcases List.mem_append.mp member with before | last
    · exact .inl before
    · obtain rfl := List.mem_singleton.mp last
      exact .inr (.inl rfl)
  | record recorded =>
    rcases List.mem_append.mp member with before | last
    · exact .inl before
    · obtain rfl := List.mem_singleton.mp last
      exact .inr (.inr rfl)
  | _ => exact .inl member

theorem settled_after (member : emission ∈ ledger.settled) :
    emission ∈ (ledger.after move).settled := by
  cases move with
  | ignore ignored => exact List.mem_append_left _ member
  | record recorded => exact List.mem_append_left _ member
  | _ => exact member

theorem mem_waiting_after (member : emission ∈ (ledger.after move).waiting) :
    emission ∈ ledger.waiting ∨ ∃ emissions, move = .emit emissions ∧ emission ∈ emissions := by
  cases move with
  | emit emissions =>
    rcases List.mem_append.mp member with before | added
    · exact .inl before
    · exact .inr ⟨emissions, rfl, added⟩
  | ignore ignored => exact .inl (List.mem_of_mem_tail member)
  | heed heeded => exact .inl (List.mem_of_mem_tail member)
  | _ => exact .inl member

/-! ## Rows only advance -/

theorem Left.after (left : ledger.Left proofId) (allowed : ledger.Allows move) :
    (ledger.after move).Left proofId := by
  obtain ⟨status, found, advanced⟩ := left
  rw [Option.mem_def] at found
  have settled : ledger.row proofId ≠ some .pending := by
    rw [found]
    exact fun same => advanced (Option.some.inj same)
  rcases row_after allowed proofId with
    same | ⟨absent, _⟩ | ⟨pending, _⟩ | ⟨_, _, _, pending, _⟩
  · exact ⟨status, by rw [same, found]; rfl, advanced⟩
  · rw [absent] at found
    cases found
  · exact absurd pending settled
  · exact absurd pending settled

/-! ## Rows show results that were sent -/

/-- A write that may be served is the write of a result. -/
def Written (ledger : Ledger) : Prop :=
  ∀ update ∈ ledger.updates, ∃ emission ∈ ledger.settled, emission.update = update

theorem Written.after (written : ledger.Written) (move : Move) : (ledger.after move).Written := by
  intro update member
  rcases mem_updates_after member with before | ⟨emission, rfl, rfl⟩
  · obtain ⟨emission, settled, same⟩ := written update before
    exact ⟨emission, settled_after settled, same⟩
  · exact ⟨emission, List.mem_append_right _ (List.mem_singleton.mpr rfl), rfl⟩

theorem Written.forgets (written : ledger.Written) (forgets : ledger.Forgets later) :
    later.Written := by
  unfold Written
  rw [forgets.settled]
  exact fun update member => written update (forgets.updates member)

/-- A row is as it was, or new, or cancelled, or shows a result that was dealt with. -/
def Backed (rows : String → Option ProofRequestStatus) (ledger : Ledger) : Prop :=
  ∀ proofId, ledger.row proofId = rows proofId ∨ ledger.row proofId = some .pending ∨
    ledger.row proofId = some .cancelled ∨ ∃ emission ∈ ledger.settled,
      emission.id = proofId ∧ ledger.row proofId = some emission.result.proofStatus

theorem Backed.after {rows : String → Option ProofRequestStatus} (backed : ledger.Backed rows)
    (written : ledger.Written) (allowed : ledger.Allows move) :
    (ledger.after move).Backed rows := by
  intro proofId
  rcases row_after allowed proofId with
    same | ⟨-, opened⟩ | ⟨-, cancelled⟩ | ⟨update, member, own, -, served⟩
  · rw [same]
    rcases backed proofId with before | pending | cancelled | ⟨emission, settled, shown⟩
    · exact .inl before
    · exact .inr (.inl pending)
    · exact .inr (.inr (.inl cancelled))
    · exact .inr (.inr (.inr ⟨emission, settled_after settled, shown⟩))
  · exact .inr (.inl opened)
  · exact .inr (.inr (.inl cancelled))
  · obtain ⟨emission, settled, rfl⟩ := written update member
    exact .inr (.inr (.inr ⟨emission, settled_after settled, own, served⟩))

theorem Backed.forgets {rows : String → Option ProofRequestStatus} (backed : ledger.Backed rows)
    (forgets : ledger.Forgets later) : later.Backed rows := by
  unfold Backed
  rw [forgets.row, forgets.settled]
  exact backed

/-! ## Soundness -/

/-- An entry is removed as missing only when its row is no longer pending. -/
def RemovesLeft (ledger : Ledger) (move : Move) : Prop :=
  ∀ proofId ∈ move.removed, ledger.Left proofId

/-- What holds of the ledger at all times: rows are known before they are worked on, a
write that may be served is the write of a result, a proof with such a write is
tracked until its row has left `Pending`, and the claimer creates proofs that are not
tracked. -/
structure Sound (ledger : Ledger) : Prop where
  known : ∀ proofId, (ledger.Tracked proofId ∨ proofId ∈ ledger.listed ∨
    proofId ∈ ledger.creating ∨ proofId ∈ ledger.inserting) → ledger.row proofId ≠ none
  written : ∀ update ∈ ledger.updates, ∃ emission ∈ ledger.settled, emission.update = update
  pursued : ∀ update ∈ ledger.updates, ledger.Accounted update.proofId
  heeded : ∀ emission ∈ ledger.current, ledger.Accounted emission.id
  confirmed : ∀ proofId ∈ ledger.answered, ledger.Left proofId
  untracked : ∀ proofId, (proofId ∈ ledger.creating ∨ proofId ∈ ledger.inserting) →
    ledger.Tracked proofId → ledger.Left proofId

namespace Sound

variable (sound : ledger.Sound) (allowed : ledger.Allows move)
include sound allowed

theorem row_ne_none_after (known : ledger.row proofId ≠ none) :
    (ledger.after move).row proofId ≠ none := by
  rcases row_after allowed proofId with
    same | ⟨_, opened⟩ | ⟨_, cancelled⟩ | ⟨update, member, _, _, served⟩
  · rwa [same]
  · rw [opened]
    exact Option.some_ne_none _
  · rw [cancelled]
    exact Option.some_ne_none _
  · obtain ⟨emission, _, rfl⟩ := sound.written update member
    rw [served]
    exact Option.some_ne_none _

theorem accounted_after (removes : ledger.RemovesLeft move)
    (accounted : ledger.Accounted proofId) : (ledger.after move).Accounted proofId := by
  rcases accounted with left | tracked
  · exact .inl (left.after allowed)
  · rcases entry_after ledger move proofId with same | ⟨_, _, _, stored⟩ | ⟨_, stored⟩ | ⟨gone, _⟩
    · right
      unfold Tracked
      rwa [same]
    · right
      unfold Tracked
      rw [stored]
      exact Option.some_ne_none _
    · right
      unfold Tracked
      rw [stored]
      exact Option.some_ne_none _
    · left
      rcases gone with rfl | rfl
      · exact (sound.confirmed proofId allowed.1).after allowed
      · exact (removes proofId rfl).after allowed

theorem known_after (proofId : String)
    (worked : (ledger.after move).Tracked proofId ∨ proofId ∈ (ledger.after move).listed ∨
      proofId ∈ (ledger.after move).creating ∨ proofId ∈ (ledger.after move).inserting) :
    (ledger.after move).row proofId ≠ none := by
  refine sound.row_ne_none_after allowed ?_
  rcases worked with tracked | listed | creating | inserting
  · rcases entry_after ledger move proofId with same | ⟨emission, rfl, rfl, _⟩ | ⟨rfl, _⟩ | ⟨_, gone⟩
    · unfold Tracked at tracked
      rw [same] at tracked
      exact sound.known proofId (.inl tracked)
    · rcases sound.heeded emission allowed with left | before
      · exact left.row_ne_none
      · exact sound.known _ (.inl before)
    · exact sound.known proofId (.inr (.inr (.inr allowed.1)))
    · exact absurd gone tracked
  · rcases mem_listed_after listed with before | ⟨proofIds, rfl, member⟩
    · exact sound.known proofId (.inr (.inl before))
    · rw [allowed proofId member]
      exact Option.some_ne_none _
  · rcases mem_creating_after creating with before | rfl
    · exact sound.known proofId (.inr (.inr (.inl before)))
    · exact sound.known proofId (.inr (.inl allowed.1))
  · rcases mem_inserting_after inserting with before | rfl
    · exact sound.known proofId (.inr (.inr (.inr before)))
    · exact sound.known proofId (.inr (.inr (.inl allowed.1)))

omit allowed in
theorem left_of_served (member : update ∈ ledger.updates) :
    (ledger.after (.serve update)).Left update.proofId := by
  by_cases left : ledger.Left update.proofId
  · exact left.after member
  · obtain ⟨emission, _, rfl⟩ := sound.written update member
    have known : ledger.row emission.update.proofId ≠ none :=
      (sound.pursued _ member).elim (fun before => before.row_ne_none)
        fun tracked => sound.known _ (.inl tracked)
    have pending := (not_left_iff.mp left).resolve_left known
    refine ⟨emission.result.proofStatus, if_pos ⟨rfl, pending⟩, ?_⟩
    unfold ProofResult.proofStatus
    split <;> decide

theorem untracked_after (proofId : String)
    (busy : proofId ∈ (ledger.after move).creating ∨ proofId ∈ (ledger.after move).inserting)
    (tracked : (ledger.after move).Tracked proofId) : (ledger.after move).Left proofId := by
  -- The claimer has just checked that the proof is not tracked, or was busy before.
  have before : move = .check proofId ∨
      (proofId ∈ ledger.creating ∨ proofId ∈ ledger.inserting) := by
    rcases busy with creating | inserting
    · rcases mem_creating_after creating with before | rfl
      · exact .inr (.inl before)
      · exact .inl rfl
    · rcases mem_inserting_after inserting with before | rfl
      · exact .inr (.inr before)
      · exact .inr (.inl allowed.1)
  rcases before with rfl | before
  · exact absurd tracked allowed.2
  · rcases entry_after ledger move proofId with same | ⟨emission, rfl, rfl, _⟩ | ⟨rfl, _⟩ | ⟨_, gone⟩
    · unfold Tracked at tracked
      rw [same] at tracked
      exact (sound.untracked proofId before tracked).after allowed
    · rcases sound.heeded emission allowed with left | heeded
      · exact left.after allowed
      · exact (sound.untracked _ before heeded).after allowed
    · have free : ledger.creating = none := allowed.2
      rcases busy with creating | inserting
      · change proofId ∈ ledger.creating at creating
        rw [free] at creating
        cases creating
      · cases inserting
    · exact absurd gone tracked

/-- **Soundness is kept by every move**, if entries are removed as missing only when
their row is no longer pending. -/
theorem after (removes : ledger.RemovesLeft move) :
    (ledger.after move).Sound where
  known := sound.known_after allowed
  written := Written.after sound.written move
  pursued := by
    intro update member
    rcases mem_updates_after member with before | ⟨emission, rfl, rfl⟩
    · exact sound.accounted_after allowed removes (sound.pursued update before)
    · exact sound.accounted_after allowed removes (sound.heeded emission allowed)
  heeded := by
    intro emission member
    rcases mem_current_after member with before | rfl
    · exact sound.accounted_after allowed removes (sound.heeded emission before)
    · exact sound.accounted_after allowed removes (.inr allowed.2.2)
  confirmed := by
    intro proofId member
    rcases mem_answered_after member with before | ⟨update, rfl, rfl⟩
    · exact (sound.confirmed proofId before).after allowed
    · exact sound.left_of_served allowed
  untracked := sound.untracked_after allowed

omit allowed in
theorem forgets (forgets : ledger.Forgets later) : later.Sound where
  known := by
    intro proofId worked
    rw [forgets.row]
    unfold Tracked at worked
    rw [forgets.entry, forgets.inserting] at worked
    refine sound.known proofId ?_
    rcases worked with tracked | listed | creating | inserting
    · exact .inl tracked
    · exact .inr (.inl (forgets.listed listed))
    · exact .inr (.inr (.inl (forgets.creating proofId creating)))
    · exact .inr (.inr (.inr inserting))
  written := Written.forgets sound.written forgets
  pursued := fun update member =>
    (forgets.accounted _).mpr (sound.pursued update (forgets.updates member))
  heeded := by
    rw [forgets.current]
    exact fun emission member => (forgets.accounted _).mpr (sound.heeded emission member)
  confirmed := fun proofId member =>
    (forgets.left _).mpr (sound.confirmed proofId (forgets.answered member))
  untracked := by
    intro proofId busy tracked
    rw [forgets.inserting] at busy
    refine (forgets.left _).mpr (sound.untracked proofId ?_ ((forgets.tracked _).mp tracked))
    exact busy.imp_left (forgets.creating proofId)

end Sound

/-! ## No result is lost -/

/-- No result is looked up while the claimer has created its proof and not tracked it
yet. -/
def Attends (ledger : Ledger) (move : Move) : Prop :=
  ∀ emission ∈ move.lookedUp, emission.id ∉ ledger.inserting

/-- A result of the claimer's that has been dealt with is in its row or in a stored
write. Until then its proof is accounted for, or about to be tracked. -/
structure Kept (ledger : Ledger) : Prop where
  owned : ∀ proofId ∈ ledger.owned, ledger.Accounted proofId ∨ proofId ∈ ledger.inserting
  waiting : ∀ emission ∈ ledger.waiting, emission.claimed →
    ledger.Accounted emission.id ∨ emission.id ∈ ledger.inserting
  settled : ∀ emission ∈ ledger.settled, emission.claimed →
    ledger.Left emission.id ∨ ledger.Stored emission.id

namespace Kept

variable (sound : ledger.Sound) (allowed : ledger.Allows move) (removes : ledger.RemovesLeft move)
include sound allowed removes

theorem expected_after
    (expected : ledger.Accounted proofId ∨ proofId ∈ ledger.inserting) :
    (ledger.after move).Accounted proofId ∨ proofId ∈ (ledger.after move).inserting := by
  rcases expected with accounted | inserting
  · exact .inl (sound.accounted_after allowed removes accounted)
  · rcases inserting_after allowed inserting with still | rfl
    · exact .inr still
    · refine .inl (.inr ?_)
      unfold Tracked after setEntry
      simp

/-- A stored write stays stored until the row has left `Pending`. -/
theorem stored_after (stored : ledger.Stored proofId) :
    (ledger.after move).Left proofId ∨ (ledger.after move).Stored proofId := by
  rcases entry_after ledger move proofId with
    same | ⟨emission, _, _, found⟩ | ⟨rfl, _⟩ | ⟨rfl | rfl, _⟩
  · right
    unfold Stored
    rwa [same]
  · exact .inr ⟨emission.update, found⟩
  · exact .inl ((sound.untracked proofId (.inr allowed.1) stored.tracked).after allowed)
  · exact .inl ((sound.confirmed proofId allowed.1).after allowed)
  · exact .inl ((removes proofId rfl).after allowed)

/-- **No result is lost by a move**, if results are looked up only when the claimer is
not about to track their proof. -/
theorem after (kept : ledger.Kept) (attends : ledger.Attends move) : (ledger.after move).Kept where
  owned := by
    intro proofId member
    rcases mem_owned_after member with before | rfl
    · exact expected_after sound allowed removes (kept.owned proofId before)
    · exact .inr rfl
  waiting := by
    intro emission member claimed
    rcases mem_waiting_after member with before | ⟨emissions, rfl, added⟩
    · exact expected_after sound allowed removes (kept.waiting emission before claimed)
    · exact expected_after sound allowed removes
        (kept.owned emission.id (allowed emission added claimed))
  settled := by
    intro emission member claimed
    rcases mem_settled_after member with before | rfl | rfl
    · rcases kept.settled emission before claimed with left | stored
      · exact .inl (left.after allowed)
      · exact stored_after sound allowed removes stored
    · left
      have head : emission ∈ ledger.waiting := List.mem_of_mem_head? allowed.1
      rcases kept.waiting emission head claimed with (left | tracked) | inserting
      · exact left.after allowed
      · exact absurd tracked allowed.2.2
      · exact absurd inserting (attends emission rfl)
    · exact .inr ⟨emission.update, Function.update_self _ _ _⟩

omit sound allowed removes in
theorem forgets (kept : ledger.Kept) (forgets : ledger.Forgets later) : later.Kept where
  owned := by
    rw [forgets.inserting]
    exact fun proofId member => (kept.owned proofId (forgets.owned member)).imp_left
      (forgets.accounted _).mpr
  waiting := by
    rw [forgets.inserting, forgets.waiting]
    exact fun emission member claimed => (kept.waiting emission member claimed).imp_left
      (forgets.accounted _).mpr
  settled := by
    rw [forgets.settled]
    exact fun emission member claimed => (kept.settled emission member claimed).imp
      (forgets.left _).mpr (forgets.stored _).mpr

end Kept

/-! ## The first result wins -/

/-- No result is looked up while the write of another one is stored, unless the row is
no longer pending. -/
def Unrivalled (ledger : Ledger) (move : Move) : Prop :=
  ∀ emission ∈ move.lookedUp, ledger.Stored emission.id → ledger.Left emission.id

theorem emitted_after (allowed : ledger.Allows move) :
    (ledger.after move).emitted = ledger.emitted ∨
      ∃ emissions, move = .emit emissions ∧
        (ledger.after move).emitted = ledger.emitted ++ emissions := by
  cases move with
  | emit emissions => exact .inr ⟨emissions, rfl, by simp [emitted, after]⟩
  | ignore emission | heed emission =>
    obtain ⟨head, free, _⟩ := allowed
    obtain ⟨rest, queue⟩ := List.head?_eq_some_iff.mp head
    exact .inl (by simp [emitted, after, free, queue])
  | record emission =>
    have held : ledger.current = some emission := allowed
    exact .inl (by simp [emitted, after, setEntry, held])
  | _ => exact .inl rfl

theorem first_after (allowed : ledger.Allows move) (proofId : String) :
    (ledger.after move).first proofId = ledger.first proofId ∨
      (ledger.first proofId = none ∧ ∃ emissions, move = .emit emissions ∧
        ∀ emission ∈ (ledger.after move).first proofId,
          emission ∈ emissions ∧ emission.id = proofId) := by
  unfold first
  rcases emitted_after allowed with same | ⟨emissions, rfl, grown⟩
  · rw [same]
    exact .inl rfl
  · rw [grown, List.find?_append]
    cases found : ledger.emitted.find? fun emission => emission.id = proofId with
    | some emission => exact .inl rfl
    | none =>
      refine .inr ⟨rfl, emissions, rfl, ?_⟩
      intro emission member
      have same := List.find?_some (Option.mem_def.mp member)
      exact ⟨List.mem_of_find?_eq_some member, by simpa using same⟩

theorem first_ne_none (member : emission ∈ ledger.emitted) : ledger.first emission.id ≠ none := by
  intro missing
  have other := List.find?_eq_none.mp missing emission member
  simp at other

theorem first_of_after (allowed : ledger.Allows move) {first : Emission}
    (member : emission ∈ ledger.emitted)
    (found : (ledger.after move).first emission.id = some first) :
    ledger.first emission.id = some first := by
  rcases first_after allowed emission.id with same | ⟨missing, _⟩
  · rw [← same, found]
  · exact absurd missing (first_ne_none member)

theorem mem_emitted_of_settled (member : emission ∈ ledger.settled) : emission ∈ ledger.emitted :=
  List.mem_append_left _ (List.mem_append_left _ member)

theorem mem_emitted_of_current (member : emission ∈ ledger.current) : emission ∈ ledger.emitted :=
  List.mem_append_left _ (List.mem_append_right _ (Option.mem_toList.mpr member))

/-- The row of a proof shows nothing, or that it was cancelled, or its first result. Until
the row has left `Pending`, the writes that may be served are those of the first
result. -/
structure FirstWins (ledger : Ledger) : Prop where
  fresh : ∀ proofId, (proofId ∈ ledger.listed ∨ proofId ∈ ledger.creating ∨
    proofId ∈ ledger.inserting ∨ proofId ∈ ledger.owned) → ledger.first proofId = none →
      ledger.row proofId = some .pending ∨ ledger.row proofId = some .cancelled
  heeded : ∀ emission ∈ ledger.current, ∀ first, ledger.first emission.id = some first →
    first.claimed → ledger.Left emission.id ∨ first = emission
  pursued : ∀ update ∈ ledger.updates, ∀ first, ledger.first update.proofId = some first →
    first.claimed → ledger.Left update.proofId ∨ first.update = update
  shown : ∀ proofId first, ledger.first proofId = some first → first.claimed →
    ledger.row proofId = some .pending ∨ ledger.row proofId = some .cancelled ∨
      ledger.row proofId = some first.result.proofStatus

namespace FirstWins

theorem fresh_after (wins : ledger.FirstWins) (sound : ledger.Sound)
    (allowed : ledger.Allows move) (proofId : String)
    (worked : proofId ∈ (ledger.after move).listed ∨ proofId ∈ (ledger.after move).creating ∨
      proofId ∈ (ledger.after move).inserting ∨ proofId ∈ (ledger.after move).owned)
    (unsent : (ledger.after move).first proofId = none) :
    (ledger.after move).row proofId = some .pending ∨
      (ledger.after move).row proofId = some .cancelled := by
  have before : ledger.first proofId = none := by
    rcases first_after allowed proofId with same | ⟨missing, _⟩
    · rw [← same, unsent]
    · exact missing
  have untouched : ledger.row proofId = some .pending ∨ ledger.row proofId = some .cancelled := by
    rcases worked with listed | creating | inserting | owned
    · rcases mem_listed_after listed with known | ⟨proofIds, rfl, member⟩
      · exact wins.fresh proofId (.inl known) before
      · exact .inl (allowed proofId member)
    · rcases mem_creating_after creating with known | rfl
      · exact wins.fresh proofId (.inr (.inl known)) before
      · exact wins.fresh proofId (.inl allowed.1) before
    · rcases mem_inserting_after inserting with known | rfl
      · exact wins.fresh proofId (.inr (.inr (.inl known))) before
      · exact wins.fresh proofId (.inr (.inl allowed.1)) before
    · rcases mem_owned_after owned with known | rfl
      · exact wins.fresh proofId (.inr (.inr (.inr known))) before
      · exact wins.fresh proofId (.inr (.inl allowed.1)) before
  rcases row_after allowed proofId with
    same | ⟨_, opened⟩ | ⟨_, cancelled⟩ | ⟨update, member, rfl, _, _⟩
  · rwa [same]
  · exact .inl opened
  · exact .inr cancelled
  · -- A write is about a result that was sent.
    obtain ⟨emission, settled, rfl⟩ := sound.written update member
    exact absurd before (first_ne_none (mem_emitted_of_settled settled))

theorem heed (kept : ledger.Kept) {first : Emission} (allowed : ledger.Allows (.heed emission))
    (unrivalled : ledger.Unrivalled (.heed emission))
    (found : ledger.first emission.id = some first) (claimed : first.claimed) :
    ledger.Left emission.id ∨ first = emission := by
  by_cases left : ledger.Left emission.id
  · exact .inl left
  · right
    obtain ⟨head, free, _⟩ := allowed
    obtain ⟨rest, queue⟩ := List.head?_eq_some_iff.mp head
    unfold Ledger.first emitted at found
    rw [free, queue, List.append_assoc, List.find?_append] at found
    cases settled : ledger.settled.find? fun earlier => earlier.id = emission.id with
    | none =>
      rw [settled] at found
      simpa using found.symm
    | some earlier =>
      rw [settled] at found
      cases found
      have same : first.id = emission.id := by simpa using List.find?_some settled
      rcases kept.settled first (List.mem_of_find?_eq_some settled) claimed with gone | stored
      · exact absurd (same ▸ gone) left
      · exact absurd (unrivalled emission rfl (same ▸ stored)) left

theorem shown_after (wins : ledger.FirstWins) (allowed : ledger.Allows move) (proofId : String)
    (first : Emission) (found : (ledger.after move).first proofId = some first)
    (claimed : first.claimed) :
    (ledger.after move).row proofId = some .pending ∨
      (ledger.after move).row proofId = some .cancelled ∨
        (ledger.after move).row proofId = some first.result.proofStatus := by
  rcases first_after allowed proofId with same | ⟨missing, emissions, rfl, sent⟩
  · rw [same] at found
    have before := wins.shown proofId first found claimed
    rcases row_after allowed proofId with
      kept | ⟨_, opened⟩ | ⟨_, cancelled⟩ | ⟨update, member, rfl, pending, served⟩
    · rwa [kept]
    · exact .inl opened
    · exact .inr (.inl cancelled)
    · rcases wins.pursued update member first found claimed with left | own
      · exact absurd left (not_left_iff.mpr (.inr pending))
      · right
        right
        rw [served, ← own]
        rfl
  · -- The first result has just been sent, and the claimer created its proof.
    obtain ⟨added, rfl⟩ := sent first found
    have owned : first.id ∈ ledger.owned := allowed first added claimed
    rcases wins.fresh first.id (.inr (.inr (.inr owned))) missing with pending | cancelled
    · exact .inl pending
    · exact .inr (.inl cancelled)

/-- **The first result wins under every move**, if moreover no result is looked up
while the write of another one is stored. -/
theorem after (wins : ledger.FirstWins) (kept : ledger.Kept) (sound : ledger.Sound)
    (allowed : ledger.Allows move) (unrivalled : ledger.Unrivalled move) :
    (ledger.after move).FirstWins where
  fresh := wins.fresh_after sound allowed
  heeded := by
    intro emission member first found claimed
    rcases mem_current_after member with before | rfl
    · have known := first_of_after allowed (mem_emitted_of_current before) found
      exact (wins.heeded emission before first known claimed).imp_left (·.after allowed)
    · have head : emission ∈ ledger.waiting := List.mem_of_mem_head? allowed.1
      have known := first_of_after allowed (List.mem_append_right _ head) found
      exact (heed kept allowed unrivalled known claimed).imp_left (·.after allowed)
  pursued := by
    intro update member first found claimed
    rcases mem_updates_after member with before | ⟨emission, rfl, rfl⟩
    · obtain ⟨emission, settled, rfl⟩ := sound.written update before
      have known := first_of_after allowed (mem_emitted_of_settled settled) found
      exact (wins.pursued _ before first known claimed).imp_left (·.after allowed)
    · have known := first_of_after allowed (mem_emitted_of_current allowed) found
      rcases wins.heeded emission allowed first known claimed with left | rfl
      · exact .inl (left.after allowed)
      · exact .inr rfl
  shown := wins.shown_after allowed

theorem forgets (wins : ledger.FirstWins) (forgets : ledger.Forgets later) :
    later.FirstWins where
  fresh := by
    intro proofId worked
    rw [forgets.inserting] at worked
    rw [forgets.first, forgets.row]
    refine wins.fresh proofId ?_
    rcases worked with listed | creating | inserting | owned
    · exact .inl (forgets.listed listed)
    · exact .inr (.inl (forgets.creating proofId creating))
    · exact .inr (.inr (.inl inserting))
    · exact .inr (.inr (.inr (forgets.owned owned)))
  heeded := by
    rw [forgets.current]
    intro emission member first
    rw [forgets.first, forgets.left]
    exact wins.heeded emission member first
  pursued := by
    intro update member first
    rw [forgets.first, forgets.left]
    exact wins.pursued update (forgets.updates member) first
  shown := by
    intro proofId first
    rw [forgets.first, forgets.row]
    exact wins.shown proofId first

end FirstWins

/-! ## Finished proofs are not claimed again -/

/-- No entry is dropped while the claimer still has to come to the row of its
proof. -/
def DropsVisited (ledger : Ledger) (move : Move) : Prop :=
  ∀ proofId ∈ move.dropped, proofId ∉ ledger.listed

/-- A finished proof of the listing is tracked, and the proof the claimer is about to
create is not finished. -/
structure Unclaimed (ledger : Ledger) : Prop where
  listed : ∀ proofId ∈ ledger.listed, ledger.Finished proofId → ledger.Tracked proofId
  creating : ∀ proofId ∈ ledger.creating, ¬ ledger.Finished proofId

namespace Unclaimed

theorem finished_of_after (allowed : ledger.Allows move)
    (finished : (ledger.after move).Finished proofId) :
    ledger.Finished proofId ∨ (ledger.row proofId = some .pending ∧
      ∃ update ∈ ledger.updates, update.proofId = proofId) := by
  rcases row_after allowed proofId with
    same | ⟨_, opened⟩ | ⟨_, cancelled⟩ | ⟨update, member, own, pending, _⟩
  · unfold Finished at finished
    rw [same] at finished
    exact .inl finished
  · unfold Finished at finished
    rw [opened] at finished
    simp at finished
  · unfold Finished at finished
    rw [cancelled] at finished
    simp at finished
  · exact .inr ⟨pending, update, member, own⟩

/-- A proof with a write that may be served is tracked while its row is pending. -/
theorem tracked_of_pending (sound : ledger.Sound) (member : update ∈ ledger.updates)
    (pending : ledger.row update.proofId = some .pending) : ledger.Tracked update.proofId :=
  (sound.pursued update member).resolve_left (not_left_iff.mpr (.inr pending))

/-- **Finished proofs are not claimed under any move**, if no entry is dropped while
the claimer still has to come to its row. -/
theorem after (unclaimed : ledger.Unclaimed) (sound : ledger.Sound)
    (allowed : ledger.Allows move) (drops : ledger.DropsVisited move) :
    (ledger.after move).Unclaimed where
  listed := by
    intro proofId member finished
    have before := finished_of_after allowed finished
    rcases mem_listed_after member with listed | ⟨proofIds, rfl, added⟩
    · have tracked : ledger.Tracked proofId := by
        rcases before with finished | ⟨pending, update, outstanding, rfl⟩
        · exact unclaimed.listed proofId listed finished
        · exact tracked_of_pending sound outstanding pending
      rcases entry_after ledger move proofId with
        same | ⟨_, _, _, stored⟩ | ⟨_, stored⟩ | ⟨rfl | rfl, _⟩
      · unfold Tracked
        rwa [same]
      · simp [Tracked, stored]
      · simp [Tracked, stored]
      · exact absurd listed (drops proofId rfl)
      · rw [allowed.2] at listed
        exact absurd listed (Set.notMem_empty proofId)
    · have pending : ledger.row proofId = some .pending := allowed proofId added
      change ledger.Finished proofId at finished
      unfold Finished at finished
      rw [pending] at finished
      simp at finished
  creating := by
    intro proofId member finished
    have before := finished_of_after allowed finished
    rcases mem_creating_after member with creating | rfl
    · rcases before with finished | ⟨pending, update, outstanding, rfl⟩
      · exact unclaimed.creating proofId creating finished
      · have tracked := tracked_of_pending sound outstanding pending
        exact not_left_iff.mpr (.inr pending) (sound.untracked _ (.inl creating) tracked)
    · exact allowed.2 (unclaimed.listed proofId allowed.1 finished)

theorem forgets (unclaimed : ledger.Unclaimed) (forgets : ledger.Forgets later) :
    later.Unclaimed where
  listed := by
    intro proofId member
    rw [forgets.finished, forgets.tracked]
    exact unclaimed.listed proofId (forgets.listed member)
  creating := by
    intro proofId member
    rw [forgets.finished]
    exact unclaimed.creating proofId (forgets.creating proofId member)

end Unclaimed

end Ledger

end Sp1Cluster
