import Sp1Cluster.Cluster.Bookkeeping
import Sp1Cluster.Coordinator.Policy.Laws

/-!
# Results and rows

What the cluster does with the results of claimed proofs, over all runs from a new
coordinator before any table of rows.

Results are kept, the first one wins and finished proofs are not claimed again in the runs
whose steps meet a condition. Each is followed by a run that does not meet it.

* A result may be looked up after `create_proof` has returned and before the claimer
  has tracked the proof; it is then dropped (`early_result_dropped`).
* A result may be looked up while the write of an earlier one is still to be
  re-issued; it then takes its place (`later_result_wins`).
* A write may land after a listing has been read and before the claimer comes to the
  row; the entry that would stop the claimer is then gone (`finished_proof_claimed`).

Without any condition, the cluster refines the ledger (`cluster_refines_ledger`) and a row
shows no result that was not sent (`rows_show_sent_results`).
-/

set_option autoImplicit false

namespace Sp1Cluster

open Systems

namespace Cluster

variable {P : Type} {cluster : Cluster P} {event : ClusterEvent} {move : Ledger.Move}

/-! ## Conditions on a step -/

variable (cluster event)

/-- A tracked proof is removed as missing only when its row is no longer pending. -/
abbrev RemovesLeft : Prop :=
  ∀ proofId ∈ cluster.removes event, cluster.rows.Left proofId

/-- No result is looked up while the claimer has created its proof and not tracked it
yet. -/
abbrev Attends : Prop :=
  ∀ emission ∈ cluster.looksUp event, cluster.claimer.created ≠ some emission.id

/-- No result is looked up while a write is stored for its proof, unless the row is no
longer pending. -/
abbrev Unrivalled : Prop :=
  ∀ emission ∈ cluster.looksUp event,
    (cluster.taskMap.lookup emission.id).any TaskState.isTerminal = true →
      cluster.rows.Left emission.id

/-- No entry is dropped while the claimer still has to come to the row of its
proof. -/
abbrev DropsVisited : Prop :=
  ∀ proofId ∈ cluster.drops event, proofId ∉ cluster.claimer.listed.map (·.id)

/-- The condition under which no result is lost. -/
abbrev Prompt : Prop :=
  cluster.RemovesLeft event ∧ cluster.Attends event

/-- The condition under which the first result wins. -/
abbrev Orderly : Prop :=
  cluster.Prompt event ∧ cluster.Unrivalled event

/-- The condition under which finished proofs are not claimed. -/
abbrev Patient : Prop :=
  cluster.RemovesLeft event ∧ cluster.DropsVisited event

variable {cluster event}

namespace Explains

variable {next : Cluster P}

variable (explains : cluster.Explains event next move)
include explains

theorem removesLeft (removes : cluster.RemovesLeft event) : cluster.ledger.RemovesLeft move :=
  fun proofId member => removes proofId (explains.removes proofId member)

theorem attends (attends : cluster.Attends event) : cluster.ledger.Attends move :=
  fun emission member => attends emission (explains.looksUp emission member)

theorem unrivalled (unrivalled : cluster.Unrivalled event) : cluster.ledger.Unrivalled move := by
  rintro emission member ⟨update, stored⟩
  refine unrivalled emission (explains.looksUp emission member) ?_
  have found : cluster.taskMap.lookup emission.id = some (.terminal update) := stored
  rw [found]
  rfl

theorem dropsVisited (drops : cluster.DropsVisited event) : cluster.ledger.DropsVisited move := by
  rintro proofId member ⟨proof, listed, rfl⟩
  exact drops proof.id (explains.drops proof.id member) (List.mem_map_of_mem listed)

end Explains

/-! ## Runs -/

/-- The rows have their keys and the ledger is sound. -/
structure Booked (cluster : Cluster P) : Prop where
  keyed : cluster.rows.Keyed
  sound : cluster.ledger.Sound

theorem rows_reply (cluster : Cluster P) (request : WriteRequest) :
    (cluster.reply request).rows = cluster.rows := by
  rcases cluster.reply_cases request with same | ⟨_, _, _, replied⟩ | replied
  · rw [same]
  · rw [replied]
  · rw [replied]
    rfl

theorem rows_statusTurn (cluster : Cluster P) (turn : StatusTurn) :
    (cluster.statusTurn turn).rows = cluster.rows := by
  unfold statusTurn dropTerminal
  dsimp only
  repeat' split
  all_goals rfl

theorem rows_reissueTurn (cluster : Cluster P) (proofId : String) (turn : ReissueTurn) :
    (cluster.reissueTurn proofId turn).rows = cluster.rows := by
  unfold reissueTurn dropTerminal
  repeat' split
  all_goals rfl

section Steps

variable [AssignmentPolicy P]

theorem rows_claimerTurn (cluster : Cluster P) (deployment : Deployment) (turn : ClaimerTurn) :
    (cluster.claimerTurn deployment turn).rows = cluster.rows := by
  unfold claimerTurn page claimNext create confirmRead removePending reissueLostStatusWrite
  dsimp only
  repeat' split
  all_goals rfl

theorem keyed_step (deployment : Deployment) (keyed : cluster.rows.Keyed) :
    (cluster.step deployment event).rows.Keyed := by
  cases event with
  | call event => exact keyed
  | send index =>
    change (cluster.send index).rows.Keyed
    unfold send
    split <;> exact keyed
  | api call =>
    cases call with
    | create request now => exact keyed.create request now
    | cancel proofId => exact keyed.cancel proofId
    | update update => exact keyed.update _
  | serve index answered =>
    change (cluster.serve index answered).rows.Keyed
    unfold serve
    split
    · exact keyed
    · dsimp only
      split
      · rw [rows_reply]
        exact keyed.update _
      · exact keyed.update _
  | status turn =>
    change (cluster.statusTurn turn).rows.Keyed
    rwa [rows_statusTurn]
  | reissue proofId turn =>
    change (cluster.reissueTurn proofId turn).rows.Keyed
    rwa [rows_reissueTurn]
  | claimer turn =>
    change (cluster.claimerTurn deployment turn).rows.Keyed
    rwa [rows_claimerTurn]

end Steps

section Runs

variable [LawfulPolicy P] {deployment : Deployment} {rows : Rows} {events : List ClusterEvent}

theorem Booked.step (booked : cluster.Booked) (removes : cluster.RemovesLeft event) :
    (cluster.step deployment event).Booked := by
  obtain ⟨move, explains⟩ := explains_step booked.keyed booked.sound.written deployment event
  exact ⟨keyed_step deployment booked.keyed,
    (booked.sound.after explains.allowed (explains.removesLeft removes)).forgets explains.forgets⟩

/-! ### The start -/

theorem not_outstanding_start {update : ProofRequestUpdateRequest} :
    ¬ (start rows : Cluster P).Outstanding update := by
  rintro (⟨_, member, _⟩ | ⟨_, phase, _⟩ | ⟨_, found⟩ | member | ⟨_, found⟩)
  · cases member
  · cases phase
  · cases found
  · cases member
  · cases found

theorem not_confirmed_start {proofId : String} : ¬ (start rows : Cluster P).Confirmed proofId := by
  rintro (⟨_, phase, _⟩ | ⟨_, _, found, _⟩)
  · cases phase
  · cases found

theorem not_owned_start {proofId : String} :
    proofId ∉ (start rows : Cluster P).ledger.owned := by
  rintro (claimed | ⟨_, member, _⟩)
  · cases claimed
  · cases member

theorem not_listed_start {proofId : String} :
    proofId ∉ (start rows : Cluster P).ledger.listed := by
  rintro ⟨_, member, _⟩
  cases member

theorem start_booked (keyed : rows.Keyed) : (start rows : Cluster P).Booked where
  keyed := keyed
  sound :=
    { known := by
        rintro proofId (tracked | listed | creating | inserting)
        · exact absurd rfl tracked
        · exact absurd listed not_listed_start
        · cases creating
        · cases inserting
      written := fun _ outstanding => absurd outstanding not_outstanding_start
      pursued := fun _ outstanding => absurd outstanding not_outstanding_start
      heeded := fun _ member => absurd member (Option.not_mem_none _)
      confirmed := fun _ confirmed => absurd confirmed not_confirmed_start
      untracked := fun _ _ tracked => absurd rfl tracked }

theorem start_kept : (start rows : Cluster P).ledger.Kept where
  owned := fun _ owned => absurd owned not_owned_start
  waiting := fun _ member => absurd member List.not_mem_nil
  settled := fun _ member => absurd member List.not_mem_nil

theorem start_firstWins : (start rows : Cluster P).ledger.FirstWins where
  fresh := by
    rintro proofId (listed | creating | inserting | owned)
    · exact absurd listed not_listed_start
    · cases creating
    · cases inserting
    · exact absurd owned not_owned_start
  heeded := fun _ member => absurd member (Option.not_mem_none _)
  pursued := fun _ outstanding => absurd outstanding not_outstanding_start
  shown := fun _ _ found => nomatch found

theorem start_unclaimed : (start rows : Cluster P).ledger.Unclaimed where
  listed := fun _ listed => absurd listed not_listed_start
  creating := fun _ member => absurd member (Option.not_mem_none _)

/-! ### What a run keeps -/

theorem reach_kept (keyed : rows.Keyed)
    (met : Along (step deployment) (start rows : Cluster P) Prompt events) :
    (reach P deployment rows events).Booked ∧ (reach P deployment rows events).ledger.Kept := by
  refine run_invariant (fun _ cluster => cluster.Booked ∧ cluster.ledger.Kept)
    ⟨start_booked keyed, start_kept⟩ ?_ met
  rintro past cluster event ⟨booked, kept⟩ ⟨removes, attends⟩
  obtain ⟨move, explains⟩ := explains_step booked.keyed booked.sound.written deployment event
  refine ⟨booked.step removes, Ledger.Kept.forgets ?_ explains.forgets⟩
  exact kept.after booked.sound explains.allowed (explains.removesLeft removes)
    (explains.attends attends)

theorem reach_firstWins (keyed : rows.Keyed)
    (met : Along (step deployment) (start rows : Cluster P) Orderly events) :
    (reach P deployment rows events).ledger.FirstWins := by
  have all := run_invariant (fun _ cluster => (cluster.Booked ∧ cluster.ledger.Kept) ∧
    cluster.ledger.FirstWins) ⟨⟨start_booked keyed, start_kept⟩, start_firstWins⟩ ?_ met
  · exact all.2
  rintro past cluster event ⟨⟨booked, kept⟩, wins⟩ ⟨⟨removes, attends⟩, unrivalled⟩
  obtain ⟨move, explains⟩ := explains_step booked.keyed booked.sound.written deployment event
  refine ⟨⟨booked.step removes, Ledger.Kept.forgets ?_ explains.forgets⟩,
    Ledger.FirstWins.forgets ?_ explains.forgets⟩
  · exact kept.after booked.sound explains.allowed (explains.removesLeft removes)
      (explains.attends attends)
  · exact wins.after kept booked.sound explains.allowed (explains.unrivalled unrivalled)

theorem reach_unclaimed (keyed : rows.Keyed)
    (met : Along (step deployment) (start rows : Cluster P) Patient events) :
    (reach P deployment rows events).ledger.Unclaimed := by
  have all := run_invariant (fun _ cluster => cluster.Booked ∧ cluster.ledger.Unclaimed)
    ⟨start_booked keyed, start_unclaimed⟩ ?_ met
  · exact all.2
  rintro past cluster event ⟨booked, unclaimed⟩ ⟨removes, drops⟩
  obtain ⟨move, explains⟩ := explains_step booked.keyed booked.sound.written deployment event
  refine ⟨booked.step removes, Ledger.Unclaimed.forgets ?_ explains.forgets⟩
  exact unclaimed.after booked.sound explains.allowed (explains.dropsVisited drops)

end Runs

/-! ## Results are kept -/

/-- Every result about a proof of the claimer's that the status task has processed is
in the row of the proof, or in a stored write. -/
def KeepsResults (cluster : Cluster P) : Prop :=
  ∀ emission ∈ cluster.processed, emission.claimed = true →
    cluster.rows.Left emission.id ∨
      ∃ update, cluster.taskMap.lookup emission.id = some (.terminal update)

theorem keepsResults_of_kept (kept : cluster.ledger.Kept) : cluster.KeepsResults :=
  fun emission member claimed => kept.settled emission (List.mem_append_left _ member) claimed

/-! ## The first result wins -/

/-- The results the coordinator has sent, in the order of the channel. -/
def emitted (cluster : Cluster P) : List Emission :=
  cluster.processed ++ cluster.status.settled ++ cluster.status.current.toList ++
    (cluster.status.waiting ++ cluster.results)

/-- If the first result about a proof is about a proof of the claimer's, then the row
shows that result once it is not pending any more, unless it was cancelled. -/
def ShowsFirst (cluster : Cluster P) : Prop :=
  ∀ proofId first, cluster.emitted.find? (fun emission => emission.id = proofId) = some first →
    first.claimed = true → cluster.rows.status proofId ≠ some .cancelled →
      cluster.rows.Left proofId → cluster.rows.status proofId = some first.result.proofStatus

theorem showsFirst_of_firstWins (wins : cluster.ledger.FirstWins) : cluster.ShowsFirst := by
  intro proofId first found claimed uncancelled left
  rcases wins.shown proofId first found claimed with pending | cancelled | shown
  · obtain ⟨status, stored, advanced⟩ := left
    have same : some status = some .pending := stored.symm.trans pending
    exact absurd (Option.some.inj same) advanced
  · exact absurd cancelled uncancelled
  · exact shown

/-! ## Finished proofs are not claimed -/

/-- The proof that the claimer calls `create_proof` for. -/
def creates (cluster : Cluster P) : ClusterEvent → Option String
  | .claimer (.create _) => cluster.claimer.beingCreated
  | _ => none

/-- A proof that the claimer creates has no accepted result. -/
def ClaimsUnfinished (cluster : Cluster P) (event : ClusterEvent) : Prop :=
  ∀ proofId ∈ cluster.creates event, cluster.rows.status proofId ≠ some .completed ∧
    cluster.rows.status proofId ≠ some .failed

theorem claimsUnfinished_of_unclaimed (unclaimed : cluster.ledger.Unclaimed)
    (event : ClusterEvent) : cluster.ClaimsUnfinished event := by
  intro proofId member
  have creating : proofId ∈ cluster.claimer.beingCreated := by
    unfold creates at member
    split at member
    · exact member
    · cases member
  have unfinished := unclaimed.creating proofId creating
  exact ⟨fun completed => unfinished (.inl completed), fun failed => unfinished (.inr failed)⟩

theorem along_claimsUnfinished [LawfulPolicy P] {deployment : Deployment} {rows : Rows}
    {events : List ClusterEvent} (keyed : rows.Keyed)
    (met : Along (step deployment) (start rows : Cluster P) Patient events) :
    Along (step deployment) (start rows : Cluster P) ClaimsUnfinished events := by
  rintro past event future rfl
  exact claimsUnfinished_of_unclaimed (reach_unclaimed keyed met.of_append) event

end Cluster

/-! ## The theorems -/

/-- **No result of a claimed proof is lost**, if results are looked up only when the
claimer is not between creating their proof and tracking it, and proofs are removed as
missing only when their row is no longer pending. -/
theorem claimed_results_kept (deployment : Deployment) (rows : Rows) (keyed : rows.Keyed)
    (events : List ClusterEvent) :
    (Along (Cluster.step (P := DefaultPolicy) deployment) (.start rows) Cluster.Prompt events →
        (Cluster.reach DefaultPolicy deployment rows events).KeepsResults) ∧
      (Along (Cluster.step (P := BalancedPolicy) deployment) (.start rows) Cluster.Prompt events →
        (Cluster.reach BalancedPolicy deployment rows events).KeepsResults) :=
  ⟨fun met => Cluster.keepsResults_of_kept (Cluster.reach_kept keyed met).2,
    fun met => Cluster.keepsResults_of_kept (Cluster.reach_kept keyed met).2⟩

/-! ### Runs on one row -/

/-- A pending row with all that a claim needs. -/
def pendingRow : DbProofRequest where
  id := "p"
  proofStatus := .pending
  requester := []
  execution := none
  stdinArtifactId := "stdin"
  programArtifactId := "program"
  proofArtifactId := some "proof"
  optionsArtifactId := some "options"
  cycleLimit := some 1
  gasLimit := none
  deadline := 10
  handled := false
  metadata := "null"
  createdAt := 0
  updatedAt := 0
  extraData := none
  scheduledBy := none
  stdinPrivate := false

def oneRow : Rows := AList.insert "p" pendingRow ∅

theorem oneRow_keyed : oneRow.Keyed := by
  have none : Rows.Keyed ∅ := fun _ _ found => nomatch found
  exact none.insert rfl

def Deployment.plain : Deployment := ⟨.plain, fun _ => some ""⟩

/-- The claimer lists the row and creates its proof. -/
def createP : List ClusterEvent :=
  [.call (Call.setProofsTx.plain ""), .claimer (.list 1), .claimer .page, .claimer .next,
    .claimer (.create (.plain 1000000000 "t"))]

/-- The status task takes up the next result. -/
def heedNext : List ClusterEvent :=
  [.status .receive, .status .lookup, .status .record, .status .attempt]

/-- The proof is created, tracked and completed, and the write of its result is sent. -/
def completeP : List ClusterEvent :=
  createP ++ [.claimer .insert, .call ((Call.completeProof "p" none).plain ""), .send 0] ++ heedNext

/-- The status task gives up, the row is still pending and the write is stored. -/
theorem claimed_results_kept_completeP :
    Along (Cluster.step (P := DefaultPolicy) .plain) (.start oneRow) Cluster.Prompt
        (completeP ++ [.status .giveUp]) ∧
      (Cluster.reach DefaultPolicy .plain oneRow (completeP ++ [.status .giveUp])).processed =
        [⟨⟨"p", true, none⟩, true⟩] ∧
      (Cluster.reach DefaultPolicy .plain oneRow
        (completeP ++ [.status .giveUp])).rows.status "p" = some .pending ∧
      (Cluster.reach DefaultPolicy .plain oneRow
        (completeP ++ [.status .giveUp])).KeepsResults := by
  have met : Along (Cluster.step (P := DefaultPolicy) .plain) (.start oneRow) Cluster.Prompt
      (completeP ++ [.status .giveUp]) := by decide
  exact ⟨met, by decide, by decide, (claimed_results_kept .plain oneRow oneRow_keyed _).1 met⟩

/-- The proof is completed before the claimer has tracked it. -/
def completeEarly : List ClusterEvent :=
  createP ++ [.call ((Call.completeProof "p" none).plain ""), .send 0, .status .receive,
    .status .lookup, .claimer .insert]

/-- The result is dropped: the row is pending, and the proof is tracked as running. -/
theorem early_result_dropped :
    (Cluster.reach DefaultPolicy .plain oneRow completeEarly).processed =
        [⟨⟨"p", true, none⟩, true⟩] ∧
      (Cluster.reach DefaultPolicy .plain oneRow completeEarly).rows.status "p" = some .pending ∧
      (Cluster.reach DefaultPolicy .plain oneRow completeEarly).taskMap.lookup "p" =
        some .pending ∧
      ¬ (Cluster.reach DefaultPolicy .plain oneRow completeEarly).KeepsResults := by
  have processed : (Cluster.reach DefaultPolicy .plain oneRow completeEarly).processed =
    [⟨⟨"p", true, none⟩, true⟩] := by decide
  have tracked : (Cluster.reach DefaultPolicy .plain oneRow completeEarly).taskMap.lookup "p" =
    some .pending := by decide
  refine ⟨processed, by decide, tracked, fun kept => ?_⟩
  rcases kept ⟨⟨"p", true, none⟩, true⟩ (by rw [processed]; exact List.mem_singleton.mpr rfl) rfl with
    left | ⟨update, stored⟩
  · exact absurd left (by decide)
  · have same := tracked.symm.trans stored
    cases same

/-- **The first result of a claimed proof wins**, if moreover no result is looked up
while a write is stored for its proof and the row is pending. -/
theorem first_result_wins (deployment : Deployment) (rows : Rows) (keyed : rows.Keyed)
    (events : List ClusterEvent) :
    (Along (Cluster.step (P := DefaultPolicy) deployment) (.start rows) Cluster.Orderly events →
        (Cluster.reach DefaultPolicy deployment rows events).ShowsFirst) ∧
      (Along (Cluster.step (P := BalancedPolicy) deployment) (.start rows) Cluster.Orderly events →
        (Cluster.reach BalancedPolicy deployment rows events).ShowsFirst) :=
  ⟨fun met => Cluster.showsFirst_of_firstWins (Cluster.reach_firstWins keyed met),
    fun met => Cluster.showsFirst_of_firstWins (Cluster.reach_firstWins keyed met)⟩

/-- The proof fails after its completion is written. -/
def failAfter : List ClusterEvent :=
  completeP ++ [.serve 0 true, .status .drop,
    .call ((Call.failProof "p" none true none).plain "")] ++ heedNext ++
    [.serve 0 true, .status .drop]

/-- Both results are written, and the row shows the first one. -/
theorem first_result_wins_failAfter :
    Along (Cluster.step (P := DefaultPolicy) .plain) (.start oneRow) Cluster.Orderly failAfter ∧
      (Cluster.reach DefaultPolicy .plain oneRow failAfter).emitted =
        [⟨⟨"p", true, none⟩, true⟩, ⟨⟨"p", false, none⟩, true⟩] ∧
      (Cluster.reach DefaultPolicy .plain oneRow failAfter).rows.status "p" = some .completed ∧
      (Cluster.reach DefaultPolicy .plain oneRow failAfter).ShowsFirst := by
  have met : Along (Cluster.step (P := DefaultPolicy) .plain) (.start oneRow) Cluster.Orderly
    failAfter := by decide
  exact ⟨met, by decide, by decide, (first_result_wins .plain oneRow oneRow_keyed _).1 met⟩

/-- The proof fails while the write of its completion is still to be re-issued. -/
def failBefore : List ClusterEvent :=
  completeP ++ [.status .giveUp, .call ((Call.failProof "p" none true none).plain "")] ++
    heedNext ++ [.serve 1 true, .status .drop]

/-- The first result is a success, and the row shows a failure. -/
theorem later_result_wins :
    (Cluster.reach DefaultPolicy .plain oneRow failBefore).emitted =
        [⟨⟨"p", true, none⟩, true⟩, ⟨⟨"p", false, none⟩, true⟩] ∧
      (Cluster.reach DefaultPolicy .plain oneRow failBefore).rows.status "p" = some .failed ∧
      ¬ (Cluster.reach DefaultPolicy .plain oneRow failBefore).ShowsFirst := by
  have failed : (Cluster.reach DefaultPolicy .plain oneRow failBefore).rows.status "p" =
    some .failed := by decide
  refine ⟨by decide, failed, fun shows => ?_⟩
  have shown := shows "p" ⟨⟨"p", true, none⟩, true⟩ (by decide) rfl (by decide) (by decide)
  have same := failed.symm.trans shown
  cases same

/-- **A finished proof is not claimed**, if no entry is dropped while the claimer still
has to come to the row of its proof, and proofs are removed as missing only when their
row is no longer pending. -/
theorem finished_proofs_unclaimed (deployment : Deployment) (rows : Rows) (keyed : rows.Keyed)
    (events : List ClusterEvent) :
    (Along (Cluster.step (P := DefaultPolicy) deployment) (.start rows) Cluster.Patient events →
        Along (Cluster.step (P := DefaultPolicy) deployment) (.start rows)
          Cluster.ClaimsUnfinished events) ∧
      (Along (Cluster.step (P := BalancedPolicy) deployment) (.start rows) Cluster.Patient events →
        Along (Cluster.step (P := BalancedPolicy) deployment) (.start rows)
          Cluster.ClaimsUnfinished events) :=
  ⟨fun met => Cluster.along_claimsUnfinished keyed met,
    fun met => Cluster.along_claimsUnfinished keyed met⟩

/-- The claimer ends its round and lists the rows again. -/
def listAgain : List ClusterEvent :=
  [.claimer .next, .claimer (.confirm 1), .claimer .sweep, .claimer .reissueAll, .claimer .reissue,
    .claimer (.list 1), .claimer .page]

/-- The proof is completed between two rounds. -/
theorem finished_proofs_unclaimed_completeP :
    Along (Cluster.step (P := DefaultPolicy) .plain) (.start oneRow) Cluster.Patient
        (completeP ++ [.serve 0 true, .status .drop] ++ listAgain) ∧
      (Cluster.reach DefaultPolicy .plain oneRow
        (completeP ++ [.serve 0 true, .status .drop] ++ listAgain)).rows.status "p" =
          some .completed ∧
      Along (Cluster.step (P := DefaultPolicy) .plain) (.start oneRow) Cluster.ClaimsUnfinished
        (completeP ++ [.serve 0 true, .status .drop] ++ listAgain) := by
  have met : Along (Cluster.step (P := DefaultPolicy) .plain) (.start oneRow) Cluster.Patient
    (completeP ++ [.serve 0 true, .status .drop] ++ listAgain) := by decide
  exact ⟨met, by decide, (finished_proofs_unclaimed .plain oneRow oneRow_keyed _).1 met⟩

/-- The proof fails after the rows were listed again, and the write of its failure lands
before the claimer comes to the row. -/
def failListed : List ClusterEvent :=
  createP ++ [.claimer .insert] ++ listAgain ++
    [.call ((Call.failProof "p" none true none).plain "")] ++ heedNext ++
    [.serve 0 true, .status .drop, .claimer .next]

/-- The claimer creates the proof again, and `create_proof` succeeds. -/
theorem finished_proof_claimed :
    (Cluster.reach DefaultPolicy .plain oneRow failListed).creates
        (.claimer (.create (.plain 1000000000 "u"))) = some "p" ∧
      (Cluster.reach DefaultPolicy .plain oneRow failListed).rows.status "p" = some .failed ∧
      (Cluster.reach DefaultPolicy .plain oneRow
        (failListed ++ [.claimer (.create (.plain 1000000000 "u"))])).claimed = ["p"] ∧
      ¬ Along (Cluster.step (P := DefaultPolicy) .plain) (.start oneRow) Cluster.ClaimsUnfinished
        (failListed ++ [.claimer (.create (.plain 1000000000 "u"))]) := by
  have creates : (Cluster.reach DefaultPolicy .plain oneRow failListed).creates
    (.claimer (.create (.plain 1000000000 "u"))) = some "p" := by decide
  have failed : (Cluster.reach DefaultPolicy .plain oneRow failListed).rows.status "p" =
    some .failed := by decide
  refine ⟨creates, failed, by decide, fun unfinished => ?_⟩
  exact (unfinished failListed _ [] rfl "p" creates).2 failed

/-! ## All runs -/

/-- How the ledger answers an event: by a move that it allows, after which it may forget. -/
def Ledger.Answers (ledger : Ledger) (_ : ClusterEvent) (later : Ledger) : Prop :=
  ∃ move, ledger.Allows move ∧ (ledger.after move).Forgets later

namespace Cluster

variable {P : Type} [LawfulPolicy P]

/-- What holds after every run: the run is one of the ledger, which knows the results of the
writes that may be served, and whose rows show results that were sent. -/
structure Recorded (rows : Rows) (past : List ClusterEvent) (cluster : Cluster P) : Prop where
  keyed : cluster.rows.Keyed
  written : cluster.ledger.Written
  follows : Follows Ledger.Answers (start rows : Cluster P).ledger past cluster.ledger
  backed : cluster.ledger.Backed rows.status

theorem reach_recorded {deployment : Deployment} {rows : Rows} (keyed : rows.Keyed)
    (events : List ClusterEvent) : (reach P deployment rows events).Recorded rows events := by
  refine run_invariant_always (Recorded rows) ?_ ?_ events
  · exact ⟨keyed, fun _ outstanding => absurd outstanding not_outstanding_start, .nil,
      fun _ => .inl rfl⟩
  · intro past cluster event recorded
    obtain ⟨move, explains⟩ := explains_step recorded.keyed recorded.written deployment event
    exact ⟨keyed_step deployment recorded.keyed,
      (recorded.written.after move).forgets explains.forgets,
      recorded.follows.snoc ⟨move, explains.allowed, explains.forgets⟩,
      (recorded.backed.after recorded.written explains.allowed).forgets explains.forgets⟩

/-- A row has the status it had at the start, or it is pending or cancelled, or it shows a
result that was sent. -/
def ShowsSent (rows : Rows) (cluster : Cluster P) : Prop :=
  ∀ proofId, cluster.rows.status proofId = rows.status proofId ∨
    cluster.rows.status proofId = some .pending ∨
    cluster.rows.status proofId = some .cancelled ∨ ∃ emission ∈ cluster.emitted,
      emission.id = proofId ∧ cluster.rows.status proofId = some emission.result.proofStatus

theorem Recorded.showsSent {rows : Rows} {past : List ClusterEvent} {cluster : Cluster P}
    (recorded : cluster.Recorded rows past) : cluster.ShowsSent rows := by
  intro proofId
  rcases recorded.backed proofId with same | pending | cancelled | ⟨emission, settled, shown⟩
  · exact .inl same
  · exact .inr (.inl pending)
  · exact .inr (.inr (.inl cancelled))
  · exact .inr (.inr (.inr ⟨emission, Ledger.mem_emitted_of_settled settled, shown⟩))

end Cluster

/-- **The cluster refines the ledger**, under both policies: each step of the claimer, the
status task, the re-issues, the API and the coordinator is a move that the ledger allows. -/
theorem cluster_refines_ledger (deployment : Deployment) (rows : Rows) (keyed : rows.Keyed)
    (events : List ClusterEvent) :
    Follows Ledger.Answers (Cluster.start rows : Cluster DefaultPolicy).ledger events
        (Cluster.reach DefaultPolicy deployment rows events).ledger ∧
      Follows Ledger.Answers (Cluster.start rows : Cluster BalancedPolicy).ledger events
        (Cluster.reach BalancedPolicy deployment rows events).ledger :=
  ⟨(Cluster.reach_recorded keyed events).follows, (Cluster.reach_recorded keyed events).follows⟩

theorem cluster_refines_ledger_failBefore :
    Follows Ledger.Answers (Cluster.start oneRow : Cluster DefaultPolicy).ledger failBefore
      (Cluster.reach DefaultPolicy .plain oneRow failBefore).ledger :=
  (cluster_refines_ledger .plain oneRow oneRow_keyed failBefore).1

/-- **A row shows no result that was not sent.** After every run, whatever is lost, repeated or
overtaken on the way, a row has the status it had at the start, or it is pending or cancelled,
or the coordinator has sent a result about its proof with the status that it shows. -/
theorem rows_show_sent_results (deployment : Deployment) (rows : Rows) (keyed : rows.Keyed)
    (events : List ClusterEvent) :
    (Cluster.reach DefaultPolicy deployment rows events).ShowsSent rows ∧
      (Cluster.reach BalancedPolicy deployment rows events).ShowsSent rows :=
  ⟨(Cluster.reach_recorded keyed events).showsSent,
    (Cluster.reach_recorded keyed events).showsSent⟩

theorem rows_show_sent_results_failBefore :
    ∃ emission ∈ (Cluster.reach BalancedPolicy .plain oneRow failBefore).emitted,
      emission.id = "p" ∧ emission.result.proofStatus = .failed := by
  have failed : (Cluster.reach BalancedPolicy .plain oneRow failBefore).rows.status "p" =
    some .failed := by decide
  rcases (rows_show_sent_results .plain oneRow oneRow_keyed failBefore).2 "p" with
    same | pending | cancelled | ⟨emission, sent, own, shown⟩
  · exact absurd (failed.symm.trans same) (by decide)
  · cases failed.symm.trans pending
  · cases failed.symm.trans cancelled
  · exact ⟨emission, sent, own, (Option.some.inj (failed.symm.trans shown)).symm⟩

end Sp1Cluster
