import Sp1Cluster.Fulfillment.Passes

/-!
# Each request is answered once

A request whose answering call has returned success should not be answered again
by a later pass. A task that has fulfilled or failed its request marks the row
before the pass ends, and no later pass lists the row. One branch does not: when
a submission fails with a mismatch of verifying keys the task fails the request on
the network and leaves the row as it is.

The network knows a request by the bytes that its identifier spells. Rows whose
identifiers spell the same bytes differently are one request, and the mark of one
says nothing of the other.
-/

set_option autoImplicit false

namespace Sp1Cluster

/-- Two identifiers of one request of the network. A call for an identifier that does not
decode is an error before anything is sent. -/
abbrev SameRequest (first second : String) : Prop :=
  (hexDecode first).isSome = true ∧ hexDecode second = hexDecode first

/-- No request of the network has two rows. -/
abbrev Rows.OneEach (rows : Rows) : Prop :=
  ∀ first ∈ rows.keys, ∀ second ∈ rows.keys, SameRequest first second → second = first

namespace Answer

def succeeded (answer : Answer) : Bool := answer.result matches .ok ()

/-- What two answers, one given before the other, have to satisfy. -/
abbrev Once (earlier later : Answer) : Prop :=
  earlier.succeeded = true → SameRequest earlier.requestId later.requestId →
    later.pass = earlier.pass

end Answer

namespace Fulfiller

/-- The task of a row in the present pass. -/
def jobOf (fulfiller : Fulfiller) (id : String) : Option Job :=
  match fulfiller.phase with
  | .working _ jobs => jobs.lookup id
  | _ => none

def listed (fulfiller : Fulfiller) : List ProofRequest :=
  match fulfiller.phase with
  | .listing _ _ rows _ => rows
  | _ => []

/-- A request that has been answered is marked, or its task is about to mark it. -/
structure Settled (fulfiller : Fulfiller) : Prop where
  keyed : fulfiller.rows.Keyed
  marked : ∀ answer ∈ fulfiller.answers, answer.succeeded = true →
    fulfiller.rows.Handled answer.requestId ∨
      ∃ job ∈ fulfiller.jobOf answer.requestId, job.phase = .marking
  /-- A row that is listed has not been answered. -/
  listing : ∀ request ∈ fulfiller.listed, request.id ∈ fulfiller.rows ∧
    ∀ answer ∈ fulfiller.answers, answer.succeeded = true → answer.requestId ≠ request.id
  /-- A task is the first to have answered its request. -/
  working : ∀ id job, fulfiller.jobOf id = some job →
    (job.request.id = id ∧ id ∈ fulfiller.rows) ∧
      ∀ answer ∈ fulfiller.answers, answer.succeeded = true → answer.requestId = id →
        answer.pass = fulfiller.passes
  stored : ∀ answer ∈ fulfiller.answers, answer.requestId ∈ fulfiller.rows
  once : fulfiller.answers.Pairwise fun earlier later =>
    earlier.succeeded = true → later.requestId = earlier.requestId → later.pass = earlier.pass

theorem settled_start : start.Settled where
  keyed _ _ found := by cases found
  marked _ member := by cases member
  listing _ member := by cases member
  working _ _ found := by cases found
  stored _ member := by cases member
  once := .nil

variable {fulfiller : Fulfiller} {config : FulfillerConfig} {job : Job} {kind : PassKind}
  {id : String} {event : FulfillerEvent}

/-! ## Steps of a task -/

/-- What a step of a task may do: it answers for its own request only, a success is followed
by the mark, and the mark is not skipped. -/
structure JobStep.Sound (fulfiller : Fulfiller) (job : Job) (step : JobStep) : Prop where
  keyed : step.rows.Keyed
  keeps : fulfiller.rows.Keeps step.rows
  answers : step.answers = fulfiller.answers ∨
    ∃ answer, step.answers = fulfiller.answers ++ [answer] ∧ answer.pass = fulfiller.passes ∧
      answer.requestId = job.request.id ∧
      (answer.succeeded = true → step.rows.Handled job.request.id ∨ step.phase = .marking)
  marking : job.phase = .marking → step.rows.Handled job.request.id

theorem sound_turn (keyed : fulfiller.rows.Keyed) (unmarked : job.phase ≠ .marking)
    (phase : JobPhase) : JobStep.Sound fulfiller job (fulfiller.turn phase) where
  keyed := keyed
  keeps := .refl _
  answers := .inl rfl
  marking same := absurd same unmarked

theorem sound_answered (keyed : fulfiller.rows.Keyed) (unmarked : job.phase ≠ .marking)
    {kind : AnswerKind} {result : Except String Unit} {phase : JobPhase}
    (marks : result = .ok () → fulfiller.rows.Handled job.request.id ∨ phase = .marking) :
    JobStep.Sound fulfiller job (fulfiller.answered job.request.id kind result phase) where
  keyed := keyed
  keeps := .refl _
  answers := by
    refine .inr ⟨_, rfl, rfl, rfl, fun succeeded => marks ?_⟩
    cases result with
    | ok => rfl
    | error => cases succeeded
  marking same := absurd same unmarked

theorem sound_handle (keyed : fulfiller.rows.Keyed) (stored : job.request.id ∈ fulfiller.rows)
    (kind : PassKind) (phase : JobPhase) :
    JobStep.Sound fulfiller job (fulfiller.handle kind job.request.id phase) := by
  obtain ⟨served, handled⟩ := Rows.handled_update stored
  have keeps := Rows.keeps_update { proofId := job.request.id, handled := some true } (by simp)
    fulfiller.rows
  have keyed := keyed.update { proofId := job.request.id, handled := some true }
  unfold handle
  split
  · next rows updated =>
    rw [updated] at handled keeps keyed
    exact ⟨keyed, keeps, .inl rfl, fun _ => handled⟩
  · next rows status updated =>
    rw [updated] at served
    cases served

/-- No failure for a mismatch of keys is accepted for a row that is not handled, and no other
client clears the flag of a row. -/
def Marked (fulfiller : Fulfiller) : FulfillerEvent → Prop
  | .api (.update update) => update.handled ≠ some false
  | .failMismatch id replies =>
    MainnetFulfiller.failRequestWithError id replies = .ok () → fulfiller.rows.Handled id
  | _ => True

instance (fulfiller : Fulfiller) (event : FulfillerEvent) : Decidable (fulfiller.Marked event) := by
  unfold Marked
  split <;> infer_instance

/-- **Every step of a task is sound**, by its phase. -/
theorem sound_jobStep (keyed : fulfiller.rows.Keyed) (stored : job.request.id ∈ fulfiller.rows)
    (mine : ∀ id replies, event = .failMismatch id replies → id = job.request.id)
    (marked : fulfiller.Marked event) {step : JobStep}
    (stepped : fulfiller.jobStep config kind job event = some step) :
    JobStep.Sound fulfiller job step := by
  cases event with
  | download id reply | delete id reply =>
    simp only [jobStep] at stepped
    split at stepped
    · next phase =>
      cases stepped
      exact sound_turn keyed (by rw [phase]; nofun) _
    · next phase =>
      cases stepped
      exact sound_turn keyed (by rw [phase]; nofun) _
    · cases stepped
  | submit id replies | fail id replies =>
    simp only [jobStep] at stepped
    split at stepped
    · next phase =>
      cases stepped
      refine sound_answered keyed (by rw [phase]; nofun) fun succeeded => .inr ?_
      rw [succeeded]
    · cases stepped
  | mark id =>
    simp only [jobStep] at stepped
    split at stepped
    · cases stepped
      exact sound_handle keyed stored kind _
    · cases stepped
      exact sound_handle keyed stored kind _
    · cases stepped
  | failMismatch id replies =>
    simp only [jobStep] at stepped
    split at stepped
    · next phase =>
      cases stepped
      have same : id = job.request.id := mine id replies rfl
      subst same
      exact sound_answered keyed (by rw [phase]; nofun) fun succeeded => .inl (marked succeeded)
    · cases stepped
  | api | list | page | finish => cases stepped

theorem Settled.advance (settled : fulfiller.Settled) {jobs : Table String Job}
    (phase : fulfiller.phase = .working kind jobs) (found : jobs.lookup id = some job) {rows : Rows}
    (keyed : rows.Keyed) (keeps : fulfiller.rows.Keeps rows)
    (marking : job.phase = .marking → rows.Handled id) (next : JobPhase) :
    Settled
      { fulfiller with
        rows := rows, phase := .working kind (jobs.insert id { job with phase := next }) } := by
  have jobs_eq : ∀ other, fulfiller.jobOf other = jobs.lookup other := by
    intro other
    unfold jobOf
    rw [phase]
  refine ⟨keyed, fun answer member succeeded => ?_, (fun _ member => by cases member),
    fun other task present => ?_, fun answer member => keeps.mem (settled.stored answer member),
    settled.once⟩
  · rcases settled.marked answer member succeeded with handled | ⟨task, present, isMarking⟩
    · exact .inl (keeps.handled handled)
    · rw [jobs_eq] at present
      by_cases same : answer.requestId = id
      · rw [same, found] at present
        cases present
        rw [same]
        exact .inl (marking isMarking)
      · refine .inr ⟨task, ?_, isMarking⟩
        exact (AList.lookup_insert_ne same).trans present
  · obtain ⟨old, there, same⟩ :
        ∃ old, fulfiller.jobOf other = some old ∧ task.request = old.request := by
      change (jobs.insert id { job with phase := next }).lookup other = some task at present
      rw [Table.lookup_insert_eq] at present
      rw [jobs_eq]
      split at present
      · next same =>
        cases present
        exact ⟨job, by rw [same, found], rfl⟩
      · exact ⟨task, present, rfl⟩
    obtain ⟨⟨named, stored⟩, first⟩ := settled.working other old there
    exact ⟨⟨by rw [same, named], keeps.mem stored⟩, first⟩

theorem Settled.answer (settled : fulfiller.Settled) {answer : Answer}
    (pass : answer.pass = fulfiller.passes) (there : fulfiller.jobOf answer.requestId = some job)
    (marks : answer.succeeded = true →
      fulfiller.rows.Handled answer.requestId ∨ job.phase = .marking) :
    Settled { fulfiller with answers := fulfiller.answers ++ [answer] } := by
  obtain ⟨⟨-, stored⟩, first⟩ := settled.working _ job there
  refine ⟨settled.keyed, fun other member succeeded => ?_, fun request member => ?_,
    fun id task present => ⟨(settled.working id task present).1, fun other member => ?_⟩,
    fun other member => ?_, ?_⟩
  · rcases List.mem_append.mp member with earlier | last
    · exact settled.marked other earlier succeeded
    · cases List.mem_singleton.mp last
      exact (marks succeeded).imp_right fun marking => ⟨job, there, marking⟩
  · -- a pass that works on its tasks has no listing any more
    unfold jobOf at there
    split at there
    · next working =>
      change request ∈ fulfiller.listed at member
      unfold listed at member
      rw [working] at member
      cases member
    · cases there
  · rcases List.mem_append.mp member with earlier | last
    · exact (settled.working id task present).2 other earlier
    · cases List.mem_singleton.mp last
      exact fun _ _ => pass
  · rcases List.mem_append.mp member with earlier | last
    · exact settled.stored other earlier
    · cases List.mem_singleton.mp last
      exact stored
  · refine List.pairwise_append.mpr ⟨settled.once, List.pairwise_singleton _ _, ?_⟩
    intro earlier member last isLast succeeded named
    cases List.mem_singleton.mp isLast
    rw [pass, first earlier member succeeded named.symm]

/-- **A step of a task keeps answered requests marked.** -/
theorem Settled.perform (settled : fulfiller.Settled)
    (mine : ∀ other replies, event = .failMismatch other replies → other = id)
    (marked : fulfiller.Marked event) : (fulfiller.perform config id event).Settled := by
  unfold Fulfiller.perform
  split
  case h_2 => exact settled
  next kind jobs phase =>
  split
  case h_2 => exact settled
  next job found =>
  split
  case h_2 => exact settled
  next step stepped =>
  have there : fulfiller.jobOf id = some job := by
    unfold jobOf
    rw [phase]
    exact found
  obtain ⟨⟨rfl, stored⟩, -⟩ := settled.working id job there
  have sound := sound_jobStep settled.keyed stored mine marked stepped
  have advanced := settled.advance phase found sound.keyed sound.keeps sound.marking step.phase
  rcases sound.answers with same | ⟨answer, added, pass, requestId, marks⟩
  · rw [same]
    exact advanced
  · rw [added]
    rw [← requestId] at marks advanced ⊢
    exact advanced.answer pass (AList.lookup_insert jobs) marks

/-! ## Passes -/

theorem Settled.serve (settled : fulfiller.Settled) {rows : Rows} (keyed : rows.Keyed)
    (keeps : fulfiller.rows.Keeps rows) : Settled { fulfiller with rows := rows } where
  keyed := keyed
  marked answer member succeeded :=
    (settled.marked answer member succeeded).imp_left keeps.handled
  listing request member :=
    ⟨keeps.mem (settled.listing request member).1, (settled.listing request member).2⟩
  working id job there :=
    have ⟨⟨named, stored⟩, first⟩ := settled.working id job there
    ⟨⟨named, keeps.mem stored⟩, first⟩
  stored answer member := keeps.mem (settled.stored answer member)
  once := settled.once

theorem Settled.api (settled : fulfiller.Settled) {call : ApiCall}
    (marked : fulfiller.Marked (.api call)) : (fulfiller.api call).Settled := by
  cases call with
  | create request now =>
    exact settled.serve (settled.keyed.create request now) (Rows.keeps_create request now _)
  | cancel proofId =>
    exact settled.serve (settled.keyed.cancel proofId) (Rows.keeps_cancel proofId _)
  | update update =>
    exact settled.serve (settled.keyed.update update) (Rows.keeps_update update marked _)

theorem Settled.handled (settled : fulfiller.Settled)
    (idle : ∀ id job, fulfiller.jobOf id = some job → job.phase ≠ .marking) :
    ∀ answer ∈ fulfiller.answers, answer.succeeded = true →
      fulfiller.rows.Handled answer.requestId := by
  intro answer member succeeded
  rcases settled.marked answer member succeeded with handled | ⟨job, there, marking⟩
  · exact handled
  · exact absurd marking (idle _ job there)

/-- Outside of the work of a pass every answered request is marked. -/
theorem Settled.handled_of_idle (settled : fulfiller.Settled)
    (idle : ∀ id, fulfiller.jobOf id = none) :
    ∀ answer ∈ fulfiller.answers, answer.succeeded = true →
      fulfiller.rows.Handled answer.requestId := by
  refine settled.handled fun id job there => ?_
  rw [idle id] at there
  cases there

theorem jobs_lookup (config : FulfillerConfig) (kind : PassKind) (rows : List ProofRequest)
    (found : (config.jobs kind rows).lookup id = some job) :
    job.request ∈ rows ∧ job.request.id = id := by
  unfold FulfillerConfig.jobs at found
  revert found
  refine List.foldlRecOn (motive := fun jobs : Table String Job => jobs.lookup id = some job →
    job.request ∈ rows ∧ job.request.id = id) rows _ ?_ ?_
  · intro found
    cases found
  · intro jobs earlier request member found
    rcases Table.lookup_insert_cases found with ⟨same, rfl⟩ | ⟨_, found⟩
    · exact ⟨member, same.symm⟩
    · exact earlier found

theorem Settled.page (settled : fulfiller.Settled) {now pageIdx : ℕ} {rows : List ProofRequest}
    (phase : fulfiller.phase = .listing kind now rows pageIdx) :
    (fulfiller.page config kind now rows pageIdx).Settled := by
  have handled := settled.handled_of_idle fun id => by
    unfold jobOf
    rw [phase]
  have fetched : ∀ request ∈ rows ++
      fulfiller.rows.proofRequestList (config.listing kind now pageIdx),
      request.id ∈ fulfiller.rows ∧
        ∀ answer ∈ fulfiller.answers, answer.succeeded = true →
          answer.requestId ≠ request.id := by
    intro request member
    rcases List.mem_append.mp member with before | listed
    · refine settled.listing request ?_
      unfold Fulfiller.listed
      rw [phase]
      exact before
    · -- the row is not handled, and every request that was answered is
      obtain ⟨stored, unhandled⟩ := Rows.not_handled_of_listed settled.keyed rfl listed
      refine ⟨stored, fun answer given succeeded same => unhandled ?_⟩
      rw [← same]
      exact handled answer given succeeded
  unfold Fulfiller.page
  simp only
  split
  · refine ⟨settled.keyed, fun answer member succeeded => .inl (handled answer member succeeded),
      (fun _ member => by cases member), fun id job there => ?_, settled.stored, settled.once⟩
    obtain ⟨member, named⟩ := jobs_lookup config kind _ there
    obtain ⟨stored, unanswered⟩ := fetched job.request (dedupById_subset [] _ member)
    rw [named] at stored unanswered
    exact ⟨⟨named, stored⟩, fun answer given succeeded same =>
      absurd same (unanswered answer given succeeded)⟩
  · exact ⟨settled.keyed, fun answer member succeeded => .inl (handled answer member succeeded),
      fetched, (fun _ _ there => by cases there), settled.stored, settled.once⟩

/-- **One step keeps answered requests marked**, whatever the network replies. -/
theorem Settled.step (settled : fulfiller.Settled) (marked : fulfiller.Marked event) :
    (fulfiller.step config event).Settled := by
  cases event with
  | api call => exact settled.api marked
  | list kind now =>
    simp only [Fulfiller.step]
    split
    · next phase =>
      have handled := settled.handled_of_idle fun id => by
        unfold jobOf
        rw [phase]
      exact ⟨settled.keyed,
        fun answer member succeeded => .inl (handled answer member succeeded),
        (fun _ member => by cases member), (fun _ _ there => by cases there), settled.stored,
        settled.once⟩
    · exact settled
  | page =>
    simp only [Fulfiller.step]
    split
    · next phase => exact settled.page phase
    · exact settled
  | finish =>
    simp only [Fulfiller.step]
    split
    · next kind jobs phase =>
      split
      · next done =>
        have idle : ∀ id job, fulfiller.jobOf id = some job → job.phase ≠ .marking := by
          intro id job there
          unfold jobOf at there
          rw [phase] at there
          rw [done ⟨id, job⟩ (Table.mem_entries_iff.mpr there)]
          nofun
        exact ⟨settled.keyed,
          fun answer member succeeded => .inl (settled.handled idle answer member succeeded),
          (fun _ member => by cases member), (fun _ _ there => by cases there),
          settled.stored, settled.once⟩
      · exact settled
    · exact settled
  | failMismatch id replies =>
    refine settled.perform (fun other also same => ?_) marked
    cases same
    rfl
  | download | submit | fail | mark | delete => exact settled.perform nofun marked

/-- **Each request is answered once.** In every run of submit passes and fail passes over
rows that other clients create, cancel and update without clearing a `handled` flag, with
any replies of the network and of the artifact store: when no failure for a mismatch of keys
is accepted for a row that is not handled, and no two rows are one request of the network,
then after an answering call for a request has returned success no later pass makes another
one for it. Rows stay, so that the last ones are all there have been. -/
theorem answers_given_once {events : List FulfillerEvent}
    (marked : Systems.Along (step config) start Marked events)
    (oneEach : (reach config events).rows.OneEach) :
    (reach config events).answers.Pairwise Answer.Once := by
  have settled : (reach config events).Settled :=
    Systems.run_invariant (fun _ fulfiller => fulfiller.Settled) settled_start
      (fun _ _ _ settled marked => settled.step marked) marked
  refine settled.once.imp_of_mem fun earlier later once succeeded same => once succeeded ?_
  exact oneEach _ (AList.mem_keys.mp (settled.stored _ earlier)) _
    (AList.mem_keys.mp (settled.stored _ later)) same

/-! ## Two runs -/

def defaultConfig : FulfillerConfig where
  name := none
  disableFulfillment := false
  shouldDownloadProofs := true
  requestErrorFromExtraData _ := none

def accepted : NetworkReplies where
  nonce := .ok 0
  signature := .ok []
  call := .ok ()

/-- The network refuses the call with an error of this text. -/
def refused (text : String) : NetworkReplies where
  nonce := .ok 0
  signature := .ok []
  call := .error ⟨.other, text⟩

/-- A row that the cluster completes. -/
def completedRow (id : String) : List FulfillerEvent :=
  [.api (.create
      { proofId := id, requester := [], stdinArtifactId := "s", programArtifactId := "p",
        optionsArtifactId := none, proofArtifactId := some "q", cycleLimit := 0, gasLimit := 0,
        deadline := 9, scheduledBy := none, stdinPrivate := false } 0),
    .api (.update { proofId := id, proofStatus := some .completed })]

/-- A failure for a mismatch of keys that the network does not take, a second pass that
fulfils the request, and a third one that finds nothing to do. -/
def fulfilledLater : List FulfillerEvent :=
  completedRow "0a" ++
    [.list .submit 5, .page, .download "0a" (.ok [1]),
      .submit "0a" (refused "sp1 vk hash mismatch"), .failMismatch "0a" (refused "unavailable"),
      .finish,
      .list .submit 6, .page, .download "0a" (.ok [1]), .submit "0a" accepted, .mark "0a",
      .delete "0a" (.ok ()), .finish,
      .list .submit 7, .page, .finish]

theorem answers_given_once_fulfilledLater :
    Systems.Along (step defaultConfig) start Marked fulfilledLater ∧
      (reach defaultConfig fulfilledLater).rows.OneEach ∧
      (reach defaultConfig fulfilledLater).answers.length = 3 ∧
      (reach defaultConfig fulfilledLater).answers.Pairwise Answer.Once := by
  have marked : Systems.Along (step defaultConfig) start Marked fulfilledLater := by
    decide +kernel
  have oneEach : (reach defaultConfig fulfilledLater).rows.OneEach := by decide +kernel
  exact ⟨marked, oneEach, by decide +kernel, answers_given_once marked oneEach⟩

/-- The failure for a mismatch of keys is accepted. -/
def failedThenFulfilled : List FulfillerEvent :=
  completedRow "0a" ++
    [.list .submit 5, .page, .download "0a" (.ok [1]),
      .submit "0a" (refused "sp1 vk hash mismatch"), .failMismatch "0a" accepted, .finish,
      .list .submit 6, .page, .download "0a" (.ok [1]), .submit "0a" accepted]

/-- The same bytes come in a second row once the first has been fulfilled. -/
def spelledTwice : List FulfillerEvent :=
  completedRow "0a" ++
    [.list .submit 5, .page, .download "0a" (.ok [1]), .submit "0a" accepted, .mark "0a",
      .delete "0a" (.ok ()), .finish] ++
    completedRow "0A" ++
    [.list .submit 6, .page, .download "0A" (.ok [1]), .submit "0A" accepted]

/-- **A request is answered again.** The first pass has failed the request with success, and
the row is not marked, so the second pass fulfils it. A request with two rows is fulfilled for
each of them, without any mismatch of keys. -/
theorem request_answered_again :
    (reach defaultConfig failedThenFulfilled).answers =
        [⟨1, "0a", .fulfilment, .error "sp1 vk hash mismatch"⟩,
          ⟨1, "0a", .failure (some vkMismatchError), .ok ()⟩,
          ⟨2, "0a", .fulfilment, .ok ()⟩] ∧
      ¬ (reach defaultConfig failedThenFulfilled).answers.Pairwise Answer.Once ∧
      Systems.Along (step defaultConfig) start Marked spelledTwice ∧
      (reach defaultConfig spelledTwice).answers =
        [⟨1, "0a", .fulfilment, .ok ()⟩, ⟨2, "0A", .fulfilment, .ok ()⟩] ∧
      ¬ (reach defaultConfig spelledTwice).answers.Pairwise Answer.Once := by
  decide +kernel

end Fulfiller

end Sp1Cluster
