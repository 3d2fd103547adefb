import Sp1Cluster.Coordinator.Types
import Sp1Cluster.Data.Binary64
import Sp1Cluster.Systems.Runs

/-!
# Admission of uploads

An upload reserves its bytes before it writes. The decision is made under a
lock: the memory of the node is read, the bytes reserved so far are loaded, and
when the sum stays within the budget the upload adds its own bytes. Reservations
are given back without the lock, at any time, also between the load and the
addition.

Words are 64 bits wide and the atomic counter wraps around. Every memory
reading is an input, so nothing is assumed about it. A call may be cancelled
wherever it waits: for the lock, for the reading, or between two tries.
-/

set_option autoImplicit false

namespace Sp1Cluster

/-- `ADMISSION_BYPASS_BYTES`: a tenth of `DEFAULT_SHARD_MAX_BYTES`. -/
def admissionBypassBytes : ℕ := 20 * 1024 * 1024 / 10

/-- `(max as f64 * MEMORY_BUDGET_FRACTION) as u64`; the fraction 0.80 is the binary64
number `3602879701896397 / 2 ^ 52`. -/
def admissionBudget (max : UInt64) : ℕ :=
  Binary64.scaleWord 3602879701896397 52 (Binary64.ofWord max.toNat)

/-- A budget of one gigabyte. -/
example : admissionBudget 1073741824 = 858993459 := by decide +kernel

theorem admissionBudget_lt (max : UInt64) : admissionBudget max < 2 ^ 64 - 1 := by
  have word : max.toNat < 2 ^ 64 := max.toNat_lt
  have converted : Binary64.ofWord max.toNat ≤ max.toNat + 2 ^ 11 :=
    Binary64.roundBits_le_of_lt 53 word
  have product : Binary64.ofWord max.toNat * 3602879701896397 ≤
      (2 ^ 64 + 2 ^ 11) * 3602879701896397 := Nat.mul_le_mul_right _ (by omega)
  have rounded : Binary64.roundBits 53 (Binary64.ofWord max.toNat * 3602879701896397) ≤
      Binary64.ofWord max.toNat * 3602879701896397 + 2 ^ (117 - 53) :=
    Binary64.roundBits_le_of_lt 53 (lt_of_le_of_lt product (by norm_num))
  refine lt_of_le_of_lt (Nat.min_le_left _ _) ?_
  rw [Nat.div_lt_iff_lt_mul (by norm_num)]
  refine lt_of_le_of_lt (rounded.trans (Nat.add_le_add_right product _)) ?_
  norm_num

/-- Where a call of `check_admission` is, or what became of its guard. -/
inductive AdmissionPhase where
  /-- Before `decide.lock()`. -/
  | waiting (incoming : UInt64)
  /-- With the lock, before the reply to `INFO memory`. -/
  | querying (incoming : UInt64)
  /-- With the lock, before the load of `in_flight`. -/
  | loading (incoming used max : UInt64)
  /-- With the lock, before the addition to `in_flight`. -/
  | reserving (incoming used max inFlight : UInt64)
  /-- Between two tries. -/
  | sleeping (incoming : UInt64)
  /-- The guard holds a reservation. -/
  | granted (bytes : UInt64)
  /-- The guard holds no reservation or has been dropped, or the call has failed. -/
  | finished
deriving DecidableEq, Repr

namespace AdmissionPhase

def reserved : AdmissionPhase → ℕ
  | .granted bytes => bytes.toNat
  | _ => 0

def holdsLock : AdmissionPhase → Bool
  | .querying _ | .loading _ _ _ | .reserving _ _ _ _ => true
  | _ => false

end AdmissionPhase

/-- `Admission` of one node, with the calls of its client. -/
structure Admission where
  decide : Option ℕ
  inFlight : UInt64
  calls : Table ℕ AdmissionPhase

inductive AdmissionEvent where
  /-- `check_admission` is called. -/
  | call (id : ℕ) (incoming : UInt64)
  | lock (id : ℕ)
  /-- The reply to `INFO memory`: used memory and its limit, or nothing when the
  command fails or a line is missing. -/
  | info (id : ℕ) (reading : Option (UInt64 × UInt64))
  | load (id : ℕ)
  | reserve (id : ℕ)
  /-- A blocked call tries again. -/
  | poll (id : ℕ)
  /-- A blocked call has waited too long. -/
  | timeout (id : ℕ)
  | cancel (id : ℕ)
  /-- The guard is dropped. -/
  | drop (id : ℕ)
deriving DecidableEq, Repr

namespace Admission

def start : Admission where
  decide := none
  inFlight := 0
  calls := ∅

def phaseOf (admission : Admission) (id : ℕ) : AdmissionPhase :=
  (admission.calls.lookup id).getD .finished

def liveBytes (admission : Admission) : ℕ :=
  Table.total (fun _ phase => phase.reserved) admission.calls

/-- A call goes to a phase and leaves the lock and the counter in a state. -/
def move (id : ℕ) (phase : AdmissionPhase) (decide : Option ℕ) (inFlight : UInt64)
    (admission : Admission) : Admission :=
  { decide := decide, inFlight := inFlight, calls := admission.calls.insert id phase }

/-- The sum that a decision compares with the budget. -/
def projected (used inFlight incoming : UInt64) : ℕ :=
  saturatingAdd64 (saturatingAdd64 used.toNat inFlight.toNat) incoming.toNat

def step (admission : Admission) : AdmissionEvent → Admission
  | .call id incoming =>
    if id ∈ admission.calls then admission
    else
      admission.move id
        (if incoming.toNat ≤ admissionBypassBytes then .finished else .waiting incoming)
        admission.decide admission.inFlight
  | .lock id =>
    match admission.phaseOf id, admission.decide with
    | .waiting incoming, none => admission.move id (.querying incoming) (some id) admission.inFlight
    | _, _ => admission
  | .info id reading =>
    match admission.phaseOf id with
    | .querying incoming =>
      match reading with
      | some (used, max) =>
        if 0 < max then
          admission.move id (.loading incoming used max) admission.decide admission.inFlight
        else admission.move id .finished none admission.inFlight
      | none => admission.move id .finished none admission.inFlight
    | _ => admission
  | .load id =>
    match admission.phaseOf id with
    | .loading incoming used max =>
      if projected used admission.inFlight incoming ≤ admissionBudget max then
        admission.move id (.reserving incoming used max admission.inFlight) admission.decide
          admission.inFlight
      else admission.move id (.sleeping incoming) none admission.inFlight
    | _ => admission
  | .reserve id =>
    match admission.phaseOf id with
    | .reserving incoming _ _ _ =>
      admission.move id (.granted incoming) none (admission.inFlight + incoming)
    | _ => admission
  | .poll id =>
    match admission.phaseOf id with
    | .sleeping incoming =>
      admission.move id (.waiting incoming) admission.decide admission.inFlight
    | _ => admission
  | .timeout id =>
    match admission.phaseOf id with
    | .sleeping _ => admission.move id .finished admission.decide admission.inFlight
    | _ => admission
  | .cancel id =>
    match admission.phaseOf id with
    | .waiting _ | .sleeping _ => admission.move id .finished admission.decide admission.inFlight
    | .querying _ => admission.move id .finished none admission.inFlight
    | _ => admission
  | .drop id =>
    match admission.phaseOf id with
    | .granted bytes =>
      admission.move id .finished admission.decide (admission.inFlight - bytes)
    | _ => admission

def reach (events : List AdmissionEvent) : Admission := Systems.run step start events

/-! ## The invariant -/

variable {admission : Admission} {id : ℕ} {phase : AdmissionPhase} {inFlight bytes : UInt64}

theorem phaseOf_move (id other : ℕ) (phase : AdmissionPhase) (decide : Option ℕ)
    (inFlight : UInt64) :
    (admission.move id phase decide inFlight).phaseOf other =
      if other = id then phase else admission.phaseOf other :=
  Table.getD_lookup_insert _ _ _ _ _

theorem liveBytes_move (admission : Admission) (id : ℕ) (phase : AdmissionPhase)
    (decide : Option ℕ) (inFlight : UInt64) :
    (admission.move id phase decide inFlight).liveBytes + (admission.phaseOf id).reserved =
      admission.liveBytes + phase.reserved := by
  unfold liveBytes phaseOf
  change Table.total _ (admission.calls.insert id phase) + _ = _
  rw [Table.total_insert]
  cases found : admission.calls.lookup id with
  | none =>
    rw [Table.erase_of_notMem (AList.lookup_eq_none.mp found)]
    simp only [Option.getD_none, AdmissionPhase.reserved]
    omega
  | some old =>
    rw [Table.total_of_lookup _ found, Option.getD_some]
    omega

/-- The counter is the sum of the live reservations, only the holder of the lock is
between its lock and its decision, and what it loaded is still an upper bound. -/
structure Booked (admission : Admission) : Prop where
  booked : admission.inFlight.toNat = admission.liveBytes
  locked : ∀ {id}, (admission.phaseOf id).holdsLock = true → admission.decide = some id
  fits : ∀ {id incoming used max loaded},
    admission.phaseOf id = .reserving incoming used max loaded →
      admission.inFlight.toNat ≤ loaded.toNat ∧
        used.toNat + loaded.toNat + incoming.toNat ≤ admissionBudget max

theorem booked_start : start.Booked where
  booked := rfl
  locked holds := by cases holds
  fits reserving := by cases reserving

/-- What one call may do to the lock, the counter and its own phase. -/
theorem Booked.move (booked : admission.Booked) {decide : Option ℕ}
    (exchanged : inFlight.toNat + (admission.phaseOf id).reserved =
      admission.inFlight.toNat + phase.reserved)
    (locked : phase.holdsLock = true → decide = some id)
    (fits : ∀ {incoming used max loaded}, phase = .reserving incoming used max loaded →
      inFlight.toNat ≤ loaded.toNat ∧
      used.toNat + loaded.toNat + incoming.toNat ≤ admissionBudget max)
    (others : ∀ other, other ≠ id → (admission.phaseOf other).holdsLock = true →
      decide = some other ∧ inFlight.toNat ≤ admission.inFlight.toNat) :
    (admission.move id phase decide inFlight).Booked where
  booked := by
    have moved := liveBytes_move admission id phase decide inFlight
    have before := booked.booked
    change inFlight.toNat = _
    omega
  locked {other} holds := by
    rw [phaseOf_move] at holds
    split at holds
    · next same =>
      rw [same]
      exact locked holds
    · next distinct => exact (others other distinct holds).1
  fits {other incoming used max loaded} reserving := by
    rw [phaseOf_move] at reserving
    split at reserving
    · exact fits reserving
    · next distinct =>
      obtain ⟨below, within⟩ := booked.fits reserving
      have holds : (admission.phaseOf other).holdsLock = true := by
        rw [reserving]
        rfl
      exact ⟨(others other distinct holds).2.trans below, within⟩

theorem Booked.pass (booked : admission.Booked) (before : (admission.phaseOf id).reserved = 0)
    (after : phase.reserved = 0) (free : phase.holdsLock = false) :
    (admission.move id phase admission.decide admission.inFlight).Booked := by
  refine booked.move (by omega) (fun holds => ?_) (fun reserving => ?_)
    (fun _ _ holds => ⟨booked.locked holds, le_rfl⟩)
  · rw [free] at holds
    cases holds
  · rw [reserving] at free
    cases free

theorem Booked.alone (booked : admission.Booked) {other : ℕ}
    (holds : (admission.phaseOf id).holdsLock = true) (distinct : other ≠ id)
    (too : (admission.phaseOf other).holdsLock = true) : False := by
  have same : some id = some other := (booked.locked holds).symm.trans (booked.locked too)
  exact distinct (Option.some.inj same).symm

theorem Booked.release (booked : admission.Booked) (holds : (admission.phaseOf id).holdsLock = true)
    (before : (admission.phaseOf id).reserved = 0) (after : phase.reserved = 0)
    (free : phase.holdsLock = false) :
    (admission.move id phase none admission.inFlight).Booked := by
  refine booked.move (by omega) (fun still => ?_) (fun reserving => ?_)
    (fun other distinct too => (booked.alone holds distinct too).elim)
  · rw [free] at still
    cases still
  · rw [reserving] at free
    cases free

theorem projected_le {used incoming max : UInt64}
    (admitted : projected used inFlight incoming ≤ admissionBudget max) :
    used.toNat + inFlight.toNat + incoming.toNat ≤ admissionBudget max := by
  have bound := admissionBudget_lt max
  unfold projected saturatingAdd64 at admitted
  omega

theorem Booked.toNat_add (booked : admission.Booked) {incoming used max loaded : UInt64}
    (reserving : admission.phaseOf id = .reserving incoming used max loaded) :
    (admission.inFlight + incoming).toNat = admission.inFlight.toNat + incoming.toNat := by
  obtain ⟨below, within⟩ := booked.fits reserving
  have bound := admissionBudget_lt max
  rw [UInt64.toNat_add]
  exact Nat.mod_eq_of_lt (by omega)

theorem Booked.le_inFlight (booked : admission.Booked)
    (granted : admission.phaseOf id = .granted bytes) : bytes ≤ admission.inFlight := by
  have exchanged := liveBytes_move admission id .finished none 0
  rw [granted] at exchanged
  have counted := booked.booked
  rw [UInt64.le_iff_toNat_le, counted]
  simp only [AdmissionPhase.reserved] at exchanged
  omega

/-- **One step keeps the invariant**, whatever the reading is. -/
theorem Booked.step (booked : admission.Booked) (event : AdmissionEvent) :
    (admission.step event).Booked := by
  cases event with
  | call id incoming =>
    simp only [Admission.step]
    split
    · exact booked
    · next fresh =>
      have absent : admission.phaseOf id = .finished := by
        rw [phaseOf, AList.lookup_eq_none.mpr fresh, Option.getD_none]
      refine booked.pass (by rw [absent]; rfl) ?_ ?_ <;> split <;> rfl
  | lock id =>
    simp only [Admission.step]
    split
    · next incoming waiting unlocked =>
      refine booked.move (by rw [waiting]; rfl) (fun _ => rfl) nofun (fun other _ too => ?_)
      have held := booked.locked too
      rw [unlocked] at held
      cases held
    · exact booked
  | info id reading =>
    simp only [Admission.step]
    split
    · next incoming querying =>
      have holds : (admission.phaseOf id).holdsLock = true := by rw [querying]; rfl
      have nothing : (admission.phaseOf id).reserved = 0 := by rw [querying]; rfl
      split
      · split
        · exact booked.move (by rw [nothing]; rfl) (fun _ => booked.locked holds) nofun
            (fun _ _ too => ⟨booked.locked too, le_rfl⟩)
        · exact booked.release holds nothing rfl rfl
      · exact booked.release holds nothing rfl rfl
    · exact booked
  | load id =>
    simp only [Admission.step]
    split
    · next incoming used max loading =>
      have holds : (admission.phaseOf id).holdsLock = true := by rw [loading]; rfl
      have nothing : (admission.phaseOf id).reserved = 0 := by rw [loading]; rfl
      split
      · next admitted =>
        refine booked.move (by rw [nothing]; rfl) (fun _ => booked.locked holds) ?_
          (fun _ _ too => ⟨booked.locked too, le_rfl⟩)
        intro _ _ _ _ same
        cases same
        exact ⟨le_rfl, projected_le admitted⟩
      · exact booked.release holds nothing rfl rfl
    · exact booked
  | reserve id =>
    simp only [Admission.step]
    split
    · next incoming used max loaded reserving =>
      -- drops may have run since the load, so the counter is at most what was loaded
      have holds : (admission.phaseOf id).holdsLock = true := by rw [reserving]; rfl
      refine booked.move ?_ nofun nofun
        (fun other distinct too => (booked.alone holds distinct too).elim)
      rw [booked.toNat_add reserving, reserving]
      rfl
    · exact booked
  | poll id | timeout id =>
    simp only [Admission.step]
    split
    · next sleeping => exact booked.pass (by rw [sleeping]; rfl) rfl rfl
    · exact booked
  | cancel id =>
    simp only [Admission.step]
    split
    · next waiting => exact booked.pass (by rw [waiting]; rfl) rfl rfl
    · next sleeping => exact booked.pass (by rw [sleeping]; rfl) rfl rfl
    · next querying =>
      exact booked.release (by rw [querying]; rfl) (by rw [querying]; rfl) rfl rfl
    · exact booked
  | drop id =>
    simp only [Admission.step]
    split
    · next bytes granted =>
      have counted := booked.le_inFlight granted
      have subtracted := UInt64.toNat_sub_of_le _ _ counted
      rw [UInt64.le_iff_toNat_le] at counted
      refine booked.move ?_ nofun nofun (fun _ _ too => ⟨booked.locked too, ?_⟩)
      · rw [subtracted, granted]
        simp only [AdmissionPhase.reserved]
        omega
      · omega
    · exact booked

theorem booked_reach (events : List AdmissionEvent) : (reach events).Booked :=
  Systems.run_preserves Booked booked_start (fun _ event booked => booked.step event) events

/-! ## Grants -/

/-- A move that makes a call hold a reservation is its own move to the grant. -/
theorem granted_of_move {other : ℕ} {decide : Option ℕ}
    (before : admission.phaseOf other ≠ .granted bytes)
    (after : (admission.move id phase decide inFlight).phaseOf other = .granted bytes) :
    other = id ∧ phase = .granted bytes := by
  rw [phaseOf_move] at after
  split at after
  · next same => exact ⟨same, after⟩
  · exact absurd after before

theorem reserving_of_granted {event : AdmissionEvent}
    (before : admission.phaseOf id ≠ .granted bytes)
    (after : (admission.step event).phaseOf id = .granted bytes) :
    ∃ used max loaded, admission.phaseOf id = .reserving bytes used max loaded ∧
      admission.step event =
        admission.move id (.granted bytes) none (admission.inFlight + bytes) := by
  cases event with
  | reserve other =>
    simp only [step] at after ⊢
    split at after
    · next incoming used max loaded reserving =>
      obtain ⟨rfl, same⟩ := granted_of_move before after
      cases same
      exact ⟨used, max, loaded, reserving, rfl⟩
    · exact absurd after before
  | call other incoming =>
    simp only [step] at after
    split at after
    · exact absurd after before
    · obtain ⟨_, same⟩ := granted_of_move before after
      split at same <;> cases same
  | lock other | info other reading | load other | poll other | timeout other | cancel other
  | drop other =>
    -- every other move ends in a phase without a reservation
    simp only [step] at after
    repeat' split at after
    all_goals first
      | exact absurd after before
      | cases (granted_of_move before after).2

/-- **Uploads are never over-committed and reservations never leak.** Whatever calls,
readings, cancellations and drops have run, the counter is the sum of the live
reservations, and no drop subtracts more than is counted. Whenever the next step grants a
reservation, the memory read for that decision plus all reservations live after the grant
are within the budget of the same reading. -/
theorem admission_never_overcommits (events : List AdmissionEvent) :
    (reach events).inFlight.toNat = (reach events).liveBytes ∧
      (∀ id bytes, (reach events).phaseOf id = .granted bytes →
        bytes ≤ (reach events).inFlight) ∧
      (∀ event id bytes, (reach events).phaseOf id ≠ .granted bytes →
        ((reach events).step event).phaseOf id = .granted bytes →
          ∃ used max loaded, (reach events).phaseOf id = .reserving bytes used max loaded ∧
            used.toNat + ((reach events).step event).liveBytes ≤ admissionBudget max) := by
  have booked := booked_reach events
  refine ⟨booked.booked, fun _ _ => booked.le_inFlight, ?_⟩
  intro event id bytes before after
  obtain ⟨used, max, loaded, reserving, granting⟩ := reserving_of_granted before after
  refine ⟨used, max, loaded, reserving, ?_⟩
  have counted := (booked.step event).booked
  obtain ⟨below, within⟩ := booked.fits reserving
  have added : ((reach events).step event).inFlight.toNat =
      (reach events).inFlight.toNat + bytes.toNat := by
    rw [granting]
    exact booked.toNat_add reserving
  omega

/-- The first upload gives its bytes back between the load and the addition of the
second. -/
def crossedDrop : List AdmissionEvent :=
  [.call 0 4194304, .lock 0, .info 0 (some (0, 16777216)), .load 0, .reserve 0,
    .call 1 8388608, .lock 1, .info 1 (some (1048576, 33554432)), .load 1, .drop 0]

theorem admission_never_overcommits_crossedDrop :
    ∃ used max loaded, (reach crossedDrop).phaseOf 1 = .reserving 8388608 used max loaded ∧
      used.toNat + ((reach crossedDrop).step (.reserve 1)).liveBytes ≤ admissionBudget max :=
  (admission_never_overcommits crossedDrop).2.2 (.reserve 1) 1 8388608
    (by decide +kernel) (by decide +kernel)

end Admission

end Sp1Cluster
