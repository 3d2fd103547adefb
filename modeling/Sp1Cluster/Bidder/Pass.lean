import Mathlib.Order.Bounds.Defs
import Sp1Cluster.Coordinator.Types
import Sp1Cluster.Systems.Runs

/-!
# A pass of the bidder

The bidder looks at the proof requests that the network offers, one after another,
and bids on those it wants. A pass starts from the requests that are assigned to the
prover already: their number, their gas and how many of them have a wrap stage are the
cluster's load. A request on which it bids is added to the load, so that the next one
is weighed against it.

The amount of a bid is fixed for a pass, and raised to the floor price of a request.
It comes from the configuration, or from a price in dollars if there is a recent one.

The rules of admission, gas and prices are in other libraries. They are functions of
their arguments here, and floating-point numbers, which only these functions look at,
are an arbitrary type. Amounts are 256-bit words; nothing is added or multiplied to
them, so they are natural numbers. The pages of the network's listings, the lookup of
gas estimates and the metrics are left out.
-/

set_option autoImplicit false

namespace Sp1Cluster

/-! ## The network's requests -/

/-- `ProofMode`. -/
inductive ProofMode where
  | unspecified
  | core
  | compressed
  | plonk
  | groth16
deriving DecidableEq, Repr

/-- `ProofRequest` of the network, as far as the bidder reads it. -/
structure BiddableRequest where
  requestId : List UInt8
  vkHash : List UInt8
  mode : ProofMode
  gasLimit : ℕ
  cycleLimit : ℕ
  createdAt : ℕ
  deadline : ℕ
  minAuctionPeriod : ℕ
  floorPricePerPgu : Option String
  maxPricePerPgu : Option String
deriving DecidableEq, Repr

/-! ## Other libraries -/

/-- `ClusterState`. -/
structure ClusterLoad (F : Type) where
  throughputMgas : F
  cpuWorkerMaxWeights : List ℕ
  activeProofs : ℕ
  committedGas : ℕ
  activeWraps : ℕ
deriving DecidableEq, Repr

/-- `RequestDemand`. -/
structure RequestDemand (F : Type) where
  expectedGas : ℕ
  deadlineSecs : ℕ
  bufferSecs : F
  wrapSecs : F
  wrapWeight : ℕ
deriving DecidableEq, Repr

inductive AdmissionOutcome where
  | admitLoaded
  | rejectCap
  | rejectInfeasible
  | rejectLoad
deriving DecidableEq, Repr

/-- An own bid that awaits its assignment. -/
structure PendingBid where
  requestId : List UInt8
  expectedGas : ℕ
  isWrap : Bool
  minAuctionPeriod : ℕ
  recordedAt : ℕ
deriving DecidableEq, Repr

/-- What the bidder takes from other libraries, with floating-point numbers `F` and
performance requirements `R`. -/
structure BiddingLibrary (F R : Type) where
  /-- `is_finite() && > 0.0` -/
  isFinitePositive : F → Bool
  display : F → String
  ofSeconds : ℕ → F
  zero : F
  expectedGas : Option ℕ → ℕ → ℕ → F → ℕ
  admissionOutcome : ClusterLoad F → RequestDemand F → AdmissionOutcome
  perfDeadline : ℕ → ℕ → R → ℕ
  /-- `compute_max_price_per_pgu_wei` -/
  computeMaxPrice : ℕ → ℕ → Option ℕ
  /-- `U256::from_str` -/
  parseU256 : String → Option ℕ
  /-- `reconcile_into` of the ledger of pending bids -/
  reconcileInto : List PendingBid → List (List UInt8) → ℕ → ClusterLoad F →
    List PendingBid × ClusterLoad F
  reconcileInto_nil : ∀ visible now load, reconcileInto [] visible now load = ([], load)
  /-- `round_down_to_tick` -/
  roundDownToTick : ℕ → ℕ → ℕ
  roundDownToTick_greatest : ∀ value tick, 0 < tick →
    IsGreatest {amount | tick ∣ amount ∧ amount ≤ value} (roundDownToTick value tick)

/-! ## The configuration -/

structure UsdBidConfig where
  target : ℕ
  stalenessMaxSecs : ℕ
deriving DecidableEq, Repr

/-- `Bidder`, with the wrap weights that it reads from its environment. -/
structure Bidder (F : Type) where
  throughputMgas : F
  bidAmount : ℕ
  bufferSec : ℕ
  groth16BufferSec : ℕ
  plonkBufferSec : ℕ
  groth16Enabled : Bool
  plonkEnabled : Bool
  aggressiveMode : Bool
  minDeadlineSecs : Option ℕ
  usdBid : Option UsdBidConfig
  gasEstimateMultiplier : F
  cpuWorkerMaxWeights : List ℕ
  tickSize : ℕ
  /-- `GROTH16_WRAP_WEIGHT` -/
  groth16WrapWeight : ℕ
  /-- `PLONK_WRAP_WEIGHT` -/
  plonkWrapWeight : ℕ
deriving DecidableEq, Repr

/-- `DEFAULT_TICK_SIZE`. -/
def defaultTickSize : ℕ := 10000000

/-- `U256::MAX`. -/
def u256Max : ℕ := 2 ^ 256 - 1

/-- `fetch_tick_size`, given the tick in the network's answer. -/
def fetchTickSize (answered : ℕ) : ℕ := if answered = 0 then defaultTickSize else answered

/-- `validate_bid_amount`. -/
def validateBidAmount (value tick : ℕ) : Except String Unit :=
  if value = 0 then .error "must be > 0"
  else if value % tick ≠ 0 then .error s!"{value} is not a multiple of tick_size={tick}"
  else .ok ()

namespace Bidder

variable {F R : Type} (library : BiddingLibrary F R) (bidder : Bidder F)

/-- `run` up to its loop, with the network's answer to the request for the tick. An error is
the chain of its messages. -/
def startUp (tick : Except String ℕ) : Except (List String) (Bidder F) :=
  match tick with
  | .error error => .error ["startup tick_size fetch failed", error]
  | .ok answered =>
    let tickSize := fetchTickSize answered
    match validateBidAmount bidder.bidAmount tickSize with
    | .error error => .error ["bid_amount", error]
    | .ok () =>
      let multiplier := library.display bidder.gasEstimateMultiplier
      let throughput := library.display bidder.throughputMgas
      if !library.isFinitePositive bidder.gasEstimateMultiplier then
        .error [s!"gas_estimate_multiplier must be finite and positive, got {multiplier}"]
      else if !library.isFinitePositive bidder.throughputMgas then
        .error [s!"throughput_mgas must be finite and positive, got {throughput}"]
      else .ok { bidder with tickSize }

/-- `mode_enabled`. -/
def modeEnabled : ProofMode → Bool
  | .groth16 => bidder.groth16Enabled
  | .plonk => bidder.plonkEnabled
  | _ => true

/-- `mode_wrap_demand`: the duration and the weight of the wrap stage. -/
def modeWrapDemand : ProofMode → F × ℕ
  | .groth16 => (library.ofSeconds bidder.groth16BufferSec, bidder.groth16WrapWeight % 2 ^ 32)
  | .plonk => (library.ofSeconds bidder.plonkBufferSec, bidder.plonkWrapWeight % 2 ^ 32)
  | _ => (library.zero, 0)

/-! ## Amounts -/

/-- `bid_amount_outcome`, without the mark whether the amount is dynamic. The snapshot is a
price and its age. -/
def bidAmountOutcome (snapshot : Option (ℕ × ℕ)) : ℕ :=
  match bidder.usdBid, snapshot with
  | some usdBid, some (proveUsdMicros, ageSecs) =>
    if usdBid.stalenessMaxSecs ≤ ageSecs then bidder.bidAmount
    else
      match library.computeMaxPrice usdBid.target proveUsdMicros with
      | some wei =>
        let aligned := library.roundDownToTick wei bidder.tickSize
        if aligned = 0 then bidder.bidAmount else aligned
      | none => bidder.bidAmount
  | _, _ => bidder.bidAmount

/-- `parse`. -/
def parse (value : Option String) : Option ℕ :=
  value.bind fun value => if value = "" then none else library.parseU256 value

/-- The least amount that a request takes. -/
def floorPrice (request : BiddableRequest) : ℕ := (parse library request.floorPricePerPgu).getD 0

/-- The largest amount that a request takes. -/
def maxPrice (request : BiddableRequest) : ℕ :=
  (parse library request.maxPricePerPgu).getD u256Max

/-! ## Admission -/

/-- What a pass has done so far: the load, the ledger of pending bids, and the bids that it
has made. -/
structure Progress (F : Type) where
  load : ClusterLoad F
  pendingBids : List PendingBid
  bids : List (BiddableRequest × ℕ)
deriving DecidableEq, Repr

/-- What is fixed during a pass. -/
structure Pass (R : Type) where
  estimateFor : List UInt8 → Option ℕ
  requirements : Option R
  bidAmount : ℕ

/-- `clamped_request_duration`. -/
def clampedRequestDuration (now deadline : ℕ) : Option ℕ → ℕ
  | none => deadline - now
  | some perf => min perf deadline - now

/-- `effective_request_duration`. -/
def effectiveRequestDuration (request : BiddableRequest) (expectedGas : ℕ)
    (requirements : Option R) (now : ℕ) : ℕ :=
  clampedRequestDuration now request.deadline
    (requirements.map (library.perfDeadline request.createdAt expectedGas))

/-- The gas that a request is expected to use. -/
def gasOf (estimateFor : List UInt8 → Option ℕ) (request : BiddableRequest) : ℕ :=
  library.expectedGas (estimateFor request.vkHash) request.gasLimit request.cycleLimit
    bidder.gasEstimateMultiplier

/-- `admit_request`: the progress with the request added to the load and to the ledger, if
the request is admitted. -/
def admitRequest (pass : Pass R) (request : BiddableRequest) (now : ℕ) (progress : Progress F) :
    Option (Progress F) :=
  if !bidder.modeEnabled request.mode then none
  else
    let expected := bidder.gasOf library pass.estimateFor request
    let deadlineSecs := effectiveRequestDuration library request expected pass.requirements now
    let (wrapSecs, wrapWeight) := bidder.modeWrapDemand library request.mode
    let outcome := library.admissionOutcome progress.load
      { expectedGas := expected
        deadlineSecs
        bufferSecs := library.ofSeconds bidder.bufferSec
        wrapSecs
        wrapWeight }
    if outcome = .admitLoaded then
      some { progress with
        load := { progress.load with
          activeProofs := wrappingAdd32 progress.load.activeProofs 1
          committedGas := saturatingAdd64 progress.load.committedGas expected
          activeWraps :=
            if 0 < wrapWeight then wrappingAdd32 progress.load.activeWraps 1
            else progress.load.activeWraps }
        pendingBids := progress.pendingBids ++
          [{ requestId := request.requestId
             expectedGas := expected
             isWrap := decide (0 < wrapWeight)
             minAuctionPeriod := request.minAuctionPeriod
             recordedAt := now }] }
    else none

/-! ## The pass -/

def Progress.bid (request : BiddableRequest) (amount : ℕ) (progress : Progress F) : Progress F :=
  { progress with bids := progress.bids ++ [(request, amount)] }

/-- The body of the loop over the biddable requests, at the time the request is looked at. -/
def considerRequest (pass : Pass R) (progress : Progress F) (offer : ℕ × BiddableRequest) :
    Progress F :=
  let (now, request) := offer
  let amount := max pass.bidAmount (floorPrice library request)
  if maxPrice library request < amount then progress
  else if bidder.aggressiveMode then
    match bidder.minDeadlineSecs with
    | some minDeadline =>
      if effectiveRequestDuration library request request.gasLimit pass.requirements now <
          minDeadline then progress
      else progress.bid request amount
    | none => progress.bid request amount
  else
    match bidder.admitRequest library pass request now progress with
    | some admitted => admitted.bid request amount
    | none => progress

def considerRequests (pass : Pass R) (offers : List (ℕ × BiddableRequest))
    (progress : Progress F) : Progress F :=
  Systems.run (bidder.considerRequest library pass) progress offers

/-- **What the loop can do with a request**: nothing, or bid on it an amount that is not above
its maximum, after admission unless the bidder is aggressive. -/
theorem considerRequest_cases (pass : Pass R) (progress : Progress F)
    (offer : ℕ × BiddableRequest) :
    bidder.considerRequest library pass progress offer = progress ∨
      (max pass.bidAmount (floorPrice library offer.2) ≤ maxPrice library offer.2 ∧
        ∃ before, (bidder.aggressiveMode = true ∧ before = progress ∨
            bidder.aggressiveMode = false ∧
              bidder.admitRequest library pass offer.2 offer.1 progress = some before) ∧
          bidder.considerRequest library pass progress offer =
            before.bid offer.2 (max pass.bidAmount (floorPrice library offer.2))) := by
  obtain ⟨now, request⟩ := offer
  unfold considerRequest
  dsimp only
  by_cases exceeds : maxPrice library request < max pass.bidAmount (floorPrice library request)
  · exact .inl (if_pos exceeds)
  · rw [if_neg exceeds]
    cases mode : bidder.aggressiveMode with
    | true =>
      rw [if_pos rfl]
      split
      · split
        · exact .inl rfl
        · exact .inr ⟨not_lt.mp exceeds, progress, .inl ⟨rfl, rfl⟩, rfl⟩
      · exact .inr ⟨not_lt.mp exceeds, progress, .inl ⟨rfl, rfl⟩, rfl⟩
    | false =>
      rw [if_neg Bool.false_ne_true]
      cases admitted : bidder.admitRequest library pass request now progress with
      | none => exact .inl rfl
      | some before => exact .inr ⟨not_lt.mp exceeds, before, .inr ⟨rfl, rfl⟩, rfl⟩

/-- **What admission does**: it needs an enabled mode and adds the request to the load. -/
theorem admitRequest_eq_some {pass : Pass R} {request : BiddableRequest} {now : ℕ}
    {progress admitted : Progress F}
    (admits : bidder.admitRequest library pass request now progress = some admitted) :
    bidder.modeEnabled request.mode = true ∧ admitted.bids = progress.bids ∧
      admitted.load =
        { progress.load with
          activeProofs := wrappingAdd32 progress.load.activeProofs 1
          committedGas := saturatingAdd64 progress.load.committedGas
            (bidder.gasOf library pass.estimateFor request)
          activeWraps :=
            if 0 < (bidder.modeWrapDemand library request.mode).2 then
              wrappingAdd32 progress.load.activeWraps 1
            else progress.load.activeWraps } := by
  unfold admitRequest at admits
  split at admits
  · cases admits
  · next enabled =>
    dsimp only at admits
    split at admits
    · cases admits
      exact ⟨by simpa using enabled, rfl, rfl⟩
    · cases admits

/-- Modes that have a wrap stage. -/
def isWrap : ProofMode → Bool
  | .groth16 | .plonk => true
  | _ => false

/-- The load of requests that are assigned. -/
def loadOf (estimateFor : List UInt8 → Option ℕ) (assigned : List BiddableRequest) :
    ClusterLoad F where
  throughputMgas := bidder.throughputMgas
  cpuWorkerMaxWeights := bidder.cpuWorkerMaxWeights
  activeProofs := assigned.length % 2 ^ 32
  committedGas := (assigned.map (bidder.gasOf library estimateFor)).foldl saturatingAdd64 0
  activeWraps := (assigned.filter fun request => isWrap request.mode).length % 2 ^ 32

/-- Where a pass begins: with the load of the assigned requests and of the own bids that are
outstanding. -/
def beginPass (pass : Pass R) (now : ℕ) (pendingBids : List PendingBid)
    (assigned : List BiddableRequest) (offers : List (ℕ × BiddableRequest)) : Progress F :=
  let visible := (offers.map Prod.snd ++ assigned).map BiddableRequest.requestId
  let (pendingBids, load) := library.reconcileInto pendingBids visible now
    (bidder.loadOf library pass.estimateFor assigned)
  { load, pendingBids, bids := [] }

/-- `bid_requests` at a time when the prover may be suspended: the ledger afterwards and the
bids that are made. -/
def bidRequests (pass : Pass R) (suspendedUntil now : ℕ) (pendingBids : List PendingBid)
    (assigned : List BiddableRequest) (offers : List (ℕ × BiddableRequest)) :
    List PendingBid × List (BiddableRequest × ℕ) :=
  if now < suspendedUntil then (pendingBids, [])
  else
    let progress := bidder.considerRequests library pass offers
      (bidder.beginPass library pass now pendingBids assigned offers)
    (progress.pendingBids, progress.bids)

/-! ## A small setting -/

/-- A library with whole numbers for floating-point ones. It expects the gas of the estimate, or
else of the limit, and admits requests while there is a controller slot. -/
def slotLibrary : BiddingLibrary ℕ Unit where
  isFinitePositive value := decide (0 < value)
  display := toString
  ofSeconds := id
  zero := 0
  expectedGas estimate gasLimit _ multiplier := (estimate.map (· * multiplier)).getD gasLimit
  admissionOutcome load _ :=
    if load.activeProofs < load.cpuWorkerMaxWeights.sum then .admitLoaded else .rejectCap
  perfDeadline createdAt gas _ := createdAt + gas
  computeMaxPrice target proveUsdMicros :=
    if proveUsdMicros = 0 then none else some (target * 10 ^ 9 / proveUsdMicros)
  parseU256 text :=
    if text.toList.all Char.isDigit then
      some (text.toList.foldl (fun value digit => value * 10 + (digit.toNat - '0'.toNat)) 0)
    else none
  reconcileInto pending _ _ load := (pending, load)
  reconcileInto_nil _ _ _ := rfl
  roundDownToTick value tick := value / tick * tick
  roundDownToTick_greatest value tick positive := by
    refine ⟨⟨Nat.dvd_mul_left _ _, Nat.div_mul_le_self _ _⟩, ?_⟩
    rintro amount ⟨⟨times, rfl⟩, below⟩
    rw [Nat.mul_comm tick]
    exact Nat.mul_le_mul_right tick ((Nat.le_div_iff_mul_le positive).mpr (Nat.mul_comm .. ▸ below))

/-- A bidder for two proofs at a time that bids one default tick. -/
def slotBidder : Bidder ℕ where
  throughputMgas := 1
  bidAmount := defaultTickSize
  bufferSec := 30
  groth16BufferSec := 30
  plonkBufferSec := 80
  groth16Enabled := true
  plonkEnabled := true
  aggressiveMode := false
  minDeadlineSecs := none
  usdBid := none
  gasEstimateMultiplier := 1
  cpuWorkerMaxWeights := [1, 1]
  tickSize := defaultTickSize
  groth16WrapWeight := 14
  plonkWrapWeight := 60

/-- A pass without estimates or requirements. -/
def slotPass : Pass Unit where
  estimateFor _ := none
  requirements := none
  bidAmount := defaultTickSize

/-- A request with a mode and a floor. -/
def plainOffer (mode : ProofMode) (floorPricePerPgu : Option String) :
    BiddableRequest where
  requestId := []
  vkHash := []
  mode
  gasLimit := 5
  cycleLimit := 5
  createdAt := 0
  deadline := 100
  minAuctionPeriod := 0
  floorPricePerPgu
  maxPricePerPgu := none

end Bidder

end Sp1Cluster
