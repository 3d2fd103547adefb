import Sp1Cluster.Bidder.Pass

/-!
# The amounts of bids

The auction takes amounts that are multiples of its tick. The bidder checks at its
start that the configured amount is one, and rounds an amount that it computes from a
price. But it raises the amount to the floor price of a request afterwards, and a
floor price can be anything.
-/

set_option autoImplicit false

namespace Sp1Cluster.Bidder

variable {F R : Type} {library : BiddingLibrary F R}

/-! ## The amount of a pass -/

/-- A bidder that has been started has a tick and a positive amount that is a multiple of it. -/
structure Started (bidder : Bidder F) : Prop where
  ticks : 0 < bidder.tickSize
  positive : 0 < bidder.bidAmount
  aligned : bidder.tickSize ∣ bidder.bidAmount

theorem fetchTickSize_pos (answered : ℕ) : 0 < fetchTickSize answered := by
  unfold fetchTickSize
  split
  · decide
  · next answers => exact Nat.pos_of_ne_zero answers

theorem started_of_startUp {bidder started : Bidder F} {tick : Except String ℕ}
    (start : bidder.startUp library tick = .ok started) : started.Started := by
  unfold startUp at start
  cases tick with
  | error error => cases start
  | ok answered =>
    dsimp only at start
    unfold validateBidAmount at start
    by_cases zero : bidder.bidAmount = 0
    · rw [if_pos zero] at start
      cases start
    · by_cases between : bidder.bidAmount % fetchTickSize answered ≠ 0
      · rw [if_neg zero, if_pos between] at start
        cases start
      · rw [if_neg zero, if_neg between] at start
        dsimp only at start
        split at start
        · cases start
        · split at start
          · cases start
          · cases start
            exact ⟨fetchTickSize_pos answered, Nat.pos_of_ne_zero zero,
              Nat.dvd_of_mod_eq_zero (not_not.mp between)⟩

/-- The amount of a pass is positive and a multiple of the tick, whatever the price is. -/
theorem bidAmountOutcome_aligned (library : BiddingLibrary F R) {bidder : Bidder F}
    (started : bidder.Started) (snapshot : Option (ℕ × ℕ)) :
    0 < bidder.bidAmountOutcome library snapshot ∧
      bidder.tickSize ∣ bidder.bidAmountOutcome library snapshot := by
  have fallback : 0 < bidder.bidAmount ∧ bidder.tickSize ∣ bidder.bidAmount :=
    ⟨started.positive, started.aligned⟩
  unfold bidAmountOutcome
  split
  · split
    · exact fallback
    · split
      · dsimp only
        split
        · exact fallback
        · next nonzero =>
          exact ⟨Nat.pos_of_ne_zero nonzero,
            (library.roundDownToTick_greatest _ _ started.ticks).1.1⟩
      · exact fallback
  · exact fallback

/-! ## The amount of a bid -/

/-- A bid of a pass is the amount of the pass, raised to the floor, and not above the maximum. -/
theorem bid_of_considerRequests (bidder : Bidder F) (pass : Pass R)
    (offers : List (ℕ × BiddableRequest)) {start : Progress F} (none_yet : start.bids = []) :
    ∀ bid ∈ (bidder.considerRequests library pass offers start).bids,
      bid.2 = max pass.bidAmount (floorPrice library bid.1) ∧
        bid.2 ≤ maxPrice library bid.1 := by
  refine Systems.run_preserves
    (fun progress : Progress F => ∀ bid ∈ progress.bids,
      bid.2 = max pass.bidAmount (floorPrice library bid.1) ∧ bid.2 ≤ maxPrice library bid.1)
    (by simp [none_yet]) (fun progress offer sound => ?_) offers
  rcases bidder.considerRequest_cases library pass progress offer with
    same | ⟨within, before, origin, next⟩
  · rwa [same]
  · have kept : before.bids = progress.bids := by
      rcases origin with ⟨-, rfl⟩ | ⟨-, admits⟩
      · rfl
      · exact (bidder.admitRequest_eq_some library admits).2.1
    intro bid member
    rw [next, Progress.bid, kept, List.mem_append, List.mem_singleton] at member
    rcases member with earlier | rfl
    · exact sound bid earlier
    · exact ⟨rfl, within⟩

theorem bid_of_bidRequests {bidder : Bidder F} {pass : Pass R} {suspendedUntil now : ℕ}
    {pendingBids : List PendingBid} {assigned : List BiddableRequest}
    {offers : List (ℕ × BiddableRequest)} {bid : BiddableRequest × ℕ}
    (made : bid ∈ (bidder.bidRequests library pass suspendedUntil now pendingBids assigned
      offers).2) :
    bid.2 = max pass.bidAmount (floorPrice library bid.1) ∧ bid.2 ≤ maxPrice library bid.1 := by
  unfold bidRequests at made
  split at made
  · cases made
  · exact bid_of_considerRequests bidder pass offers rfl bid made

/-- **Every bid is acceptable, if no floor between two ticks raises it.** For a configuration
that is accepted at start-up, each bid of a pass is positive, not below the floor of its request
and not above its maximum. It is a multiple of the tick exactly if the floor is one or is not
above the amount of the pass. -/
theorem bid_acceptable (library : BiddingLibrary F R) (configured bidder : Bidder F)
    (tick : Except String ℕ) (start : configured.startUp library tick = .ok bidder)
    (snapshot : Option (ℕ × ℕ)) (pass : Pass R)
    (priced : pass.bidAmount = bidder.bidAmountOutcome library snapshot)
    (suspendedUntil now : ℕ) (pendingBids : List PendingBid) (assigned : List BiddableRequest)
    (offers : List (ℕ × BiddableRequest)) (bid : BiddableRequest × ℕ)
    (made : bid ∈ (bidder.bidRequests library pass suspendedUntil now pendingBids assigned
      offers).2) :
    0 < bid.2 ∧ floorPrice library bid.1 ≤ bid.2 ∧ bid.2 ≤ maxPrice library bid.1 ∧
      (bidder.tickSize ∣ bid.2 ↔
        bidder.tickSize ∣ floorPrice library bid.1 ∨
          floorPrice library bid.1 ≤ pass.bidAmount) := by
  obtain ⟨amount, within⟩ := bid_of_bidRequests made
  obtain ⟨positive, aligned⟩ := bidAmountOutcome_aligned library (started_of_startUp start)
    snapshot
  rw [← priced] at positive aligned
  refine ⟨?_, ?_, within, ?_⟩
  · rw [amount]
    exact positive.trans_le (le_max_left _ _)
  · rw [amount]
    exact le_max_right _ _
  · rw [amount]
    rcases le_or_gt (floorPrice library bid.1) pass.bidAmount with below | above
    · rw [max_eq_left below]
      exact iff_of_true aligned (.inr below)
    · rw [max_eq_right above.le]
      exact (or_iff_left (not_le.mpr above)).symm

/-- A floor of three ticks is bid as it is. -/
theorem bid_acceptable_threeTicks :
    (plainOffer .core (some "30000000"), 30000000) ∈ (slotBidder.bidRequests slotLibrary slotPass
        0 0 [] [] [(0, plainOffer .core (some "30000000"))]).2 ∧
      0 < 30000000 ∧ floorPrice slotLibrary (plainOffer .core (some "30000000")) ≤ 30000000 ∧
      30000000 ≤ maxPrice slotLibrary (plainOffer .core (some "30000000")) ∧
      (defaultTickSize ∣ 30000000 ↔
        defaultTickSize ∣ floorPrice slotLibrary (plainOffer .core (some "30000000")) ∨
          floorPrice slotLibrary (plainOffer .core (some "30000000")) ≤ defaultTickSize) :=
  have made : (plainOffer .core (some "30000000"), 30000000) ∈ (slotBidder.bidRequests slotLibrary
      slotPass 0 0 [] [] [(0, plainOffer .core (some "30000000"))]).2 := by decide +kernel
  ⟨made, bid_acceptable slotLibrary slotBidder slotBidder (.ok 0) rfl none slotPass rfl 0 0 [] []
    [(0, plainOffer .core (some "30000000"))] (plainOffer .core (some "30000000"), 30000000) made⟩

/-- **A floor between two ticks makes a bid between two ticks.** -/
theorem bid_between_ticks :
    (slotBidder.startUp slotLibrary (.ok 0)).toOption.map (fun bidder =>
      (bidder.bidRequests slotLibrary slotPass 0 0 [] []
        [(0, plainOffer .core (some "10000001"))]).2.map fun bid =>
          (bid.2, bid.2 % bidder.tickSize)) = some [(10000001, 1)] := by
  decide +kernel

end Sp1Cluster.Bidder
