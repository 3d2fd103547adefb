import Sp1Cluster.Bidder.Pass

/-!
# The running load of a pass

A pass counts the load of the assigned requests once and then adds each request it
admits. If the additions are right, the load is at any time what counting the assigned
requests together with the admitted ones would give. The gas of both is the same sum,
stopped at the largest word, because the requests are added in order. Wraps are counted
by the mode of a request in the one case and by the weight of its wrap stage in the
other, so a mode with a wrap stage of weight zero is counted only once.
-/

set_option autoImplicit false

namespace Sp1Cluster.Bidder

variable {F R : Type} (library : BiddingLibrary F R) (bidder : Bidder F)

theorem loadOf_snoc (estimateFor : List UInt8 → Option ℕ) (assigned : List BiddableRequest)
    (request : BiddableRequest) :
    bidder.loadOf library estimateFor (assigned ++ [request]) =
      { bidder.loadOf library estimateFor assigned with
        activeProofs :=
          wrappingAdd32 (bidder.loadOf library estimateFor assigned).activeProofs 1
        committedGas :=
          saturatingAdd64 (bidder.loadOf library estimateFor assigned).committedGas
            (bidder.gasOf library estimateFor request)
        activeWraps :=
          if isWrap request.mode then
            wrappingAdd32 (bidder.loadOf library estimateFor assigned).activeWraps 1
          else (bidder.loadOf library estimateFor assigned).activeWraps } := by
  have proofs : (assigned ++ [request]).length % 2 ^ 32 =
      wrappingAdd32 (assigned.length % 2 ^ 32) 1 := by
    rw [List.length_append, List.length_singleton, wrappingAdd32, Nat.mod_add_mod]
  have gas : ((assigned ++ [request]).map (bidder.gasOf library estimateFor)).foldl
      saturatingAdd64 0 =
        saturatingAdd64 ((assigned.map (bidder.gasOf library estimateFor)).foldl saturatingAdd64 0)
          (bidder.gasOf library estimateFor request) := by
    rw [List.map_append, List.foldl_append]
    rfl
  have wraps : ((assigned ++ [request]).filter fun request => isWrap request.mode).length %
      2 ^ 32 =
        if isWrap request.mode then
          wrappingAdd32 ((assigned.filter fun request => isWrap request.mode).length % 2 ^ 32) 1
        else (assigned.filter fun request => isWrap request.mode).length % 2 ^ 32 := by
    rw [List.filter_append, List.length_append]
    cases wrap : isWrap request.mode with
    | true => simp [wrap, wrappingAdd32]
    | false => simp [wrap]
  unfold loadOf
  rw [proofs, gas, wraps]

/-- The wrap stage of a request, if it has one, has a weight. -/
def WrapWeighed (request : BiddableRequest) : Prop :=
  isWrap request.mode = true → (bidder.modeWrapDemand library request.mode).2 ≠ 0

/-- The load is what counting the assigned requests and those admitted so far gives. -/
def Recounts (pass : Pass R) (assigned : List BiddableRequest) (progress : Progress F) : Prop :=
  progress.load = bidder.loadOf library pass.estimateFor (assigned ++ progress.bids.map Prod.fst)

variable {bidder library}

theorem wrapWeighed_iff {request : BiddableRequest} :
    bidder.WrapWeighed library request ↔
      (0 < (bidder.modeWrapDemand library request.mode).2 ↔ isWrap request.mode = true) := by
  unfold WrapWeighed
  rw [Nat.pos_iff_ne_zero]
  constructor
  · intro weighed
    refine ⟨fun weight => ?_, weighed⟩
    cases mode : request.mode <;> rw [mode] at weight <;> first | rfl | exact absurd rfl weight
  · exact fun same wrap => same.mpr wrap

theorem wrappingAdd32_one_ne (count : ℕ) : wrappingAdd32 count 1 ≠ count := by
  unfold wrappingAdd32
  omega

/-- Admitting a request changes the load as counting it does exactly if its wrap stage has a
weight. -/
theorem load_of_admitRequest {pass : Pass R} {request : BiddableRequest} {now : ℕ}
    {progress admitted : Progress F} {counted : List BiddableRequest}
    (admits : bidder.admitRequest library pass request now progress = some admitted)
    (load : progress.load = bidder.loadOf library pass.estimateFor counted) :
    admitted.load = bidder.loadOf library pass.estimateFor (counted ++ [request]) ↔
      bidder.WrapWeighed library request := by
  obtain ⟨-, -, added⟩ := bidder.admitRequest_eq_some library admits
  rw [added, loadOf_snoc, ← load, wrapWeighed_iff]
  constructor
  · intro same
    have wraps := congrArg ClusterLoad.activeWraps same
    dsimp only at wraps
    by_contra differ
    split at wraps
    · next weighs =>
      rw [if_neg fun wrap => differ (iff_of_true weighs wrap)] at wraps
      exact wrappingAdd32_one_ne _ wraps
    · next weightless =>
      split at wraps
      · exact wrappingAdd32_one_ne _ wraps.symm
      · next plain => exact differ (iff_of_false weightless plain)
  · intro same
    simp only [same]

theorem mem_considerRequest {pass : Pass R} {progress : Progress F} {bid : BiddableRequest × ℕ}
    (made : bid ∈ progress.bids) (offer : ℕ × BiddableRequest) :
    bid ∈ (bidder.considerRequest library pass progress offer).bids := by
  rcases bidder.considerRequest_cases library pass progress offer with
    same | ⟨-, before, ⟨-, rfl⟩ | ⟨-, admits⟩, next⟩
  · rwa [same]
  · rw [next]
    exact List.mem_append_left _ made
  · rw [next]
    exact List.mem_append_left _ ((bidder.admitRequest_eq_some library admits).2.1 ▸ made)

/-- One turn of the loop leaves the load right exactly if it admits no wrap without a weight. -/
theorem recounts_considerRequest (calm : bidder.aggressiveMode = false) {pass : Pass R}
    {assigned : List BiddableRequest} {progress : Progress F}
    (recounts : bidder.Recounts library pass assigned progress)
    (weighed : ∀ bid ∈ progress.bids, bidder.WrapWeighed library bid.1)
    (offer : ℕ × BiddableRequest) :
    bidder.Recounts library pass assigned (bidder.considerRequest library pass progress offer) ↔
      ∀ bid ∈ (bidder.considerRequest library pass progress offer).bids,
        bidder.WrapWeighed library bid.1 := by
  rcases bidder.considerRequest_cases library pass progress offer with
    same | ⟨-, before, ⟨aggressive, -⟩ | ⟨-, admits⟩, next⟩
  · rw [same]
    exact iff_of_true recounts weighed
  · rw [calm] at aggressive
    cases aggressive
  · have kept := (bidder.admitRequest_eq_some library admits).2.1
    have load := load_of_admitRequest admits recounts
    rw [next]
    simp only [Recounts, Progress.bid, kept, List.map_append, List.map_singleton,
      ← List.append_assoc, load, List.mem_append, List.mem_singleton, or_imp, forall_and, forall_eq]
    exact (and_iff_right weighed).symm

theorem recounts_considerRequests (calm : bidder.aggressiveMode = false) {pass : Pass R}
    {assigned : List BiddableRequest} {start : Progress F}
    (recounts : bidder.Recounts library pass assigned start) (unbid : start.bids = [])
    (offers : List (ℕ × BiddableRequest)) :
    (∀ shown, shown <+: offers → bidder.Recounts library pass assigned
        (bidder.considerRequests library pass shown start)) ↔
      ∀ bid ∈ (bidder.considerRequests library pass offers start).bids,
        bidder.WrapWeighed library bid.1 := by
  induction offers using List.reverseRecOn with
  | nil =>
    simp only [List.prefix_nil, forall_eq]
    refine iff_of_true recounts ?_
    change ∀ bid ∈ start.bids, _
    simp [unbid]
  | append_singleton offers offer ih =>
    have last : bidder.considerRequests library pass (offers ++ [offer]) start =
        bidder.considerRequest library pass (bidder.considerRequests library pass offers start)
          offer := Systems.run_append ..
    -- A prefix of the longer list is the whole of it or one of the shorter.
    simp only [List.prefix_concat_iff, or_imp, forall_and, forall_eq, ih, last]
    constructor
    · rintro ⟨whole, weighed⟩
      have before := ih.mpr weighed offers (List.prefix_refl _)
      exact (recounts_considerRequest calm before weighed offer).mp whole
    · intro weighed
      have earlier : ∀ bid ∈ (bidder.considerRequests library pass offers start).bids,
          bidder.WrapWeighed library bid.1 :=
        fun bid made => weighed bid (mem_considerRequest made offer)
      have before := ih.mpr earlier offers (List.prefix_refl _)
      exact ⟨(recounts_considerRequest calm before earlier offer).mpr weighed, earlier⟩

/-- **The running load is the recount, as long as every admitted wrap has a weight.** For a
bidder that is not aggressive and whose ledger was empty, the load after every prefix of the
offers is that of the assigned requests followed by those admitted so far, exactly if the pass
admits no request with a wrap stage of weight zero. -/
theorem load_eq_recount (library : BiddingLibrary F R) (bidder : Bidder F)
    (calm : bidder.aggressiveMode = false) (pass : Pass R) (now : ℕ)
    (assigned : List BiddableRequest) (offers : List (ℕ × BiddableRequest)) :
    (∀ shown, shown <+: offers → bidder.Recounts library pass assigned
        (bidder.considerRequests library pass shown
          (bidder.beginPass library pass now [] assigned offers))) ↔
      ∀ bid ∈ (bidder.considerRequests library pass offers
          (bidder.beginPass library pass now [] assigned offers)).bids,
        bidder.WrapWeighed library bid.1 := by
  refine recounts_considerRequests calm ?_ rfl offers
  simp [Recounts, beginPass, library.reconcileInto_nil]

/-- Two offers with a wrap stage and one slot left: the first is admitted and counted. -/
theorem load_eq_recount_oneSlot :
    slotBidder.Recounts slotLibrary slotPass [plainOffer .core none]
        (slotBidder.considerRequests slotLibrary slotPass
          [(0, plainOffer .groth16 none), (1, plainOffer .plonk none)]
          (slotBidder.beginPass slotLibrary slotPass 0 [] [plainOffer .core none]
            [(0, plainOffer .groth16 none), (1, plainOffer .plonk none)])) ∧
      (slotBidder.considerRequests slotLibrary slotPass
        [(0, plainOffer .groth16 none), (1, plainOffer .plonk none)]
        (slotBidder.beginPass slotLibrary slotPass 0 [] [plainOffer .core none]
          [(0, plainOffer .groth16 none), (1, plainOffer .plonk none)])).bids.map Prod.fst =
        [plainOffer .groth16 none] := by
  refine ⟨(load_eq_recount slotLibrary slotBidder rfl slotPass 0 [plainOffer .core none]
    [(0, plainOffer .groth16 none), (1, plainOffer .plonk none)]).mpr ?_ _
      (List.prefix_refl _), by decide +kernel⟩
  unfold WrapWeighed
  decide +kernel

/-- **An admitted wrap that the load leaves out.** The weight of the Groth16 wrap is zero. -/
theorem wrap_not_counted :
    ({ slotBidder with groth16WrapWeight := 0 }.considerRequests slotLibrary slotPass
        [(0, plainOffer .groth16 none)]
        ({ slotBidder with groth16WrapWeight := 0 }.beginPass slotLibrary slotPass 0 [] []
          [(0, plainOffer .groth16 none)])).load.activeWraps = 0 ∧
      ({ slotBidder with groth16WrapWeight := 0 }.considerRequests slotLibrary slotPass
        [(0, plainOffer .groth16 none)]
        ({ slotBidder with groth16WrapWeight := 0 }.beginPass slotLibrary slotPass 0 [] []
          [(0, plainOffer .groth16 none)])).bids.map Prod.fst = [plainOffer .groth16 none] ∧
      ({ slotBidder with groth16WrapWeight := 0 }.loadOf slotLibrary slotPass.estimateFor
        ([] ++ [plainOffer .groth16 none])).activeWraps = 1 := by
  decide +kernel

end Sp1Cluster.Bidder
