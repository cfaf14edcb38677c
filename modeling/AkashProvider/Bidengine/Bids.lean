import AkashProvider.Bidengine.Progress

/-!
# Bids of the order monitor

A monitor bids at most once, for a price that the group pays, with what is reserved, and only
without an earlier bid (`bids_as_intended`).  A bid whose broadcast is in flight at a shutdown or
the end of the order stays (`bid_left_open`); `bids_closed` says that these are the only ways.
-/

namespace AkashProvider

namespace OrderMonitor

variable {cfg : OrderConfig} {o o' : OrderMonitor}

/-! ## Placing a bid -/

theorem handlePrice_created (cfg : OrderConfig) (o : OrderMonitor)
    (result : Except String DecCoin) :
    (o.handlePrice cfg result).created = o.created ∨
      ∃ price group reservation, result = .ok price ∧ o.group = some group ∧
        o.reservation = some reservation ∧ price.denom = group.price.denom ∧
        price.amount ≤ group.price.amount ∧
        (o.handlePrice cfg result).created =
          o.created ++ [bidMsg cfg price reservation.allocatedResources] := by
  cases result with
  | error text => exact .inl rfl
  | ok price => grind [DecCoin.isLT]

/-- At most one bid is sent, after the decision and the reservation, when none was found on the
chain, for what is reserved and what the group pays. -/
theorem bids_as_intended {checkForExistingBid : Bool}
    (hrun : Runs (step cfg) (fun _ _ => True) (start checkForExistingBid) o) {e : OrderEvent}
    (hstep : o.step cfg e = some o') :
    o'.created.length ≤ 1 ∧ (o'.created ≠ [] → o'.bidFound = none) ∧
    (o'.created ≠ o.created →
      o.created = [] ∧ o.accepted = true ∧ o.granted = 1 ∧
      ∃ msg group reservation, o'.created = [msg] ∧ o.group = some group ∧
        o.reservation = some reservation ∧ reservation.orderID = cfg.orderID ∧
        msg.resourcesOffer = cfg.resourceOfferFromRU reservation.allocatedResources ∧
        msg.price.denom = group.price.denom ∧ msg.price.amount ≤ group.price.amount) := by
  have h := inv_of_runs hrun
  refine ⟨(h.step hstep).created_length_le, fun hne => ?_, fun hchanged => ?_⟩
  · exact Option.not_isSome_iff_eq_none.mp fun hfound => hne ((h.step hstep).found hfound).1
  obtain ⟨result, hch, rfl⟩ := step_changes_created hstep hchanged
  obtain ⟨hnil, -⟩ := h.pricing hch
  rcases handlePrice_created cfg o result with
    hsame | ⟨price, group, reservation, -, hgroup, hreservation, hdenom, hle, hcreated⟩
  · exact absurd hsame hchanged
  obtain ⟨horder, hgranted⟩ := h.held reservation hreservation
  have hne : o.reservation ≠ none := by
    rw [hreservation]
    exact Option.some_ne_none reservation
  refine ⟨hnil, h.accepted_of_reservation hne, hgranted,
    bidMsg cfg price reservation.allocatedResources, group, reservation, ?_, hgroup, hreservation,
    horder, rfl, hdenom, hle⟩
  rw [hcreated, hnil, List.nil_append]

/-- A monitor that has a reservation and asked for a price. -/
def pricingMonitor : OrderMonitor :=
  after plainOrder (start false)
    [.group (.ok plainChainGroup), .shouldBid (.ok true), .reserve (.ok [])]

theorem runs_pricingMonitor :
    Runs (step plainOrder) (fun _ _ => True) (start false) pricingMonitor :=
  Runs.of_foldlM [.group (.ok plainChainGroup), .shouldBid (.ok true), .reserve (.ok [])] _ _ rfl

theorem bids_as_intended_at_max_price :
    let o' := after plainOrder pricingMonitor [.price (.ok ⟨"uakt", 100⟩)]
    o'.created = [bidMsg plainOrder ⟨"uakt", 100⟩ []] ∧ o'.created.length ≤ 1 ∧
      o'.bidFound = none := by
  have hstep : pricingMonitor.step plainOrder (.price (.ok ⟨"uakt", 100⟩)) = some _ := rfl
  obtain ⟨hle, hfound, -⟩ := bids_as_intended runs_pricingMonitor hstep
  exact ⟨rfl, hle, hfound (List.cons_ne_nil _ _)⟩

/-! ## Closing it -/

/-- A bid was handed to the broadcaster and has not failed, or an open one was found. -/
def Outstanding (o : OrderMonitor) : Prop :=
  (o.created ≠ [] ∧ o.createResult ≠ some false) ∨ o.bidFound = some .open

/-- No shutdown and no end of the order comes while a broadcast is in flight, and what the monitor
takes for the closing of its bid is that. -/
def NoneInFlight (cfg : OrderConfig) (o : OrderMonitor) : OrderEvent → Prop
  | .shutdownRequest => o.bidch = none
  | .orderClosed id => id = cfg.orderID → o.bidch = none
  | .bidClosed id =>
    id.groupID = cfg.orderID.groupID → id.provider = cfg.providerString → id = cfg.bidID
  | _ => True

/-- The variable `bidPlaced` knows of what is outstanding. -/
structure Tracked (cfg : OrderConfig) (o : OrderMonitor) : Prop where
  loop : o.stage = .loop → Outstanding o → o.bidPlaced = true ∨ o.bidch.isSome
  timeout : o.stage = .loop → o.bidTimeout = true → o.bidPlaced = true
  ended : o.stage ≠ .loop → o.won = false → o.ownBidClosed = false → Outstanding o →
    o.bidPlaced = true
  closed : o.stage = .waiting ∨ o.stage = .returned → o.won = false → o.bidPlaced = true →
    o.closed = [cfg.bidID]

attribute [grind cases] Tracked
attribute [grind =] Outstanding

namespace Tracked

variable {e : OrderEvent}

theorem loopStep (h : Tracked cfg o) (hinv : o.Inv cfg) (hloop : o.stage = .loop)
    (hok : NoneInFlight cfg o e) (hstep : o.loopStep cfg e = some o') : Tracked cfg o' := by
  cases e with
  | queryBid result =>
    obtain ⟨hquery, ⟨⟩⟩ := Option.ite_none_right_eq_some.mp hstep
    -- nothing was reserved or created, and what is found sets the variable if it is open
    obtain ⟨-, hres, -, hcreated⟩ := hinv.of_query hquery
    cases result <;> constructor <;> grind -ring -linarith
  | leaseCreated id price | orderClosed id =>
    cases hstep
    constructor <;> grind -ring -linarith [NoneInFlight]
  | bidClosed id =>
    cases hstep
    -- what is taken for the closing of the own bid is that
    simp only [NoneInFlight] at hok
    constructor <;> grind -ring -linarith
  | group result | reserve result =>
    obtain ⟨hch, ⟨⟩⟩ := Option.ite_none_right_eq_some.mp hstep
    cases result <;> constructor <;> grind -ring -linarith
  | shouldBid result =>
    obtain ⟨hch, ⟨⟩⟩ := Option.ite_none_right_eq_some.mp hstep
    obtain _ | _ | _ := result <;> constructor <;> grind -ring -linarith
  | price result =>
    obtain ⟨hch, ⟨⟩⟩ := Option.ite_none_right_eq_some.mp hstep
    obtain ⟨group, reservation, hgroup, hreservation⟩ := hinv.exists_of_pricech hch
    obtain ⟨hcreated, hbidch⟩ := hinv.pricing hch
    cases result <;> constructor <;> grind -ring -linarith
  | bid result =>
    obtain ⟨hch, ⟨⟩⟩ := Option.ite_none_right_eq_some.mp hstep
    -- if the one bid has failed, none was found before it
    obtain ⟨m, hm⟩ := Option.isSome_iff_exists.mp hch
    obtain ⟨hcreated, -⟩ := hinv.bidding m hm
    cases result <;> constructor <;> grind -ring -linarith
  | readjusted allocatedResources =>
    obtain ⟨r, -, rfl⟩ := Option.map_eq_some_iff.mp hstep
    exact { h with }
  | shutdownRequest | otherEvent | bidTimeout =>
    constructor <;> grind -ring -linarith [OrderMonitor.loopStep, NoneInFlight]
  | cleanup | «return» => cases hstep

theorem cleanupStep (h : Tracked cfg o) (hinv : o.Inv cfg) (hstage : o.stage = .cleanup)
    (hstep : o.cleanupStep cfg e = some o') : Tracked cfg o' := by
  cases e with
  | reserve result =>
    cases result <;> constructor <;> grind [OrderMonitor.cleanupStep]
  | cleanup => constructor <;> grind [OrderMonitor.cleanupStep]
  | _ => cases hstep

theorem waitStep (h : Tracked cfg o) (hstage : o.stage = .waiting)
    (hstep : o.waitStep e = some o') : Tracked cfg o' := by
  have hending := waitStep_ending hstep
  obtain ⟨hlate, hclosed⟩ := waitStep_closed hstage hstep
  constructor <;> grind [Ending]

theorem step (h : Tracked cfg o) (hinv : o.Inv cfg) (hok : NoneInFlight cfg o e)
    (hstep : o.step cfg e = some o') : Tracked cfg o' := by
  simp only [OrderMonitor.step] at hstep
  split at hstep
  · next hstage => exact h.loopStep hinv hstage hok hstep
  · next hstage => exact h.cleanupStep hinv hstage hstep
  · next hstage => exact h.waitStep hstage hstep
  · cases hstep
  · cases hstep

theorem start (cfg : OrderConfig) (checkForExistingBid : Bool) :
    Tracked cfg (OrderMonitor.start checkForExistingBid) := by
  constructor <;> simp [OrderMonitor.start, Outstanding]

end Tracked

/-- As long as nothing ends the monitor during the broadcast, one that returns without a lease, and
has not seen its own bid closed, has closed it. -/
theorem bids_closed {checkForExistingBid : Bool}
    (hrun : Runs (step cfg) (NoneInFlight cfg) (start checkForExistingBid) o)
    (hreturned : o.stage = .returned) (hwon : o.won = false) (hunseen : o.ownBidClosed = false)
    (hout : (o.created ≠ [] ∧ o.createResult ≠ some false) ∨ o.bidFound = some .open) :
    o.closed = [cfg.bidID] := by
  obtain ⟨-, htracked⟩ := hrun.invariant (I := fun o => o.Inv cfg ∧ Tracked cfg o)
    (fun _ _ _ hok hstep h => ⟨h.1.step hstep, h.2.step h.1 hok hstep⟩)
    ⟨Inv.start cfg checkForExistingBid, Tracked.start cfg checkForExistingBid⟩
  grind

def biddingMonitor : OrderMonitor := after plainOrder pricingMonitor [.price (.ok ⟨"uakt", 80⟩)]

/-- Another provider gets the lease while the broadcast is in flight. -/
theorem bids_closed_lease_lost :
    let o := after plainOrder biddingMonitor
      [.leaseCreated ⟨"owner", 42, 1, 1, "other"⟩ ⟨"uakt", 70⟩, .cleanup, .bid (.ok ()), .return]
    o.stage = .returned ∧ o.created = [bidMsg plainOrder ⟨"uakt", 80⟩ []] ∧
      o.closed = [plainOrder.bidID] := by
  have hstart : Runs (step plainOrder) (NoneInFlight plainOrder) _ (start false) := Runs.refl _
  have hgroup := hstart.next (.group (.ok plainChainGroup)) trivial rfl
  have hdecided := hgroup.next (.shouldBid (.ok true)) trivial rfl
  have hreserved : Runs _ _ _ pricingMonitor := hdecided.next (.reserve (.ok [])) trivial rfl
  have hbidding : Runs _ _ _ biddingMonitor :=
    hreserved.next (.price (.ok ⟨"uakt", 80⟩)) trivial rfl
  have hlost := hbidding.next (.leaseCreated ⟨"owner", 42, 1, 1, "other"⟩ ⟨"uakt", 70⟩) trivial rfl
  have hcleanup := hlost.next .cleanup trivial rfl
  have hresult := hcleanup.next (.bid (.ok ())) trivial rfl
  have hrun := hresult.next .return trivial rfl
  exact ⟨rfl, rfl,
    bids_closed hrun rfl rfl rfl (.inl ⟨List.cons_ne_nil _ _, fun hs => by cases hs⟩)⟩

/-- The provider is shut down while the broadcast is in flight; the bid lands on the chain and
stays there. -/
theorem bid_left_open :
    ∃ o, Runs (step plainOrder) (fun _ _ => True) (start false) o ∧
      [OrderEvent.shutdownRequest, .cleanup, .bid (.ok ()), .return].foldlM (step plainOrder)
        biddingMonitor = some o ∧
      o.stage = .returned ∧ o.won = false ∧ o.ownBidClosed = false ∧
      o.created = [bidMsg plainOrder ⟨"uakt", 80⟩ []] ∧ o.createResult = none ∧ o.closed = [] := by
  have hrun : Runs (step plainOrder) (fun _ _ => True) pricingMonitor _ :=
    Runs.of_foldlM [.price (.ok ⟨"uakt", 80⟩), .shutdownRequest, .cleanup, .bid (.ok ()),
      .return] _ _ rfl
  exact ⟨_, runs_pricingMonitor.trans hrun, rfl, rfl, rfl, rfl, rfl, rfl, rfl⟩

end OrderMonitor

end AkashProvider
