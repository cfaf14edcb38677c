import AkashProvider.Bidengine.Order

/-!
# How far a monitor has come

The calls of a monitor are made one after the other.  Which channels are nil says how far it is,
and `Inv` relates them to what has come in and gone out.  Events and shutdown requests end the
loop at any point; from there on the stage says what has been given back.
-/

namespace AkashProvider

namespace OrderMonitor

structure Inv (cfg : OrderConfig) (o : OrderMonitor) : Prop where
  query : o.queryBidCh = true → o.storedGroupCh = true
  hidden : o.storedGroupCh = true → o.groupch = false
  fetching : o.groupch = true ∨ o.storedGroupCh = true → o.group = none
  deciding : o.shouldBidCh.isSome → o.group.isSome ∧ o.accepted = false
  undecided : o.group = none → o.accepted = false
  declined : o.accepted = false → o.clusterch = none ∧ o.reservation = none ∧ o.granted = 0
  reserving : o.clusterch.isSome → o.reservation = none ∧ o.granted = 0
  granted_le : o.granted ≤ 1
  unreserved_yet : o.reservation = none → o.pricech = none ∧ o.bidch = none ∧ o.created = []
  held : ∀ r, o.reservation = some r → r.orderID = cfg.orderID ∧ o.granted = 1
  created_length_le : o.created.length ≤ 1
  pricing : o.pricech.isSome → o.created = [] ∧ o.bidch = none
  unbid : o.created = [] → o.createResult = none
  bidding : ∀ m, o.bidch = some m → o.created = [m] ∧ o.createResult = none
  found : o.bidFound.isSome → o.created = [] ∧ o.pricech = none ∧ o.queryBidCh = false
  placed : o.stage = .loop → o.bidFound.isSome → o.bidPlaced = true
  not_won : o.stage = .loop → o.won = false ∧ o.leaseWon = []
  early : o.stage = .loop ∨ o.stage = .cleanup →
    o.unreserved = [] ∧ o.closed = [] ∧ (o.reservation = none → o.granted = 0)
  late : o.stage = .waiting ∨ o.stage = .returned →
    (o.won = true → o.unreserved = []) ∧
      (o.won = false → o.clusterch = none ∧ o.unreserved = List.replicate o.granted cfg.orderID)
  drained : o.stage = .returned → o.clusterch = none
  no_panic : o.stage ≠ .panicked

-- an invariant of record updates: the automation opens it and the handlers
attribute [grind cases] Inv
attribute [grind =] breakLoop unhideGroup handleQueryBid handleLeaseCreated handleOrderClosed
  handleBidClosed handleGroup handleShouldBid handleReserve handlePrice handleBid cleanUp

namespace Inv

variable {cfg : OrderConfig} {o : OrderMonitor}

theorem accepted_of_reservation (h : o.Inv cfg) (hres : o.reservation ≠ none) :
    o.accepted = true :=
  Bool.eq_true_of_not_eq_false fun hacc => hres (h.declined hacc).2.1

theorem accepted_of_clusterch (h : o.Inv cfg) (hch : o.clusterch.isSome) : o.accepted = true := by
  grind

theorem group_of_accepted (h : o.Inv cfg) (hacc : o.accepted = true) : o.group ≠ none := by grind

theorem exists_of_pricech (h : o.Inv cfg) (hch : o.pricech.isSome) :
    ∃ group reservation, o.group = some group ∧ o.reservation = some reservation := by
  have hres : o.reservation ≠ none := by grind
  obtain ⟨reservation, hreservation⟩ := Option.ne_none_iff_exists'.mp hres
  obtain ⟨group, hgroup⟩ := Option.ne_none_iff_exists'.mp
    (h.group_of_accepted (h.accepted_of_reservation hres))
  exact ⟨group, reservation, hgroup, hreservation⟩

theorem of_query (h : o.Inv cfg) (hquery : o.queryBidCh = true) :
    o.group = none ∧ o.reservation = none ∧ o.pricech = none ∧ o.created = [] := by
  grind

theorem breakLoop (h : o.Inv cfg) (hloop : o.stage = .loop) : o.breakLoop.Inv cfg := by
  constructor <;> grind -ring -linarith

/-! ## The cases of the loop -/

theorem handleQueryBid (h : o.Inv cfg) (hloop : o.stage = .loop) (hquery : o.queryBidCh = true)
    (result : Except String Bid) :
    (OrderMonitor.handleQueryBid cfg { o with queryBidCh := false } result).Inv cfg := by
  obtain ⟨-, -, hprice, hcreated⟩ := h.of_query hquery
  cases result <;> constructor <;> grind -ring -linarith

theorem handleGroup (h : o.Inv cfg) (hloop : o.stage = .loop) (hgroupch : o.groupch = true)
    (result : Except String ChainGroup) : (o.handleGroup result).Inv cfg := by
  have hacc := h.undecided (h.fetching (.inl hgroupch))
  cases result <;> constructor <;> grind -ring -linarith

theorem handleShouldBid (h : o.Inv cfg) (hloop : o.stage = .loop) (hch : o.shouldBidCh.isSome)
    (result : Except String Bool) : (o.handleShouldBid result).Inv cfg := by
  obtain ⟨hgroup, hacc⟩ := h.deciding hch
  match result with
  | .error _ | .ok false | .ok true => constructor <;> grind -ring -linarith

theorem handleReserve (h : o.Inv cfg) (hloop : o.stage = .loop) (hch : o.clusterch.isSome)
    (result : Except String ResourceUnits) : (o.handleReserve cfg result).Inv cfg := by
  have hgroup := h.group_of_accepted (h.accepted_of_clusterch hch)
  cases result <;> constructor <;> grind -ring -linarith

theorem readjusted (h : o.Inv cfg) {r : ClusterReservation} (hr : o.reservation = some r)
    (allocatedResources : ResourceUnits) :
    Inv cfg { o with
      reservation := some { r with allocatedResources := allocatedResources } } := by
  constructor <;> grind -ring -linarith

theorem handlePrice (h : o.Inv cfg) (hloop : o.stage = .loop) (hch : o.pricech.isSome)
    (result : Except String DecCoin) : (o.handlePrice cfg result).Inv cfg := by
  obtain ⟨group, reservation, hgroup, hreservation⟩ := h.exists_of_pricech hch
  obtain ⟨hcreated, hbidch⟩ := h.pricing hch
  cases result <;> constructor <;> grind -ring -linarith

theorem handleBid (h : o.Inv cfg) (hloop : o.stage = .loop) (hch : o.bidch.isSome)
    (result : Except String Unit) : (o.handleBid cfg result).Inv cfg := by
  -- the result is of the one bid
  obtain ⟨m, hm⟩ := Option.isSome_iff_exists.mp hch
  obtain ⟨hcreated, -⟩ := h.bidding m hm
  cases result <;> constructor <;> grind -ring -linarith

theorem handleLeaseCreated (h : o.Inv cfg) (hloop : o.stage = .loop) (id : LeaseID)
    (price : DecCoin) : (o.handleLeaseCreated cfg id price).Inv cfg := by
  constructor <;> grind -ring -linarith

theorem handleBidClosed (h : o.Inv cfg) (hloop : o.stage = .loop) (id : BidID) :
    (o.handleBidClosed cfg id).Inv cfg := by
  constructor <;> grind -ring -linarith

/-! ## Every step -/

variable {e : OrderEvent} {o' : OrderMonitor}

theorem loopStep (h : o.Inv cfg) (hloop : o.stage = .loop) (hstep : o.loopStep cfg e = some o') :
    o'.Inv cfg := by
  cases e with
  | shutdownRequest =>
    cases hstep
    exact h.breakLoop hloop
  | queryBid result =>
    obtain ⟨hquery, ⟨⟩⟩ := Option.ite_none_right_eq_some.mp hstep
    exact h.handleQueryBid hloop hquery result
  | leaseCreated id price =>
    cases hstep
    exact h.handleLeaseCreated hloop id price
  | orderClosed id =>
    cases hstep
    constructor <;> grind -ring -linarith
  | bidClosed id =>
    cases hstep
    have hseen : Inv cfg { o with ownBidClosed := o.ownBidClosed || id = cfg.bidID } :=
      { h with }
    exact hseen.handleBidClosed hloop id
  | otherEvent =>
    cases hstep
    exact h
  | group result =>
    obtain ⟨hch, ⟨⟩⟩ := Option.ite_none_right_eq_some.mp hstep
    exact h.handleGroup hloop hch result
  | shouldBid result =>
    obtain ⟨hch, ⟨⟩⟩ := Option.ite_none_right_eq_some.mp hstep
    exact h.handleShouldBid hloop hch result
  | reserve result =>
    obtain ⟨hch, ⟨⟩⟩ := Option.ite_none_right_eq_some.mp hstep
    exact h.handleReserve hloop hch result
  | readjusted allocatedResources =>
    obtain ⟨r, hr, rfl⟩ := Option.map_eq_some_iff.mp hstep
    exact h.readjusted hr allocatedResources
  | price result =>
    obtain ⟨hch, ⟨⟩⟩ := Option.ite_none_right_eq_some.mp hstep
    exact h.handlePrice hloop hch result
  | bid result =>
    obtain ⟨hch, ⟨⟩⟩ := Option.ite_none_right_eq_some.mp hstep
    exact h.handleBid hloop hch result
  | bidTimeout =>
    obtain ⟨-, ⟨⟩⟩ := Option.ite_none_right_eq_some.mp hstep
    exact h.breakLoop hloop
  | cleanup | «return» => cases hstep

theorem cleanupStep (h : o.Inv cfg) (hstage : o.stage = .cleanup)
    (hstep : o.cleanupStep cfg e = some o') : o'.Inv cfg := by
  cases e with
  | reserve result =>
    cases result <;> constructor <;> grind -ring -linarith [OrderMonitor.cleanupStep]
  | cleanup =>
    obtain ⟨hch, ⟨⟩⟩ := Option.ite_none_right_eq_some.mp hstep
    rw [Bool.or_eq_true, Option.isNone_iff_eq_none] at hch
    cases hres : o.reservation <;> constructor <;> grind -ring -linarith
  | _ => cases hstep

/-- A monitor to which a reservation is granted after the clean-up has won: without a lease
nothing is in flight here. -/
theorem waitStep (h : o.Inv cfg) (hstage : o.stage = .waiting) (hstep : o.waitStep e = some o') :
    o'.Inv cfg := by
  cases e with
  | reserve result =>
    cases result <;> constructor <;> grind -ring -linarith [OrderMonitor.waitStep]
  | group _ | bid _ | price _ => constructor <;> grind -ring -linarith [OrderMonitor.waitStep]
  | «return» =>
    obtain ⟨hnil, ⟨⟩⟩ := Option.ite_none_right_eq_some.mp hstep
    simp only [Bool.and_eq_true, Option.isNone_iff_eq_none] at hnil
    constructor <;> grind -ring -linarith
  | _ => cases hstep

theorem step (h : o.Inv cfg) (hstep : o.step cfg e = some o') : o'.Inv cfg := by
  simp only [OrderMonitor.step] at hstep
  split at hstep
  · next hstage => exact h.loopStep hstage hstep
  · next hstage => exact h.cleanupStep hstage hstep
  · next hstage => exact h.waitStep hstage hstep
  · cases hstep
  · cases hstep

theorem start (cfg : OrderConfig) (checkForExistingBid : Bool) :
    (OrderMonitor.start checkForExistingBid).Inv cfg := by
  constructor <;> simp [OrderMonitor.start]

end Inv

variable {cfg : OrderConfig} {o : OrderMonitor}

theorem Inv.unreserved_eq_nil (h : o.Inv cfg) (hwon : o.won = true) : o.unreserved = [] := by
  cases hstage : o.stage with
  | loop => cases (h.not_won hstage).1.symm.trans hwon
  | cleanup => exact (h.early (.inr hstage)).1
  | waiting => exact (h.late (.inl hstage)).1 hwon
  | returned => exact (h.late (.inr hstage)).1 hwon
  | panicked => exact absurd hstage h.no_panic

theorem inv_of_runs {ok : OrderMonitor → OrderEvent → Prop} {checkForExistingBid : Bool}
    (hrun : Runs (step cfg) ok (start checkForExistingBid) o) : o.Inv cfg :=
  hrun.invariant (fun _ _ _ _ hstep h => h.step hstep) (Inv.start cfg checkForExistingBid)

/-! ## What goes out

A bid is sent when a price comes in, and a lease is published when one is created.  No
other step does either. -/

@[grind cases]
structure Quiet (o o' : OrderMonitor) : Prop where
  created : o'.created = o.created
  leaseWon : o'.leaseWon = o.leaseWon

variable {cfg : OrderConfig} {o o' : OrderMonitor}

theorem handlePrice_leaseWon (o : OrderMonitor) (result : Except String DecCoin) :
    (o.handlePrice cfg result).leaseWon = o.leaseWon := by
  cases result <;> grind -ring -linarith

variable {e : OrderEvent}

theorem loopStep_sends (hstep : o.loopStep cfg e = some o') :
    Quiet o o' ∨
      (∃ id price, e = .leaseCreated id price ∧ o' = o.handleLeaseCreated cfg id price) ∨
      ∃ result, e = .price result ∧ o.pricech.isSome ∧ o' = o.handlePrice cfg result := by
  cases e with
  | leaseCreated id price => exact .inr (.inl ⟨id, price, rfl, (Option.some.inj hstep).symm⟩)
  | price result =>
    obtain ⟨hch, ⟨⟩⟩ := Option.ite_none_right_eq_some.mp hstep
    exact .inr (.inr ⟨result, rfl, hch, rfl⟩)
  | shouldBid result =>
    obtain ⟨-, ⟨⟩⟩ := Option.ite_none_right_eq_some.mp hstep
    match result with
    | .error _ | .ok false | .ok true => exact .inl ⟨rfl, rfl⟩
  | queryBid result | group result | reserve result | bid result =>
    refine .inl ?_
    cases result <;> constructor <;> grind -ring -linarith [loopStep]
  | readjusted allocatedResources =>
    obtain ⟨r, -, rfl⟩ := Option.map_eq_some_iff.mp hstep
    exact .inl ⟨rfl, rfl⟩
  | _ => exact .inl (by constructor <;> grind -ring -linarith [loopStep])

/-- After the loop nothing more is decided.  The calls that were in flight come back. -/
structure Ending (o o' : OrderMonitor) : Prop extends Quiet o o' where
  won : o'.won = o.won
  bidPlaced : o'.bidPlaced = o.bidPlaced
  createResult : o'.createResult = o.createResult
  bidFound : o'.bidFound = o.bidFound
  ownBidClosed : o'.ownBidClosed = o.ownBidClosed

theorem cleanupStep_ending (hstep : o.cleanupStep cfg e = some o') : Ending o o' := by
  cases e with
  | reserve result => cases result <;> grind -ring -linarith [cleanupStep, Ending, Quiet]
  | cleanup => grind [cleanupStep, Ending, Quiet]
  | _ => cases hstep

theorem waitStep_ending (hstep : o.waitStep e = some o') : Ending o o' := by
  cases e with
  | reserve result => cases result <;> grind -ring -linarith [waitStep, Ending, Quiet]
  | group _ | bid _ | price _ | «return» => grind [waitStep, Ending, Quiet]
  | _ => cases hstep

theorem waitStep_closed (hstage : o.stage = .waiting) (hstep : o.waitStep e = some o') :
    (o'.stage = .waiting ∨ o'.stage = .returned) ∧ o'.closed = o.closed := by
  cases e with
  | reserve result => cases result <;> grind -ring -linarith [waitStep]
  | group _ | bid _ | price _ | «return» => grind [waitStep]
  | _ => cases hstep

theorem step_changes_created (hstep : o.step cfg e = some o') (hchanged : o'.created ≠ o.created) :
    ∃ result, o.pricech.isSome ∧ o' = o.handlePrice cfg result := by
  simp only [step] at hstep
  split at hstep
  · rcases loopStep_sends hstep with hquiet | ⟨id, price, -, rfl⟩ | ⟨result, -, hch, hprice⟩
    all_goals grind
  · exact absurd (cleanupStep_ending hstep).created hchanged
  · exact absurd (waitStep_ending hstep).created hchanged
  · cases hstep
  · cases hstep

/-! ## An order -/

/-- A monitor of order 1 of the group, without a bid timeout. -/
def plainOrder : OrderConfig where
  orderID := ⟨"owner", 42, 1, 1⟩
  providerAddress := "provider"
  providerString := "owner:provider"
  createdAtBlockHeight := 100
  bidTimeout := 0
  deposit := ⟨"uakt", 5⟩
  reclamationWindow := none
  resourceOfferFromRU := id

def plainChainGroup : ChainGroup := ⟨⟨"owner", 42, 1⟩, ⟨"group", [], []⟩, ⟨"uakt", 100⟩⟩

/-- The monitor after some events, each of which can come. -/
def after (cfg : OrderConfig) (o : OrderMonitor) (events : List OrderEvent) : OrderMonitor :=
  (events.foldlM (step cfg) o).getD o

end OrderMonitor

end AkashProvider
