import AkashProvider.Lib.Run
import AkashProvider.Types.Resources

/-!
# The order monitor

For each open order the bid engine runs a monitor: it fetches the group, decides, reserves, asks
for a price and bids, then waits for the lease, the end of the order or the timeout.  One that
catches up first looks for a bid on the chain.

Every call runs beside the loop; a channel is what its call was made with, or `none` (`false`) for
nil.  Without a lease, the monitor waits for a reservation in flight, gives back the one that it
has, and closes the bid if it thinks that it placed one.  The fields after `stage` are a record.
-/

namespace AkashProvider

/-! ## Chain data -/

structure BidID where
  owner : String
  dseq : UInt64
  gseq : UInt32
  oseq : UInt32
  provider : String
deriving DecidableEq

def OrderID.groupID (id : OrderID) : GroupID := ⟨id.owner, id.dseq, id.gseq⟩
def LeaseID.groupID (id : LeaseID) : GroupID := ⟨id.owner, id.dseq, id.gseq⟩
def BidID.groupID (id : BidID) : GroupID := ⟨id.owner, id.dseq, id.gseq⟩

def makeBidID (id : OrderID) (provider : String) : BidID :=
  ⟨id.owner, id.dseq, id.gseq, id.oseq, provider⟩

/-- Of coins with one denomination. -/
def DecCoin.isLT (a b : DecCoin) : Bool := a.amount < b.amount

structure Coin where
  denom : String
  amount : Int

inductive BidState where
  | invalid
  | open
  | active
  | lost
  | closed
deriving DecidableEq

structure Bid where
  state : BidState
  createdAt : Int

inductive DepositSource where
  | balance

structure Deposit where
  amount : Coin
  sources : List DepositSource

abbrev ResourcesOffer := List ResourceUnit

structure MsgCreateBid where
  id : BidID
  price : DecCoin
  deposit : Deposit
  resourcesOffer : ResourcesOffer
  reclamationWindow : Option Int

/-! ## The monitor -/

structure OrderConfig where
  orderID : OrderID
  providerAddress : String
  /-- `session.Provider().String()`, the text of the whole record. -/
  providerString : String
  createdAtBlockHeight : Int
  bidTimeout : Int
  deposit : Coin
  reclamationWindow : Option Int
  resourceOfferFromRU : ResourceUnits → ResourcesOffer

/-- What the monitor reads of the reservation that `cluster.Reserve` returned. -/
structure ClusterReservation where
  orderID : OrderID
  allocatedResources : ResourceUnits

structure PricingRequest where
  owner : String
  gspec : GroupSpec
  pricePrecision : Nat
  allocatedResources : ResourceUnits

def defaultPricePrecision : Nat := 6

structure LeaseWon where
  leaseID : LeaseID
  group : Option ChainGroup
  price : DecCoin

inductive OrderStage where
  | loop
  /-- Before the reservation is given back and the bid closed. -/
  | cleanup
  | waiting
  | returned
  /-- A nil group or reservation was read. -/
  | panicked
deriving DecidableEq

structure OrderMonitor where
  groupch : Bool
  storedGroupCh : Bool
  clusterch : Option ChainGroup
  bidch : Option MsgCreateBid
  pricech : Option PricingRequest
  queryBidCh : Bool
  shouldBidCh : Option ChainGroup
  bidTimeout : Bool
  group : Option ChainGroup
  reservation : Option ClusterReservation
  won : Bool
  bidPlaced : Bool
  stage : OrderStage
  accepted : Bool
  /-- The reservations that `cluster.Reserve` granted. -/
  granted : Nat
  unreserved : List OrderID
  /-- The state of the bid that the query found. -/
  bidFound : Option BidState
  created : List MsgCreateBid
  /-- If the broadcast that the loop had a result of succeeded. -/
  createResult : Option Bool
  closed : List BidID
  leaseWon : List LeaseWon
  /-- The closing of the own bid was among the events. -/
  ownBidClosed : Bool

inductive OrderEvent where
  | shutdownRequest
  | queryBid (result : Except String Bid)
  | leaseCreated (id : LeaseID) (price : DecCoin)
  | orderClosed (id : OrderID)
  | bidClosed (id : BidID)
  | otherEvent
  | group (result : Except String ChainGroup)
  | shouldBid (result : Except String Bool)
  | reserve (result : Except String ResourceUnits)
  /-- The cluster changes the resources of the reservation. -/
  | readjusted (allocatedResources : ResourceUnits)
  | price (result : Except String DecCoin)
  | bid (result : Except String Unit)
  | bidTimeout
  | cleanup
  | return

namespace OrderConfig

variable (cfg : OrderConfig)

def bidTimeoutEnabled : Bool := cfg.bidTimeout > 0

def bidID : BidID := makeBidID cfg.orderID cfg.providerAddress

def minTimePerBlock : Int := 5 * 1000000000

/-- A product of durations is an `int64`. -/
def durationMul (n d : Int) : Int := (n * d).bmod (2 ^ 64)

def isStaleBid (bid : Bid) : Bool :=
  if cfg.bidTimeoutEnabled then
    let blockAge := bid.createdAt - cfg.createdAtBlockHeight
    let atLeastThisOld := durationMul blockAge minTimePerBlock
    atLeastThisOld > cfg.bidTimeout
  else false

end OrderConfig

/-- The regular expression `^.+bid not found.+$`. -/
def matchBidNotFound (text : String) : Bool :=
  '\n' ∉ text.toList ∧ "bid not found".toList <:+: text.toList.tail.dropLast

namespace OrderMonitor

variable (cfg : OrderConfig)

def breakLoop (o : OrderMonitor) : OrderMonitor := { o with stage := .cleanup }

def unhideGroup (o : OrderMonitor) : OrderMonitor :=
  { o with groupch := o.storedGroupCh, storedGroupCh := false }

/-! ## The cases of the loop -/

def handleQueryBid (o : OrderMonitor) (result : Except String Bid) : OrderMonitor :=
  match result with
  | .error text => if matchBidNotFound text then o.unhideGroup else o.breakLoop
  | .ok bid =>
    let o := { o with bidFound := some bid.state }
    if bid.state ≠ .open then o.breakLoop
    else
      let o := { o with bidPlaced := true }
      if cfg.isStaleBid bid then o.breakLoop
      else unhideGroup { o with bidTimeout := cfg.bidTimeoutEnabled }

def handleLeaseCreated (o : OrderMonitor) (id : LeaseID) (price : DecCoin) : OrderMonitor :=
  if cfg.orderID.groupID ≠ id.groupID then o
  else if id.provider ≠ cfg.providerAddress then
    -- a bid in flight could still land on the chain
    breakLoop { o with bidPlaced := o.bidPlaced || o.bidch.isSome }
  else breakLoop { o with leaseWon := o.leaseWon ++ [⟨id, o.group, price⟩], won := true }

def handleOrderClosed (o : OrderMonitor) (id : OrderID) : OrderMonitor :=
  if id ≠ cfg.orderID then o else o.breakLoop

def handleBidClosed (o : OrderMonitor) (id : BidID) : OrderMonitor :=
  if o.won then o
  else if cfg.orderID.groupID ≠ id.groupID then o
  else if id.provider ≠ cfg.providerString then o
  else breakLoop { o with bidPlaced := false }

def handleGroup (o : OrderMonitor) (result : Except String ChainGroup) : OrderMonitor :=
  let o := { o with groupch := false }
  match result with
  | .error _ => o.breakLoop
  | .ok res => { o with group := some res, shouldBidCh := some res }

def handleShouldBid (o : OrderMonitor) (result : Except String Bool) : OrderMonitor :=
  let o := { o with shouldBidCh := none }
  match result with
  | .error _ => o.breakLoop
  | .ok false => o.breakLoop
  | .ok true => { o with accepted := true, clusterch := o.group }

def handleReserve (o : OrderMonitor) (result : Except String ResourceUnits) : OrderMonitor :=
  let o := { o with clusterch := none }
  match result with
  | .error _ => o.breakLoop
  | .ok allocatedResources =>
    let o := { o with
      reservation := some ⟨cfg.orderID, allocatedResources⟩
      granted := o.granted + 1 }
    if o.bidPlaced then o
    else
      match o.group with
      | none => { o with stage := .panicked }
      | some group =>
        { o with pricech := some ⟨group.id.owner, group.groupSpec, defaultPricePrecision,
            allocatedResources⟩ }

def bidMsg (price : DecCoin) (allocatedResources : ResourceUnits) : MsgCreateBid where
  id := cfg.bidID
  price := price
  deposit := ⟨cfg.deposit, [.balance]⟩
  resourcesOffer := cfg.resourceOfferFromRU allocatedResources
  reclamationWindow := cfg.reclamationWindow

def handlePrice (o : OrderMonitor) (result : Except String DecCoin) : OrderMonitor :=
  let o := { o with pricech := none }
  match result with
  | .error _ => o.breakLoop
  | .ok price =>
    match o.group, o.reservation with
    | some group, some reservation =>
      let maxPrice := group.price
      if maxPrice.denom ≠ price.denom then o.breakLoop
      else if maxPrice.isLT price then o.breakLoop
      else
        let msg := bidMsg cfg price reservation.allocatedResources
        { o with bidch := some msg, created := o.created ++ [msg] }
    | _, _ => { o with stage := .panicked }

def handleBid (o : OrderMonitor) (result : Except String Unit) : OrderMonitor :=
  let o := { o with bidch := none }
  match result with
  | .error _ => breakLoop { o with createResult := some false }
  | .ok () =>
    { o with
      createResult := some true
      bidPlaced := true
      bidTimeout := cfg.bidTimeoutEnabled }

/-! ## Steps -/

/-- `select`: a nil channel is never ready, and a runner sends one result. -/
def loopStep (o : OrderMonitor) : OrderEvent → Option OrderMonitor
  | .shutdownRequest => some o.breakLoop
  | .queryBid result =>
    if o.queryBidCh then some (handleQueryBid cfg { o with queryBidCh := false } result)
    else none
  | .leaseCreated id price => some (o.handleLeaseCreated cfg id price)
  | .orderClosed id => some (o.handleOrderClosed cfg id)
  | .bidClosed id =>
    some (handleBidClosed cfg { o with ownBidClosed := o.ownBidClosed || id = cfg.bidID } id)
  | .otherEvent => some o
  | .group result => if o.groupch then some (o.handleGroup result) else none
  | .shouldBid result => if o.shouldBidCh.isSome then some (o.handleShouldBid result) else none
  | .reserve result => if o.clusterch.isSome then some (o.handleReserve cfg result) else none
  | .readjusted allocatedResources =>
    o.reservation.map fun r =>
      { o with reservation := some { r with allocatedResources := allocatedResources } }
  | .price result => if o.pricech.isSome then some (o.handlePrice cfg result) else none
  | .bid result => if o.bidch.isSome then some (o.handleBid cfg result) else none
  | .bidTimeout => if o.bidTimeout then some o.breakLoop else none
  | .cleanup => none
  | .return => none

/-- Without a lease: give the reservation back, then close the bid. -/
def cleanUp (o : OrderMonitor) : OrderMonitor :=
  if o.won then { o with stage := .waiting }
  else
    { o with
      unreserved := o.unreserved ++ (o.reservation.map (·.orderID)).toList
      closed := o.closed ++ if o.bidPlaced then [cfg.bidID] else []
      stage := .waiting }

def cleanupStep (o : OrderMonitor) : OrderEvent → Option OrderMonitor
  | .reserve result =>
    -- the result of a reservation in flight is waited for
    if !o.won && o.clusterch.isSome then
      match result with
      | .error _ => some { o with clusterch := none }
      | .ok allocatedResources =>
        some { o with
          clusterch := none
          reservation := some ⟨cfg.orderID, allocatedResources⟩
          granted := o.granted + 1 }
    else none
  | .cleanup => if o.won || o.clusterch.isNone then some (o.cleanUp cfg) else none
  | _ => none

def waitStep (o : OrderMonitor) : OrderEvent → Option OrderMonitor
  | .group _ => if o.groupch then some { o with groupch := false } else none
  | .reserve result =>
    if o.clusterch.isSome then
      match result with
      | .error _ => some { o with clusterch := none }
      | .ok _ => some { o with clusterch := none, granted := o.granted + 1 }
    else none
  | .bid _ => if o.bidch.isSome then some { o with bidch := none } else none
  | .price _ => if o.pricech.isSome then some { o with pricech := none } else none
  | .return =>
    if !o.groupch && o.clusterch.isNone && o.bidch.isNone && o.pricech.isNone then
      some { o with stage := .returned }
    else none
  | _ => none

def step (o : OrderMonitor) (e : OrderEvent) : Option OrderMonitor :=
  match o.stage with
  | .loop => o.loopStep cfg e
  | .cleanup => o.cleanupStep cfg e
  | .waiting => o.waitStep e
  | .returned => none
  | .panicked => none

/-- The group is fetched at once; to catch up, it is hidden and the bid is looked for. -/
def start (checkForExistingBid : Bool) : OrderMonitor where
  groupch := !checkForExistingBid
  storedGroupCh := checkForExistingBid
  clusterch := none
  bidch := none
  pricech := none
  queryBidCh := checkForExistingBid
  shouldBidCh := none
  bidTimeout := false
  group := none
  reservation := none
  won := false
  bidPlaced := false
  stage := .loop
  accepted := false
  granted := 0
  unreserved := []
  bidFound := none
  created := []
  createResult := none
  closed := []
  leaseWon := []
  ownBidClosed := false

end OrderMonitor

end AkashProvider
