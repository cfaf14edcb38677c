import Mathlib

/-!
# Requested resources and their identifiers

What one replica asks for (`Rtypes.Resources`), how many replicas a group has (`ResourceUnit`),
the shapes of a group (`ResourceGroup`), and the names of orders and leases.  A pointer that may
be nil is an `Option`, and a `ResourceValue` the 64-bit number of its `Value()`.
-/

namespace AkashProvider

/-! ## Attributes -/

structure Attribute where
  key : String
  value : String
deriving DecidableEq

abbrev Attributes := List Attribute

/-! ## Resources of one replica -/

namespace Rtypes

/-- A resource amount, read through `Value()`. -/
abbrev ResourceValue := UInt64

structure CPU where
  /-- Milli-units. -/
  units : ResourceValue
  attributes : Attributes
deriving DecidableEq

structure GPU where
  units : ResourceValue
  attributes : Attributes
deriving DecidableEq

structure Memory where
  quantity : ResourceValue
  attributes : Attributes
deriving DecidableEq

/-- One volume of a replica, ephemeral, `ram` or persistent by its attributes. -/
structure Storage where
  name : String
  quantity : ResourceValue
  attributes : Attributes
deriving DecidableEq

/-- The three endpoint kinds a deployment can ask for. -/
inductive EndpointKind where
  | sharedHTTP
  | randomPort
  | leasedIP
deriving DecidableEq

structure Endpoint where
  kind : EndpointKind
  sequenceNumber : UInt32
deriving DecidableEq

structure Resources where
  id : UInt32
  cpu : Option CPU
  memory : Option Memory
  storage : List Storage
  gpu : Option GPU
  endpoints : List Endpoint
deriving DecidableEq

end Rtypes

/-! ## Groups -/

/-- The resources of one service profile and the number of its replicas. -/
structure ResourceUnit where
  resources : Rtypes.Resources
  count : Nat
deriving DecidableEq

abbrev ResourceUnits := List ResourceUnit

/-- An on-chain deployment group: its placement requirements and its units. -/
structure GroupSpec where
  name : String
  requirements : Attributes
  resources : ResourceUnits

/-- What the provider receives as a `ResourceGroup`.  `Group` and `GroupSpec` are read through their
`GroupSpec`; every other shape has a name and units only. -/
inductive ResourceGroup where
  | spec (g : GroupSpec)
  | other (name : String) (units : ResourceUnits)

def ResourceGroup.name : ResourceGroup → String
  | .spec g => g.name
  | .other n _ => n

def ResourceGroup.resourceUnits : ResourceGroup → ResourceUnits
  | .spec g => g.resources
  | .other _ us => us

/-! ## Groups on the chain -/

structure GroupID where
  owner : String
  dseq : UInt64
  gseq : UInt32
deriving DecidableEq

/-- `sdk.DecCoin`, the amount in its smallest fraction. -/
structure DecCoin where
  denom : String
  amount : Int
deriving DecidableEq

/-- A deployment group of the chain.  `price` is `GroupSpec.Price()`. -/
structure ChainGroup where
  id : GroupID
  groupSpec : GroupSpec
  price : DecCoin

/-! ## Orders and leases -/

structure OrderID where
  owner : String
  dseq : UInt64
  gseq : UInt32
  oseq : UInt32
deriving DecidableEq

structure LeaseID where
  owner : String
  dseq : UInt64
  gseq : UInt32
  oseq : UInt32
  provider : String
deriving DecidableEq

def LeaseID.orderID (l : LeaseID) : OrderID :=
  ⟨l.owner, l.dseq, l.gseq, l.oseq⟩

/-! ## Leases on the chain -/

inductive LeaseState where
  | invalid
  | active
  | insufficientFunds
  | closed
  | reclaiming

/-- The number of the reason in the protocol. -/
abbrev LeaseClosedReason := Int

structure ChainLease where
  id : LeaseID
  state : LeaseState
  reason : LeaseClosedReason

structure EventLeaseClosed where
  id : LeaseID
  reason : LeaseClosedReason
deriving DecidableEq

/-! ## Leased endpoints -/

/-- The sequence numbers of the endpoints of one kind.  The source collects them in a
map, so a number counts once. -/
def accumEndpointsOfResources (r : Rtypes.Resources) (kind : Rtypes.EndpointKind)
    (accum : List UInt32) : List UInt32 :=
  r.endpoints.foldl
    (fun acc e => if e.kind = kind then acc.insert e.sequenceNumber else acc) accum

/-- `util.GetEndpointQuantityOfResourceGroup`. -/
def getEndpointQuantityOfResourceGroup (units : ResourceUnits) (kind : Rtypes.EndpointKind) :
    Nat :=
  (units.foldl (fun acc u => accumEndpointsOfResources u.resources kind acc) []).length

/-- `reservationCountEndpoints`: random ports are counted once per endpoint. -/
def countRandomPorts (units : ResourceUnits) : Nat :=
  (units.map fun u => u.resources.endpoints.countP (·.kind = .randomPort)).sum

end AkashProvider
