import AkashProvider.Inventory.Adjust

/-!
# Reservations

A reservation holds the resources of an order, and what the last call of `Adjust` gave.  Requests
and readjustments go through `Reservation.adjust`.  `ref` stands for the pointer of the source.
-/

namespace AkashProvider

open Crd (SchedulerParams ReservationClusterSettings ClusterSettings)

/-- What the inventory service is set up with.  The commit functions are
`ComputeCommittedResources` at the commit levels of the configuration. -/
structure ServiceConfig where
  sdk : Sdk
  /-- `is.clients.ip` is not nil. -/
  hasIPClient : Bool
  teePlatform : TEEPlatform
  cpuCommit : Rtypes.ResourceValue → Rtypes.ResourceValue
  gpuCommit : Rtypes.ResourceValue → Rtypes.ResourceValue
  memoryCommit : Rtypes.ResourceValue → Rtypes.ResourceValue
  storageCommit : Rtypes.ResourceValue → Rtypes.ResourceValue
  inventoryExternalPortQuantity : UInt64

/-- The dynamic types that `clusterParams` has.  `clusterSettings none` is a nil pointer. -/
inductive ClusterParams where
  | nil
  | reservationSettings (s : ReservationClusterSettings)
  | clusterSettings (s : Option ClusterSettings)
deriving DecidableEq

structure Reservation where
  ref : Nat
  order : OrderID
  resources : ResourceGroup
  adjustedResources : ResourceUnits
  clusterParams : ClusterParams
  endpointQuantity : Nat
  allocated : Bool
  ipsConfirmed : Bool
  teeType : TEEType

def newReservation (ref : Nat) (order : OrderID) (resources : ResourceGroup) : Reservation where
  ref := ref
  order := order
  resources := resources
  adjustedResources := []
  clusterParams := .nil
  endpointQuantity := getEndpointQuantityOfResourceGroup resources.resourceUnits .leasedIP
  allocated := false
  ipsConfirmed := false
  teeType := .none

/-! ## TEE types -/

/-- The placement requirements of the shapes that have them. -/
def placementRequirements : ResourceGroup → Attributes
  | .spec g => g.requirements
  | .other _ _ => []

/-- The TEE type of the first valid `tee/type` attribute. -/
def teeTypeFromResourceGroup (rg : ResourceGroup) : TEEType :=
  ((placementRequirements rg).findSome? fun attr =>
    if attr.key = "tee/type" then parseTEEType attr.value else none).getD .none

/-- The TEE type that enabled scheduler parameters carry. -/
def Crd.SchedulerParams.attestedTEEType (sp : SchedulerParams) : Option TEEType :=
  if sp.teeType ≠ "" ∧ sp.attestationDisabled = false then parseTEEType sp.teeType else none

/-- `teeTypeFromClusterParams`: only `ClusterSettings` are looked into. -/
def teeTypeFromClusterParams : ClusterParams → TEEType
  | .nil => .none
  | .reservationSettings _ => .none
  | .clusterSettings none => .none
  | .clusterSettings (some cs) =>
    (cs.schedulerParams.findSome? fun sp => sp.bind (·.attestedTEEType)).getD .none

/-- `ctypes.IDeployment`, as far as the inventory service reads it. -/
structure Deployment where
  leaseID : LeaseID
  manifestGroup : ResourceGroup
  clusterParams : ClusterParams

/-- The reservation that `newInventoryService` makes for a deployment. -/
def recoveredReservation (d : Deployment) : Reservation :=
  { newReservation 0 d.leaseID.orderID d.manifestGroup with
    clusterParams := d.clusterParams
    teeType := teeTypeFromClusterParams d.clusterParams }

def adjustOpts (cfg : ServiceConfig) (teeType : TEEType) : InventoryOptions :=
  ⟨false, teeType, cfg.teePlatform⟩

/-! ## Committed resources -/

def commitVolume (cfg : ServiceConfig) (vol : Rtypes.Storage) : Rtypes.Storage :=
  { vol with quantity := cfg.storageCommit vol.quantity }

/-- One unit of `resourcesToCommit`.  The getters of the source read zero values off nil. -/
def commitUnit (cfg : ServiceConfig) (u : ResourceUnit) : ResourceUnit where
  resources :=
    let r := u.resources
    { id := r.id
      cpu := some ⟨cfg.cpuCommit ((r.cpu.map (·.units)).getD 0), (r.cpu.map (·.attributes)).getD []⟩
      gpu := some ⟨cfg.gpuCommit ((r.gpu.map (·.units)).getD 0), (r.gpu.map (·.attributes)).getD []⟩
      memory := some ⟨cfg.memoryCommit ((r.memory.map (·.quantity)).getD 0),
        (r.memory.map (·.attributes)).getD []⟩
      storage := r.storage.map (commitVolume cfg)
      endpoints := r.endpoints }
  count := u.count

def resourcesToCommit (cfg : ServiceConfig) (rg : ResourceGroup) : ResourceGroup :=
  .spec
    { name := rg.name
      requirements := placementRequirements rg
      resources := rg.resourceUnits.map (commitUnit cfg) }

/-! ## Adjusting -/

/-- `Adjust` for a reservation.  A grant replaces its terms, and an error leaves them. -/
def Reservation.adjust (cfg : ServiceConfig) (inv : Inventory) (r : Reservation) :
    Inventory × Except AdjustErr Reservation :=
  match AkashProvider.adjust cfg.sdk inv r.resources (adjustOpts cfg r.teeType) with
  | (inv, .error err) => (inv, .error err)
  | (inv, .ok g) =>
    (inv, .ok { r with
      adjustedResources := g.allocatedResources
      clusterParams := .reservationSettings g.clusterParams })

/-! ## Leased IPs -/

/-- The addresses of the IP operator: all of them, and those in use. -/
structure AddressUsage where
  available : Nat
  inUse : Nat

def countReservedIPs (reservations : List Reservation) : Nat :=
  (reservations.map fun r => if r.ipsConfirmed then 0 else r.endpointQuantity).sum

def availableLeasedIPs (total inUse reserved : Nat) : Nat :=
  if inUse ≥ total then 0
  else
    let available := total - inUse
    if reserved ≥ available then 0 else available - reserved

theorem le_availableLeasedIPs {total inUse reserved n : Nat} (hn : n ≠ 0)
    (h : n ≤ availableLeasedIPs total inUse reserved) : inUse + reserved + n ≤ total := by
  simp only [availableLeasedIPs] at h
  split at h
  next => omega
  next =>
    split at h
    next => omega
    next => omega

end AkashProvider
