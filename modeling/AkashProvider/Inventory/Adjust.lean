import AkashProvider.Inventory.Attributes

/-!
# The inventory and `Adjust`

`tryAdjust` tries to place one replica on one node; `adjust` places every replica of a group, or
none.  An attempt commits a copy of the node when every gate has passed, but rewrites the GPU
attributes of the request as soon as the GPU gate has.

The loop nests nodes, units and replicas under one label, and `Flow` says how a level was left.
The number of units left bounds the restarts.  `AdjustState.placed` records each replica placed;
it is not in the source.
-/

namespace AkashProvider

open InventoryV1 (Quantity ResourcePair Node Cluster)
open Crd (SchedulerParams SchedulerResources ReservationClusterSettings)

/-! ## Inventories -/

/-- The state reported by the cluster, and the sanitized state bids are made from. -/
structure Inventory where
  cluster : Cluster
  sanitized : Cluster

def sanitizeQuantity (q : Option Quantity) : Option Quantity :=
  q.map fun v => if v < 0 then 0 else v

def sanitizeResourcePair (p : ResourcePair) : ResourcePair :=
  ⟨sanitizeQuantity p.capacity, sanitizeQuantity p.allocatable, sanitizeQuantity p.allocated⟩

def sanitizeNodeResources (r : InventoryV1.NodeResources) : InventoryV1.NodeResources where
  cpu := { r.cpu with quantity := sanitizeResourcePair r.cpu.quantity }
  memory := { r.memory with quantity := sanitizeResourcePair r.memory.quantity }
  gpu := { r.gpu with quantity := sanitizeResourcePair r.gpu.quantity }
  ephemeralStorage := sanitizeResourcePair r.ephemeralStorage
  volumesAttached := sanitizeResourcePair r.volumesAttached
  volumesMounted := sanitizeResourcePair r.volumesMounted
  gpuInterconnect := sanitizeResourcePair r.gpuInterconnect

def sanitizeCluster (c : Cluster) : Cluster where
  nodes := c.nodes.map fun nd => { nd with resources := sanitizeNodeResources nd.resources }
  storage := c.storage.map fun s => { s with quantity := sanitizeResourcePair s.quantity }

def newInventory (clState : Cluster) : Inventory := ⟨clState, sanitizeCluster clState⟩

structure InventoryOptions where
  dryRun : Bool
  teeType : TEEType
  teePlatform : TEEPlatform

/-! ## Gates of one replica -/

/-- Why a replica was not placed: the node, or the cluster, cannot take it, or the source
would panic. -/
inductive Refusal where
  | node
  | cluster
  | panics

def tryAdjustCPU (S : Sdk) (rp : InventoryV1.CPU) (res : Rtypes.CPU) : Option InventoryV1.CPU :=
  match cpuArchMatches rp.info res.attributes with
  | .ok true => (S.subMilliNLZ rp.quantity res.units).map fun q => { rp with quantity := q }
  | _ => none

/-- Whether a device meets the request, and the attributes it was matched with. -/
def matchGPU (S : Sdk) (attrs : GPUAttributes) (info : InventoryV1.GPUInfo) :
    Option (Option GPUModelAttributes) :=
  match attrs.lookup info.vendor with
  | none => none
  | some models =>
    match models.existsOrWildcard info.name with
    | none => none
    | some none => some none
    | some (some attr) =>
      if attr.ram ≠ "" ∧ attr.ram ≠ info.memorySize then none
      else if attr.interface ≠ "" ∧ attr.interface ≠ filterGPUInterface S info.interface then
        none
      else some (some attr)

/-- The device that brings the count of matching devices to `reqCnt`. -/
def findGPU (S : Sdk) (attrs : GPUAttributes) :
    Nat → List InventoryV1.GPUInfo → Option (InventoryV1.GPUInfo × Option GPUModelAttributes)
  | _, [] => none
  | reqCnt, info :: rest =>
    match matchGPU S attrs info with
    | none => findGPU S attrs reqCnt rest
    | some attr => if reqCnt = 1 then some (info, attr) else findGPU S attrs (reqCnt - 1) rest

/-- The attribute key that pins a request to the device it was matched with. -/
def gpuKey (vendor : String) (model : String) (attr : Option GPUModelAttributes) : String :=
  let key := "vendor/" ++ vendor ++ "/model/" ++ model
  match attr with
  | none => key
  | some attr =>
    let key := if attr.ram ≠ "" then key ++ "/ram/" ++ attr.ram else key
    if attr.interface ≠ "" then key ++ "/interface/" ++ attr.interface else key

def sParamsEnsureResources (sparams : SchedulerParams) : SchedulerResources :=
  sparams.resources.getD ⟨none, none⟩

/-- What the GPU gate records in the scheduler parameters. -/
def stampGPU (sparams : SchedulerParams) (vendor model : String) (teeType : TEEType)
    (teePlatform : TEEPlatform) : SchedulerParams :=
  let resources := sParamsEnsureResources sparams
  let gpu := resources.gpu.getD ⟨"", "", "", ""⟩
  { sparams with
    resources := some { resources with gpu := some { gpu with vendor := vendor, model := model } }
    runtimeClass :=
      if teeType.isCC then runtimeClassForTEEType teeType teePlatform
      else if vendor = "nvidia" then runtimeClassNvidia
      else sparams.runtimeClass }

def tryAdjustGPU (S : Sdk) (rp : InventoryV1.GPU) (res : Rtypes.GPU) (sparams : SchedulerParams)
    (teeType : TEEType) (teePlatform : TEEPlatform) :
    Option (InventoryV1.GPU × Rtypes.GPU × SchedulerParams) :=
  if res.units = 0 then some (rp, res, sparams)
  else if S.available rp.quantity = 0 then none
  else
    match parseGPUAttributes S res.attributes with
    | .error _ => none
    | .ok attrs =>
      match findGPU S attrs res.units.toNat rp.info with
      | none => none
      | some (info, attr) =>
        let vendor := S.toLower info.vendor
        match S.subNLZ rp.quantity res.units with
        | none => none
        | some q =>
          some ({ rp with quantity := q },
            { res with attributes := [⟨gpuKey vendor info.name attr, "true"⟩] },
            stampGPU sparams vendor info.name teeType teePlatform)

def tryAdjustInterconnect (S : Sdk) (rp : ResourcePair) (caps : InventoryV1.NodeCapabilities)
    (res : Rtypes.Resources) (sparams : SchedulerParams) (requiredFabric : String)
    (required : Bool) : Option (ResourcePair × SchedulerParams) :=
  if !required then some (rp, sparams)
  else if !interconnectCapsSuitable caps requiredFabric then none
  else
    match res.gpu with
    | none => none
    | some gpu =>
      match S.subNLZ rp gpu.units with
      | none => none
      | some rp' =>
        let interconnect : Crd.SchedulerResourceInterconnect :=
          { enabled := true
            units := gpu.units
            resourceName := caps.interconnectResourceName
            fabric := caps.interconnectFabric
            ncclHCAPrefixes := caps.ncclHCAPrefixes }
        some (rp', { sparams with
          resources := some { sParamsEnsureResources sparams with
            interconnect := some interconnect } })

def tryAdjustEphemeralStorage (S : Sdk) (rp : ResourcePair) (res : Rtypes.Storage) :
    Option ResourcePair :=
  S.subNLZ rp res.quantity

/-- The first entry of a class takes the volume.  An unknown class, like a full one, is a
refusal by the cluster. -/
def subStorageClass (S : Sdk) (storageClass : String) (quantity : Rtypes.ResourceValue) :
    List InventoryV1.Storage → Except Refusal (List InventoryV1.Storage)
  | [] => .error .cluster
  | s :: rest =>
    if s.info.storageClass = storageClass then
      match S.subNLZ s.quantity quantity with
      | none => .error .cluster
      | some q => .ok ({ s with quantity := q } :: rest)
    else (subStorageClass S storageClass quantity rest).map (s :: ·)

/-- `ram` is memory of the node, a persistent volume belongs to its storage class, and others are
ephemeral storage. -/
def adjustVolume (S : Sdk) (acc : Node × List InventoryV1.Storage) (vol : Rtypes.Storage) :
    Except Refusal (Node × List InventoryV1.Storage) :=
  let nd := acc.1
  match parseStorageAttributes S vol.attributes with
  | .error _ => .error .cluster
  | .ok attrs =>
    if !attrs.persistent then
      if attrs.storageClass = "ram" then
        match S.subNLZ nd.resources.memory.quantity vol.quantity with
        | none => .error .node
        | some q => .ok ({ nd with resources.memory.quantity := q }, acc.2)
      else
        match tryAdjustEphemeralStorage S nd.resources.ephemeralStorage vol with
        | none => .error .node
        | some q => .ok ({ nd with resources.ephemeralStorage := q }, acc.2)
    else if !S.isStorageClassSupported nd attrs.storageClass then .error .node
    else (subStorageClass S attrs.storageClass vol.quantity acc.2).map (nd, ·)

def sidecarCPULimitMillicores : Rtypes.ResourceValue := 100
def sidecarMemoryLimitBytes : Rtypes.ResourceValue := 64 * 1024 * 1024
def sidecarGPUMemoryLimitBytes : Rtypes.ResourceValue := 128 * 1024 * 1024

def sidecarMemory (rc : RuntimeClass) : Rtypes.ResourceValue :=
  if rc.isWithGPU then sidecarGPUMemoryLimitBytes else sidecarMemoryLimitBytes

/-- Confidential compute sets the runtime class, unless the GPU gate did, and takes one
sidecar from the node. -/
def reserveSidecar (S : Sdk) (nd : Node) (sparams : SchedulerParams) (teeType : TEEType)
    (teePlatform : TEEPlatform) : Except Refusal (Node × SchedulerParams) :=
  if !teeType.isCC then .ok (nd, sparams)
  else
    let sparams := if sparams.runtimeClass = "" then
      { sparams with runtimeClass := runtimeClassForTEEType teeType teePlatform } else sparams
    match S.subMilliNLZ nd.resources.cpu.quantity sidecarCPULimitMillicores with
    | none => .error .node
    | some cpu =>
      match S.subNLZ nd.resources.memory.quantity (sidecarMemory sparams.runtimeClass) with
      | none => .error .node
      | some mem =>
        .ok ({ nd with resources.cpu.quantity := cpu, resources.memory.quantity := mem }, sparams)

/-! ## One replica on one node -/

/-- What an attempt takes from the group and the options, next to the request itself. -/
structure AttemptConfig where
  teeType : TEEType
  teePlatform : TEEPlatform
  requiredFabric : String
  requiresInterconnect : Bool
  interconnectGroup : String

/-- The nodes an interconnect group has taken in this call. -/
abbrev GroupClaims := List (String × Nat)

/-- The gates up to the GPU.  The result has the node copy, the scheduler parameters and the
GPU request as it is left. -/
def tryAdjustDevices (S : Sdk) (cluster : Cluster) (node : Nat) (res : Rtypes.Resources)
    (cfg : AttemptConfig) (groupClaims : GroupClaims) :
    Except Refusal (Node × SchedulerParams × Rtypes.GPU) :=
  match cluster.nodes[node]? with
  | none => .error .panics
  | some nd =>
    if cfg.interconnectGroup ≠ "" ∧ (cfg.interconnectGroup, node) ∈ groupClaims then
      .error .node
    else if cfg.requiresInterconnect ∧
        ¬ interconnectCapsSuitable nd.capabilities cfg.requiredFabric then .error .node
    else
      match res.cpu with
      | none => .error .panics
      | some cpuReq =>
      match tryAdjustCPU S nd.resources.cpu cpuReq with
      | none => .error .node
      | some cpu =>
      match tryAdjustInterconnect S nd.resources.gpuInterconnect nd.capabilities res .zero
          cfg.requiredFabric cfg.requiresInterconnect with
      | none => .error .node
      | some (ic, sparams) =>
      match res.gpu with
      | none => .error .panics
      | some gpuReq =>
      match tryAdjustGPU S nd.resources.gpu gpuReq sparams cfg.teeType cfg.teePlatform with
      | none => .error .node
      | some (gpu, gpuReq', sparams) =>
        .ok ({ nd with resources.cpu := cpu, resources.gpuInterconnect := ic,
                       resources.gpu := gpu }, sparams, gpuReq')

/-- The gates after the GPU: memory, volumes and the sidecar. -/
def tryAdjustRest (S : Sdk) (storage : List InventoryV1.Storage) (res : Rtypes.Resources)
    (cfg : AttemptConfig) (nd : Node) (sparams : SchedulerParams) :
    Except Refusal (Node × List InventoryV1.Storage × SchedulerParams) :=
  match res.memory with
  | none => .error .panics
  | some memReq =>
  match S.subNLZ nd.resources.memory.quantity memReq.quantity with
  | none => .error .node
  | some mem =>
  match res.storage.foldlM (adjustVolume S)
      ({ nd with resources.memory.quantity := mem }, storage) with
  | .error r => .error r
  | .ok (nd, storage) =>
  match reserveSidecar S nd sparams cfg.teeType cfg.teePlatform with
  | .error r => .error r
  | .ok (nd, sparams) => .ok (nd, storage, sparams)

/-- What a successful attempt leaves behind. -/
structure Commit where
  cluster : Cluster
  groupClaims : GroupClaims
  sparams : Option SchedulerParams

/-- `tryAdjust`: the request as it is left, and the verdict. -/
def tryAdjust (S : Sdk) (cluster : Cluster) (node : Nat) (res : Rtypes.Resources)
    (cfg : AttemptConfig) (groupClaims : GroupClaims) :
    Rtypes.Resources × Except Refusal Commit :=
  match tryAdjustDevices S cluster node res cfg groupClaims with
  | .error r => (res, .error r)
  | .ok (nd, sparams, gpu) =>
    -- the GPU gate writes to the request itself, so its stamp outlives a refusal below
    let res := { res with gpu := some gpu }
    match tryAdjustRest S cluster.storage res cfg nd sparams with
    | .error r => (res, .error r)
    | .ok (nd, storage, sparams) =>
      (res, .ok
        { cluster := ⟨cluster.nodes.set node nd, storage⟩
          groupClaims := if cfg.interconnectGroup ≠ "" then
            (cfg.interconnectGroup, node) :: groupClaims else groupClaims
          sparams := if sparams = .zero then none else some sparams })

/-! ## The loop over replicas, units and nodes -/

inductive AdjustErr where
  | insufficientCapacity
  | groupResourceMismatch
  | invalidInterconnectGroup (group : String) (reasons : List String)
  | panics

/-- One replica placed: its unit, its node, the request as it was left and the scheduler
parameters recorded for it. -/
structure Placed where
  unit : Nat
  node : Nat
  resources : Rtypes.Resources
  sparams : Option SchedulerParams

structure AdjustState where
  cluster : Cluster
  groupClaims : GroupClaims
  /-- The units left, with the replicas left of each. -/
  resources : ResourceUnits
  adjustedResources : ResourceUnits
  cparams : ReservationClusterSettings
  placed : List Placed

/-- How a level of the loop was left. -/
inductive Flow where
  | fallThrough (st : AdjustState)
  | continueNodes (st : AdjustState)
  | breakNodes (err : Option AdjustErr) (st : AdjustState)
  | gotoNodes (st : AdjustState)

/-- What stays fixed through the loop: the group as it was requested and the options. -/
structure AdjustEnv where
  origResources : ResourceUnits
  requiredFabric : String
  opts : InventoryOptions

def countAt (us : ResourceUnits) (i : Nat) : Nat := ((us[i]?).map (·.count)).getD 0

def setCount (us : ResourceUnits) (i n : Nat) : ResourceUnits :=
  us.modify i fun u => { u with count := n }

def setResources (us : ResourceUnits) (i : Nat) (res : Rtypes.Resources) : ResourceUnits :=
  us.modify i fun u => { u with resources := res }

/-- The opt-in flag and the group label are read off the unit as requested. -/
def AdjustEnv.attempt (env : AdjustEnv) (i : Nat) : AttemptConfig :=
  let group := (env.origResources[i]?).bind fun u => resourceInterconnectGroup u.resources
  { teeType := env.opts.teeType
    teePlatform := env.opts.teePlatform
    requiredFabric := env.requiredFabric
    requiresInterconnect := group.isSome
    interconnectGroup := group.getD "" }

/-- The replicas of unit `i` that fit on `node`, one after another.  `adjusted` is the request they
share: with `adjustedGroup` a copy, which each replica has to leave as the first ones did, and
otherwise the entry of `adjustedResources`. -/
def replicaLoop (S : Sdk) (env : AdjustEnv) (node i : Nat) (adjustedGroup : Bool) :
    Nat → Rtypes.Resources → AdjustState → Flow
  | 0, _, st => .fallThrough st
  | left + 1, adjusted, st =>
    let attempt := tryAdjust S st.cluster node adjusted (env.attempt i) st.groupClaims
    let adjusted := attempt.1
    -- the entry is changed whatever the verdict
    let st := if adjustedGroup then st else
      { st with adjustedResources := setResources st.adjustedResources i adjusted }
    match attempt.2 with
    | .error .cluster => .breakNodes none st
    | .error .node => .continueNodes st
    | .error .panics => .breakNodes (some .panics) st
    | .ok commit =>
      let st := { st with
        cluster := commit.cluster
        groupClaims := commit.groupClaims
        placed := st.placed ++ [⟨i, node, adjusted, commit.sparams⟩] }
      if adjustedGroup then
        if (st.adjustedResources[i]?).map (·.resources) ≠ some adjusted ∨
            commit.sparams ≠ (st.cparams.lookup adjusted.id).join then
          .breakNodes (some .groupResourceMismatch) st
        else
          replicaLoop S env node i adjustedGroup left adjusted
            { st with resources := setCount st.resources i left }
      else
        replicaLoop S env node i adjustedGroup left adjusted
          { st with
            cparams := (adjusted.id, commit.sparams) :: st.cparams
            resources := setCount st.resources i left }

/-- The units left, from the last one down. -/
def unitLoop (S : Sdk) (env : AdjustEnv) (node : Nat) : Nat → AdjustState → Flow
  | 0, st => .fallThrough st
  | i + 1, st =>
    match st.adjustedResources[i]? with
    | none => .breakNodes (some .panics) st
    | some u =>
      let adjustedGroup := countAt env.origResources i ≠ countAt st.resources i
      match replicaLoop S env node i adjustedGroup (countAt st.resources i) u.resources st with
      | .fallThrough st =>
        if countAt st.resources i = 0 then
          .gotoNodes { st with resources := st.resources.eraseIdx i }
        else unitLoop S env node i st
      | flow => flow

def nodeLoop (S : Sdk) (env : AdjustEnv) : List Nat → AdjustState → Flow
  | [], st => .fallThrough st
  | node :: rest, st =>
    match unitLoop S env node st.resources.length st with
    | .fallThrough st => nodeLoop S env rest st
    | .continueNodes st => nodeLoop S env rest st
    | flow => flow

/-- The scan from the label `nodes`, with the number of units left. -/
def nodesLabel (S : Sdk) (env : AdjustEnv) :
    Nat → AdjustState → Option AdjustErr × AdjustState
  | 0, st => (none, st)
  | left + 1, st =>
    match nodeLoop S env (List.range st.cluster.nodes.length) st with
    -- every `goto` has removed a unit
    | .gotoNodes st => nodesLabel S env left st
    | .breakNodes err st => (err, st)
    | .fallThrough st => (none, st)
    | .continueNodes st => (none, st)

/-! ## `Adjust` -/

/-- What a reservation receives: the adjusted units and the scheduler parameters. -/
structure Grant where
  allocatedResources : ResourceUnits
  clusterParams : ReservationClusterSettings
  placed : List Placed

/-- The first interconnect group whose label Kubernetes would refuse. -/
def invalidGroup (S : Sdk) (us : ResourceUnits) : Option AdjustErr :=
  us.findSome? fun u =>
    match resourceInterconnectGroup u.resources with
    | none => none
    | some group =>
      let reasons := S.isValidLabelValue group
      if reasons = [] then none else some (.invalidInterconnectGroup group reasons)

def adjustEnv (rg : ResourceGroup) (opts : InventoryOptions) : AdjustEnv :=
  ⟨rg.resourceUnits, placementRequiredFabric rg, opts⟩

def adjustStart (cluster : Cluster) (rg : ResourceGroup) : AdjustState :=
  ⟨cluster, [], rg.resourceUnits, rg.resourceUnits, [], []⟩

/-- `Adjust`: the inventory afterwards, and what the reservation receives or the error. -/
def adjust (S : Sdk) (inv : Inventory) (rg : ResourceGroup) (opts : InventoryOptions) :
    Inventory × Except AdjustErr Grant :=
  match invalidGroup S rg.resourceUnits with
  | some err => (inv, .error err)
  | none =>
    let (err, st) := nodesLabel S (adjustEnv rg opts) rg.resourceUnits.length
      (adjustStart inv.sanitized rg)
    -- the error of the loop counts only if units are left
    if st.resources = [] then
      (if opts.dryRun then inv else { inv with sanitized := st.cluster },
        .ok ⟨st.adjustedResources, st.cparams, st.placed⟩)
    else (inv, .error (err.getD .insufficientCapacity))

end AkashProvider
