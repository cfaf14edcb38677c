import AkashProvider.Types.Resources

/-!
# The cluster inventory

The nodes and storage classes of a cluster with what each can allocate and what is allocated, the
confidential-compute selection of a request, and the scheduler parameters of a placement.
`Quantity` counts thousandths.  A `ResourcePair` of a sparse node carries nil quantities.
-/

namespace AkashProvider

/-! ## Nodes and storage classes -/

namespace InventoryV1

/-- A Kubernetes quantity in thousandths. -/
abbrev Quantity := Int

structure ResourcePair where
  capacity : Option Quantity
  allocatable : Option Quantity
  allocated : Option Quantity
deriving DecidableEq

structure CPUInfo where
  arch : String
deriving DecidableEq

structure CPU where
  quantity : ResourcePair
  info : List CPUInfo
deriving DecidableEq

structure GPUInfo where
  vendor : String
  name : String
  interface : String
  memorySize : String
deriving DecidableEq

structure GPU where
  quantity : ResourcePair
  info : List GPUInfo
deriving DecidableEq

structure Memory where
  quantity : ResourcePair
deriving DecidableEq

structure NodeResources where
  cpu : CPU
  memory : Memory
  gpu : GPU
  ephemeralStorage : ResourcePair
  volumesAttached : ResourcePair
  volumesMounted : ResourcePair
  gpuInterconnect : ResourcePair
deriving DecidableEq

structure NodeCapabilities where
  storageClasses : List String
  interconnectFabric : String
  interconnectResourceName : String
  ncclHCAPrefixes : List String
deriving DecidableEq

structure Node where
  name : String
  resources : NodeResources
  capabilities : NodeCapabilities
deriving DecidableEq

structure StorageInfo where
  storageClass : String

structure Storage where
  quantity : ResourcePair
  info : StorageInfo

structure Cluster where
  nodes : List Node
  storage : List Storage

end InventoryV1

/-! ## Confidential compute -/

/-- A validated TEE capability; `none` is the empty string of the source. -/
inductive TEEType where
  | none
  | cpu
  | cpuGPU
deriving DecidableEq

/-- `ParseTEEType`; `none` stands for its error. -/
def parseTEEType (s : String) : Option TEEType :=
  if s = "" then some .none
  else if s = "cpu" then some .cpu
  else if s = "cpu-gpu" then some .cpuGPU
  else none

def TEEType.isCC (t : TEEType) : Bool := t ≠ .none

/-- The TEE technology found on the nodes of the cluster. -/
inductive TEEPlatform where
  | none
  | tdx
  | snp

abbrev RuntimeClass := String

def runtimeClassNvidia : RuntimeClass := "nvidia"
def runtimeClassKataQemuSNP : RuntimeClass := "kata-qemu-snp"
def runtimeClassKataQemuNvidiaGPUSNP : RuntimeClass := "kata-qemu-nvidia-gpu-snp"
def runtimeClassKataQemuTDX : RuntimeClass := "kata-qemu-tdx"
def runtimeClassKataQemuNvidiaGPUTDX : RuntimeClass := "kata-qemu-nvidia-gpu-tdx"

/-- `RuntimeClassForTEEType`.  No detected platform gives the empty class. -/
def runtimeClassForTEEType (teeType : TEEType) (teePlatform : TEEPlatform) : RuntimeClass :=
  let isGPU := teeType = .cpuGPU
  match teePlatform with
  | .tdx => if isGPU then runtimeClassKataQemuNvidiaGPUTDX else runtimeClassKataQemuTDX
  | .snp => if isGPU then runtimeClassKataQemuNvidiaGPUSNP else runtimeClassKataQemuSNP
  | .none => ""

/-- What `runtimeClassAttrs` records of a known runtime class. -/
structure RuntimeClassFilter where
  cc : Bool
  gpu : Bool
  snp : Bool
  tdx : Bool

/-- `runtimeClassAttrs`: the known runtime classes are the confidential ones. -/
def runtimeClassAttrs (rc : RuntimeClass) : Option RuntimeClassFilter :=
  if rc = runtimeClassKataQemuSNP then some ⟨true, false, true, false⟩
  else if rc = runtimeClassKataQemuNvidiaGPUSNP then some ⟨true, true, true, false⟩
  else if rc = runtimeClassKataQemuTDX then some ⟨true, false, false, true⟩
  else if rc = runtimeClassKataQemuNvidiaGPUTDX then some ⟨true, true, false, true⟩
  else none

/-- `rc.Is(WithGPU())`. -/
def RuntimeClass.isWithGPU (rc : RuntimeClass) : Bool :=
  (runtimeClassAttrs rc).any (·.gpu)

/-- `rc.Is(WithCC())`. -/
def RuntimeClass.isWithCC (rc : RuntimeClass) : Bool :=
  (runtimeClassAttrs rc).any (·.cc)

/-! ## Scheduler parameters -/

namespace Crd

structure SchedulerResourceGPU where
  vendor : String
  model : String
  memorySize : String
  interface : String
deriving DecidableEq

structure SchedulerResourceInterconnect where
  enabled : Bool
  units : UInt64
  resourceName : String
  fabric : String
  ncclHCAPrefixes : List String
deriving DecidableEq

structure SchedulerResources where
  gpu : Option SchedulerResourceGPU
  interconnect : Option SchedulerResourceInterconnect
deriving DecidableEq

structure SchedulerParams where
  runtimeClass : RuntimeClass
  resources : Option SchedulerResources
  attestationDisabled : Bool
  teeType : String
deriving DecidableEq

def SchedulerParams.zero : SchedulerParams := ⟨"", none, false, ""⟩

/-- Scheduler parameters by resource ID.  The source has a map: an assignment is put in
front, and `lookup` finds the last one. -/
abbrev ReservationClusterSettings := List (UInt32 × Option SchedulerParams)

/-- Scheduler parameters by service, in the order of the services. -/
structure ClusterSettings where
  schedulerParams : List (Option SchedulerParams)
deriving DecidableEq

end Crd

end AkashProvider
