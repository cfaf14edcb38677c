import AkashProvider.Inventory.Placement
import AkashProvider.Kube.Sidecar

/-!
# Pods in the account of a node

Node discovery keeps what the pods of a node take in `Allocated`.  The requests of each container
are added, and in the same round the memory volumes of the pod: once for every container
(`addPodAllocatedResources_eq`).
-/

namespace AkashProvider.Operator

open InventoryV1 (Quantity Node)
open Kube (PodTemplate Container Volume)

/-- The quantity of the node that a resource is counted on. -/
def countedOn (interconnectResource name : String) : Option NodeResource :=
  if name = Kube.resourceCPU then some .cpu
  else if name = Kube.resourceMemory then some .memory
  else if name = Kube.resourceEphemeralStorage then some .ephemeralStorage
  else if name = Kube.resourceGPUNvidia ∨ name = Kube.resourceGPUNvidiaPGPU ∨
      name = Kube.resourceGPUAMD then some .gpu
  else if interconnectResource ≠ "" ∧ name = interconnectResource then some .gpuInterconnect
  else none

def addAllocated (node : Node) (r : NodeResource) (quantity : Quantity) : Node :=
  node.setPair r ((node.resources.pair r).charge quantity)

def addRequest (node : Node) (request : String × Quantity) : Node :=
  match countedOn node.capabilities.interconnectResourceName request.1 with
  | none => node
  | some r => addAllocated node r request.2

/-- The size of a volume in memory; other volumes, and those without a limit, have none. -/
def memoryVolumeSize (vol : Volume) : Option Quantity :=
  (vol.emptyDir.filter (·.medium = Kube.Workload.storageMediumMemory)).bind (·.sizeLimit)

def addVolume (node : Node) (vol : Volume) : Node :=
  match memoryVolumeSize vol with
  | none => node
  | some size => addAllocated node .memory size

def addPodAllocatedResources (node : Node) (pod : PodTemplate) : Node :=
  pod.containers.foldl (fun node container =>
    pod.volumes.foldl addVolume (container.requests.foldl addRequest node)) node

/-! ## What a pod adds -/

abbrev NodeAmounts := NodeResource → Quantity

def requestAmounts (interconnectResource : String) (request : String × Quantity) : NodeAmounts :=
  match countedOn interconnectResource request.1 with
  | none => 0
  | some r => Pi.single r request.2

def volumeAmounts (vol : Volume) : NodeAmounts :=
  Pi.single .memory ((memoryVolumeSize vol).getD 0)

def containerAmounts (interconnectResource : String) (volumes : List Volume)
    (container : Container) : NodeAmounts :=
  (container.requests.map (requestAmounts interconnectResource)).sum +
    (volumes.map volumeAmounts).sum

def podAmounts (interconnectResource : String) (pod : PodTemplate) : NodeAmounts :=
  (pod.containers.map (containerAmounts interconnectResource pod.volumes)).sum

theorem addAllocated_eq (node : Node) (r : NodeResource) (q : Quantity) :
    addAllocated node r q = node.charge (Pi.single r q) := by
  simp only [addAllocated, InventoryV1.Node.setPair, InventoryV1.NodeResources.setPair_charge,
    InventoryV1.Node.charge]

theorem foldl_charge {α : Type} {f : Node → α → Node} {g : α → NodeAmounts}
    {interconnectResource : String}
    (h : ∀ node a, node.capabilities.interconnectResourceName = interconnectResource →
      f node a = node.charge (g a)) (l : List α) :
    ∀ node : Node, node.capabilities.interconnectResourceName = interconnectResource →
      l.foldl f node = node.charge (l.map g).sum := by
  induction l with
  | nil =>
    intro node _
    exact (InventoryV1.Node.charge_zero node).symm
  | cons a rest ih =>
    intro node hic
    rw [List.foldl_cons, h node a hic, ih (node.charge (g a)) hic,
      InventoryV1.Node.charge_charge, List.map_cons, List.sum_cons]

theorem addRequest_eq (node : Node) (request : String × Quantity) :
    addRequest node request =
      node.charge (requestAmounts node.capabilities.interconnectResourceName request) := by
  unfold addRequest requestAmounts
  split
  next => exact (InventoryV1.Node.charge_zero node).symm
  next r _ => exact addAllocated_eq node r request.2

theorem addVolume_eq (node : Node) (vol : Volume) :
    addVolume node vol = node.charge (volumeAmounts vol) := by
  unfold addVolume volumeAmounts
  cases memoryVolumeSize vol with
  | none => exact (InventoryV1.Node.charge_zero node).symm
  | some size => exact addAllocated_eq node .memory size

theorem addPodAllocatedResources_eq (node : Node) (pod : PodTemplate) :
    addPodAllocatedResources node pod =
      node.charge (podAmounts node.capabilities.interconnectResourceName pod) := by
  refine foldl_charge (fun node container hic => ?_) pod.containers node rfl
  rw [foldl_charge (fun node request h => by rw [addRequest_eq, h]) container.requests node hic,
    foldl_charge (fun node vol _ => addVolume_eq node vol) pod.volumes
      (node.charge _) hic, InventoryV1.Node.charge_charge]
  rfl

end AkashProvider.Operator
