import AkashProvider.Lib.Mirror
import AkashProvider.Operator.NodeInfo

/-!
# The monitor of a node

The monitor of a node keeps the node of the inventory in line with its pods, its Kubernetes object
and the configuration.  All pods are counted anew when the watch was closed, and when the
allocatable resources changed.  A change of the interconnect patterns counts nothing anew: `stale`
is what this has left since.  No step reads it.  A map is ranged over in any order, which an event
has with it.
-/

namespace AkashProvider.Operator

open InventoryV1 (Quantity ResourcePair Node)

/-! ## Objects -/

/-- A pod of the node, with the types and statuses of its conditions.  Kubernetes takes no pod
without a container or with an amount below zero. -/
structure Pod where
  ns : String
  name : String
  conditions : List (String × String)
  spec : Kube.PodTemplate
  containers_ne_nil : spec.containers ≠ []
  requests_nonneg : ∀ c ∈ spec.containers, ∀ e ∈ c.requests, 0 ≤ e.2
  volumes_nonneg : ∀ vol ∈ spec.volumes, ∀ size ∈ memoryVolumeSize vol, 0 ≤ size

def podKey (pod : Pod) : String := pod.ns ++ "/" ++ pod.name

def isPodAllocated (pod : Pod) : Bool := pod.conditions.lookup "PodScheduled" = some "True"

structure PodList where
  items : List Pod
  distinct : (items.map podKey).Nodup

structure NodeObject extends KubeNode where
  status : NodeStatus

inductive WatchType where
  | added
  | modified
  | deleted
deriving DecidableEq

/-! ## Pods -/

/-- `Allocated.Sub(quantity)`; a result below zero is logged and kept. -/
def subAllocated (node : Node) (r : NodeResource) (quantity : Quantity) : Node :=
  addAllocated node r (-quantity)

def subRequest (node : Node) (request : String × Quantity) : Node :=
  match countedOn node.capabilities.interconnectResourceName request.1 with
  | none => node
  | some r => subAllocated node r request.2

def subVolume (node : Node) (vol : Kube.Volume) : Node :=
  match memoryVolumeSize vol with
  | none => node
  | some size => subAllocated node .memory size

def subPodAllocatedResources (node : Node) (pod : Kube.PodTemplate) : Node :=
  pod.containers.foldl (fun node container =>
    pod.volumes.foldl subVolume (container.requests.foldl subRequest node)) node

def resetPair (rp : ResourcePair) : ResourcePair := { rp with allocated := some 0 }

def nodeResetAllocated (node : Node) : Node :=
  { node with resources :=
    { node.resources with
      cpu.quantity := resetPair node.resources.cpu.quantity
      gpu.quantity := resetPair node.resources.gpu.quantity
      memory.quantity := resetPair node.resources.memory.quantity
      ephemeralStorage := resetPair node.resources.ephemeralStorage
      volumesAttached := resetPair node.resources.volumesAttached
      volumesMounted := resetPair node.resources.volumesMounted
      gpuInterconnect := resetPair node.resources.gpuInterconnect } }

/-! ## The monitor -/

/-- What the monitor reads of the configuration. -/
structure DiscoveryConfig extends NodeConfig where
  resourcePatterns : List String

/-- What the probe of the node says of its fabric. -/
structure IBDiscovery where
  fabric : String
  ncclIBHCAPrefixes : List String

structure NodeMonitor where
  cfg : DiscoveryConfig
  sc : List String
  knode : NodeObject
  node : Node
  /-- The pods that are counted, by key. -/
  currPods : List (String × Pod)
  stale : Quantity

inductive DiscoveryEvent where
  | config (cfg : DiscoveryConfig) (ranged : NodeStatus)
  | storageClasses (sc : List String)
  | gpuIDs (info : List InventoryV1.GPUInfo)
  | node (type : WatchType) (obj : NodeObject) (ib : IBDiscovery) (ranged : NodeStatus)
      (pods : PodList)
  | pod (type : WatchType) (pod : Pod)
  | watchClosed (pods : PodList)
  | labels

/-- The amount that pods have on a quantity. -/
def trackedAmount (interconnect : String) (pods : List (String × Pod)) : NodeAmounts :=
  (pods.map fun e => podAmounts interconnect e.2.spec).sum

namespace NodeMonitor

variable (S : Sdk) (filepathMatch : String → String → Option Bool)

def interconnect (m : NodeMonitor) : String := m.node.capabilities.interconnectResourceName

/-- One round of the loop over the pods that were listed. -/
def countPod (m : NodeMonitor) (pod : Pod) : NodeMonitor :=
  if isPodAllocated pod then
    { m with
      node := addPodAllocatedResources m.node pod.spec
      currPods := (podKey pod, pod) :: m.currPods }
  else m

def restartPodsWatcher (m : NodeMonitor) (pods : PodList) : NodeMonitor :=
  pods.items.foldl countPod
    { m with node := nodeResetAllocated m.node, currPods := [], stale := 0 }

/-- `initNodeInfo`, and the first count. -/
def start (cfg : DiscoveryConfig) (sc : List String) (knode : NodeObject)
    (cpuInfo : List InventoryV1.CPUInfo) (gpuInfo : List InventoryV1.GPUInfo) (ib : IBDiscovery)
    (ranged : NodeStatus) (pods : PodList) : NodeMonitor :=
  let zero : ResourcePair := ⟨some 0, some 0, some 0⟩
  let node : Node :=
    { name := knode.name
      resources :=
        { cpu := ⟨zero, cpuInfo⟩
          memory := ⟨zero⟩
          gpu := ⟨zero, gpuInfo⟩
          ephemeralStorage := zero
          volumesAttached := zero
          volumesMounted := zero
          gpuInterconnect := zero }
      capabilities := ⟨[], ib.fabric, "", ib.ncclIBHCAPrefixes⟩ }
  restartPodsWatcher
    { cfg := cfg
      sc := sc
      knode := knode
      node := updateNodeInfo filepathMatch ranged node cfg.resourcePatterns
      currPods := []
      stale := 0 } pods

/-- A configuration with other patterns updates the node, and counts no pod. -/
def onConfig (m : NodeMonitor) (cfg : DiscoveryConfig) (ranged : NodeStatus) : NodeMonitor :=
  if cfg.resourcePatterns ≠ m.cfg.resourcePatterns then
    let node := updateNodeInfo filepathMatch ranged m.node cfg.resourcePatterns
    { m with
      cfg := cfg
      node := node
      stale := m.stale + trackedAmount m.interconnect m.currPods .gpuInterconnect -
        trackedAmount node.capabilities.interconnectResourceName m.currPods .gpuInterconnect }
  else { m with cfg := cfg }

def onNode (m : NodeMonitor) (type : WatchType) (obj : NodeObject) (ib : IBDiscovery)
    (ranged : NodeStatus) (pods : PodList) : NodeMonitor :=
  let m :=
    if type = .modified ∧
        nodeAllocatableChanged m.knode.status.allocatable obj.status.allocatable then
      let node := { m.node with
        capabilities.ncclHCAPrefixes := ib.ncclIBHCAPrefixes
        capabilities.interconnectFabric := ib.fabric }
      restartPodsWatcher
        { m with node := updateNodeInfo filepathMatch ranged node m.cfg.resourcePatterns } pods
    else m
  { m with knode := obj }

def onPod (m : NodeMonitor) (type : WatchType) (pod : Pod) : NodeMonitor :=
  let key := podKey pod
  match type with
  | .added | .modified =>
    if m.currPods.lookup key = none ∧ isPodAllocated pod then
      { m with
        node := addPodAllocatedResources m.node pod.spec
        currPods := (key, pod) :: m.currPods }
    else m
  | .deleted =>
    match m.currPods.lookup key with
    | none => m
    | some pod =>
      { m with
        node := subPodAllocatedResources m.node pod.spec
        currPods := m.currPods.filter (·.1 ≠ key) }

/-- An event has the maps that are ranged over, in some order. -/
def step (m : NodeMonitor) : DiscoveryEvent → Option NodeMonitor
  | .config cfg ranged =>
    if ranged.allocatable.Perm m.knode.status.allocatable ∧
        ranged.capacity.Perm m.knode.status.capacity then
      some (m.onConfig filepathMatch cfg ranged)
    else none
  | .storageClasses sc => some { m with sc := sc }
  | .gpuIDs info => some { m with node := { m.node with resources.gpu.info := info } }
  | .node type obj ib ranged pods =>
    if ranged.allocatable.Perm obj.status.allocatable ∧
        ranged.capacity.Perm obj.status.capacity then
      some (m.onNode filepathMatch type obj ib ranged pods)
    else none
  | .pod type pod => some (m.onPod type pod)
  | .watchClosed pods => some (m.restartPodsWatcher pods)
  | .labels =>
    some { m with
      node := (generateLabels S m.cfg.toNodeConfig m.knode.toKubeNode m.node m.sc).2 }

end NodeMonitor

/-! ## Amounts of pods -/

def containerRequests (interconnect : String) (pod : Kube.PodTemplate) : NodeAmounts :=
  (pod.containers.map fun c => (c.requests.map (requestAmounts interconnect)).sum).sum

def memoryVolumes (pod : Kube.PodTemplate) : Quantity :=
  (pod.volumes.map fun vol => (memoryVolumeSize vol).getD 0).sum

/-- What a pod should be counted with: its requests, and each memory volume once. -/
def podShare (interconnect : String) (pod : Kube.PodTemplate) : NodeAmounts :=
  containerRequests interconnect pod + Pi.single .memory (memoryVolumes pod)

theorem sum_volumeAmounts (volumes : List Kube.Volume) :
    (volumes.map volumeAmounts).sum =
      Pi.single .memory (volumes.map fun vol => (memoryVolumeSize vol).getD 0).sum := by
  induction volumes with
  | nil => simp
  | cons vol rest ih =>
    rw [List.map_cons, List.sum_cons, ih, List.map_cons, List.sum_cons, Pi.single_add]
    rfl

theorem podAmounts_eq (interconnect : String) (pod : Kube.PodTemplate) :
    podAmounts interconnect pod = podShare interconnect pod +
      Pi.single .memory (((pod.containers.length : Int) - 1) * memoryVolumes pod) := by
  have hsum : podAmounts interconnect pod = containerRequests interconnect pod +
      Pi.single .memory ((pod.containers.length : Int) * memoryVolumes pod) := by
    unfold podAmounts containerRequests containerAmounts
    rw [List.sum_map_add, sum_volumeAmounts, List.map_const', List.sum_replicate,
      ← Pi.single_nsmul, nsmul_eq_mul]
    rfl
  rw [hsum, podShare, add_assoc, ← Pi.single_add]
  congr 2
  ring

variable {r : NodeResource}

theorem countedOn_congr (hr : r ≠ .gpuInterconnect) (ic ic' name : String) :
    countedOn ic name = some r ↔ countedOn ic' name = some r := by
  grind [countedOn]

theorem requestAmounts_apply (ic : String) (request : String × Quantity) (r : NodeResource) :
    requestAmounts ic request r = if countedOn ic request.1 = some r then request.2 else 0 := by
  unfold requestAmounts
  cases countedOn ic request.1 with
  | none => simp
  | some k =>
    by_cases hk : k = r
    · subst hk
      simp
    · simp [hk, Ne.symm hk]

theorem containerRequests_apply (ic : String) (pod : Kube.PodTemplate) (r : NodeResource) :
    containerRequests ic pod r = (pod.containers.map fun c => (c.requests.map fun request =>
      if countedOn ic request.1 = some r then request.2 else 0).sum).sum := by
  rw [containerRequests, Pi.list_sum_apply, List.map_map]
  refine congrArg List.sum (List.map_congr_left fun c _ => ?_)
  rw [Function.comp_apply, Pi.list_sum_apply, List.map_map]
  exact congrArg List.sum (List.map_congr_left fun request _ => requestAmounts_apply ic request r)

theorem podAmounts_congr (hr : r ≠ .gpuInterconnect) (ic ic' : String) (pod : Kube.PodTemplate) :
    podAmounts ic pod r = podAmounts ic' pod r := by
  simp only [podAmounts_eq, podShare, Pi.add_apply, containerRequests_apply,
    countedOn_congr hr ic ic']

theorem memoryVolumes_nonneg (pod : Pod) : 0 ≤ memoryVolumes pod.spec := by
  refine List.sum_nonneg fun q hq => ?_
  obtain ⟨vol, hvol, rfl⟩ := List.mem_map.mp hq
  cases hsize : memoryVolumeSize vol with
  | none => exact Int.le_refl 0
  | some size => exact pod.volumes_nonneg vol hvol size hsize

theorem podShare_nonneg (ic : String) (pod : Pod) (r : NodeResource) :
    0 ≤ podShare ic pod.spec r := by
  rw [podShare, Pi.add_apply, containerRequests_apply]
  refine Int.add_nonneg (List.sum_nonneg ?_) ?_
  · intro q hq
    obtain ⟨c, hc, rfl⟩ := List.mem_map.mp hq
    refine List.sum_nonneg fun q hq => ?_
    obtain ⟨request, hrequest, rfl⟩ := List.mem_map.mp hq
    have hnonneg := pod.requests_nonneg c hc request hrequest
    grind
  · by_cases hr : r = .memory
    · subst hr
      simpa using memoryVolumes_nonneg pod
    · simp [hr]

theorem subAllocated_eq (node : Node) (r : NodeResource) (q : Quantity) :
    subAllocated node r q = node.charge (-Pi.single r q) := by
  rw [subAllocated, addAllocated_eq, Pi.single_neg]

theorem subRequest_eq (node : Node) (request : String × Quantity) : subRequest node request =
    node.charge (-requestAmounts node.capabilities.interconnectResourceName request) := by
  unfold subRequest requestAmounts
  cases countedOn node.capabilities.interconnectResourceName request.1 with
  | none => exact (InventoryV1.Node.charge_zero node).symm
  | some r => exact subAllocated_eq node r request.2

theorem subVolume_eq (node : Node) (vol : Kube.Volume) :
    subVolume node vol = node.charge (-volumeAmounts vol) := by
  unfold subVolume volumeAmounts
  cases memoryVolumeSize vol with
  | none => exact (InventoryV1.Node.charge_zero node).symm
  | some size => exact subAllocated_eq node .memory size

theorem sum_map_neg {α : Type} (l : List α) (g : α → NodeAmounts) :
    (l.map fun a => -g a).sum = -(l.map g).sum := by
  induction l with
  | nil => simp
  | cons a rest ih => rw [List.map_cons, List.sum_cons, ih, List.map_cons, List.sum_cons, neg_add]

/-- A pod that is taken off under the name it was counted with leaves no trace. -/
theorem subPodAllocatedResources_eq (node : Node) (pod : Kube.PodTemplate) :
    subPodAllocatedResources node pod =
      node.charge (-podAmounts node.capabilities.interconnectResourceName pod) := by
  rw [podAmounts, ← sum_map_neg]
  refine foldl_charge (fun node container hic => ?_) pod.containers node rfl
  rw [foldl_charge (fun node request h => by rw [subRequest_eq, h]) container.requests node hic,
    foldl_charge (fun node vol _ => subVolume_eq node vol) pod.volumes (node.charge _) hic,
    InventoryV1.Node.charge_charge, sum_map_neg, sum_map_neg, containerAmounts, neg_add]

/-! ## Pods that are counted -/

theorem trackedAmount_cons (ic : String) (e : String × Pod) (pods : List (String × Pod)) :
    trackedAmount ic (e :: pods) = podAmounts ic e.2.spec + trackedAmount ic pods := by
  rw [trackedAmount, List.map_cons, List.sum_cons, trackedAmount]

theorem trackedAmount_congr (hr : r ≠ .gpuInterconnect) (ic ic' : String)
    (pods : List (String × Pod)) : trackedAmount ic pods r = trackedAmount ic' pods r := by
  induction pods with
  | nil => rfl
  | cons e rest ih =>
    rw [trackedAmount_cons, trackedAmount_cons, Pi.add_apply, Pi.add_apply, ih,
      podAmounts_congr hr ic ic']

theorem trackedAmount_filter (ic : String) {key : String} {pod : Pod}
    {pods : List (String × Pod)} (hnodup : (pods.map (·.1)).Nodup)
    (hlookup : pods.lookup key = some pod) : trackedAmount ic pods =
      podAmounts ic pod.spec + trackedAmount ic (pods.filter (·.1 ≠ key)) := by
  have hmem : (key, pod) ∈ pods := by grind [List.lookup_eq_some_iff]
  rw [trackedAmount, ((Mirror.perm_cons_drop hnodup hmem).map _).sum_eq, List.map_cons,
    List.sum_cons]
  rfl

namespace NodeMonitor

variable {S : Sdk} {filepathMatch : String → String → Option Bool} {m m' : NodeMonitor}

/-- Every quantity has the amount of the pods that are counted, and the interconnect what is
stale. -/
@[grind cases]
structure Counted (m : NodeMonitor) : Prop where
  keys : (m.currPods.map (·.1)).Nodup
  allocated : ∀ r, (m.node.resources.pair r).allocated = some
    (trackedAmount m.interconnect m.currPods r + if r = .gpuInterconnect then m.stale else 0)

theorem Counted.node (h : Counted m) {node : Node}
    (hname : node.capabilities.interconnectResourceName = m.interconnect)
    (hpair : ∀ r, (node.resources.pair r).allocated = (m.node.resources.pair r).allocated) :
    Counted { m with node := node } where
  keys := h.keys
  allocated := by
    intro r
    rw [hpair r, h.allocated r, ← hname]
    rfl

theorem Counted.add (h : Counted m) {pod : Pod} (hnew : podKey pod ∉ m.currPods.map (·.1)) :
    Counted { m with
      node := addPodAllocatedResources m.node pod.spec
      currPods := (podKey pod, pod) :: m.currPods } where
  keys := List.nodup_cons.mpr ⟨hnew, h.keys⟩
  allocated := by
    intro r
    rw [addPodAllocatedResources_eq]
    simp only [InventoryV1.Node.charge, InventoryV1.NodeResources.pair_charge,
      InventoryV1.ResourcePair.charge, h.allocated r, interconnect, trackedAmount_cons,
      Pi.add_apply, Option.map_some]
    congr 1
    ring

theorem Counted.remove (h : Counted m) {key : String} {pod : Pod}
    (hpod : m.currPods.lookup key = some pod) :
    Counted { m with
      node := subPodAllocatedResources m.node pod.spec
      currPods := m.currPods.filter (·.1 ≠ key) } where
  keys := h.keys.sublist ((List.filter_sublist).map _)
  allocated := by
    intro r
    have htracked := congrFun (trackedAmount_filter m.interconnect h.keys hpod) r
    rw [Pi.add_apply] at htracked
    rw [subPodAllocatedResources_eq]
    simp only [InventoryV1.Node.charge, InventoryV1.NodeResources.pair_charge,
      InventoryV1.ResourcePair.charge, h.allocated r, interconnect, Option.map_some,
      Pi.neg_apply] at htracked ⊢
    congr 1
    linarith

theorem pair_nodeResetAllocated (node : Node) (r : NodeResource) :
    (nodeResetAllocated node).resources.pair r = resetPair (node.resources.pair r) := by
  cases r <;> rfl

theorem Counted.foldl_countPod : ∀ {pods : List Pod} {m : NodeMonitor}, Counted m →
    (pods.map podKey).Nodup → (∀ pod ∈ pods, podKey pod ∉ m.currPods.map (·.1)) →
      Counted (pods.foldl countPod m)
  | [], _, h, _, _ => h
  | pod :: rest, m, h, hnodup, hnew => by
    rw [List.map_cons, List.nodup_cons] at hnodup
    rw [List.foldl_cons, countPod]
    split
    next =>
      refine (h.add (hnew pod List.mem_cons_self)).foldl_countPod hnodup.2 ?_
      intro pod' hpod' hmem
      rcases List.mem_cons.mp hmem with heq | hmem
      · have heq : podKey pod' = podKey pod := heq
        exact hnodup.1 (heq ▸ List.mem_map_of_mem hpod')
      · exact hnew pod' (List.mem_cons_of_mem _ hpod') hmem
    next => exact h.foldl_countPod hnodup.2 fun pod' hpod' =>
        hnew pod' (List.mem_cons_of_mem _ hpod')

theorem counted_restartPodsWatcher (m : NodeMonitor) (pods : PodList) :
    Counted (m.restartPodsWatcher pods) := by
  refine Counted.foldl_countPod ⟨List.nodup_nil, fun r => ?_⟩ pods.distinct
    fun _ _ hmem => List.not_mem_nil hmem
  rw [pair_nodeResetAllocated]
  simp [resetPair, trackedAmount]

theorem Counted.onConfig (h : Counted m) (cfg : DiscoveryConfig) (ranged : NodeStatus) :
    Counted (m.onConfig filepathMatch cfg ranged) := by
  unfold NodeMonitor.onConfig
  split
  next =>
    refine ⟨h.keys, fun r => ?_⟩
    obtain ⟨-, -, hpair⟩ := @updateNodeInfo_eq filepathMatch ranged m.node cfg.resourcePatterns
    grind [interconnect, trackedAmount_congr]
  next => exact ⟨h.keys, h.allocated⟩

theorem Counted.onNode (h : Counted m) (type : WatchType) (obj : NodeObject) (ib : IBDiscovery)
    (ranged : NodeStatus) (pods : PodList) :
    Counted (m.onNode filepathMatch type obj ib ranged pods) := by
  unfold NodeMonitor.onNode
  split
  next => exact ⟨(counted_restartPodsWatcher _ pods).keys,
    (counted_restartPodsWatcher _ pods).allocated⟩
  next => exact ⟨h.keys, h.allocated⟩

theorem Counted.onPod (h : Counted m) (type : WatchType) (pod : Pod) :
    Counted (m.onPod type pod) := by
  have hadd : Counted (if m.currPods.lookup (podKey pod) = none ∧ isPodAllocated pod then
      { m with
        node := addPodAllocatedResources m.node pod.spec
        currPods := (podKey pod, pod) :: m.currPods }
      else m) := by
    split
    next hnew => exact h.add (by grind)
    next => exact h
  cases type with
  | added | modified => exact hadd
  | deleted =>
    simp only [NodeMonitor.onPod]
    split
    next => exact h
    next pod' hpod => exact h.remove hpod

theorem Counted.step (h : Counted m) {e : DiscoveryEvent}
    (hstep : m.step S filepathMatch e = some m') : Counted m' := by
  cases e with
  | config cfg ranged =>
    obtain ⟨-, ⟨⟩⟩ := Option.ite_none_right_eq_some.mp hstep
    exact h.onConfig cfg ranged
  | node type obj ib ranged pods =>
    obtain ⟨-, ⟨⟩⟩ := Option.ite_none_right_eq_some.mp hstep
    exact h.onNode type obj ib ranged pods
  | storageClasses sc =>
    cases hstep
    exact ⟨h.keys, h.allocated⟩
  | gpuIDs info =>
    cases hstep
    exact h.node rfl fun r => by cases r <;> rfl
  | pod type pod =>
    cases hstep
    exact h.onPod type pod
  | watchClosed pods =>
    cases hstep
    exact counted_restartPodsWatcher m pods
  | labels =>
    cases hstep
    refine h.node ?_ fun r => ?_ <;> unfold generateLabels <;> split <;> rfl

end NodeMonitor

/-! ## Running pods -/

def runningAmount (interconnect : String) (pods : List (String × Pod)) : NodeAmounts :=
  (pods.map fun e => podShare interconnect e.2.spec).sum

/-- The memory volumes that are counted more than once. -/
def repeatedVolumes (pods : List (String × Pod)) : Quantity :=
  (pods.map fun e => ((e.2.spec.containers.length : Int) - 1) * memoryVolumes e.2.spec).sum

theorem runningAmount_cons (ic : String) (e : String × Pod) (pods : List (String × Pod)) :
    runningAmount ic (e :: pods) = podShare ic e.2.spec + runningAmount ic pods := by
  rw [runningAmount, List.map_cons, List.sum_cons, runningAmount]

theorem repeatedVolumes_cons (e : String × Pod) (pods : List (String × Pod)) :
    repeatedVolumes (e :: pods) =
      ((e.2.spec.containers.length : Int) - 1) * memoryVolumes e.2.spec + repeatedVolumes pods := by
  rw [repeatedVolumes, List.map_cons, List.sum_cons, repeatedVolumes]

theorem trackedAmount_eq (ic : String) (pods : List (String × Pod)) :
    trackedAmount ic pods = runningAmount ic pods + Pi.single .memory (repeatedVolumes pods) := by
  induction pods with
  | nil => simp [trackedAmount, runningAmount, repeatedVolumes]
  | cons e rest ih =>
    rw [trackedAmount_cons, ih, podAmounts_eq, runningAmount_cons, repeatedVolumes_cons,
      Pi.single_add]
    exact add_add_add_comm _ _ _ _

theorem runningAmount_nonneg (ic : String) (pods : List (String × Pod)) (r : NodeResource) :
    0 ≤ runningAmount ic pods r := by
  rw [runningAmount, Pi.list_sum_apply, List.map_map]
  refine List.sum_nonneg fun q hq => ?_
  obtain ⟨e, -, rfl⟩ := List.mem_map.mp hq
  exact podShare_nonneg ic e.2 r

theorem repeatedVolumes_eq_zero_iff (pods : List (String × Pod)) : repeatedVolumes pods = 0 ↔
    ∀ e ∈ pods, e.2.spec.containers.length = 1 ∨ memoryVolumes e.2.spec = 0 := by
  have hnonneg : ∀ e : String × Pod,
      0 ≤ ((e.2.spec.containers.length : Int) - 1) * memoryVolumes e.2.spec := by
    intro e
    have hlength := List.length_pos_iff.mpr e.2.containers_ne_nil
    exact Int.mul_nonneg (by omega) (memoryVolumes_nonneg e.2)
  have hpod : ∀ e : String × Pod,
      ((e.2.spec.containers.length : Int) - 1) * memoryVolumes e.2.spec = 0 ↔
        e.2.spec.containers.length = 1 ∨ memoryVolumes e.2.spec = 0 := by
    intro e
    rw [Int.mul_eq_zero, Int.sub_eq_zero]
    norm_cast
  induction pods with
  | nil => simp [repeatedVolumes]
  | cons e rest ih =>
    have hrest : 0 ≤ repeatedVolumes rest := by
      refine List.sum_nonneg fun q hq => ?_
      obtain ⟨e, -, rfl⟩ := List.mem_map.mp hq
      exact hnonneg e
    rw [repeatedVolumes_cons, add_eq_zero_iff_of_nonneg (hnonneg e) hrest, List.forall_mem_cons]
    exact and_congr (hpod e) ih

namespace NodeMonitor

variable {S : Sdk} {filepathMatch : String → String → Option Bool} {m : NodeMonitor}

/-- A quantity has what the pods request, and that is not below zero. -/
def MatchesRunning (m : NodeMonitor) (r : NodeResource) : Prop :=
  ∃ a, (m.node.resources.pair r).allocated = some a ∧
    a = runningAmount m.interconnect m.currPods r ∧ 0 ≤ a

theorem Counted.matchesRunning_iff (h : Counted m) (r : NodeResource) : m.MatchesRunning r ↔
    (r = .memory → repeatedVolumes m.currPods = 0) ∧ (r = .gpuInterconnect → m.stale = 0) := by
  have hallocated := h.allocated r
  rw [trackedAmount_eq, Pi.add_apply] at hallocated
  have hiff : m.MatchesRunning r ↔ (Pi.single NodeResource.memory (repeatedVolumes m.currPods) :
      NodeAmounts) r + (if r = .gpuInterconnect then m.stale else 0) = 0 := by
    constructor
    · rintro ⟨a, ha, hrunning, -⟩
      grind
    · intro hzero
      refine ⟨runningAmount m.interconnect m.currPods r, ?_, rfl, runningAmount_nonneg _ _ r⟩
      rw [hallocated, add_assoc, hzero, add_zero]
  rw [hiff]
  cases r <;> simp

/-- Three quantities are always those of the running pods.  All five are just when nothing is
stale and no pod with several containers has a memory volume. -/
theorem allocated_matches_running (cfg : DiscoveryConfig) (sc : List String) (knode : NodeObject)
    (cpuInfo : List InventoryV1.CPUInfo) (gpuInfo : List InventoryV1.GPUInfo) (ib : IBDiscovery)
    (ranged : NodeStatus) (pods : PodList)
    (h : Runs (step S filepathMatch) (fun _ _ => True)
      (start filepathMatch cfg sc knode cpuInfo gpuInfo ib ranged pods) m) :
    (∀ r, r ≠ .memory → r ≠ .gpuInterconnect → m.MatchesRunning r) ∧
      ((∀ r, m.MatchesRunning r) ↔ m.stale = 0 ∧ ∀ e ∈ m.currPods,
        e.2.spec.containers.length = 1 ∨ memoryVolumes e.2.spec = 0) := by
  have hcounted : Counted m := h.invariant (I := Counted)
    (fun _ _ _ _ hstep hcounted => hcounted.step hstep) (counted_restartPodsWatcher _ pods)
  have hiff := hcounted.matchesRunning_iff
  rw [← repeatedVolumes_eq_zero_iff]
  refine ⟨by grind, fun hall => ?_, by grind⟩
  exact ⟨((hiff _).mp (hall .gpuInterconnect)).2 rfl, ((hiff _).mp (hall .memory)).1 rfl⟩

/-! ## Two pods -/

def sampleContainer (requests : Kube.ResourceList) : Kube.Container :=
  { name := "web"
    image := "nginx"
    command := []
    args := []
    requests := requests
    limits := []
    volumeMounts := []
    env := []
    ports := [] }

def samplePod (containers : List Kube.Container) (volumes : List Kube.Volume) :
    Kube.PodTemplate :=
  { labels := []
    annotations := []
    affinity := ⟨[], none⟩
    runtimeClassName := none
    automountServiceAccountToken := false
    serviceAccountName := ""
    containers := containers
    imagePullSecrets := []
    volumes := volumes }

/-- Two containers share 64 bytes of memory. -/
def cachePod : Pod :=
  { ns := "lease"
    name := "cache"
    conditions := [("PodScheduled", "True")]
    spec := samplePod [sampleContainer [("memory", 1000)], sampleContainer [("memory", 1000)]]
      [⟨"shm", some ⟨"Memory", some 64000⟩⟩]
    containers_ne_nil := by decide
    requests_nonneg := by decide
    volumes_nonneg := by decide }

def fabricPod : Pod :=
  { ns := "lease"
    name := "train"
    conditions := [("PodScheduled", "True")]
    spec := samplePod [sampleContainer [("cpu", 500), ("rdma/b", 1000)]] []
    containers_ne_nil := by decide
    requests_nonneg := by decide
    volumes_nonneg := by decide }

def fabricStatus : NodeStatus :=
  { allocatable := [("cpu", 4000), ("rdma/a", 1000), ("rdma/b", 1000)]
    capacity := [("cpu", 4000), ("rdma/a", 1000), ("rdma/b", 1000)]
    allocatable_distinct := by decide
    capacity_distinct := by decide
    allocatable_named := by decide
    capacity_named := by decide }

def fabricNode : NodeObject :=
  { name := "node1"
    taints := []
    unschedulable := false
    conditions := [("Ready", "True")]
    labels := []
    status := fabricStatus }

def fabricConfig (pattern : String) : DiscoveryConfig :=
  { isNodeExcluded := fun _ => false
    storageClassesForNode := fun sc _ => sc
    resourcePatterns := [pattern] }

def fabricStart (pods : PodList) : NodeMonitor :=
  start (fun _ _ => none) (fabricConfig "rdma/a") [] fabricNode [] [] ⟨"infiniband", []⟩
    fabricStatus pods

theorem allocated_matches_running_restarted :
    ∃ m, Runs (step Sdk.reference fun _ _ => none) (fun _ _ => True)
      (fabricStart ⟨[fabricPod], by decide⟩) m ∧
      m.interconnect = "rdma/b" ∧ ∀ r, m.MatchesRunning r := by
  have hsome : ([.config (fabricConfig "rdma/b") fabricStatus,
      .watchClosed ⟨[fabricPod], by decide⟩].foldlM (step Sdk.reference fun _ _ => none)
      (fabricStart ⟨[fabricPod], by decide⟩)).any (fun m =>
        m.interconnect = "rdma/b" ∧ m.stale = 0 ∧ ∀ e ∈ m.currPods,
          e.2.spec.containers.length = 1 ∨ memoryVolumes e.2.spec = 0) = true := by
    decide +kernel
  obtain ⟨m, hm, hwell⟩ := (Option.any_eq_true _ _).mp hsome
  obtain ⟨hname, hwell⟩ := of_decide_eq_true hwell
  have hrun := Runs.of_foldlM _ _ _ hm
  exact ⟨m, hrun, hname, (allocated_matches_running _ _ _ _ _ _ _ _ hrun).2.mpr hwell⟩

/-- A pod that was not counted on the interconnect is taken off it. -/
theorem allocated_below_zero :
    ∃ m, Runs (step Sdk.reference fun _ _ => none) (fun _ _ => True)
      (fabricStart ⟨[cachePod, fabricPod], by decide⟩) m ∧
      (m.node.resources.pair .gpuInterconnect).allocated = some (-1000) ∧
      runningAmount m.interconnect m.currPods .gpuInterconnect = 0 ∧
      (m.node.resources.pair .memory).allocated = some 130000 ∧
      runningAmount m.interconnect m.currPods .memory = 66000 := by
  have hsome : ([.config (fabricConfig "rdma/b") fabricStatus, .pod .deleted fabricPod].foldlM
      (step Sdk.reference fun _ _ => none)
      (fabricStart ⟨[cachePod, fabricPod], by decide⟩)).any (fun m =>
        (m.node.resources.pair .gpuInterconnect).allocated = some (-1000) ∧
        runningAmount m.interconnect m.currPods .gpuInterconnect = 0 ∧
        (m.node.resources.pair .memory).allocated = some 130000 ∧
        runningAmount m.interconnect m.currPods .memory = 66000) = true := by
    decide +kernel
  obtain ⟨m, hm, hamounts⟩ := (Option.any_eq_true _ _).mp hsome
  exact ⟨m, Runs.of_foldlM _ _ _ hm, of_decide_eq_true hamounts⟩

end NodeMonitor

end AkashProvider.Operator
