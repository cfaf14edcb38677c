import AkashProvider.Operator.Monitor

/-!
# Capacity of a node

The monitor writes the capacity of a node from the status of its object.  An update is skipped
when the allocatable amounts have not changed by whole units, and leaves what the status does not
list.  `Follows` says that the monitor has what a discovery that starts now would have.
`capacity_follows_node` has the events that keep it.
-/

namespace AkashProvider.Operator

open InventoryV1 (Quantity Node)
open Kube (ResourceList)

/-! ## Amounts of a status -/

def GPUsAlike (l : ResourceList) : Prop :=
  ∀ q ∈ entriesFor "" l .gpu, ∀ q' ∈ entriesFor "" l .gpu, q = q'

def NodeStatus.GPUsAlike (status : NodeStatus) : Prop :=
  Operator.GPUsAlike status.capacity ∧ Operator.GPUsAlike status.allocatable

/-- What a loop over the list writes on a zero. -/
def freshAmount (interconnect : String) (l : ResourceList) (r : NodeResource) : Option Quantity :=
  (entriesFor interconnect l r).getLast?.or (some 0)

section

variable (filepathMatch : String → String → Option Bool)

/-- The capacity and the allocatable amount that a discovery starts with. -/
def NodeStatus.amounts (status : NodeStatus) (patterns : List String) (r : NodeResource) :
    Option Quantity × Option Quantity :=
  let ic := interconnectResource filepathMatch status patterns
  (freshAmount ic status.capacity r, freshAmount ic status.allocatable r)

end

def nodeAmounts (node : Node) (r : NodeResource) : Option Quantity × Option Quantity :=
  ((node.resources.pair r).capacity, (node.resources.pair r).allocatable)

/-- The status lists a quantity, or the node has a zero there. -/
def ListedOn (node : Node) (status : NodeStatus) (r : NodeResource) : Prop :=
  (entriesFor "" status.capacity r = [] → (nodeAmounts node r).1 = some 0) ∧
    (entriesFor "" status.allocatable r = [] → (nodeAmounts node r).2 = some 0)

namespace NodeMonitor

variable (filepathMatch : String → String → Option Bool)

/-- The amounts are those of the object and the patterns, in every order of the maps. -/
def Follows (m : NodeMonitor) : Prop :=
  ∀ ranged : NodeStatus, ranged.Same m.knode.status → ∀ r,
    nodeAmounts m.node r = ranged.amounts filepathMatch m.cfg.resourcePatterns r

/-- An object whose amounts are written lists them, and one that is skipped has those of the
object before. -/
def Keeps (m : NodeMonitor) : DiscoveryEvent → Prop
  | .node type obj _ _ _ =>
    obj.status.GPUsAlike ∧
      if type = .modified ∧
          nodeAllocatableChanged m.knode.status.allocatable obj.status.allocatable then
        ∀ r, r ≠ .gpuInterconnect → ListedOn m.node obj.status r
      else ∀ r, obj.status.amounts filepathMatch m.cfg.resourcePatterns r =
        m.knode.status.amounts filepathMatch m.cfg.resourcePatterns r
  | _ => True

/-- The states after events that keep the amounts, from a first object with GPUs alike. -/
def Kept (S : Sdk) (m : NodeMonitor) : Prop :=
  ∃ cfg sc knode cpuInfo gpuInfo ib ranged pods, ranged.Same knode.status ∧
    knode.status.GPUsAlike ∧ Runs (step S filepathMatch) (Keeps filepathMatch)
      (start filepathMatch cfg sc knode cpuInfo gpuInfo ib ranged pods) m

end NodeMonitor

/-! ## Order of the maps -/

theorem NodeStatus.Same.refl (status : NodeStatus) : status.Same status := ⟨.refl _, .refl _⟩

variable {a b : NodeStatus}

theorem NodeStatus.Same.symm (h : a.Same b) : b.Same a := ⟨h.allocatable.symm, h.capacity.symm⟩

variable {r : NodeResource}

theorem entriesFor_congr (hr : r ≠ .gpuInterconnect) (ic ic' : String) (l : ResourceList) :
    entriesFor ic l r = entriesFor ic' l r := by
  simp only [entriesFor, countedOn_congr hr ic ic']

variable {ic : String}

theorem countedOn_injective (hr : r ≠ .gpu) {a b : String} (ha : countedOn ic a = some r)
    (hb : countedOn ic b = some r) : a = b := by
  unfold countedOn at ha hb
  grind

variable {l : ResourceList} {q : Quantity}

theorem mem_entriesFor :
    q ∈ entriesFor ic l r ↔ ∃ e ∈ l, countedOn ic e.1 = some r ∧ writtenFor r e.2 = q := by
  simp [entriesFor]

theorem GPUsAlike.entries (h : GPUsAlike l) (hnodup : (l.map (·.1)).Nodup) (ic : String)
    (r : NodeResource) {q q' : Quantity} (hq : q ∈ entriesFor ic l r)
    (hq' : q' ∈ entriesFor ic l r) : q = q' := by
  by_cases hr : r = .gpu
  · subst hr
    rw [entriesFor_congr (by decide) ic ""] at hq hq'
    exact h q hq q' hq'
  · grind [mem_entriesFor, List.inj_on_of_nodup_map, countedOn_injective]

variable {α : Type}

theorem getLast?_perm {l l' : List α} (h : l.Perm l') (hall : ∀ a ∈ l, ∀ b ∈ l, a = b) :
    l.getLast? = l'.getLast? := by
  cases l with
  | nil => rw [h.nil_eq]
  | cons a rest =>
    have hl : a :: rest = List.replicate (a :: rest).length a :=
      List.eq_replicate_length.mpr fun b hb => hall b hb a List.mem_cons_self
    rw [hl] at h ⊢
    rw [List.replicate_perm.mp h]

theorem GPUsAlike.freshAmount_eq {l l' : ResourceList} (h : GPUsAlike l)
    (hnodup : (l.map (·.1)).Nodup) (hperm : l.Perm l') (ic : String) (r : NodeResource) :
    freshAmount ic l r = freshAmount ic l' r := by
  have hentries : (entriesFor ic l r).Perm (entriesFor ic l' r) := hperm.filterMap _
  rw [freshAmount, freshAmount, getLast?_perm hentries fun a ha b hb => h.entries hnodup ic r ha hb]

variable {filepathMatch : String → String → Option Bool}

theorem NodeStatus.GPUsAlike.amounts_eq (h : a.GPUsAlike) (hsame : a.Same b)
    (patterns : List String) (r : NodeResource) :
    a.amounts filepathMatch patterns r = b.amounts filepathMatch patterns r := by
  simp only [NodeStatus.amounts, hsame.interconnectResource_eq patterns,
    h.1.freshAmount_eq a.capacity_distinct hsame.capacity,
    h.2.freshAmount_eq a.allocatable_distinct hsame.allocatable]

theorem exists_perm_freshAmount (hq : q ∈ entriesFor ic l r) :
    ∃ l', l'.Perm l ∧ freshAmount ic l' r = some q := by
  obtain ⟨e, he, hcount, rfl⟩ := mem_entriesFor.mp hq
  refine ⟨l.erase e ++ [e], (List.perm_append_singleton e _).trans
    (List.perm_cons_erase he).symm, ?_⟩
  simp [freshAmount, entriesFor, hcount]

/-- If the amount is the same in every order, all names of GPUs have it. -/
theorem gpusAlike_of_perm (ic : String) (a : Option Quantity)
    (h : ∀ l', l'.Perm l → freshAmount ic l' .gpu = a) : GPUsAlike l := by
  intro q hq q' hq'
  rw [entriesFor_congr (by decide) "" ic] at hq hq'
  grind [exists_perm_freshAmount]

/-- The status with its maps in another order. -/
def NodeStatus.reorder (status : NodeStatus) {capacity allocatable : ResourceList}
    (hcapacity : capacity.Perm status.capacity)
    (hallocatable : allocatable.Perm status.allocatable) : NodeStatus :=
  { allocatable := allocatable
    capacity := capacity
    allocatable_distinct := (hallocatable.map _).nodup_iff.mpr status.allocatable_distinct
    capacity_distinct := (hcapacity.map _).nodup_iff.mpr status.capacity_distinct
    allocatable_named := fun h => status.allocatable_named ((hallocatable.map _).mem_iff.mp h)
    capacity_named := fun h => status.capacity_named ((hcapacity.map _).mem_iff.mp h) }

/-! ## What is written on a node -/

theorem nodeAmounts_charge (node : Node) (f : NodeAmounts) (r : NodeResource) :
    nodeAmounts (node.charge f) r = nodeAmounts node r := by
  rw [nodeAmounts, InventoryV1.Node.charge, InventoryV1.NodeResources.pair_charge]
  rfl

theorem getLast?_or_eq_iff {l : List α} {a b : Option α} :
    l.getLast?.or a = l.getLast?.or b ↔ (l = [] → a = b) := by
  cases l with
  | nil => simp
  | cons x rest => simp [List.getLast?_cons]

/-- An update writes what a discovery starts with, unless something is left that the status does not
list. -/
theorem nodeAmounts_updateNodeInfo_iff (ranged : NodeStatus) (node : Node)
    (patterns : List String) (r : NodeResource) :
    nodeAmounts (updateNodeInfo filepathMatch ranged node patterns) r =
        ranged.amounts filepathMatch patterns r ↔
      (r ≠ .gpuInterconnect → ListedOn node ranged r) := by
  obtain ⟨-, -, hpair⟩ := @updateNodeInfo_eq filepathMatch ranged node patterns
  rw [nodeAmounts, hpair r, NodeStatus.amounts, Prod.mk.injEq, freshAmount, freshAmount,
    getLast?_or_eq_iff, getLast?_or_eq_iff]
  by_cases hr : r = .gpuInterconnect
  · subst hr
    simp [pairBefore]
  · have hcongr := entriesFor_congr hr (interconnectResource filepathMatch ranged patterns) ""
    rw [pairBefore, if_neg hr, hcongr, hcongr]
    exact ⟨fun h _ => h, fun h => h hr⟩

theorem NodeStatus.Same.listedOn_iff (h : a.Same b) (node : Node) (r : NodeResource) :
    ListedOn node a r ↔ ListedOn node b r := by
  have hcapacity : (entriesFor "" a.capacity r).Perm (entriesFor "" b.capacity r) :=
    h.capacity.filterMap _
  have hallocatable : (entriesFor "" a.allocatable r).Perm (entriesFor "" b.allocatable r) :=
    h.allocatable.filterMap _
  have hnil : ∀ {l l' : List Quantity}, l.Perm l' → (l = [] ↔ l' = []) := by
    intro l l' hperm
    rw [← List.length_eq_zero_iff, hperm.length_eq, List.length_eq_zero_iff]
  rw [ListedOn, ListedOn, hnil hcapacity, hnil hallocatable]

namespace NodeMonitor

variable {S : Sdk} {m m' : NodeMonitor}

theorem follows_iff : m.Follows filepathMatch ↔ m.knode.status.GPUsAlike ∧
    ∀ r, nodeAmounts m.node r = m.knode.status.amounts filepathMatch m.cfg.resourcePatterns r := by
  constructor
  · intro h
    refine ⟨?_, h m.knode.status (.refl _)⟩
    have hic : ∀ ranged : NodeStatus, ranged.Same m.knode.status →
        interconnectResource filepathMatch ranged m.cfg.resourcePatterns =
          interconnectResource filepathMatch m.knode.status m.cfg.resourcePatterns :=
      fun ranged hsame => hsame.interconnectResource_eq _
    constructor
    · refine gpusAlike_of_perm (interconnectResource filepathMatch m.knode.status
        m.cfg.resourcePatterns) (nodeAmounts m.node .gpu).1 fun l' hperm => ?_
      have hsame : (m.knode.status.reorder hperm (.refl _)).Same m.knode.status := ⟨.refl _, hperm⟩
      rw [h _ hsame .gpu, NodeStatus.amounts, hic _ hsame]
      rfl
    · refine gpusAlike_of_perm (interconnectResource filepathMatch m.knode.status
        m.cfg.resourcePatterns) (nodeAmounts m.node .gpu).2 fun l' hperm => ?_
      have hsame : (m.knode.status.reorder (.refl _) hperm).Same m.knode.status := ⟨hperm, .refl _⟩
      rw [h _ hsame .gpu, NodeStatus.amounts, hic _ hsame]
      rfl
  · rintro ⟨halike, hamounts⟩ ranged hsame r
    rw [hamounts r, halike.amounts_eq hsame.symm]

/-! ## Steps -/

theorem nodeAmounts_restartPodsWatcher (m : NodeMonitor) (pods : PodList) (r : NodeResource) :
    nodeAmounts (m.restartPodsWatcher pods).node r = nodeAmounts m.node r := by
  have hcount : ∀ (pods : List Pod) (m : NodeMonitor),
      nodeAmounts (pods.foldl countPod m).node r = nodeAmounts m.node r := by
    intro pods
    induction pods with
    | nil => exact fun _ => rfl
    | cons pod rest ih =>
      intro m
      rw [List.foldl_cons, ih, countPod]
      split
      next => rw [addPodAllocatedResources_eq, nodeAmounts_charge]
      next => rfl
  rw [restartPodsWatcher, hcount, nodeAmounts, pair_nodeResetAllocated]
  rfl

theorem restartPodsWatcher_cfg (m : NodeMonitor) (pods : PodList) :
    (m.restartPodsWatcher pods).cfg = m.cfg ∧ (m.restartPodsWatcher pods).knode = m.knode := by
  have hcount : ∀ (pods : List Pod) (m : NodeMonitor),
      (pods.foldl countPod m).cfg = m.cfg ∧ (pods.foldl countPod m).knode = m.knode := by
    intro pods
    induction pods with
    | nil => exact fun _ => ⟨rfl, rfl⟩
    | cons pod rest ih =>
      intro m
      have hround : (m.countPod pod).cfg = m.cfg ∧ (m.countPod pod).knode = m.knode := by
        unfold countPod
        split <;> exact ⟨rfl, rfl⟩
      rw [List.foldl_cons, (ih _).1, (ih _).2]
      exact hround
  exact hcount pods.items _

theorem Follows.congr (h : m.Follows filepathMatch) (hknode : m'.knode = m.knode)
    (hcfg : m'.cfg.resourcePatterns = m.cfg.resourcePatterns)
    (hamounts : ∀ r, nodeAmounts m'.node r = nodeAmounts m.node r) :
    m'.Follows filepathMatch := by
  intro ranged hsame r
  rw [hknode] at hsame
  rw [hamounts r, hcfg]
  exact h ranged hsame r

theorem follows_restartPodsWatcher_iff (pods : PodList) :
    (m.restartPodsWatcher pods).Follows filepathMatch ↔ m.Follows filepathMatch := by
  obtain ⟨hcfg, hknode⟩ := restartPodsWatcher_cfg m pods
  have hamounts := nodeAmounts_restartPodsWatcher m pods
  constructor
  · intro h
    exact h.congr hknode.symm (by rw [hcfg]) fun r => (hamounts r).symm
  · intro h
    exact h.congr hknode (by rw [hcfg]) hamounts

variable {ranged : NodeStatus}

theorem follows_start {cfg : DiscoveryConfig} {sc : List String} {knode : NodeObject}
    {cpuInfo : List InventoryV1.CPUInfo} {gpuInfo : List InventoryV1.GPUInfo} {ib : IBDiscovery}
    {pods : PodList} (hsame : ranged.Same knode.status) (halike : knode.status.GPUsAlike) :
    (start filepathMatch cfg sc knode cpuInfo gpuInfo ib ranged pods).Follows filepathMatch := by
  rw [start, follows_restartPodsWatcher_iff, follows_iff]
  refine ⟨halike, fun r => ?_⟩
  rw [halike.amounts_eq hsame.symm, nodeAmounts_updateNodeInfo_iff]
  intro _
  cases r <;> exact ⟨fun _ => rfl, fun _ => rfl⟩

/-- The amounts for other patterns: nothing that the object does not list was there before. -/
theorem Follows.onConfig (h : m.Follows filepathMatch) (cfg : DiscoveryConfig)
    (hsame : ranged.Same m.knode.status) :
    (m.onConfig filepathMatch cfg ranged).Follows filepathMatch := by
  unfold NodeMonitor.onConfig
  split
  next =>
    obtain ⟨halike, hamounts⟩ := follows_iff.mp h
    refine follows_iff.mpr ⟨halike, fun r => ?_⟩
    show nodeAmounts (updateNodeInfo filepathMatch ranged m.node cfg.resourcePatterns) r = _
    rw [halike.amounts_eq hsame.symm, nodeAmounts_updateNodeInfo_iff, hsame.listedOn_iff]
    grind [entriesFor_congr, interconnectResource, ListedOn, NodeStatus.amounts, freshAmount]
  next hpatterns => exact h.congr rfl (not_not.mp hpatterns) fun _ => rfl

theorem Follows.onNode_iff (h : m.Follows filepathMatch) (type : WatchType) (obj : NodeObject)
    (ib : IBDiscovery) (hsame : ranged.Same obj.status) (pods : PodList) :
    (m.onNode filepathMatch type obj ib ranged pods).Follows filepathMatch ↔
      m.Keeps filepathMatch (.node type obj ib ranged pods) := by
  rw [follows_iff, Keeps]
  unfold NodeMonitor.onNode
  split
  next hchanged =>
    refine and_congr_right fun halike => forall_congr' fun r => ?_
    show nodeAmounts (restartPodsWatcher _ pods).node r =
      obj.status.amounts filepathMatch (restartPodsWatcher _ pods).cfg.resourcePatterns r ↔ _
    rw [nodeAmounts_restartPodsWatcher, (restartPodsWatcher_cfg _ pods).1,
      halike.amounts_eq hsame.symm, nodeAmounts_updateNodeInfo_iff, hsame.listedOn_iff]
    rfl
  next hskipped => grind [follows_iff]

theorem nodeAmounts_onPod (m : NodeMonitor) (type : WatchType) (pod : Pod) (r : NodeResource) :
    nodeAmounts (m.onPod type pod).node r = nodeAmounts m.node r := by
  cases type with
  | deleted =>
    simp only [NodeMonitor.onPod]
    split
    next => rfl
    next => rw [subPodAllocatedResources_eq, nodeAmounts_charge]
  | added | modified =>
    simp only [NodeMonitor.onPod]
    split
    next => rw [addPodAllocatedResources_eq, nodeAmounts_charge]
    next => rfl

theorem onPod_cfg (m : NodeMonitor) (type : WatchType) (pod : Pod) :
    (m.onPod type pod).cfg = m.cfg ∧ (m.onPod type pod).knode = m.knode := by
  cases type <;> simp only [NodeMonitor.onPod] <;> split <;> exact ⟨rfl, rfl⟩

theorem Follows.step_iff (h : m.Follows filepathMatch) {e : DiscoveryEvent}
    (hstep : m.step S filepathMatch e = some m') :
    m'.Follows filepathMatch ↔ m.Keeps filepathMatch e := by
  cases e with
  | config cfg ranged =>
    obtain ⟨⟨hallocatable, hcapacity⟩, ⟨⟩⟩ := Option.ite_none_right_eq_some.mp hstep
    exact iff_of_true (h.onConfig cfg ⟨hallocatable, hcapacity⟩) trivial
  | storageClasses sc =>
    injection hstep with hstep
    exact hstep ▸ iff_of_true h trivial
  | gpuIDs info =>
    injection hstep with hstep
    exact hstep ▸ iff_of_true (h.congr rfl rfl fun r => by cases r <;> rfl) trivial
  | node type obj ib ranged pods =>
    obtain ⟨⟨hallocatable, hcapacity⟩, ⟨⟩⟩ := Option.ite_none_right_eq_some.mp hstep
    exact h.onNode_iff type obj ib ⟨hallocatable, hcapacity⟩ pods
  | pod type pod =>
    injection hstep with hstep
    obtain ⟨hcfg, hknode⟩ := onPod_cfg m type pod
    exact hstep ▸ iff_of_true
      (h.congr hknode (by rw [hcfg]) (nodeAmounts_onPod m type pod)) trivial
  | watchClosed pods =>
    injection hstep with hstep
    exact hstep ▸ iff_of_true ((follows_restartPodsWatcher_iff pods).mpr h) trivial
  | labels =>
    injection hstep with hstep
    refine hstep ▸ iff_of_true (h.congr rfl rfl fun r => ?_) trivial
    unfold generateLabels
    split <;> rfl

theorem Kept.follows (h : m.Kept filepathMatch S) : m.Follows filepathMatch := by
  obtain ⟨cfg, sc, knode, cpuInfo, gpuInfo, ib, ranged, pods, hsame, halike, hrun⟩ := h
  exact hrun.invariant (I := Follows filepathMatch)
    (fun _ _ _ hkeeps hstep hfollows => (hfollows.step_iff hstep).mpr hkeeps)
    (follows_start hsame halike)

/-- While events keep the amounts, they are those of the last object and the patterns.  The next
event leaves it so just when it keeps them. -/
theorem capacity_follows_node (h : m.Kept filepathMatch S) :
    m.Follows filepathMatch ∧
      (∀ m' : NodeMonitor, m'.Kept filepathMatch S → m'.knode.status.Same m.knode.status →
        m'.cfg.resourcePatterns = m.cfg.resourcePatterns →
          ∀ r, nodeAmounts m'.node r = nodeAmounts m.node r) ∧
      ∀ e m', m.step S filepathMatch e = some m' →
        (m'.Follows filepathMatch ↔ m.Keeps filepathMatch e) := by
  refine ⟨h.follows, ?_, fun e m' hstep => h.follows.step_iff hstep⟩
  intro m' h' hsame hpatterns r
  rw [h.follows _ hsame r, ← hpatterns]
  exact h'.follows _ (.refl _) r

/-! ## A GPU that comes and goes -/

def cpuStatus (cpu : Quantity) : NodeStatus :=
  ⟨[("cpu", cpu)], [("cpu", cpu)], by simp, by simp, by simp, by simp⟩

def gpuStatus : NodeStatus :=
  { allocatable := [("cpu", 3500), ("nvidia.com/gpu", 2000)]
    capacity := [("cpu", 3500), ("nvidia.com/gpu", 2000)]
    allocatable_distinct := by decide
    capacity_distinct := by decide
    allocatable_named := by decide
    capacity_named := by decide }

def mixedStatus : NodeStatus :=
  { allocatable := [("nvidia.com/gpu", 2000), ("amd.com/gpu", 1000)]
    capacity := [("nvidia.com/gpu", 2000), ("amd.com/gpu", 1000)]
    allocatable_distinct := by decide
    capacity_distinct := by decide
    allocatable_named := by decide
    capacity_named := by decide }

def gpuNode (status : NodeStatus) : NodeObject := { fabricNode with status := status }

def gpuStart (knode ranged : NodeStatus) : NodeMonitor :=
  start (fun _ _ => none) (fabricConfig "rdma/a") [] (gpuNode knode) [] [] ⟨"", []⟩ ranged
    ⟨[], List.nodup_nil⟩

def modifiedTo (status : NodeStatus) : DiscoveryEvent :=
  .node .modified (gpuNode status) ⟨"", []⟩ status ⟨[], List.nodup_nil⟩

theorem gpusAlike_cpuStatus (cpu : Quantity) : (cpuStatus cpu).GPUsAlike := by
  have hnone : entriesFor "" [("cpu", cpu)] .gpu = [] := rfl
  constructor <;>
  · intro q hq
    grind [cpuStatus]

theorem capacity_follows_node_added :
    ∃ m, Kept (fun _ _ => none) Sdk.reference m ∧ m.Follows (fun _ _ => none) ∧
      nodeAmounts m.node .gpu = (some 2000, some 2000) := by
  have hkeeps : (gpuStart (cpuStatus 3500) (cpuStatus 3500)).Keeps (fun _ _ => none)
      (modifiedTo gpuStatus) := by
    refine ⟨⟨?_, ?_⟩, ?_⟩
    · unfold Operator.GPUsAlike
      decide
    · unfold Operator.GPUsAlike
      decide
    · rw [if_pos (by decide)]
      intro r _
      unfold ListedOn
      cases r <;> decide
  have hstep : ((gpuStart (cpuStatus 3500) (cpuStatus 3500)).step Sdk.reference (fun _ _ => none)
      (modifiedTo gpuStatus)).any
        (fun m => nodeAmounts m.node .gpu = (some 2000, some 2000)) = true := by
    decide +kernel
  obtain ⟨m, hm, hgpu⟩ := (Option.any_eq_true _ _).mp hstep
  have hkept : Kept (fun _ _ => none) Sdk.reference m :=
    ⟨_, _, _, _, _, _, _, _, .refl _, gpusAlike_cpuStatus 3500, (Runs.refl _).next _ hkeeps hm⟩
  exact ⟨m, hkept, (capacity_follows_node hkept).1, of_decide_eq_true hgpu⟩

/-- The GPU is gone and the CPU grew by a tenth, which the monitor does not see.  Where two vendors
differ, the order decides. -/
theorem capacity_of_earlier_object :
    (∃ m, Runs (step Sdk.reference fun _ _ => none) (fun _ _ => True)
        (gpuStart gpuStatus gpuStatus) m ∧
      let m' := gpuStart (cpuStatus 3600) (cpuStatus 3600)
      m.knode.status.Same m'.knode.status ∧ m.cfg.resourcePatterns = m'.cfg.resourcePatterns ∧
        nodeAmounts m.node .gpu = (some 2000, some 2000) ∧
        nodeAmounts m'.node .gpu = (some 0, some 0) ∧
        nodeAmounts m.node .cpu = (some 3500, some 3500) ∧
        nodeAmounts m'.node .cpu = (some 3600, some 3600)) ∧
      ∃ ranged : NodeStatus, ranged.Same mixedStatus ∧
        nodeAmounts (gpuStart mixedStatus mixedStatus).node .gpu = (some 1000, some 1000) ∧
        nodeAmounts (gpuStart mixedStatus ranged).node .gpu = (some 2000, some 2000) := by
  constructor
  · have hsome : ([modifiedTo (cpuStatus 3500), modifiedTo (cpuStatus 3600)].foldlM
        (step Sdk.reference fun _ _ => none) (gpuStart gpuStatus gpuStatus)).any (fun m =>
          m.knode.status.allocatable = (cpuStatus 3600).allocatable ∧
          m.knode.status.capacity = (cpuStatus 3600).capacity ∧
          m.cfg.resourcePatterns = ["rdma/a"] ∧
          nodeAmounts m.node .gpu = (some 2000, some 2000) ∧
          nodeAmounts m.node .cpu = (some 3500, some 3500)) = true := by
      decide +kernel
    obtain ⟨m, hm, hwell⟩ := (Option.any_eq_true _ _).mp hsome
    obtain ⟨hallocatable, hcapacity, hpatterns, hgpu, hcpu⟩ := of_decide_eq_true hwell
    refine ⟨m, Runs.of_foldlM _ _ _ hm, ⟨?_, ?_⟩, hpatterns, hgpu, by decide, hcpu, by decide⟩
    · rw [hallocatable]
      exact .refl _
    · rw [hcapacity]
      exact .refl _
  · have hswap : [("amd.com/gpu", 1000), ("nvidia.com/gpu", 2000)].Perm mixedStatus.capacity :=
      .swap _ _ _
    exact ⟨mixedStatus.reorder hswap hswap, ⟨hswap, hswap⟩, by decide, rfl⟩

end NodeMonitor

end AkashProvider.Operator
