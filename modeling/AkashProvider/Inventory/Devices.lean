import AkashProvider.Inventory.Admission
import AkashProvider.Inventory.Placement

/-!
# GPU devices over sequences of grants

A replica with GPUs records vendor and model of a device of its node.  The node counts GPUs in one
quantity, and its list of devices never shrinks.  Over any sequence of grants it sells no more
than its quantity (`GrantRun.ledger`), and of one model no more than its devices if it lists
enough of each (`devices_sold_once`).
-/

namespace AkashProvider

open InventoryV1 (Quantity ResourcePair Node Cluster)
open Crd (SchedulerParams)

variable {S : Sdk} {env : AdjustEnv}

/-! ## Records and grants -/

/-- The vendor and model in the scheduler parameters of a replica. -/
def recordedDevice (p : Placed) : Option (String × String) :=
  ((p.sparams.bind (·.resources)).bind (·.gpu)).map fun g => (g.vendor, g.model)

/-- The GPU units granted under a model on a node. -/
def grantedUnits (placed : List Placed) (node : Nat) (device : String × String) : Nat :=
  (placed.map fun p =>
    if p.node = node ∧ recordedDevice p = some device then (gpuUnits p.resources).toNat else 0).sum

def deviceCount (nd : Node) (device : String × String) : Nat :=
  nd.resources.gpu.info.countP fun info => (info.vendor, info.name) = device

/-- A sequence of calls of `Adjust` that all succeeded without dry run, and what they placed. -/
inductive GrantRun (S : Sdk) (inv : Inventory) : Inventory → List Placed → Prop
  | start : GrantRun S inv inv []
  | grant {inv₁ inv₂ : Inventory} {placed : List Placed} {rg : ResourceGroup}
      {opts : InventoryOptions} {g : Grant} (run : GrantRun S inv inv₁ placed)
      (dry : opts.dryRun = false) (ok : adjust S inv₁ rg opts = (inv₂, .ok g)) :
      GrantRun S inv inv₂ (placed ++ g.placed)

/-- No node has sold more of a model than it lists. -/
def SoldOnce (inv : Inventory) (placed : List Placed) : Prop :=
  ∀ node nd device, inv.sanitized.nodes[node]? = some nd →
    grantedUnits placed node device ≤ deviceCount nd device

/-- Every node lists, of each of its models, as many devices as its quantity allows. -/
def ListsEveryModel (inv : Inventory) : Prop :=
  ∀ nd ∈ inv.sanitized.nodes, ∀ info ∈ nd.resources.gpu.info,
    ∀ l ∈ nd.resources.gpu.quantity.allocatable,
      l ≤ 1000 * (deviceCount nd (info.vendor, info.name) : Int)

/-! ## What a replica records -/

variable {attr : Option GPUModelAttributes} {attrs : GPUAttributes} {info : InventoryV1.GPUInfo}

theorem matchGPU_lookup (h : matchGPU S attrs info = some attr) :
    ∃ models, attrs.lookup info.vendor = some models := by
  unfold matchGPU at h
  split at h
  next => cases h
  next models hl => exact ⟨models, hl⟩

theorem findGPU_mem {found : InventoryV1.GPUInfo} :
    ∀ {n : Nat} {l : List InventoryV1.GPUInfo}, findGPU S attrs n l = some (found, attr) →
      found ∈ l ∧ matchGPU S attrs found = some attr
  | _, [], h => by cases h
  | n, info :: rest, h => by
    unfold findGPU at h
    split at h
    next =>
      obtain ⟨hmem, hmatch⟩ := findGPU_mem h
      exact ⟨List.mem_cons_of_mem _ hmem, hmatch⟩
    next attr' hmatch =>
      split at h
      next => simp_all
      next =>
        obtain ⟨hmem, hmatch'⟩ := findGPU_mem h
        exact ⟨List.mem_cons_of_mem _ hmem, hmatch'⟩

variable {sp sp' : SchedulerParams} {teePlatform : TEEPlatform} {teeType : TEEType}

theorem reserveSidecar_resources {nd nd' : Node}
    (h : reserveSidecar S nd sp teeType teePlatform = .ok (nd', sp')) :
    sp'.resources = sp.resources := by
  obtain ⟨-, -, hsp⟩ | ⟨-, hsp, -⟩ := reserveSidecar_eq_ok h
  · rw [hsp]
  · rw [hsp]
    split
    next => rfl
    next => rfl

def interconnectRecord (required : Bool) (units : UInt64) (caps : InventoryV1.NodeCapabilities) :
    Option Crd.SchedulerResourceInterconnect :=
  if required then
    some ⟨true, units, caps.interconnectResourceName, caps.interconnectFabric, caps.ncclHCAPrefixes⟩
  else none

theorem tryAdjustGPU_interconnect {rp rp' : InventoryV1.GPU} {req req' : Rtypes.GPU}
    (h : tryAdjustGPU S rp req sp teeType teePlatform = some (rp', req', sp')) :
    sp'.resources.bind (·.interconnect) = sp.resources.bind (·.interconnect) := by
  by_cases hunits : req.units = 0
  · grind [tryAdjustGPU_zero]
  · obtain ⟨_, _, _, _, -, -, -, -, -, rfl⟩ := tryAdjustGPU_eq_some hunits h
    rw [stampGPU, sParamsEnsureResources]
    cases sp.resources <;> rfl

namespace Passed

variable {cluster : Cluster} {node : Nat} {res res' : Rtypes.Resources} {cfg : AttemptConfig}
  {commit : Commit}

theorem sparams_resources (p : Passed S cluster node res cfg res' commit) :
    commit.sparams.bind (·.resources) = p.sp'.resources := by
  rw [p.sparams_eq]
  split
  next h => rw [h]; rfl
  next => rfl

theorem sparams_runtimeClass (p : Passed S cluster node res cfg res' commit) :
    (commit.sparams.map (·.runtimeClass)).getD "" = p.sp'.runtimeClass := by
  rw [p.sparams_eq]
  split
  next h => rw [h]; rfl
  next => rfl

theorem runtimeClass_of_isCC (p : Passed S cluster node res cfg res' commit)
    (hcc : cfg.teeType.isCC = true) :
    p.sp'.runtimeClass = runtimeClassForTEEType cfg.teeType cfg.teePlatform := by
  obtain ⟨hno, -, -⟩ | ⟨-, hsp, -⟩ := reserveSidecar_eq_ok p.rest.sidecar_ok
  · exact absurd (hno.symm.trans hcc) Bool.false_ne_true
  · rw [hsp, sidecar_runtimeClass (p.devices.runtimeClass hcc)]

theorem interconnect (p : Passed S cluster node res cfg res' commit) :
    p.sp'.resources.bind (·.interconnect) =
        interconnectRecord cfg.requiresInterconnect (gpuUnits res) p.devices.nd.capabilities ∧
      (cfg.requiresInterconnect = true →
        p.devices.nd.capabilities.interconnectResourceName ≠ "") := by
  have hkeep : p.sp'.resources.bind (·.interconnect) =
      p.devices.sp.resources.bind (·.interconnect) := by
    rw [reserveSidecar_resources p.rest.sidecar_ok]
    exact tryAdjustGPU_interconnect p.devices.gpu_ok
  rw [hkeep]
  obtain ⟨hno, -, hsp⟩ | ⟨hyes, hcaps, gpu, hgpu, -, hsp⟩ :=
    tryAdjustInterconnect_eq_some p.devices.ic_ok
  · rw [hsp, hno]
    exact ⟨rfl, fun h => absurd h Bool.false_ne_true⟩
  grind [interconnectRecord, gpuUnits, interconnectCapsSuitable]

end Passed

/-- The device has the memory and the interface that the attributes name. -/
def DeviceMeets (S : Sdk) (attr : Option GPUModelAttributes) (info : InventoryV1.GPUInfo) : Prop :=
  ∀ a ∈ attr, (a.ram ≠ "" → a.ram = info.memorySize) ∧
    (a.interface ≠ "" → a.interface = filterGPUInterface S info.interface)

theorem matchGPU_meets (h : matchGPU S attrs info = some attr) :
    DeviceMeets S attr info := by
  unfold matchGPU at h
  split at h
  next => cases h
  next =>
    split at h
    next => cases h
    next =>
      cases h
      rintro a ⟨⟩
    next =>
      split at h
      next => cases h
      next hram =>
        split at h
        next => cases h
        next hinterface =>
          rintro a ⟨⟩
          grind

variable {cfg : AttemptConfig} {cluster : Cluster} {commit : Commit} {res res' : Rtypes.Resources}

/-- A replica with GPUs is stamped with a device of its node that meets the request.  The vendor and
model are recorded, but not the memory or the interface. -/
theorem Passed.stamped (hS : S.Lawful) {node : Nat} (p : Passed S cluster node res cfg res' commit)
    (hunits : gpuUnits res ≠ 0) :
    ∃ info attr, info ∈ p.devices.nd.resources.gpu.info ∧ info.vendor ∈ ["nvidia", "amd"] ∧
      DeviceMeets S attr info ∧
      (commit.sparams.bind (·.resources)).bind (·.gpu) = some ⟨info.vendor, info.name, "", ""⟩ ∧
      res'.gpu = some ⟨gpuUnits res, [⟨gpuKey info.vendor info.name attr, "true"⟩]⟩ := by
  have hreq : gpuUnits res = p.devices.gpuReq.units := by simp [gpuUnits, p.devices.gpu_eq]
  rw [hreq] at hunits ⊢
  obtain ⟨attrs, info, attr, q, hparse, hfind, -, -, hstamp, hsp⟩ :=
    tryAdjustGPU_eq_some hunits p.devices.gpu_ok
  obtain ⟨hmem, hmatch⟩ := findGPU_mem hfind
  obtain ⟨models, hlookup⟩ := matchGPU_lookup hmatch
  have hvendor := parseGPUAttributes_vendor hparse hlookup
  have hlower : S.toLower info.vendor = info.vendor := by grind
  -- before the GPU gate, at most an interconnect is recorded
  have hfresh : (p.devices.sp.resources.getD ⟨none, none⟩).gpu = none := by
    obtain ⟨-, -, hsp⟩ | ⟨-, -, gpu, -, -, hsp⟩ := tryAdjustInterconnect_eq_some p.devices.ic_ok
    · rw [hsp]
      rfl
    · rw [hsp]
      rfl
  refine ⟨info, attr, hmem, by simpa using hvendor, matchGPU_meets hmatch, ?_, ?_⟩
  · rw [p.sparams_resources, reserveSidecar_resources p.rest.sidecar_ok, hsp]
    simp [stampGPU, sParamsEnsureResources, hfresh, hlower]
  · have hgpu : res'.gpu = some p.gpu := congrArg Rtypes.Resources.gpu p.request_eq
    simp_all

variable {node i : Nat}

theorem Passed.records (hS : S.Lawful) (p : Passed S cluster node res cfg res' commit)
    (hunits : gpuUnits res ≠ 0) :
    ∃ info ∈ p.devices.nd.resources.gpu.info,
      recordedDevice ⟨i, node, res', commit.sparams⟩ = some (info.vendor, info.name) := by
  obtain ⟨info, attr, hmem, -, -, hgpu, -⟩ := p.stamped hS hunits
  exact ⟨info, hmem, by rw [recordedDevice, hgpu]; rfl⟩

/-! ## The GPU quantity of a node -/

/-- What a list of replicas draws on the GPU quantity of a node. -/
def gpuLoad (placed : List Placed) (node : Nat) : Quantity :=
  (placed.map fun p => if p.node = node then wholeUnits (gpuUnits p.resources) else 0).sum

theorem gpuLoad_append (placed : List Placed) (p : Placed) (node : Nat) :
    gpuLoad (placed ++ [p]) node =
      gpuLoad placed node + if p.node = node then wholeUnits (gpuUnits p.resources) else 0 := by
  simp [gpuLoad]

theorem grantedUnits_le_gpuLoad (placed : List Placed) (node : Nat) (device : String × String) :
    1000 * (grantedUnits placed node device : Int) ≤ gpuLoad placed node := by
  induction placed with
  | nil => simp [grantedUnits, gpuLoad]
  | cons p rest ih =>
    have hhead : 1000 * ((if p.node = node ∧ recordedDevice p = some device then
          (gpuUnits p.resources).toNat else 0 : Nat) : Int) ≤
        if p.node = node then wholeUnits (gpuUnits p.resources) else 0 := by
      by_cases hnode : p.node = node
      · by_cases hdev : recordedDevice p = some device
        · simp [hnode, hdev, wholeUnits]
        · simpa [hnode, hdev] using wholeUnits_nonneg (gpuUnits p.resources)
      · simp [hnode]
    simp only [grantedUnits, gpuLoad, List.map_cons, List.sum_cons, Int.natCast_add,
      Int.mul_add] at ih ⊢
    exact Int.add_le_add hhead ih

theorem replicaAmount_gpu (S : Sdk) (cfg : AttemptConfig) (res : Rtypes.Resources) :
    replicaAmount S cfg res (.node .gpu) = wholeUnits (gpuUnits res) := by
  rw [replicaAmount, Pi.add_apply, Pi.add_apply, sum_volumeAmount,
    drawnOn_eq_nil S res.storage (by decide)]
  simp [requestAmount, sidecarAmount]

/-- What holds of the GPUs of a cluster after some replicas were placed. -/
@[grind cases]
structure DeviceLedger (start cluster : Cluster) (placed : List Placed) : Prop where
  node : ∀ (j : Nat) (nd₀ : Node), start.nodes[j]? = some nd₀ →
    ∃ nd, cluster.nodes[j]? = some nd ∧ nd.resources.gpu.info = nd₀.resources.gpu.info ∧
      nd.resources.gpu.quantity = nd₀.resources.gpu.quantity.charge (gpuLoad placed j) ∧
      (gpuLoad placed j = 0 ∨ nd.resources.gpu.quantity.Within)
  recorded : ∀ p ∈ placed, gpuUnits p.resources = 0 ∨
    ∃ nd₀ info, start.nodes[p.node]? = some nd₀ ∧ info ∈ nd₀.resources.gpu.info ∧
      recordedDevice p = some (info.vendor, info.name)
  length_eq : cluster.nodes.length = start.nodes.length

theorem DeviceLedger.start (cluster : Cluster) : DeviceLedger cluster cluster [] where
  node := by simp_all [gpuLoad]
  recorded := by
    intro p hp
    cases hp
  length_eq := rfl

theorem Passed.charges_gpu (hS : S.Lawful) {node : Nat}
    (p : Passed S cluster node res cfg res' commit) :
    p.nd'.resources.gpu.info = p.devices.nd.resources.gpu.info ∧
      p.nd'.resources.gpu.quantity =
        p.devices.nd.resources.gpu.quantity.charge (wholeUnits (gpuUnits res)) ∧
      (gpuUnits res ≠ 0 ∨ p.devices.nd.resources.gpu.quantity.Within →
        p.nd'.resources.gpu.quantity.Within) := by
  have hdraw := p.draw hS
  have hnd : p.nd' = p.devices.nd.charge fun r => replicaAmount S cfg res (.node r) :=
    congrArg Prod.fst hdraw.eq_charge
  refine ⟨by rw [hnd]; rfl, ?_, ?_⟩
  · rw [hnd, ← replicaAmount_gpu S cfg res]
    rfl
  · intro h
    have htouch : .node .gpu ∈ replicaTouches S cfg res ∨
        replicaLedger.Within (p.devices.nd, cluster.storage) (.node .gpu) := by
      rcases h with h | h
      · exact .inl (.inr (.inr (.inl ⟨rfl, h⟩)))
      · exact .inr ((within_iff _ _).mpr ⟨_, rfl, h⟩)
    obtain ⟨rp, hrp, hw⟩ := (within_iff _ _).mp (hdraw.within _ htouch)
    injection hrp with hrp
    rw [← hrp] at hw
    exact hw

variable {placed : List Placed}

theorem DeviceLedger.place (hS : S.Lawful) {start cluster : Cluster}
    (h : DeviceLedger start cluster placed) (p : Passed S cluster node res cfg res' commit) :
    DeviceLedger start commit.cluster (placed ++ [⟨i, node, res', commit.sparams⟩]) where
  node := by
    intro j nd₀ hnd₀
    obtain ⟨nd, hnd, hinfo, hquantity, hwithin⟩ := h.node j nd₀ hnd₀
    rw [p.nodes_eq, gpuLoad_append]
    by_cases hj : node = j
    · subst hj
      obtain ⟨hlt, hget⟩ := List.getElem?_eq_some_iff.mp hnd
      have hnd' : p.devices.nd = nd := by
        have hnode := p.devices.node_eq
        simp_all
      obtain ⟨hinfo', hquantity', hwithin'⟩ := p.charges_gpu hS
      rw [hnd'] at hinfo' hquantity' hwithin'
      refine ⟨p.nd', by simp [hlt], hinfo'.trans hinfo, ?_, ?_⟩
      · rw [hquantity', hquantity, if_pos rfl, p.sameRequest.gpuUnits_eq,
          InventoryV1.ResourcePair.charge_charge]
      · rw [if_pos rfl, p.sameRequest.gpuUnits_eq]
        by_cases hunits : gpuUnits res = 0
        · simp_all [wholeUnits]
        · exact .inr (hwithin' (.inl hunits))
    grind
  recorded := by
    intro q hq
    rcases List.mem_append.mp hq with hq | hq
    · exact h.recorded q hq
    · rw [List.mem_singleton] at hq
      subst hq
      by_cases hunits : gpuUnits res = 0
      · exact .inl (p.sameRequest.gpuUnits_eq.trans hunits)
      · obtain ⟨info, hmem, hrec⟩ := p.records hS (i := i) hunits
        have hlt : node < start.nodes.length := by
          rw [← h.length_eq]
          exact (List.getElem?_eq_some_iff.mp p.devices.node_eq).1
        have hnd₀ := List.getElem?_eq_getElem hlt
        obtain ⟨nd, hnd, hinfo, -, -⟩ := h.node node _ hnd₀
        rw [p.devices.node_eq, Option.some.injEq] at hnd
        rw [hnd, hinfo] at hmem
        exact .inr ⟨_, info, hnd₀, hmem, hrec⟩
  length_eq := by rw [p.nodes_eq, List.length_set, h.length_eq]

/-! ## Sequences of grants -/

theorem DeviceLedger.run (hS : S.Lawful) {start cluster : Cluster} {before : List Placed}
    (h : DeviceLedger start cluster before) {b : Cluster × List Placed}
    (hrun : Relation.ReflTransGen (PlaceStep S env) (cluster, []) b) :
    DeviceLedger start b.1 (before ++ b.2) := by
  induction hrun with
  | refl => simpa using h
  | tail _ hstep ih =>
    cases hstep with
    | place hunit hsame hok =>
      obtain ⟨p⟩ := tryAdjust_eq_ok hok
      rw [← List.append_assoc]
      exact ih.place hS p

theorem GrantRun.next {inv inv₁ : Inventory} {rg : ResourceGroup} {opts : InventoryOptions}
    {g : Grant} (h : GrantRun S inv inv₁ placed) (hdry : opts.dryRun = false)
    (hok : (adjust S inv₁ rg opts).2 = .ok g) :
    GrantRun S inv (adjust S inv₁ rg opts).1 (placed ++ g.placed) :=
  h.grant hdry (Prod.ext rfl hok)

theorem GrantRun.ledger (hS : S.Lawful) {inv inv' : Inventory} (h : GrantRun S inv inv' placed) :
    DeviceLedger inv.sanitized inv'.sanitized placed := by
  induction h with
  | start => exact .start _
  | grant _ hdry hok ih =>
    obtain ⟨st, hprog, -, hinv, hg⟩ := adjust_eq_ok hok
    rw [hdry] at hinv
    rw [hinv, hg]
    exact ih.run hS hprog.run

/-- If every node lists as many devices of each of its models as its quantity allows, no
sequence of grants sells a device twice. -/
theorem devices_sold_once (hS : S.Lawful) {inv inv' : Inventory} {placed : List Placed}
    (hrun : GrantRun S inv inv' placed)
    (hfree : ∀ nd ∈ inv.sanitized.nodes, nd.resources.gpu.quantity.allocated = some 0)
    (hlists : ListsEveryModel inv) : SoldOnce inv placed := by
  have hledger := hrun.ledger hS
  intro node nd₀ device hnd₀
  have hmem₀ : nd₀ ∈ inv.sanitized.nodes := List.mem_of_getElem? hnd₀
  -- a device that was sold is listed by its node, so the node lists as many as it can sell
  by_cases hsold : ∃ p ∈ placed, p.node = node ∧ recordedDevice p = some device ∧
      gpuUnits p.resources ≠ 0
  · obtain ⟨p, hp, hnode, hdevice, hunits⟩ := hsold
    subst hnode
    obtain ⟨nd₁, info, hnd₁, hinfo, hrec⟩ := (hledger.recorded p hp).resolve_left hunits
    rw [hnd₀, Option.some.injEq] at hnd₁
    subst hnd₁
    rw [hdevice, Option.some.injEq] at hrec
    subst hrec
    obtain ⟨nd, -, -, hquantity, hwithin⟩ := hledger.node p.node nd₀ hnd₀
    have hload := grantedUnits_le_gpuLoad placed p.node (info.vendor, info.name)
    rcases hwithin with hzero | ⟨a, l, ha, hl, hle⟩
    · rw [hzero] at hload
      omega
    · rw [hquantity] at ha hl
      have hlists' := hlists nd₀ hmem₀ info hinfo l hl
      have ha' : a = gpuLoad placed p.node := by
        simpa [InventoryV1.ResourcePair.charge, hfree nd₀ hmem₀] using ha.symm
      rw [← ha'] at hload
      have hbound := (hload.trans hle).trans hlists'
      omega
  · have hzero : grantedUnits placed node device = 0 := by
      refine List.sum_eq_zero ?_
      simp_all
    rw [hzero]
    exact Nat.zero_le _

def oneA100 : ResourceGroup :=
  plainGroup (plainRequest 100 16 ⟨1, [⟨"vendor/nvidia/model/a100", "true"⟩]⟩) 1

def infoA100 : InventoryV1.GPUInfo := ⟨"nvidia", "a100", "pcie", "80Gi"⟩
def infoT4 : InventoryV1.GPUInfo := ⟨"nvidia", "t4", "pcie", "16Gi"⟩

/-- A node with two A100s sells both. -/
theorem devices_sold_once_two_a100 :
    let inv := newInventory ⟨[freeNode "node" 1000 64 2 [infoA100, infoA100]], []⟩
    ∃ inv' placed, GrantRun .reference inv inv' placed ∧ placed.length = 2 ∧
      SoldOnce inv placed := by
  intro inv
  have hfirst : (adjust .reference inv oneA100 plainOptions).2 = .ok _ := rfl
  have hsecond : (adjust .reference (adjust .reference inv oneA100 plainOptions).1 oneA100
    plainOptions).2 = .ok _ := rfl
  have hrun := (GrantRun.start.next rfl hfirst).next rfl hsecond
  have hlists : ListsEveryModel inv := by
    unfold ListsEveryModel
    decide
  exact ⟨_, _, hrun, rfl, devices_sold_once Sdk.reference_lawful hrun (by decide) hlists⟩

/-- A node with an A100 and a T4 sells the A100 twice. -/
theorem devices_sold_twice :
    let inv := newInventory ⟨[freeNode "node" 1000 64 2 [infoA100, infoT4]], []⟩
    (∀ nd ∈ inv.sanitized.nodes, nd.resources.gpu.quantity.allocated = some 0) ∧
      ∃ inv' placed, GrantRun .reference inv inv' placed ∧
        placed.map recordedDevice = [some ("nvidia", "a100"), some ("nvidia", "a100")] ∧
        ¬ SoldOnce inv placed := by
  intro inv
  have hfirst : (adjust .reference inv oneA100 plainOptions).2 = .ok _ := rfl
  have hsecond : (adjust .reference (adjust .reference inv oneA100 plainOptions).1 oneA100
    plainOptions).2 = .ok _ := rfl
  have hrun := (GrantRun.start.next rfl hfirst).next rfl hsecond
  refine ⟨by decide, _, _, hrun, rfl, ?_⟩
  intro hsold
  exact absurd (hsold 0 _ ("nvidia", "a100") rfl) (by decide)

end AkashProvider
