import AkashProvider.Kube.Deploy
import AkashProvider.Operator.PodRequests
import AkashProvider.Service.Recovery

/-!
# Two accounts of one replica

`tryAdjust` takes a replica from the node when it is reserved; node discovery adds its pod when it
runs.  CPU, GPUs and interconnect agree.  The ephemeral storage of the pod is its last volume.
The `ram` volumes of the pod are those that say that they are not persistent, and are added once
for every container.  `accounts_agree_iff` says what that comes to.
-/

namespace AkashProvider.Operator

open InventoryV1 (Quantity Node ResourcePair Cluster)
open Crd (SchedulerParams)
open Kube (KubeSdk PodTemplate Settings)

/-! ## One replica in both accounts -/

/-- The bound of a quantity: an `int64` of milli-units for the CPU, of units for the others. -/
def quantityBound : NodeResource → Int
  | .cpu => int64Bound
  | .memory | .gpu | .ephemeralStorage | .gpuInterconnect => 1000 * int64Bound

/-- The quantities of a node are those that Kubernetes reports. -/
@[grind cases]
structure InRange (nd : Node) : Prop where
  allocated : ∀ (r : NodeResource) (a : Int), (nd.resources.pair r).allocated = some a → 0 ≤ a
  allocatable : ∀ (r : NodeResource) (l : Int),
    (nd.resources.pair r).allocatable = some l → l < quantityBound r

/-- A replica of a service that was reserved on a node, and the pod that runs it. -/
structure Replica (S : Sdk) (K : KubeSdk) where
  cluster : Cluster
  node : Nat
  res : Rtypes.Resources
  cfg : AttemptConfig
  claims : GroupClaims
  res' : Rtypes.Resources
  commit : Commit
  reserved : tryAdjust S cluster node res cfg claims = (res', .ok commit)
  /-- The node before and after. -/
  nd : Node
  nd' : Node
  before : cluster.nodes[node]? = some nd
  after : commit.cluster.nodes[node]? = some nd'
  inRange : InRange nd
  interconnect : nd.capabilities.interconnectResourceName ∉ reservedNames
  settings : Settings
  committed : NoOvercommit settings
  svc : Mani.Service
  unit : svc.resources.SameRequest res
  w : Kube.Workload
  built : BuiltFor K settings svc commit.sparams w
  current : Labels
  pod : PodTemplate
  pod_eq : w.podTemplate K current = .ok pod

namespace Replica

variable {S : Sdk} {K : KubeSdk} (r : Replica S K)

/-- What `tryAdjust` has taken. -/
def subtracted (k : NodeResource) : Int := replicaAmount S r.cfg r.res (.node k)

/-- What node discovery adds for a pod on the node. -/
def discovered (pod : PodTemplate) (k : NodeResource) : Int :=
  podAmounts r.nd.capabilities.interconnectResourceName pod k

/-- `ram` volumes as the inventory sees them, in bytes. -/
def ram : Nat := totalSize (drawnOn S (.node .memory) r.res.storage)

/-- `ram` volumes that the pod has, in bytes. -/
def mounted : Nat := totalSize (r.res.storage.filter (Kube.isRAMVolume K))

/-- Ephemeral storage as the inventory sees it, in bytes. -/
def disk : Nat := totalSize (drawnOn S (.node .ephemeralStorage) r.res.storage)

def cpuUnits : Rtypes.ResourceValue := (r.res.cpu.map (·.units)).getD 0

def memory : Rtypes.ResourceValue := (r.res.memory.map (·.quantity)).getD 0

theorem subtracted_eq (k : NodeResource) : r.subtracted k =
    requestAmount r.cfg r.res (.node k) +
      1000 * (totalSize (drawnOn S (.node k) r.res.storage) : Int) +
      sidecarAmount r.cfg (.node k) := by
  rw [subtracted, replicaAmount, Pi.add_apply, Pi.add_apply, sum_volumeAmount]

theorem passed : ∃ p : Passed S r.cluster r.node r.res r.cfg r.res' r.commit,
    p.devices.nd = r.nd ∧ p.nd' = r.nd' := by
  obtain ⟨p⟩ := tryAdjust_eq_ok r.reserved
  have hnode := p.devices.node_eq
  refine ⟨p, ?_, ?_⟩
  · rw [r.before] at hnode
    exact (Option.some.inj hnode).symm
  · have hafter := r.after
    rw [p.nodes_eq, List.getElem?_set_self (List.getElem?_eq_some_iff.mp hnode).1] at hafter
    exact Option.some.inj hafter

theorem draw (hS : S.Lawful) : ∃ storage, replicaLedger.Draw (replicaAmount S r.cfg r.res)
    (replicaTouches S r.cfg r.res) (r.nd, r.cluster.storage) (r.nd', storage) := by
  obtain ⟨p, hnd, hnd'⟩ := r.passed
  rw [← hnd, ← hnd']
  exact ⟨_, p.draw hS⟩

theorem nd'_eq (hS : S.Lawful) : r.nd' = r.nd.charge r.subtracted := by
  obtain ⟨_, hdraw⟩ := r.draw hS
  exact congrArg Prod.fst hdraw.eq_charge

theorem subtracted_lt (hS : S.Lawful) {k : NodeResource}
    (hk : .node k ∈ replicaTouches S r.cfg r.res) :
    (∃ a, (r.nd.resources.pair k).allocated = some a) ∧ r.subtracted k < quantityBound k := by
  obtain ⟨_, hdraw⟩ := r.draw hS
  obtain ⟨rp, hrp, a, l, ha, hl, hle⟩ := (within_iff _ _).mp (hdraw.within _ (.inl hk))
  have hpair : rp = (r.nd.resources.pair k).charge (r.subtracted k) := by
    rw [accountPair, r.nd'_eq hS] at hrp
    simpa [InventoryV1.Node.charge] using hrp.symm
  subst hpair
  obtain ⟨a₀, ha₀, rfl⟩ := Option.map_eq_some_iff.mp ha
  have hnonneg := r.inRange.allocated k a₀ ha₀
  have hlt := r.inRange.allocatable k l hl
  exact ⟨⟨a₀, ha₀⟩, ((le_add_of_nonneg_left hnonneg).trans hle).trans_lt hlt⟩

/-- What the workload reads of the service. -/
@[grind cases]
structure Reads (cpu : Rtypes.CPU) (gpu : Rtypes.GPU) (mem : Rtypes.Memory) : Prop where
  cpu_eq : r.w.stored.resources.cpu = some cpu
  cpu_units : cpu.units = r.cpuUnits
  gpu_eq : r.w.stored.resources.gpu = some gpu
  gpu_units : gpu.units = gpuUnits r.res
  memory_eq : r.w.stored.resources.memory = some mem
  memory_quantity : mem.quantity = r.memory
  storage : r.w.stored.resources.storage = r.res.storage
  sparams : r.w.sparams = withTEEParams r.svc.params r.commit.sparams
  committed : NoOvercommit r.w.settings

theorem reads : ∃ cpu gpu mem, r.Reads cpu gpu mem := by
  obtain ⟨p, -, -⟩ := r.passed
  have hcpu : r.svc.resources.cpu = some p.devices.cpuReq := r.unit.cpu_eq.trans p.devices.cpu_eq
  have hmem : r.svc.resources.memory = some p.rest.memReq := r.unit.memory_eq.trans p.rest.memory_eq
  obtain ⟨gpu, hgpu, hunits⟩ : ∃ gpu, r.svc.resources.gpu = some gpu ∧
      gpu.units = p.devices.gpuReq.units := by
    have hmap := r.unit.gpu_units_eq
    rw [p.devices.gpu_eq] at hmap
    exact Option.map_eq_some_iff.mp hmap
  obtain ⟨hsettings, hres, hsparams⟩ := r.built.spec (by rw [hcpu]; rfl) (by rw [hgpu]; rfl)
    (by rw [hmem]; rfl)
  have hmem' : r.res.memory = some p.rest.memReq := p.rest.memory_eq
  exact ⟨p.devices.cpuReq, gpu, p.rest.memReq,
    { cpu_eq := by rw [hres]; exact hcpu
      cpu_units := by rw [cpuUnits, p.devices.cpu_eq]; rfl
      gpu_eq := by rw [hres]; exact hgpu
      gpu_units := by rw [hunits, gpuUnits, p.devices.gpu_eq]; rfl
      memory_eq := by rw [hres]; exact hmem
      memory_quantity := (congrArg (fun m => (m.map (·.quantity)).getD 0) hmem').symm
      storage := by rw [hres]; exact r.unit.storage_eq
      sparams := hsparams
      committed := by rw [hsettings]; exact r.committed }⟩

/-! ### Amounts in range -/

theorem cpu_mem_touches : .node .cpu ∈ replicaTouches S r.cfg r.res := .inl rfl

theorem memory_mem_touches : .node .memory ∈ replicaTouches S r.cfg r.res := .inr (.inl rfl)

theorem gpu_lt (hS : S.Lawful) : (gpuUnits r.res).toNat < int64Bound := by
  by_cases hunits : gpuUnits r.res = 0
  · rw [hunits]
    decide
  · have hlt := (r.subtracted_lt hS (k := .gpu) (.inr (.inr (.inl ⟨rfl, hunits⟩)))).2
    rw [subtracted, replicaAmount_gpu, wholeUnits, quantityBound] at hlt
    omega

/-- The share of the sidecar in a quantity of the node. -/
def sidecarShare (k : NodeResource) : Int := sidecarAmount r.cfg (.node k)

theorem sidecarShare_nonneg (k : NodeResource) : 0 ≤ r.sidecarShare k := by
  cases k <;> simp only [sidecarShare, sidecarAmount, milliUnits, wholeUnits] <;>
    first | exact le_rfl | split <;> omega

theorem subtracted_cpu : r.subtracted .cpu = r.cpuUnits.toNat + r.sidecarShare .cpu := by
  rw [subtracted_eq, drawnOn_eq_nil S r.res.storage (by decide), totalSize_nil]
  rfl

theorem subtracted_memory : r.subtracted .memory =
    1000 * r.memory.toNat + 1000 * r.ram + r.sidecarShare .memory := by
  rw [subtracted_eq]
  rfl

theorem subtracted_disk : r.subtracted .ephemeralStorage = 1000 * r.disk := by
  rw [subtracted_eq]
  simp [requestAmount, sidecarAmount, disk]

theorem subtracted_gpu : r.subtracted .gpu = 1000 * (gpuUnits r.res).toNat :=
  replicaAmount_gpu S r.cfg r.res

theorem subtracted_interconnect : r.subtracted .gpuInterconnect =
    if r.cfg.requiresInterconnect then 1000 * ((gpuUnits r.res).toNat : Int) else 0 := by
  rw [subtracted_eq, drawnOn_eq_nil S r.res.storage (by decide), totalSize_nil]
  simp [requestAmount, sidecarAmount, wholeUnits]

theorem cpu_lt (hS : S.Lawful) : r.cpuUnits.toNat < int64Bound := by
  have hlt := (r.subtracted_lt hS r.cpu_mem_touches).2
  have hside := r.sidecarShare_nonneg .cpu
  rw [subtracted_cpu, quantityBound] at hlt
  omega

theorem memory_lt (hS : S.Lawful) : r.memory.toNat + r.ram < int64Bound := by
  have hlt := (r.subtracted_lt hS r.memory_mem_touches).2
  have hside := r.sidecarShare_nonneg .memory
  rw [subtracted_memory, quantityBound] at hlt
  omega

theorem disk_mem_touches (h : r.disk ≠ 0) :
    .node .ephemeralStorage ∈ replicaTouches S r.cfg r.res := by
  have hne : drawnOn S (.node .ephemeralStorage) r.res.storage ≠ [] := by
    intro hnil
    exact h (by rw [disk, hnil, totalSize_nil])
  obtain ⟨vol, hvol⟩ := List.exists_mem_of_ne_nil _ hne
  rw [drawnOn, List.mem_filter, decide_eq_true_eq] at hvol
  exact .inr (.inr (.inr (.inr ⟨vol, hvol⟩)))

theorem disk_lt (hS : S.Lawful) : r.disk < int64Bound := by
  by_cases hzero : r.disk = 0
  · rw [hzero]
    decide
  · have hlt := (r.subtracted_lt hS (r.disk_mem_touches hzero)).2
    rw [subtracted_disk, quantityBound] at hlt
    omega

/-! ### Volumes in both accounts -/

theorem mounted_add (hread : SameReading S K) : r.ram = r.mounted +
    totalSize ((drawnOn S (.node .memory) r.res.storage).filter
      fun vol => K.findPersistent vol.attributes = none) := by
  rw [ram, totalSize_filter_add (Kube.isRAMVolume K), mounted]
  congr 2
  · rw [drawnOn, List.filter_filter]
    exact List.filter_congr fun vol _ => by grind [isRAMVolume_iff]
  · refine List.filter_congr fun vol hvol => ?_
    rw [drawnOn, List.mem_filter, decide_eq_true_eq] at hvol
    grind [isRAMVolume_iff]

theorem lastEphemeral_le (hread : SameReading S K) :
    (lastEphemeral K r.res.storage).toNat ≤ r.disk := by
  unfold lastEphemeral
  cases hlast : (r.res.storage.filter (Kube.Workload.isEphemeral K)).getLast? with
  | none => exact Nat.zero_le _
  | some vol =>
    have hmem := List.mem_of_getLast? hlast
    rw [List.mem_filter, Kube.Workload.isEphemeral, decide_eq_true_iff] at hmem
    refine quantity_le_totalSize (List.mem_filter.mpr ⟨hmem.1, ?_⟩)
    rw [decide_eq_true_iff, volumeAccount_ephemeral_iff, hread.persistent, hread.storageClass,
      hmem.2.1, hmem.2.2]
    exact ⟨rfl, by decide⟩

variable {cpu : Rtypes.CPU} {gpu : Rtypes.GPU} {mem : Rtypes.Memory}

theorem limit_eq (hS : S.Lawful) (hread : SameReading S K) (h : r.Reads cpu gpu mem) :
    Go.int64 (mem.quantity + r.w.requestedMem K) = r.memory.toNat + r.ram := by
  have hlt := r.memory_lt hS
  have hfilter : (r.w.stored.resources.storage.filter fun vol =>
      (K.findPersistent vol.attributes).getD false = false ∧
        (K.findClass vol.attributes).getD "" = "ram") =
      drawnOn S (.node .memory) r.res.storage := by
    rw [h.storage]
    refine List.filter_congr fun vol _ => ?_
    rw [decide_eq_decide, volumeAccount_memory_iff, hread.persistent, hread.storageClass]
  have hram : (r.w.requestedMem K).toNat = r.ram := by
    rw [Kube.Workload.requestedMem, hfilter, toNat_foldl_add _ _ (by
      change 0 + r.ram < int64Bound
      omega)]
    exact Nat.zero_add _
  have hsum : (mem.quantity + r.w.requestedMem K).toNat = r.memory.toNat + r.ram := by
    unfold int64Bound at hlt
    rw [UInt64.toNat_add, hram, h.memory_quantity]
    omega
  rw [int64_eq (by omega), hsum]
  push_cast
  rfl

/-! ### The requests of the container -/

/-- Whether the runtime class of the workload has GPUs. -/
def isGPU : Bool := r.w.sparams.any (·.runtimeClass.isWithGPU)

/-- What the sidecar asks for and may take of the memory. -/
def sidecarMemRequest (isGPU : Bool) : Int :=
  if isGPU then Kube.sidecarGPUMemoryRequestBytes else Kube.sidecarMemoryRequestBytes

def sidecarMemLimit (isGPU : Bool) : Int :=
  if isGPU then Kube.sidecarGPUMemoryLimitBytes else Kube.sidecarMemoryLimitBytes

theorem cpuRequest (hS : S.Lawful) (hK : K.Lawful) (h : r.Reads cpu gpu mem) :
    (r.w.cpuAmounts K cpu).1 = if r.w.sidecarEnabled then
      min (max (r.cpuUnits.toNat - 10 : Int) 10) (max (r.cpuUnits.toNat - 100 : Int) 10)
      else r.cpuUnits.toNat := by
  rw [Kube.Workload.cpuAmounts, h.committed.cpu, hK.computeCommittedResources_one, h.cpu_units,
    int64_eq (r.cpu_lt hS)]
  split <;> rfl

theorem memoryRequest (hS : S.Lawful) (hK : K.Lawful) (hread : SameReading S K)
    (h : r.Reads cpu gpu mem) :
    (r.w.memoryAmounts K mem).1 = if r.w.sidecarEnabled then
      min (max (r.memory.toNat - sidecarMemRequest r.isGPU) Kube.minPrimaryMemoryBytes)
        (max (r.memory.toNat + r.ram - sidecarMemLimit r.isGPU) Kube.minPrimaryMemoryBytes)
      else r.memory.toNat := by
  have hlt := r.memory_lt hS
  rw [Kube.Workload.memoryAmounts, h.committed.memory, hK.computeCommittedResources_one,
    r.limit_eq hS hread h, h.memory_quantity, int64_eq (by omega)]
  unfold isGPU sidecarMemRequest sidecarMemLimit
  repeat' split
  all_goals rfl

/-- The requests of a container with the amounts of CPU and memory. -/
def requested (cpu memory : Int) : NodeResource → Int
  | .cpu => cpu
  | .memory => 1000 * memory
  | .gpu => 1000 * (gpuUnits r.res).toNat
  | .ephemeralStorage => 1000 * (lastEphemeral K r.res.storage).toNat
  | .gpuInterconnect => if r.cfg.requiresInterconnect then 1000 * (gpuUnits r.res).toNat else 0

def volumesOf : NodeResource → Int
  | .memory => 1000 * r.mounted
  | .cpu | .gpu | .ephemeralStorage | .gpuInterconnect => 0

theorem container_requests (hS : S.Lawful) (hK : K.Lawful) (hread : SameReading S K)
    (h : r.Reads cpu gpu mem) {amounts : Kube.Workload.Amounts}
    (hamounts : r.w.resourceAmounts K = .ok amounts) :
    (amounts.1.map (requestAmounts r.nd.capabilities.interconnectResourceName)).sum =
      r.requested (r.w.cpuAmounts K cpu).1 (r.w.memoryAmounts K mem).1 := by
  obtain ⟨p, hnd, -⟩ := r.passed
  obtain ⟨hrecord, hname⟩ := p.interconnect
  rw [hnd] at hrecord hname
  have hrecord' : Kube.sparamsInterconnect r.w.sparams =
      interconnectRecord r.cfg.requiresInterconnect (gpuUnits r.res) r.nd.capabilities := by
    rw [← hrecord, Kube.sparamsInterconnect, h.sparams, withTEEParams_resources,
      p.sparams_resources]
  have hdisk : (lastEphemeral K r.res.storage).toNat < int64Bound :=
    (r.lastEphemeral_le hread).trans_lt (r.disk_lt hS)
  rw [resourceAmounts_sum hK h.committed h.cpu_eq h.gpu_eq h.memory_eq hrecord' hname
    r.interconnect hamounts, h.storage, h.gpu_units, int64_eq (r.gpu_lt hS), int64_eq hdisk]
  funext k
  cases hrequired : r.cfg.requiresInterconnect <;> cases k <;>
    simp [requested, hrequired, int64_zero, int64_eq (r.gpu_lt hS)]

/-! ### What node discovery adds -/

theorem pod_spec : ∃ (c : Kube.Container) (amounts : Kube.Workload.Amounts),
    r.w.resourceAmounts K = .ok amounts ∧ c.requests = amounts.1 ∧ r.pod.containers = [c] ∧
      r.pod.volumes = r.w.volumes K ∧ r.pod.runtimeClassName = r.w.runtimeClass ∧
      r.pod.annotations = r.w.podAnnotations K := by
  obtain ⟨c, hc, hpod⟩ := Except.bind_eq_ok_iff.mp r.pod_eq
  obtain ⟨⟨requests, limits⟩, hamounts, hc⟩ := Except.bind_eq_ok_iff.mp hc
  obtain rfl := Except.ok.inj hc
  rw [← Except.ok.inj hpod]
  simp_all

theorem volumes_eq (hS : S.Lawful) (hread : SameReading S K) (h : r.Reads cpu gpu mem) :
    ((r.w.volumes K).map volumeAmounts).sum = r.volumesOf := by
  have hlt := r.memory_lt hS
  have hle := r.mounted_add hread
  have hmounted : totalSize (r.w.stored.resources.storage.filter (Kube.isRAMVolume K)) =
      r.mounted := by
    rw [h.storage]
    rfl
  rw [volumes_sum (by omega), hmounted]
  funext k
  cases k <;> simp [volumesOf]

theorem discovered_pod (hS : S.Lawful) (hK : K.Lawful) (hread : SameReading S K)
    (h : r.Reads cpu gpu mem) (k : NodeResource) : r.discovered r.pod k =
      r.requested (r.w.cpuAmounts K cpu).1 (r.w.memoryAmounts K mem).1 k + r.volumesOf k := by
  obtain ⟨c, amounts, hamounts, hrequests, hcontainers, hvolumes, -, -⟩ := r.pod_spec
  rw [discovered, podAmounts, hcontainers, hvolumes, List.map_singleton, List.sum_singleton,
    containerAmounts, hrequests, r.container_requests hS hK hread h hamounts,
    r.volumes_eq hS hread h]
  rfl

def sidecarRequested (isGPU : Bool) : NodeResource → Int
  | .cpu => 10
  | .memory => 1000 * sidecarMemRequest isGPU
  | .gpu | .ephemeralStorage | .gpuInterconnect => 0

/-- With a sidecar, the memory volumes of the pod are added twice. -/
theorem discovered_sidecar (hS : S.Lawful) (hK : K.Lawful) (hread : SameReading S K)
    (h : r.Reads cpu gpu mem) {W : Kube.WebhookConfig} {pod' : PodTemplate}
    (hinj : Kube.shouldInject r.pod) (hpod' : Kube.mutate W r.pod = .ok pod') (k : NodeResource) :
    r.discovered pod' k =
      r.requested (r.w.cpuAmounts K cpu).1 (r.w.memoryAmounts K mem).1 k + r.volumesOf k +
        (sidecarRequested (RuntimeClass.isWithGPU (r.pod.runtimeClassName.getD "")) k +
          r.volumesOf k) := by
  obtain ⟨c, amounts, hamounts, hrequests, hcontainers, hvolumes, -, -⟩ := r.pod_spec
  have hsidecar : Pi.single NodeResource.cpu Kube.sidecarCPURequestMillicores +
      Pi.single NodeResource.memory (1000 *
      if RuntimeClass.isWithGPU (r.pod.runtimeClassName.getD "") = true then
        Kube.sidecarGPUMemoryRequestBytes else Kube.sidecarMemoryRequestBytes) =
      sidecarRequested (RuntimeClass.isWithGPU (r.pod.runtimeClassName.getD "")) := by
    funext k
    cases k <;> simp [sidecarRequested, sidecarMemRequest, Kube.sidecarCPURequestMillicores]
  rw [discovered, podAmounts, Kube.mutate_eq_ok hinj hpod', hcontainers, hvolumes,
    List.singleton_append, List.map_cons, List.map_singleton, List.sum_cons, List.sum_singleton]
  simp only [containerAmounts, List.map_append, List.sum_append, sidecarVolumes_sum, add_zero,
    hrequests, r.container_requests hS hK hread h hamounts, r.volumes_eq hS hread h,
    sidecar_sum, hsidecar]
  rfl

/-! ### The sidecar -/

theorem any_runtimeClass {f : RuntimeClass → Bool} (hf : f "" = false)
    (sp : Option SchedulerParams) :
    sp.any (fun p => f p.runtimeClass) = f ((sp.map (·.runtimeClass)).getD "") := by
  cases sp with
  | none => exact hf.symm
  | some p => rfl

theorem runtimeClass_eq : ∃ p : Passed S r.cluster r.node r.res r.cfg r.res' r.commit,
    (r.w.sparams.map (·.runtimeClass)).getD "" = p.sp'.runtimeClass := by
  obtain ⟨p, -, -⟩ := r.passed
  obtain ⟨_, _, _, h⟩ := r.reads
  exact ⟨p, by rw [h.sparams, withTEEParams_runtimeClass, p.sparams_runtimeClass]⟩

theorem sidecarEnabled_eq_false (hcc : r.cfg.teeType.isCC = false) :
    r.w.sidecarEnabled = false := by
  obtain ⟨_, _, _, h⟩ := r.reads
  have hclass : r.w.sparams.any (fun p => p.runtimeClass.isWithCC) = false := by
    rw [any_runtimeClass rfl, h.sparams, withTEEParams_runtimeClass]
    cases hsp : r.commit.sparams with
    | none => rfl
    | some sp => exact tryAdjust_not_confidential r.reserved hcc hsp
  rw [Kube.Workload.sidecarEnabled]
  cases hw : r.w.sparams <;> simp_all

theorem isGPU_eq (hcc : r.cfg.teeType.isCC = true) : r.isGPU =
    RuntimeClass.isWithGPU (runtimeClassForTEEType r.cfg.teeType r.cfg.teePlatform) := by
  obtain ⟨p, hp⟩ := r.runtimeClass_eq
  rw [isGPU, any_runtimeClass rfl, hp, p.runtimeClass_of_isCC hcc]

/-- The webhook adds a sidecar only to pods that have made room for it, and of the same kind. -/
theorem of_shouldInject (hinj : Kube.shouldInject r.pod = true) : r.w.sidecarEnabled = true ∧
    RuntimeClass.isWithGPU (r.pod.runtimeClassName.getD "") = r.isGPU := by
  obtain ⟨_, _, -, -, -, -, hclass, hannotations⟩ := r.pod_spec
  rw [Kube.shouldInject, decide_eq_true_iff, hclass, hannotations] at hinj
  obtain ⟨-, hcc, hdeclined, -⟩ := hinj
  rw [hclass, isGPU, Kube.Workload.sidecarEnabled]
  unfold Kube.Workload.runtimeClass at hcc ⊢
  cases hw : r.w.sparams with
  | none => simp [hw] at hcc
  | some sp =>
    have hattest : sp.attestationDisabled = false := by
      by_contra htrue
      exact hdeclined (by simp [Kube.Workload.podAnnotations, hw, Bool.not_eq_false _ ▸ htrue,
        Kube.akashAttestationDisabledAnnotation])
    grind

end Replica

/-! ## The accounts compared -/

def SameAccount (a b : Node) : Prop :=
  ∀ k, a.resources.pair k = b.resources.pair k

/-- No quantity of the first node is allocated more than that of the second. -/
def AtMost (a b : Node) : Prop :=
  ∀ (k : NodeResource) (x y : Int), (a.resources.pair k).allocated = some x →
    (b.resources.pair k).allocated = some y → x ≤ y

variable {m n : NodeAmounts} {nd : Node}

theorem sameAccount_charge_iff :
    SameAccount (nd.charge m) (nd.charge n) ↔
      ∀ k, (nd.resources.pair k).allocated = none ∨ m k = n k := by
  refine forall_congr' fun k => ?_
  simp only [InventoryV1.Node.charge, InventoryV1.NodeResources.pair_charge,
    InventoryV1.ResourcePair.charge]
  cases (nd.resources.pair k).allocated <;> simp

theorem atMost_charge_iff :
    AtMost (nd.charge m) (nd.charge n) ↔
      ∀ k, (nd.resources.pair k).allocated = none ∨ m k ≤ n k := by
  refine forall_congr' fun k => ?_
  simp only [InventoryV1.Node.charge, InventoryV1.NodeResources.pair_charge,
    InventoryV1.ResourcePair.charge]
  cases (nd.resources.pair k).allocated <;> simp

/-- The pod has every volume that the inventory takes: no `ram` volume leaves open whether it
persists, and the last volume without a class has the whole ephemeral storage. -/
@[grind cases]
structure Counted (S : Sdk) (K : KubeSdk) (vols : List Rtypes.Storage) : Prop where
  ram : ∀ vol ∈ drawnOn S (.node .memory) vols,
    K.findPersistent vol.attributes = none → vol.quantity = 0
  disk : totalSize (drawnOn S (.node .ephemeralStorage) vols) = (lastEphemeral K vols).toNat

/-- The memory volumes, added a second time for the sidecar, stay within what was reserved for
it beyond its request. -/
def Replica.SidecarCovers {S : Sdk} {K : KubeSdk} (r : Replica S K) : Prop :=
  2 * (r.mounted : Int) +
      max (r.memory.toNat : Int) (Replica.sidecarMemRequest r.isGPU + Kube.minPrimaryMemoryBytes) ≤
    r.memory.toNat + r.ram + Replica.sidecarMemLimit r.isGPU

namespace Replica

variable {S : Sdk} {K : KubeSdk} (r : Replica S K)

theorem sameAccount_iff (hS : S.Lawful) (pod : PodTemplate) :
    SameAccount (addPodAllocatedResources r.nd pod) r.nd' ↔
      ∀ k, (r.nd.resources.pair k).allocated = none ∨ r.discovered pod k = r.subtracted k := by
  rw [addPodAllocatedResources_eq, r.nd'_eq hS]
  exact sameAccount_charge_iff

theorem atMost_iff (hS : S.Lawful) (pod : PodTemplate) :
    AtMost (addPodAllocatedResources r.nd pod) r.nd' ↔
      ∀ k, (r.nd.resources.pair k).allocated = none ∨ r.discovered pod k ≤ r.subtracted k := by
  rw [addPodAllocatedResources_eq, r.nd'_eq hS]
  exact atMost_charge_iff

theorem memory_known (hS : S.Lawful) : (r.nd.resources.pair .memory).allocated ≠ none := by
  obtain ⟨⟨a, ha⟩, -⟩ := r.subtracted_lt hS r.memory_mem_touches
  rw [ha]
  exact Option.some_ne_none a

theorem sameAccount_iff_counted (hS : S.Lawful) (hK : K.Lawful) (hread : SameReading S K)
    (hcc : r.cfg.teeType.isCC = false) :
    SameAccount (addPodAllocatedResources r.nd r.pod) r.nd' ↔ Counted S K r.res.storage := by
  obtain ⟨cpu, gpu, mem, h⟩ := r.reads
  have hshare : ∀ k, r.sidecarShare k = 0 := by
    intro k
    rw [sidecarShare, sidecarAmount_of_not_isCC hcc]
    rfl
  have hpod : ∀ k, r.discovered r.pod k =
      r.requested r.cpuUnits.toNat r.memory.toNat k + r.volumesOf k := by
    intro k
    rw [r.discovered_pod hS hK hread h, r.cpuRequest hS hK h, r.memoryRequest hS hK hread h]
    simp [r.sidecarEnabled_eq_false hcc]
  have hram := r.mounted_add hread
  have hdisk := r.lastEphemeral_le hread
  have hopen : totalSize ((drawnOn S (.node .memory) r.res.storage).filter
      fun vol => K.findPersistent vol.attributes = none) = 0 ↔
      ∀ vol ∈ drawnOn S (.node .memory) r.res.storage,
        K.findPersistent vol.attributes = none → vol.quantity = 0 := by
    grind [totalSize_eq_zero_iff]
  rw [r.sameAccount_iff hS]
  constructor
  · intro hsame
    constructor
    · have hmemory := (hsame .memory).resolve_left (r.memory_known hS)
      rw [hpod, requested, volumesOf, subtracted_memory, hshare] at hmemory
      exact hopen.mp (by omega)
    · show r.disk = _
      by_cases hzero : r.disk = 0
      · omega
      · obtain ⟨⟨a, ha⟩, -⟩ := r.subtracted_lt hS (r.disk_mem_touches hzero)
        grind [requested, volumesOf, subtracted_disk]
  · intro hcounted k
    have heq : r.disk = (lastEphemeral K r.res.storage).toNat := hcounted.disk
    cases k <;> grind [requested, volumesOf, subtracted_cpu, subtracted_memory, subtracted_gpu,
      subtracted_disk, subtracted_interconnect]

theorem share_cpu (hcc : r.cfg.teeType.isCC = true) : r.sidecarShare .cpu = 100 := by
  simp only [sidecarShare, sidecarAmount, if_pos hcc]
  decide

theorem share_memory (hcc : r.cfg.teeType.isCC = true) :
    r.sidecarShare .memory = 1000 * sidecarMemLimit r.isGPU := by
  rw [sidecarShare, sidecarAmount_of_isCC hcc, r.isGPU_eq hcc, sidecarMemory, sidecarMemLimit]
  split <;> decide

theorem sidecarMem_cases (isGPU : Bool) :
    sidecarMemLimit isGPU = 2 * sidecarMemRequest isGPU ∧ 33554432 ≤ sidecarMemRequest isGPU := by
  cases isGPU <;> decide

theorem requested_le (hS : S.Lawful) (hK : K.Lawful) (hread : SameReading S K)
    (hcc : r.cfg.teeType.isCC = true) {cpu : Rtypes.CPU} {gpu : Rtypes.GPU} {mem : Rtypes.Memory}
    (h : r.Reads cpu gpu mem) (m : Int) (isGPU : Bool) {k : NodeResource} (hk : k ≠ .memory) :
    r.requested (r.w.cpuAmounts K cpu).1 m k + r.volumesOf k +
        (sidecarRequested isGPU k + r.volumesOf k) ≤ r.subtracted k := by
  have hdisk := r.lastEphemeral_le hread
  have hcpu := r.cpuRequest hS hK h
  have hshare := r.share_cpu hcc
  cases k <;> grind [requested, volumesOf, sidecarRequested, subtracted_cpu, subtracted_gpu,
    subtracted_disk, subtracted_interconnect]

/-- With a TEE type, the pod stays within what was taken exactly if the sidecar that it is given
covers its memory volumes. -/
theorem atMost_iff_covers (hS : S.Lawful) (hK : K.Lawful) (hread : SameReading S K)
    (hcc : r.cfg.teeType.isCC = true) {W : Kube.WebhookConfig} {pod' : PodTemplate}
    (hpod' : Kube.mutate W r.pod = .ok pod') :
    AtMost (addPodAllocatedResources r.nd pod') r.nd' ↔
      (Kube.shouldInject r.pod = true → r.SidecarCovers) := by
  obtain ⟨cpu, gpu, mem, h⟩ := r.reads
  have hrequest := r.memoryRequest hS hK hread h
  have hram := r.mounted_add hread
  obtain ⟨hlimit, hmin⟩ := sidecarMem_cases r.isGPU
  have hminimum : Kube.minPrimaryMemoryBytes = 16777216 := by decide
  have hreserve := r.subtracted_memory
  rw [r.share_memory hcc] at hreserve
  rw [r.atMost_iff hS]
  cases hinj : Kube.shouldInject r.pod with
  | false =>
    rw [Kube.mutate_of_not_shouldInject hinj] at hpod'
    obtain rfl := Except.ok.inj hpod'
    refine iff_of_true (fun k => .inr ?_) fun hcontra => absurd hcontra Bool.false_ne_true
    rw [r.discovered_pod hS hK hread h]
    by_cases hk : k = .memory
    · subst hk
      rw [requested, volumesOf, hreserve, hrequest]
      split <;> omega
    · have hle := r.requested_le hS hK hread hcc h (r.w.memoryAmounts K mem).1 false hk
      have hside : 0 ≤ sidecarRequested false k + r.volumesOf k := by
        cases k <;> simp [sidecarRequested, volumesOf] at hk ⊢
      omega
  | true =>
    obtain ⟨henabled, hkind⟩ := r.of_shouldInject hinj
    have hdiscovered := r.discovered_sidecar hS hK hread h hinj hpod'
    have hmemory : r.discovered pod' .memory ≤ r.subtracted .memory ↔ r.SidecarCovers := by
      grind [requested, volumesOf, sidecarRequested, SidecarCovers]
    rw [← hmemory]
    refine ⟨by grind [memory_known], fun hle k => .inr ?_⟩
    by_cases hk : k = .memory
    · subst hk
      exact hle rfl
    · rw [hdiscovered]
      exact r.requested_le hS hK hread hcc h _ _ hk

end Replica

/-! ### Samples -/

def sampleNode : Node := freeNode "node" 1000 1073741824 0 []

def sampleService (vols : List Rtypes.Storage) : Mani.Service :=
  { plainService "web" "nginx" [] with
    resources := ⟨1, some ⟨100, []⟩, some ⟨268435456, []⟩, vols, some ⟨0, []⟩, []⟩ }

def sampleAttempt (teeType : TEEType) (teePlatform : TEEPlatform) : AttemptConfig :=
  ⟨teeType, teePlatform, "", false, ""⟩

/-- A service is stored with its parameters, and its workload is built. -/
def buildSample (svc : Mani.Service) (sparams : Option SchedulerParams) :
    Except Kube.BuildErr Kube.Workload := do
  let group : Mani.Group := ⟨"group", [svc]⟩
  let settings : Crd.ClusterSettings := ⟨[sparams]⟩
  let lid : LeaseID := ⟨"owner", 5, 1, 1, "provider"⟩
  let m ← (newManifest KubeSdk.reference.toManifestSdk "lease" lid group settings).mapError .encode
  Kube.newWorkloadBuilder .reference Kube.plainSettings ⟨lid, group, settings, "", true⟩ m.spec 0

variable {w : Kube.Workload}

theorem builtFor_buildSample {svc : Mani.Service} {sparams : Option SchedulerParams}
    (h : buildSample svc sparams = .ok w) :
    BuiltFor .reference Kube.plainSettings svc sparams w := by
  obtain ⟨m, hm, hw⟩ := Except.bind_eq_ok_iff.mp h
  exact .intro (Except.mapError_eq_ok_iff.mp hm) rfl rfl hw

/-- The service is reserved on the node, stored, and built: the node afterwards and the pod. -/
def hostSample (vols : List Rtypes.Storage) (cfg : AttemptConfig) :
    Except Kube.BuildErr ((Rtypes.Resources × Commit × Node) × Kube.Workload × PodTemplate) := do
  match tryAdjust .reference ⟨[sampleNode], []⟩ 0 (sampleService vols).resources cfg [] with
  | (_, .error _) => .error .panics
  | (res, .ok commit) =>
    match commit.cluster.nodes[0]? with
    | none => .error .panics
    | some nd =>
      let w ← buildSample (sampleService vols) commit.sparams
      let pod ← w.podTemplate .reference []
      .ok ((res, commit, nd), w, pod)

theorem sampleNode_inRange : InRange sampleNode where
  allocated k a h := by
    cases k <;> cases h <;> decide
  allocatable k l h := by
    cases k <;> cases h <;> decide

theorem sameReading_reference : SameReading .reference .reference := by
  constructor <;> intro attrs <;> simp only [Sdk.reference, KubeSdk.reference, findValue]
  · grind
  · cases (attrs.find? (·.key = "class")).map (·.value) with
    | none => rfl
    | some c => by_cases hc : c = "" <;> simp [hc, Option.filter]

theorem replica_of_hostSample {vols : List Rtypes.Storage} {cfg : AttemptConfig}
    {res : Rtypes.Resources} {commit : Commit} {pod : PodTemplate}
    (h : hostSample vols cfg = .ok ((res, commit, nd), w, pod)) :
    ∃ r : Replica .reference .reference, r.cfg = cfg ∧ r.res = (sampleService vols).resources ∧
      r.nd = sampleNode ∧ r.nd' = nd ∧ r.pod = pod := by
  unfold hostSample at h
  split at h
  next => cases h
  next res₁ commit₁ hreserved =>
  split at h
  next => cases h
  next nd₁ hafter =>
  obtain ⟨w₁, hw, h⟩ := Except.bind_eq_ok_iff.mp h
  obtain ⟨pod₁, hpod, h⟩ := Except.bind_eq_ok_iff.mp h
  obtain ⟨⟨rfl, rfl, rfl⟩, rfl, rfl⟩ := by simpa using Except.ok.inj h
  exact ⟨{ reserved := hreserved, before := rfl, after := hafter, inRange := sampleNode_inRange
           interconnect := by decide, unit := .refl _, built := builtFor_buildSample hw
           committed := ⟨rfl, rfl, rfl, rfl⟩, pod_eq := hpod, .. }, rfl, rfl, rfl, rfl, rfl⟩

theorem exists_replica (vols : List Rtypes.Storage) (cfg : AttemptConfig)
    (check : Node → PodTemplate → Bool)
    (h : (hostSample vols cfg).toOption.any (fun e => check e.1.2.2 e.2.2) = true) :
    ∃ r : Replica .reference .reference, r.cfg = cfg ∧ r.res.storage = vols ∧
      r.nd = sampleNode ∧ check r.nd' r.pod = true := by
  rw [Option.any_eq_true] at h
  obtain ⟨⟨⟨res, commit, nd⟩, w, pod⟩, hhost, hcheck⟩ := h
  obtain ⟨r, hcfg, hres, hnd, hnd', hpod⟩ :=
    replica_of_hostSample (Except.eq_ok_of_toOption_eq_some hhost)
  exact ⟨r, hcfg, by rw [hres]; rfl, hnd, by rw [hnd', hpod]; exact hcheck⟩

/-- A volume without a class, and a `ram` volume. -/
def diskVolume (name : String) (size : UInt64) : Rtypes.Storage := ⟨name, size, []⟩

def ramVolume (name : String) (size : UInt64) : Rtypes.Storage :=
  ⟨name, size, [⟨"persistent", "false"⟩, ⟨"class", "ram"⟩]⟩

def sampleWebhook : Kube.WebhookConfig := ⟨"sidecar", []⟩

/-- Without a TEE type the two accounts of a replica are the same exactly if the pod has every
volume that was reserved.  With one, node discovery adds no more than was reserved exactly if the
sidecar covers the memory volumes. -/
theorem accounts_agree_iff {S : Sdk} {K : KubeSdk} (hS : S.Lawful) (hK : K.Lawful)
    (hread : SameReading S K) (r : Replica S K) :
    (r.cfg.teeType.isCC = false →
      (SameAccount (addPodAllocatedResources r.nd r.pod) r.nd' ↔ Counted S K r.res.storage)) ∧
    (r.cfg.teeType.isCC = true →
      ∀ (W : Kube.WebhookConfig) (pod' : PodTemplate), Kube.mutate W r.pod = .ok pod' →
        (AtMost (addPodAllocatedResources r.nd pod') r.nd' ↔
          (Kube.shouldInject r.pod = true → r.SidecarCovers))) :=
  ⟨fun hcc => r.sameAccount_iff_counted hS hK hread hcc,
    fun hcc _ _ hpod' => r.atMost_iff_covers hS hK hread hcc hpod'⟩

/-- One volume of each sort without a TEE type, and a service without volumes next to a
sidecar. -/
theorem accounts_agree_samples :
    (∃ r : Replica .reference .reference,
      r.cfg.teeType = .none ∧ r.res.storage = [diskVolume "root" 512, ramVolume "shm" 4096] ∧
        SameAccount (addPodAllocatedResources r.nd r.pod) r.nd') ∧
    ∃ (r : Replica .reference .reference) (pod' : PodTemplate),
      r.cfg.teeType = .cpu ∧ Kube.mutate sampleWebhook r.pod = .ok pod' ∧
        pod'.containers.length = 2 ∧ AtMost (addPodAllocatedResources r.nd pod') r.nd' := by
  constructor
  · obtain ⟨r, hcfg, hvols, -, -⟩ := exists_replica
      [diskVolume "root" 512, ramVolume "shm" 4096] (sampleAttempt .none .none)
      (fun _ _ => true) (by decide +kernel)
    have hcounted : Counted .reference .reference r.res.storage := by
      rw [hvols]
      exact ⟨by decide, by decide⟩
    refine ⟨r, by rw [hcfg]; rfl, hvols, ?_⟩
    exact ((accounts_agree_iff Sdk.reference_lawful KubeSdk.reference_lawful sameReading_reference
      r).1 (by rw [hcfg]; rfl)).mpr hcounted
  · obtain ⟨r, hcfg, hvols, -, hcheck⟩ := exists_replica []
      (sampleAttempt .cpu .snp)
      (fun _ pod => (Kube.mutate sampleWebhook pod).toOption.any (·.containers.length = 2))
      (by decide +kernel)
    rw [Option.any_eq_true] at hcheck
    obtain ⟨pod', hmutate, hlength⟩ := hcheck
    replace hmutate := Except.eq_ok_of_toOption_eq_some hmutate
    refine ⟨r, pod', by rw [hcfg]; rfl, hmutate, of_decide_eq_true hlength, ?_⟩
    refine ((accounts_agree_iff Sdk.reference_lawful KubeSdk.reference_lawful
      sameReading_reference r).2 (by rw [hcfg]; rfl) sampleWebhook pod' hmutate).mpr fun _ => ?_
    obtain ⟨hlimit, hmin⟩ := Replica.sidecarMem_cases r.isGPU
    have hmounted : r.mounted = 0 := by
      rw [Replica.mounted, hvols]
      rfl
    have hminimum : Kube.minPrimaryMemoryBytes = 16777216 := by decide
    rw [Replica.SidecarCovers, hmounted]
    omega

/-- Of two volumes without a class only the last is counted.  Next to a sidecar, a memory volume
is counted twice. -/
theorem accounts_differ :
    (∃ r : Replica .reference .reference,
      r.cfg.teeType = .none ∧ r.res.storage = [diskVolume "root" 1, diskVolume "data" 2] ∧
        (addPodAllocatedResources r.nd r.pod).resources.ephemeralStorage.allocated = some 2000 ∧
        r.nd'.resources.ephemeralStorage.allocated = some 3000 ∧
        ¬ SameAccount (addPodAllocatedResources r.nd r.pod) r.nd') ∧
    ∃ (r : Replica .reference .reference) (pod' : PodTemplate),
      r.cfg.teeType = .cpu ∧ r.res.storage = [ramVolume "shm" 134217728] ∧
        Kube.mutate sampleWebhook r.pod = .ok pod' ∧
        (addPodAllocatedResources r.nd pod').resources.memory.quantity.allocated =
          some 536870912000 ∧
        r.nd'.resources.memory.quantity.allocated = some 469762048000 ∧
        ¬ AtMost (addPodAllocatedResources r.nd pod') r.nd' := by
  constructor
  · obtain ⟨r, hcfg, hvols, hnd, hcheck⟩ := exists_replica
      [diskVolume "root" 1, diskVolume "data" 2] (sampleAttempt .none .none)
      (fun nd pod => (addPodAllocatedResources sampleNode pod).resources.ephemeralStorage.allocated
        = some 2000 ∧ nd.resources.ephemeralStorage.allocated = some 3000) (by decide +kernel)
    obtain ⟨hpod, hnode⟩ := of_decide_eq_true hcheck
    rw [← hnd] at hpod
    refine ⟨r, by rw [hcfg]; rfl, hvols, hpod, hnode, fun hsame => ?_⟩
    have heq := congrArg ResourcePair.allocated (hsame .ephemeralStorage)
    exact absurd (hpod.symm.trans (heq.trans hnode)) (by decide)
  · obtain ⟨r, hcfg, hvols, hnd, hcheck⟩ := exists_replica
      [ramVolume "shm" 134217728] (sampleAttempt .cpu .snp)
      (fun nd pod => nd.resources.memory.quantity.allocated = some 469762048000 ∧
        (Kube.mutate sampleWebhook pod).toOption.any fun pod' =>
          (addPodAllocatedResources sampleNode pod').resources.memory.quantity.allocated =
            some 536870912000) (by decide +kernel)
    obtain ⟨hnode, hcheck⟩ := of_decide_eq_true hcheck
    rw [Option.any_eq_true] at hcheck
    obtain ⟨pod', hmutate, hpod⟩ := hcheck
    replace hpod := of_decide_eq_true hpod
    rw [← hnd] at hpod
    refine ⟨r, pod', by rw [hcfg]; rfl, hvols, Except.eq_ok_of_toOption_eq_some hmutate, hpod,
      hnode, fun hle => ?_⟩
    exact absurd (hle .memory _ _ hpod hnode) (by decide)

end AkashProvider.Operator
