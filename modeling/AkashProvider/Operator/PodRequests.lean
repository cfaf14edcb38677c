import AkashProvider.Inventory.Devices
import AkashProvider.Lib.Forall2
import AkashProvider.Manifest.RoundTrip
import AkashProvider.Operator.Discovery

/-!
# What a pod of a workload asks for

The container of a workload sets each request once, but for the ephemeral storage, where every
volume replaces the one before (`resourceAmounts_sum`).  The `ram` volumes are volumes of the pod
(`volumes_sum`).  The service comes from the stored manifest, with the recorded parameters
(`BuiltFor`).
-/

namespace AkashProvider.Operator

open InventoryV1 (Quantity Node ResourcePair Cluster)
open Crd (SchedulerParams)
open Kube (KubeSdk PodTemplate Settings)

/-! ## Sizes -/

variable {vol : Rtypes.Storage} {vols : List Rtypes.Storage}

theorem quantity_le_totalSize (h : vol ∈ vols) : vol.quantity.toNat ≤ totalSize vols :=
  List.single_le_sum (fun _ _ => Nat.zero_le _) _ (List.mem_map_of_mem h)

theorem totalSize_filter_add (p : Rtypes.Storage → Bool) (vols : List Rtypes.Storage) :
    totalSize vols = totalSize (vols.filter p) + totalSize (vols.filter fun vol => !p vol) := by
  induction vols with
  | nil => rfl
  | cons vol rest ih =>
    cases hp : p vol <;> simp [hp, ih] <;> omega

theorem totalSize_eq_zero_iff :
    totalSize vols = 0 ↔ ∀ vol ∈ vols, vol.quantity = 0 := by
  rw [totalSize, List.sum_eq_zero_iff]
  simp [← UInt64.toNat_inj]

def int64Bound : Nat := 9223372036854775808

theorem int64_eq {n : UInt64} (h : n.toNat < int64Bound) : Go.int64 n = n.toNat := by
  have hlt : 2 * n.toNat < 2 ^ 64 := by
    unfold int64Bound at h
    omega
  rw [Go.int64, BitVec.toInt_eq_toNat_of_lt hlt]
  rfl

theorem int64_zero : Go.int64 0 = 0 := by decide

theorem sum_int64 (h : totalSize vols < int64Bound) :
    (vols.map fun vol => 1000 * Go.int64 vol.quantity).sum = 1000 * (totalSize vols : Int) := by
  induction vols with
  | nil => rfl
  | cons vol rest ih => grind [totalSize_cons, Go.int64, int64_eq]

theorem toNat_foldl_add (vols : List Rtypes.Storage) :
    ∀ acc : UInt64, acc.toNat + totalSize vols < int64Bound →
      (vols.foldl (· + ·.quantity) acc).toNat = acc.toNat + totalSize vols := by
  induction vols with
  | nil =>
    intro acc _
    rfl
  | cons vol rest ih =>
    intro acc h
    unfold int64Bound at h ih
    rw [totalSize_cons] at h ⊢
    have hadd : (acc + vol.quantity).toNat = acc.toNat + vol.quantity.toNat := by
      rw [UInt64.toNat_add]
      omega
    rw [List.foldl_cons, ih _ (by rw [hadd]; omega), hadd]
    omega

/-! ## Volumes -/

/-- The inventory and the builders read the attributes of a volume the same way. -/
@[grind cases]
structure SameReading (S : Sdk) (K : KubeSdk) : Prop where
  persistent : ∀ attrs, S.findPersistent attrs = (K.findPersistent attrs).getD false
  storageClass : ∀ attrs, S.findClass attrs = (K.findClass attrs).getD ""

variable {S : Sdk}

theorem volumeAccount_memory_iff :
    volumeAccount S vol = some (.node .memory) ↔
      S.findPersistent vol.attributes = false ∧ S.findClass vol.attributes = "ram" := by
  grind [volumeAccount, parseStorageAttributes]

theorem volumeAccount_ephemeral_iff :
    volumeAccount S vol = some (.node .ephemeralStorage) ↔
      S.findPersistent vol.attributes = false ∧ S.findClass vol.attributes ≠ "ram" := by
  grind [volumeAccount, parseStorageAttributes]

variable {K : KubeSdk}

/-- A `ram` volume of the inventory is one of the pod if it says that it is not persistent. -/
theorem isRAMVolume_iff (hread : SameReading S K) :
    Kube.isRAMVolume K vol = true ↔ volumeAccount S vol = some (.node .memory) ∧
      K.findPersistent vol.attributes ≠ none := by
  rw [volumeAccount_memory_iff, hread.persistent, hread.storageClass, Kube.isRAMVolume,
    decide_eq_true_iff]
  cases K.findPersistent vol.attributes <;> cases K.findClass vol.attributes <;>
    simp [and_comm]

/-! ## The workload of a service -/

/-- `w` is built for a service, from the stored manifest of its group and with the scheduler
parameters that were recorded for it. -/
inductive BuiltFor (K : KubeSdk) (settings : Settings) (svc : Mani.Service)
    (sparams : Option SchedulerParams) (w : Kube.Workload) : Prop
  | intro {ns : String} {lid : LeaseID} {g : Mani.Group} {cluster : Crd.ClusterSettings}
      {m : Crd.Manifest} {d : Kube.ClusterDeployment} {i : Nat}
      (stored : newManifest K.toManifestSdk ns lid g cluster = .ok m)
      (service : g.services[i]? = some svc) (params : cluster.schedulerParams[i]? = some sparams)
      (built : Kube.newWorkloadBuilder K settings d m.spec i = .ok w)

theorem BuiltFor.spec {settings : Settings} {svc : Mani.Service} {sparams : Option SchedulerParams}
    {w : Kube.Workload} (h : BuiltFor K settings svc sparams w) (hcpu : svc.resources.cpu.isSome)
    (hgpu : svc.resources.gpu.isSome) (hmemory : svc.resources.memory.isSome) :
    w.settings = settings ∧ w.stored.resources = { svc.resources with endpoints := [] } ∧
      w.sparams = withTEEParams svc.params sparams := by
  obtain @⟨ns, lid, g, cluster, m, d, i, stored, service, params, built⟩ := h
  obtain ⟨-, -, -, hall⟩ := newManifest_services stored
  obtain ⟨⟨group, sps⟩, hgroup, built⟩ := Except.bind_eq_ok_iff.mp built
  rw [Except.mapError_eq_ok_iff] at hgroup
  obtain ⟨services, hservices, hgroup⟩ := Except.bind_eq_ok_iff.mp hgroup
  obtain ⟨rfl, rfl⟩ := Prod.mk.inj (Except.ok.inj hgroup)
  rw [Except.mapM_eq_ok_iff] at hservices
  dsimp only at built
  split at built
  next _ _ hstored hsp =>
    split at built
    next => cases built
    next =>
      obtain rfl := Except.ok.inj built
      rw [List.getElem?_map, Option.map_eq_some_iff] at hsp
      obtain ⟨ms, hms, rfl⟩ := hsp
      have hzip : (g.services.zip cluster.schedulerParams)[i]? = some (svc, sparams) := by grind
      obtain ⟨ru, hru, hms'⟩ := Except.bind_eq_ok_iff.mp (hall.of_getElem? hzip hms)
      obtain rfl := Except.ok.inj hms'
      obtain ⟨_, -, hread⟩ := Except.bind_eq_ok_iff.mp (hservices.of_getElem? hms hstored)
      obtain rfl := Except.ok.inj hread
      exact ⟨rfl, resources_toAkash hru hcpu hgpu hmemory, rfl⟩
  next => cases built

/-! ## Requests of the container -/

/-- The names that are counted on a quantity of every node. -/
def reservedNames : List String :=
  [Kube.resourceCPU, Kube.resourceMemory, Kube.resourceEphemeralStorage, Kube.resourceGPUNvidia,
    Kube.resourceGPUNvidiaPGPU, Kube.resourceGPUAMD]

def gpuNames : List String :=
  [Kube.resourceGPUNvidia, Kube.resourceGPUNvidiaPGPU, Kube.resourceGPUAMD]

/-- From `a` to `b` the requests have grown by `m`, under some of the names. -/
@[grind cases]
structure Adds (interconnectResource : String) (names : List String) (m : NodeAmounts)
    (a b : Kube.Workload.Amounts) : Prop where
  sum : (b.1.map (requestAmounts interconnectResource)).sum =
    (a.1.map (requestAmounts interconnectResource)).sum + m
  names : ∀ name ∈ b.1.map Prod.fst, name ∈ names ∨ name ∈ a.1.map Prod.fst

namespace Adds

variable {ic : String} {names names' : List String} {m m' : NodeAmounts}
  {a b c : Kube.Workload.Amounts}

theorem refl (a : Kube.Workload.Amounts) : Adds ic names 0 a a where
  sum := (add_zero _).symm
  names _ h := .inr h

theorem trans (h₁ : Adds ic names m a b) (h₂ : Adds ic names' m' b c) :
    Adds ic (names ++ names') (m + m') a c where
  sum := by rw [h₂.sum, h₁.sum, add_assoc]
  names name h := by
    rw [List.mem_append]
    obtain h | h := h₂.names name h
    · exact .inl (.inr h)
    · exact (h₁.names name h).imp_left .inl

theorem fresh (h : Adds ic names m ([], []) b) {name : String} (hname : name ∉ names) :
    name ∉ b.1.map Prod.fst :=
  fun hmem => (h.names name hmem).elim hname List.not_mem_nil

theorem setAmount {name : String} {request : Quantity} (limit : Quantity)
    (hfresh : name ∉ a.1.map Prod.fst) (hname : name ∈ names) :
    Adds ic names (requestAmounts ic (name, request)) a
      (Kube.Workload.setAmount a name request limit) := by
  have hkeep : a.1.filter (fun e => e.1 ≠ name) = a.1 := by grind [List.filter_eq_self]
  have hset : (Kube.Workload.setAmount a name request limit).1 = (name, request) :: a.1 := by
    rw [Kube.Workload.setAmount, Kube.ResourceList.set, hkeep]
  constructor
  · rw [hset, List.map_cons, List.sum_cons, add_comm]
  · simp_all

end Adds

theorem foldl_addEphemeral (K : KubeSdk) (w : Kube.Workload) (vols : List Rtypes.Storage) :
    ∀ amounts : Kube.Workload.Amounts, vols.foldl (w.addEphemeral K) amounts =
      (vols.getLast?.map (w.addEphemeral K amounts)).getD amounts := by
  induction vols with
  | nil =>
    intro amounts
    rfl
  | cons vol rest ih =>
    intro amounts
    rw [List.foldl_cons, ih, List.getLast?_cons]
    cases rest.getLast? with
    | none => rfl
    | some last =>
      simp_all [Kube.ResourceList.set, Kube.Workload.addEphemeral, Kube.Workload.setAmount]

section Requests

variable {K : KubeSdk} {w : Kube.Workload} {ic : String}

/-- The settings commit what is asked for. -/
@[grind cases]
structure NoOvercommit (settings : Settings) : Prop where
  cpu : settings.cpuCommitLevel = 1
  gpu : settings.gpuCommitLevel = 1
  memory : settings.memoryCommitLevel = 1
  storage : settings.storageCommitLevel = 1

variable {name : String}

theorem gpuResourceName_mem (h : w.gpuResourceName = .ok name) :
    name ∈ gpuNames := by
  unfold Kube.Workload.gpuResourceName at h
  split at h
  next => cases h
  next =>
    split at h
    next =>
      split at h
      next => cases h; decide
      next => cases h; decide
    next =>
      split at h
      next => cases h; decide
      next => cases h

theorem requestAmounts_gpu (h : name ∈ gpuNames) (q : Quantity) :
    requestAmounts ic (name, q) = Pi.single .gpu q := by
  have hcounted : countedOn ic name = some .gpu := by
    simp only [gpuNames, List.mem_cons, List.not_mem_nil, or_false] at h
    obtain rfl | rfl | rfl := h <;> rfl
  simp [requestAmounts, hcounted]

theorem requestAmounts_interconnect (hne : ic ≠ "") (hic : ic ∉ reservedNames) (q : Quantity) :
    requestAmounts ic (ic, q) = Pi.single .gpuInterconnect q := by
  grind [countedOn, reservedNames, requestAmounts]

variable {cpu : Rtypes.CPU}

theorem addCPU_adds (hcpu : w.stored.resources.cpu = some cpu) :
    Adds ic [Kube.resourceCPU] (Pi.single .cpu (w.cpuAmounts K cpu).1) ([], [])
      (w.addCPU K ([], [])) := by
  rw [Kube.Workload.addCPU, hcpu]
  exact Adds.setAmount _ List.not_mem_nil List.mem_cons_self

variable {gpu : Rtypes.GPU}

theorem addGPU_adds {a b : Kube.Workload.Amounts} (hgpu : w.stored.resources.gpu = some gpu)
    (ha : ∀ name ∈ gpuNames, name ∉ a.1.map Prod.fst) (h : w.addGPU K a = .ok b) :
    Adds ic gpuNames (Pi.single .gpu (1000 * Go.int64
      (if gpu.units > 0 then K.computeCommittedResources w.settings.gpuCommitLevel gpu.units
        else 0))) a b := by
  rw [Kube.Workload.addGPU, hgpu] at h
  dsimp only at h
  split at h
  next hunits =>
    obtain ⟨name, hname, h⟩ := Except.bind_eq_ok_iff.mp h
    obtain rfl := Except.ok.inj h
    have hmem := gpuResourceName_mem hname
    rw [if_pos hunits, ← requestAmounts_gpu hmem]
    exact Adds.setAmount _ (ha name hmem) hmem
  next hunits =>
    obtain rfl := Except.ok.inj h
    rw [if_neg hunits]
    exact Pi.single_zero (M := fun _ => Quantity) NodeResource.gpu ▸ Adds.refl a

variable {a : Kube.Workload.Amounts} {caps : InventoryV1.NodeCapabilities} {required : Bool}
  {units : UInt64}

theorem addInterconnect_adds
    (hrecord : Kube.sparamsInterconnect w.sparams = interconnectRecord required units caps)
    (hne : required = true → caps.interconnectResourceName ≠ "")
    (hic : caps.interconnectResourceName ∉ reservedNames)
    (ha : caps.interconnectResourceName ∉ a.1.map Prod.fst) :
    Adds caps.interconnectResourceName [caps.interconnectResourceName]
      (Pi.single .gpuInterconnect (1000 * Go.int64 (if required then units else 0))) a
      (w.addInterconnect a) := by
  rw [Kube.Workload.addInterconnect, hrecord]
  cases required with
  | false => exact Pi.single_zero (M := fun _ => Quantity) NodeResource.gpuInterconnect ▸ .refl a
  | true =>
    simp only [interconnectRecord, if_true, ne_eq, hne rfl, not_false_eq_true, and_self]
    rw [← requestAmounts_interconnect (hne rfl) hic]
    exact Adds.setAmount _ ha List.mem_cons_self

/-- The size of the ephemeral storage that is asked for: that of the last volume. -/
def lastEphemeral (K : KubeSdk) (vols : List Rtypes.Storage) : UInt64 :=
  ((vols.filter (Kube.Workload.isEphemeral K)).getLast?.map (·.quantity)).getD 0

theorem addEphemeral_adds (hK : K.Lawful) (hlevel : NoOvercommit w.settings)
    (ha : Kube.resourceEphemeralStorage ∉ a.1.map Prod.fst) :
    Adds ic [Kube.resourceEphemeralStorage]
      (Pi.single .ephemeralStorage
        (1000 * Go.int64 (lastEphemeral K w.stored.resources.storage))) a
      ((w.stored.resources.storage.filter (Kube.Workload.isEphemeral K)).foldl
        (w.addEphemeral K) a) := by
  rw [foldl_addEphemeral, lastEphemeral]
  cases (w.stored.resources.storage.filter (Kube.Workload.isEphemeral K)).getLast? with
  | none => exact Pi.single_zero (M := fun _ => Quantity) NodeResource.ephemeralStorage ▸ .refl a
  | some vol =>
    simp only [Option.map_some, Option.getD_some, Kube.Workload.addEphemeral, hlevel.storage,
      hK.computeCommittedResources_one]
    exact Adds.setAmount _ ha List.mem_cons_self

variable {mem : Rtypes.Memory}

theorem addMemory_adds (hmem : w.stored.resources.memory = some mem)
    (ha : Kube.resourceMemory ∉ a.1.map Prod.fst) :
    Adds ic [Kube.resourceMemory] (Pi.single .memory (1000 * (w.memoryAmounts K mem).1)) a
      (w.addMemory K a) := by
  rw [Kube.Workload.addMemory, hmem]
  exact Adds.setAmount _ ha List.mem_cons_self

/-- The requests of the container, summed up by the quantities they are counted on. -/
theorem resourceAmounts_sum (hK : K.Lawful) (hlevel : NoOvercommit w.settings)
    (hcpu : w.stored.resources.cpu = some cpu) (hgpu : w.stored.resources.gpu = some gpu)
    (hmem : w.stored.resources.memory = some mem)
    (hrecord : Kube.sparamsInterconnect w.sparams = interconnectRecord required units caps)
    (hne : required = true → caps.interconnectResourceName ≠ "")
    (hic : caps.interconnectResourceName ∉ reservedNames) {amounts : Kube.Workload.Amounts}
    (h : w.resourceAmounts K = .ok amounts) :
    (amounts.1.map (requestAmounts caps.interconnectResourceName)).sum =
      Pi.single NodeResource.cpu (w.cpuAmounts K cpu).1 +
        Pi.single NodeResource.gpu (1000 * Go.int64 gpu.units) +
        Pi.single NodeResource.gpuInterconnect
          (1000 * Go.int64 (if required then units else 0)) +
        Pi.single NodeResource.ephemeralStorage
          (1000 * Go.int64 (lastEphemeral K w.stored.resources.storage)) +
        Pi.single NodeResource.memory (1000 * (w.memoryAmounts K mem).1) := by
  obtain ⟨b, hb, h⟩ := Except.bind_eq_ok_iff.mp h
  obtain rfl := Except.ok.inj h
  have hunits : (if gpu.units > 0 then
      K.computeCommittedResources w.settings.gpuCommitLevel gpu.units else 0) = gpu.units := by
    rw [hlevel.gpu, hK.computeCommittedResources_one]
    split
    next => rfl
    next hzero => exact (UInt64.le_zero_iff.mp (UInt64.not_lt.mp hzero)).symm
  -- no name is set twice, so each step adds what it sets
  have hone : Adds caps.interconnectResourceName [Kube.resourceCPU]
      (Pi.single .cpu (w.cpuAmounts K cpu).1) ([], []) (w.addCPU K ([], [])) := addCPU_adds hcpu
  have htwo := hone.trans (addGPU_adds hgpu (fun name hname => hone.fresh (by
    simp only [gpuNames, List.mem_cons, List.not_mem_nil, or_false] at hname
    obtain rfl | rfl | rfl := hname <;> decide)) hb)
  have hsub : [Kube.resourceCPU] ++ gpuNames ⊆ reservedNames := by decide
  have hthree := htwo.trans
    (addInterconnect_adds hrecord hne hic (htwo.fresh fun hmem => hic (hsub hmem)))
  have hnew : ∀ name ∈ reservedNames, name ∉ [Kube.resourceCPU] ++ gpuNames →
      name ∉ [Kube.resourceCPU] ++ gpuNames ++ [caps.interconnectResourceName] := by
    intro name hreserved hname hmem
    rw [List.mem_append, List.mem_singleton] at hmem
    exact hmem.elim hname fun heq => hic (heq ▸ hreserved)
  have hfour := hthree.trans (addEphemeral_adds hK hlevel
    (hthree.fresh (hnew _ (by decide) (by decide))))
  have hfive := hfour.trans (addMemory_adds (K := K) hmem (hfour.fresh fun hmem => by
    rw [List.mem_append] at hmem
    exact hmem.elim (hnew _ (by decide) (by decide)) (by decide)))
  have hsum := hfive.sum
  rw [hunits] at hsum
  simpa only [List.map_nil, List.sum_nil, zero_add] using hsum

end Requests

/-! ## Recorded parameters -/

theorem withTEEParams_resources (params : Option Mani.ServiceParams)
    (sp : Option SchedulerParams) :
    (withTEEParams params sp).bind (·.resources) = sp.bind (·.resources) := by
  unfold withTEEParams
  split
  next => rfl
  next => cases sp <;> rfl

theorem withTEEParams_runtimeClass (params : Option Mani.ServiceParams)
    (sp : Option SchedulerParams) :
    ((withTEEParams params sp).map (·.runtimeClass)).getD "" =
      (sp.map (·.runtimeClass)).getD "" := by
  unfold withTEEParams
  split
  next => rfl
  next => cases sp <;> rfl

/-! ## Pods -/

section Pods

variable {K : KubeSdk} {w : Kube.Workload}

theorem sum_single {α : Type} (r : NodeResource) (f : α → Quantity) (l : List α) :
    (l.map fun x => (Pi.single r (f x) : NodeAmounts)).sum = Pi.single r (l.map f).sum := by
  induction l with
  | nil => exact (Pi.single_zero r).symm
  | cons x rest ih => rw [List.map_cons, List.sum_cons, ih, List.map_cons, List.sum_cons,
      Pi.single_add]

theorem volumes_sum (h : totalSize (w.stored.resources.storage.filter (Kube.isRAMVolume K)) <
    int64Bound) :
    ((w.volumes K).map volumeAmounts).sum = Pi.single .memory
      (1000 * (totalSize (w.stored.resources.storage.filter (Kube.isRAMVolume K)) : Int)) := by
  rw [← sum_int64 h, ← sum_single, Kube.Workload.volumes, List.map_map]
  rfl

theorem sidecarVolumes_sum (isGPU mockMode : Bool) :
    ((Kube.buildSidecarVolumes isGPU mockMode).map volumeAmounts).sum = 0 := by
  have hsize : ∀ name : String, memoryVolumeSize ⟨name, some ⟨"", none⟩⟩ = none := fun _ => rfl
  cases isGPU <;> cases mockMode <;> simp [Kube.buildSidecarVolumes, volumeAmounts, hsize]

theorem sidecar_sum (ic : String) (image : String) (isGPU : Bool) (env : List Kube.EnvVar) :
    ((Kube.buildSidecarContainer image isGPU env).requests.map (requestAmounts ic)).sum =
      Pi.single NodeResource.cpu Kube.sidecarCPURequestMillicores +
        Pi.single NodeResource.memory (1000 * if isGPU then Kube.sidecarGPUMemoryRequestBytes
          else Kube.sidecarMemoryRequestBytes) := by
  simp [Kube.buildSidecarContainer, Kube.sidecarResources, requestAmounts, countedOn,
    Kube.resourceCPU, Kube.resourceMemory]

end Pods

end AkashProvider.Operator
