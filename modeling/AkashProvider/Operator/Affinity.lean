import AkashProvider.Inventory.Stamps
import AkashProvider.Operator.Accounts
import AkashProvider.Operator.Labels

/-!
# Affinity to the nodes of a grant

`Adjust` records vendor and model of a device for the scheduler, and the workload turns the record
into an affinity to nodes (`schedulable_affinity_iff`).  The memory and the interface that a
request names are stamped but not recorded, so a pod may land on a node that has only other
devices of the model (`granted_device_affinity`).
-/

namespace AkashProvider.Operator

open InventoryV1 (Node GPUInfo)
open Kube (KubeSdk Settings)

variable {S : Sdk} {K : KubeSdk}

/-- The inventory asks the storage classes of a node for a class. -/
def ClassesListed (S : Sdk) : Prop :=
  ∀ nd c, S.isStorageClassSupported nd c = true → c ∈ nd.capabilities.storageClasses

/-- The node has a device of the vendor and model. -/
def HasDevice (nd : Node) (vendor model : String) : Prop :=
  ∃ d ∈ nd.resources.gpu.info, d.vendor = vendor ∧ d.name = model

/-- The node has a device of the vendor and model, with the memory and interface that were asked
for. -/
def HasVariant (S : Sdk) (nd : Node) (vendor model : String)
    (attr : Option GPUModelAttributes) : Prop :=
  ∃ d ∈ nd.resources.gpu.info, d.vendor = vendor ∧ d.name = model ∧ DeviceMeets S attr d

/-- The node has the storage classes of the persistent volumes. -/
def HasClasses (K : KubeSdk) (nd : Node) (vols : List Rtypes.Storage) : Prop :=
  ∀ vol ∈ vols, K.findPersistent vol.attributes = some true →
    ∀ c, K.findClass vol.attributes = some c → c ∈ nd.capabilities.storageClasses

/-- The labels have the runtime class of the parameters. -/
def RuntimeMet (labels : Labels) (sparams : Option Crd.SchedulerParams) : Prop :=
  ∀ sp, sparams = some sp → ∀ req ∈ Kube.Workload.runtimeSelectors sp.runtimeClass,
    meets labels req = true

/-! ## What the affinity asks for -/

theorem schedulable_affinity_iff {w : Kube.Workload} {labels : Labels} {v m : String}
    (hgpu : (w.sparams.bind (·.resources)).bind (·.gpu) = some ⟨v, m, "", ""⟩) :
    Schedulable labels (w.affinity K) ↔
      meets labels (Kube.Workload.labelTrue akashManagedLabelName) = true ∧
      Positive labels (Kube.Workload.gpuModelKey v m) ∧
      RuntimeMet labels w.sparams ∧
      ∀ vol ∈ w.stored.resources.storage, K.findPersistent vol.attributes = some true →
        ∀ c, K.findClass vol.attributes = some c →
          Positive labels (Kube.Workload.storageClassKey c) := by
  obtain ⟨sp, hsp, hgpu⟩ : ∃ sp, w.sparams = some sp ∧
      sp.resources.bind (·.gpu) = some ⟨v, m, "", ""⟩ := by
    cases hsp : w.sparams with
    | none => rw [hsp] at hgpu; cases hgpu
    | some sp => exact ⟨sp, rfl, by rw [hsp] at hgpu; exact hgpu⟩
  obtain ⟨res, hres, hgpu⟩ := Option.bind_eq_some_iff.mp hgpu
  have hselectors : Kube.Workload.nodeSelectorsFromResources res =
      [Kube.Workload.labelGt (Kube.Workload.gpuModelKey v m)] := by
    rw [Kube.Workload.nodeSelectorsFromResources, hgpu]
    rfl
  have hstorage : (∀ req ∈ w.storageSelectors K, meets labels req = true) ↔
      ∀ vol ∈ w.stored.resources.storage, K.findPersistent vol.attributes = some true →
        ∀ c, K.findClass vol.attributes = some c →
          Positive labels (Kube.Workload.storageClassKey c) := by
    simp only [Kube.Workload.storageSelectors, Kube.Workload.isPersistent, List.mem_filterMap,
      List.mem_filter, Option.map_eq_some_iff, decide_eq_true_iff]
    constructor
    · intro h vol hvol hpersistent c hc
      exact h _ ⟨vol, ⟨hvol, hpersistent⟩, c, hc, rfl⟩
    · rintro h req ⟨vol, ⟨hvol, hpersistent⟩, c, hc, rfl⟩
      exact h vol hvol hpersistent c hc
  unfold Schedulable Kube.Workload.affinity RuntimeMet
  simp only [hsp, Option.bind_some, hres, Option.elim_some, hselectors, List.forall_mem_cons,
    List.forall_mem_append, List.not_mem_nil, hstorage, false_imp_iff, implies_true, and_true,
    Option.some.injEq, forall_eq', and_assoc]
  rfl

/-! ## Grants -/

section

variable {inv inv' : Inventory} {rg : ResourceGroup} {opts : InventoryOptions} {g : Grant}
  {p : Placed}

/-- What a replica with GPUs is stamped with: a device of its node that meets the request.  The
node has the storage classes of the replica too. -/
@[grind cases]
structure Stamped (S : Sdk) (inv : Inventory) (p : Placed) (nd : Node) (info : GPUInfo)
    (attr : Option GPUModelAttributes) : Prop where
  node : inv.sanitized.nodes[p.node]? = some nd
  listed : info ∈ nd.resources.gpu.info
  vendor : info.vendor ∈ ["nvidia", "amd"]
  meets : DeviceMeets S attr info
  recorded : (p.sparams.bind (·.resources)).bind (·.gpu) = some ⟨info.vendor, info.name, "", ""⟩
  granted : p.resources.gpu =
    some ⟨gpuUnits p.resources, [⟨gpuKey info.vendor info.name attr, "true"⟩]⟩
  volumes : ∀ vol ∈ p.resources.storage, VolumeAdmitted S nd vol
  cpu : p.resources.cpu.isSome
  memory : p.resources.memory.isSome

theorem placed_stamped (hS : S.Lawful) (hadj : adjust S inv rg opts = (inv', .ok g))
    (hp : p ∈ g.placed) (hunits : gpuUnits p.resources ≠ 0) :
    ∃ nd info attr, Stamped S inv p nd info attr := by
  obtain ⟨st, hprog, -, -, rfl⟩ := adjust_eq_ok hadj
  obtain ⟨a⟩ := placed_attempt hprog.run hp
  obtain ⟨passed⟩ := tryAdjust_eq_ok a.ok
  have hsame := passed.sameRequest
  rw [hsame.gpuUnits_eq] at hunits
  obtain ⟨info, attr, listed, vendor, meets, recorded, granted⟩ := passed.stamped hS hunits
  rw [← a.sparams] at recorded
  rw [← hsame.gpuUnits_eq] at granted
  obtain ⟨nd, f, node, hcharged⟩ := a.node_charged hS passed.devices.node_eq
  rw [hcharged] at listed
  refine ⟨nd, info, attr, node, listed, vendor, meets, recorded, granted, ?_, ?_, ?_⟩
  · intro vol hvol
    rw [hsame.storage_eq] at hvol
    refine (volumes_admitted hS _ _ passed.rest.volumes_ok vol hvol).congr hS ?_
    rw [← passed.devices.capabilities_eq, hcharged]
    rfl
  · rw [hsame.cpu_eq, passed.devices.cpu_eq]
    rfl
  · rw [passed.request_eq, passed.rest.memory_eq]
    rfl

variable {attr : Option GPUModelAttributes} {info : GPUInfo} {nd : Node}

theorem Stamped.vendor_no_dot (h : Stamped S inv p nd info attr) : '.' ∉ info.vendor.toList := by
  have hvendor := h.vendor
  simp only [List.mem_cons, List.not_mem_nil, or_false] at hvendor
  rcases hvendor with hv | hv <;> rw [hv] <;> decide

theorem Stamped.hasDevice (h : Stamped S inv p nd info attr) :
    HasDevice nd info.vendor info.name :=
  ⟨info, h.listed, rfl, rfl⟩

theorem Stamped.hasClasses (hread : SameReading S K) (hlisted : ClassesListed S)
    (h : Stamped S inv p nd info attr) : HasClasses K nd p.resources.storage := by
  intro vol hvol hpersistent c hc
  obtain ⟨attrs, hparse, hsupported⟩ := h.volumes vol hvol
  simp only [parseStorageAttributes] at hparse
  rw [hread.persistent, hread.storageClass, hpersistent, hc] at hparse
  split at hparse
  next => cases hparse
  next =>
    cases hparse
    exact hlisted nd c (hsupported rfl)

theorem runtimeMet_withTEEParams (h : Stamped S inv p nd info attr)
    (params : Option Mani.ServiceParams) (labels : Labels) :
    RuntimeMet labels (withTEEParams params p.sparams) ↔ RuntimeMet labels p.sparams := by
  have hrecorded := h.recorded
  unfold RuntimeMet
  cases hsp : p.sparams with
  | none =>
    rw [hsp] at hrecorded
    cases hrecorded
  | some sp =>
    simp only [withTEEParams]
    split <;> simp

variable {settings : Settings} {svc : Mani.Service} {w : Kube.Workload} {cfg : NodeConfig}
  {presentSc : List String} {labels : Labels}

/-- The labels of a node meet the affinity of a replica exactly if the node has a device of the
model, the runtime and the storage classes. -/
theorem Stamped.schedulable_iff {nd₀ : Node} (h : Stamped S inv p nd₀ info attr)
    (hname : '.' ∉ info.name.toList) (hsvc : svc.resources.SameRequest p.resources)
    (hbuilt : BuiltFor K settings svc p.sparams w)
    (hlabels : Labelled S cfg presentSc nd labels) :
    Schedulable labels (w.affinity K) ↔ HasDevice nd info.vendor info.name ∧
      RuntimeMet labels p.sparams ∧ HasClasses K nd p.resources.storage := by
  obtain ⟨-, hstored, hsparams⟩ := hbuilt.spec (by rw [hsvc.cpu_eq]; exact h.cpu)
    (by
      have hgpu := hsvc.gpu_units_eq
      rw [h.granted, Option.map_some] at hgpu
      exact Option.isSome_of_eq_some (Option.map_eq_some_iff.mp hgpu).choose_spec.1)
    (by rw [hsvc.memory_eq]; exact h.memory)
  have hrecorded : (w.sparams.bind (·.resources)).bind (·.gpu) =
      some ⟨info.vendor, info.name, "", ""⟩ := by
    rw [hsparams, withTEEParams_resources, h.recorded]
  rw [schedulable_affinity_iff hrecorded, hlabels.positive_gpuModelKey h.vendor_no_dot hname,
    hsparams, runtimeMet_withTEEParams h, hstored, hsvc.storage_eq]
  simp only [hlabels.managed, hlabels.positive_storageClassKey, true_and]
  rfl

end

/-! ## Samples -/

def gpuService : Mani.Service :=
  { plainService "web" "nginx" [] with
    resources := plainRequest 100 16 ⟨1, [⟨"vendor/nvidia/model/a100/ram/80Gi", "true"⟩]⟩ }

/-- The service is placed, stored and built: the unit and the workload. -/
def gpuSample (inv : Inventory) (opts : InventoryOptions) :
    Except Kube.BuildErr (Grant × ResourceUnit × Kube.Workload) := do
  match (adjust .reference inv (plainGroup gpuService.resources 1) opts).2 with
  | .error _ => .error .panics
  | .ok g =>
    match g.allocatedResources[0]? with
    | none => .error .panics
    | some u =>
      let w ← buildSample gpuService (g.paramsOf u)
      .ok (g, u, w)

/-- The grant of the service, its unit, and the workload that is built for it. -/
structure SampleOf (inv : Inventory) (opts : InventoryOptions) (g : Grant) (u : ResourceUnit)
    (w : Kube.Workload) : Prop where
  granted : ∃ inv', adjust .reference inv (plainGroup gpuService.resources 1) opts = (inv', .ok g)
  unit : g.allocatedResources[0]? = some u
  built : BuiltFor .reference Kube.plainSettings gpuService (g.paramsOf u) w

theorem exists_gpuSample (inv : Inventory) (opts : InventoryOptions)
    (check : Grant → ResourceUnit → Kube.Workload → Bool)
    (h : (gpuSample inv opts).toOption.any (fun e => check e.1 e.2.1 e.2.2) = true) :
    ∃ g u w, SampleOf inv opts g u w ∧ check g u w = true := by
  rw [Option.any_eq_true] at h
  obtain ⟨⟨g, u, w⟩, hsample, hcheck⟩ := h
  replace hsample := Except.eq_ok_of_toOption_eq_some hsample
  unfold gpuSample at hsample
  split at hsample
  next => cases hsample
  next g₁ hadj =>
    split at hsample
    next => cases hsample
    next u₁ hunit =>
      obtain ⟨w₁, hw, ⟨⟩⟩ := Except.bind_eq_ok_iff.mp hsample
      exact ⟨g, u, w, ⟨⟨_, Prod.ext rfl hadj⟩, hunit, builtFor_buildSample hw⟩, hcheck⟩

def openConfig : NodeConfig := ⟨fun _ => false, fun _ _ => []⟩

def readyNode : KubeNode := ⟨"node", [], false, [("Ready", "True")], []⟩

def sampleLabels (nd : Node) : Labels :=
  patchedLabels readyNode (generateLabels .reference openConfig readyNode nd []).1

theorem labelled_sample (name : String) (cpu memory gpus : Int) (info : List GPUInfo) :
    Labelled .reference openConfig [] (freeNode name cpu memory gpus info)
      (sampleLabels (freeNode name cpu memory gpus info)) :=
  .intro rfl rfl rfl

def oneDevice (name : String) (info : GPUInfo) : Node := freeNode name 1000 1073741824 1 [info]

def infoA100Half : GPUInfo := ⟨"nvidia", "a100", "pcie", "40Gi"⟩

end AkashProvider.Operator
