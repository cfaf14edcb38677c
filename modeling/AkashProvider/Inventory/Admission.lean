import AkashProvider.Inventory.Gates

/-!
# When an attempt passes

When `tryAdjust` gets through, in terms of the node and the request: `DevicesFit` is the condition
for the gates up to the GPU, `RestFits` for memory, volumes and the sidecar.  The later gates
share accounts, and since none gives anything back, they pass if there is room for the total.
-/

namespace AkashProvider

open InventoryV1 (Quantity ResourcePair Node Cluster)
open Crd (SchedulerParams)

variable {S : Sdk} {cluster : Cluster} {node : Nat} {res : Rtypes.Resources}
  {cfg : AttemptConfig}

/-! ## Conditions -/

/-- The attributes a node pins a GPU request to. -/
def stampFor (S : Sdk) (nd : Node) (gpu : Rtypes.GPU) : Option Attributes :=
  match parseGPUAttributes S gpu.attributes with
  | .error _ => none
  | .ok attrs =>
    (findGPU S attrs gpu.units.toNat nd.resources.gpu.info).map fun found =>
      [⟨gpuKey (S.toLower found.1.vendor) found.1.name found.2, "true"⟩]

/-- The node has the CPU, the interconnect and the GPUs of the request. -/
structure DevicesFit (S : Sdk) (nd : Node) (cfg : AttemptConfig) (res : Rtypes.Resources) :
    Prop where
  cpu : ∃ r, res.cpu = some r ∧
    cpuArchMatches nd.resources.cpu.info r.attributes = .ok true ∧
    nd.resources.cpu.quantity.Fits (milliUnits r.units)
  interconnect : cfg.requiresInterconnect = true →
    interconnectCapsSuitable nd.capabilities cfg.requiredFabric = true ∧
      nd.resources.gpuInterconnect.Fits (wholeUnits (gpuUnits res))
  gpu : ∃ g, res.gpu = some g ∧ (g.units = 0 ∨
    S.available nd.resources.gpu.quantity ≠ 0 ∧ (stampFor S nd g).isSome ∧
      nd.resources.gpu.quantity.Fits (wholeUnits g.units))

/-- The attributes of the volume are read, and the node supports its class if it persists. -/
def VolumeAdmitted (S : Sdk) (nd : Node) (vol : Rtypes.Storage) : Prop :=
  ∃ attrs, parseStorageAttributes S vol.attributes = .ok attrs ∧
    (attrs.persistent = true → S.isStorageClassSupported nd attrs.storageClass = true)

def restAccounts (S : Sdk) (cfg : AttemptConfig) (res : Rtypes.Resources) : Set ReplicaAccount :=
  {k | k = .node .memory ∨ (k = .node .cpu ∧ cfg.teeType.isCC = true) ∨
    ∃ vol ∈ res.storage, volumeAccount S vol = some k}

/-- The node and the storage classes have the memory, the volumes and the sidecar. -/
@[grind cases]
structure RestFits (S : Sdk) (nd : Node) (storage : List InventoryV1.Storage)
    (cfg : AttemptConfig) (res : Rtypes.Resources) : Prop where
  memory : res.memory ≠ none
  volumes : ∀ vol ∈ res.storage, VolumeAdmitted S nd vol
  room : ∀ k ∈ restAccounts S cfg res,
    ∃ rp, accountPair (nd, storage) k = some rp ∧ rp.Fits (replicaAmount S cfg res k)

/-- The request is pinned to what the node would pin it to. -/
def Pinned (S : Sdk) (nd : Node) (res : Rtypes.Resources) : Prop :=
  ∃ g, res.gpu = some g ∧ (g.units = 0 ∨ stampFor S nd g = some g.attributes)

/-! ## Room -/

theorem InventoryV1.ResourcePair.Fits.mono {rp : ResourcePair} {p q : Quantity} (h : rp.Fits q)
    (hle : p ≤ q) : rp.Fits p := by
  obtain ⟨a, l, ha, hl, hfit⟩ := h
  exact ⟨a, l, ha, hl, Int.le_trans (Int.add_le_add_left hle a) hfit⟩

theorem room_mono {a : Node × List InventoryV1.Storage} {k : ReplicaAccount}
    {m n : ReplicaAccount → Quantity} (h : replicaLedger.Room a k n) (hle : m k ≤ n k) :
    replicaLedger.Room a k m := by
  obtain ⟨rp, hrp, hfit⟩ := h
  exact ⟨rp, hrp, hfit.mono hle⟩

theorem wholeUnits_nonneg (v : Rtypes.ResourceValue) : 0 ≤ wholeUnits v :=
  Int.mul_nonneg (by decide) (Int.natCast_nonneg _)

theorem volumeAmount_nonneg (S : Sdk) (vol : Rtypes.Storage) (k : ReplicaAccount) :
    0 ≤ volumeAmount S vol k := by
  simp only [volumeAmount]
  cases volumeAccount S vol with
  | none => exact Int.le_refl 0
  | some j =>
    show 0 ≤ (Pi.single j (wholeUnits vol.quantity) : ReplicaAccount → Quantity) k
    by_cases hkj : k = j
    · subst hkj
      rw [Pi.single_eq_same]
      exact wholeUnits_nonneg _
    · rw [Pi.single_eq_of_ne hkj]

theorem sidecarAmount_nonneg (cfg : AttemptConfig) (k : ReplicaAccount) :
    0 ≤ sidecarAmount cfg k := by
  cases hcc : cfg.teeType.isCC with
  | false =>
    rw [sidecarAmount_of_not_isCC hcc]
    exact Int.le_refl 0
  | true =>
    rcases k with r | c
    · cases r with
      | cpu =>
        simp only [sidecarAmount, hcc, if_true]
        exact Int.natCast_nonneg _
      | memory =>
        simp only [sidecarAmount, hcc, if_true]
        exact wholeUnits_nonneg _
      | gpu => exact Int.le_refl 0
      | ephemeralStorage => exact Int.le_refl 0
      | gpuInterconnect => exact Int.le_refl 0
    · exact Int.le_refl 0

/-! ## Devices -/

variable {g : Rtypes.GPU} {nd : Node}

theorem stampFor_eq_some {attrs : GPUAttributes} {info : InventoryV1.GPUInfo}
    {attr : Option GPUModelAttributes} (hparse : parseGPUAttributes S g.attributes = .ok attrs)
    (hfind : findGPU S attrs g.units.toNat nd.resources.gpu.info = some (info, attr)) :
    stampFor S nd g = some [⟨gpuKey (S.toLower info.vendor) info.name attr, "true"⟩] := by
  simp [stampFor, hparse, hfind]

theorem tryAdjustGPU_of_fit (hS : S.Lawful) (sp : SchedulerParams) (teeType : TEEType)
    (teePlatform : TEEPlatform)
    (h : g.units = 0 ∨ S.available nd.resources.gpu.quantity ≠ 0 ∧ (stampFor S nd g).isSome ∧
      nd.resources.gpu.quantity.Fits (wholeUnits g.units)) :
    ∃ out, tryAdjustGPU S nd.resources.gpu g sp teeType teePlatform = some out := by
  by_cases hunits : g.units = 0
  · exact ⟨_, tryAdjustGPU_zero hunits⟩
  · obtain ⟨havail, hstamp, hfit⟩ := h.resolve_left hunits
    have hsub := (hS.subNLZ_eq_some _ _ _).mpr ⟨hfit, rfl⟩
    simp only [stampFor] at hstamp
    simp only [tryAdjustGPU, if_neg hunits, if_neg havail, hsub]
    cases hparse : parseGPUAttributes S g.attributes with
    | error e => simp [hparse] at hstamp
    | ok attrs =>
      cases hfind : findGPU S attrs g.units.toNat nd.resources.gpu.info with
      | none => simp [hparse, hfind] at hstamp
      | some found =>
        simp only [hfind]
        exact ⟨_, rfl⟩

theorem tryAdjustDevices_of_fit (hS : S.Lawful) (hnd : cluster.nodes[node]? = some nd)
    (h : DevicesFit S nd cfg res) :
    ∃ out, tryAdjustDevices S cluster node res cfg [] = .ok out := by
  obtain ⟨r, hcpu, harch, hcpuFit⟩ := h.cpu
  obtain ⟨g, hgpu, hg⟩ := h.gpu
  have hcpuOk : tryAdjustCPU S nd.resources.cpu r = some
      { nd.resources.cpu with
        quantity := nd.resources.cpu.quantity.charge (milliUnits r.units) } := by
    have hsub := (hS.subMilliNLZ_eq_some _ _ _).mpr ⟨hcpuFit, rfl⟩
    simp only [tryAdjustCPU, harch, hsub, Option.map_some]
  have hicOk : ∃ out, tryAdjustInterconnect S nd.resources.gpuInterconnect nd.capabilities res
      .zero cfg.requiredFabric cfg.requiresInterconnect = some out := by
    cases hreq : cfg.requiresInterconnect with
    | false => exact ⟨_, rfl⟩
    | true =>
      obtain ⟨hcaps, hicFit⟩ := h.interconnect hreq
      have hunits : gpuUnits res = g.units := by simp [gpuUnits, hgpu]
      rw [hunits] at hicFit
      have hsub := (hS.subNLZ_eq_some _ _ _).mpr ⟨hicFit, rfl⟩
      simp only [tryAdjustInterconnect, hcaps, hgpu, hsub, Bool.not_true, Bool.false_eq_true,
        if_false]
      exact ⟨_, rfl⟩
  obtain ⟨⟨ic, sp⟩, hic⟩ := hicOk
  obtain ⟨⟨gpu, g', sp'⟩, hgpuOk⟩ := tryAdjustGPU_of_fit hS sp cfg.teeType cfg.teePlatform hg
  have hclaim : ¬ (cfg.interconnectGroup ≠ "" ∧
      (cfg.interconnectGroup, node) ∈ ([] : GroupClaims)) := by simp
  have hcaps : ¬ (cfg.requiresInterconnect = true ∧
      ¬ interconnectCapsSuitable nd.capabilities cfg.requiredFabric = true) := by
    rintro ⟨hreq, hno⟩
    exact hno (h.interconnect hreq).1
  simp only [tryAdjustDevices, hnd, if_neg hclaim, if_neg hcaps, hcpu, hcpuOk, hic, hgpu, hgpuOk]
  exact ⟨_, rfl⟩

theorem tryAdjustInterconnect_fits (hS : S.Lawful) {rp rp' : ResourcePair}
    {caps : InventoryV1.NodeCapabilities} {sp sp' : SchedulerParams} {fabric : String}
    (h : tryAdjustInterconnect S rp caps res sp fabric true = some (rp', sp')) :
    interconnectCapsSuitable caps fabric = true ∧ rp.Fits (wholeUnits (gpuUnits res)) := by
  simp only [tryAdjustInterconnect, Bool.not_true, Bool.false_eq_true, if_false] at h
  split at h
  next => cases h
  next hcaps =>
    split at h
    next => cases h
    next g hg =>
      split at h
      next => cases h
      next hsub => grind [gpuUnits]

variable {gpu' : Rtypes.GPU} {nd' : Node} {sp' : SchedulerParams}

/-- What passed the gates up to the GPU fits, and the request is left as it was exactly if it
was pinned. -/
theorem DevicesPassed.fits (hS : S.Lawful) (p : DevicesPassed S cluster node res cfg nd' sp' gpu') :
    DevicesFit S p.nd cfg res ∧ (res.gpu = some gpu' ↔ Pinned S p.nd res) := by
  obtain ⟨nd, cpuReq, gpuReq, cpu, ic, sp, gpu, -, cpu_eq, gpu_eq, cpu_ok, ic_ok, gpu_ok, -⟩ := p
  show DevicesFit S nd cfg res ∧ (res.gpu = some gpu' ↔ Pinned S nd res)
  have hcpu : cpuArchMatches nd.resources.cpu.info cpuReq.attributes = .ok true ∧
      nd.resources.cpu.quantity.Fits (milliUnits cpuReq.units) := by
    simp only [tryAdjustCPU] at cpu_ok
    split at cpu_ok
    next harch => grind [Option.map_eq_some_iff]
    next => cases cpu_ok
  have hic : cfg.requiresInterconnect = true →
      interconnectCapsSuitable nd.capabilities cfg.requiredFabric = true ∧
        nd.resources.gpuInterconnect.Fits (wholeUnits (gpuUnits res)) := by
    grind [tryAdjustInterconnect_fits]
  by_cases hunits : gpuReq.units = 0
  · rw [tryAdjustGPU_zero hunits, Option.some.injEq, Prod.mk.injEq, Prod.mk.injEq] at gpu_ok
    have hgpu : gpu' = gpuReq := gpu_ok.2.1.symm
    refine ⟨⟨⟨_, cpu_eq, hcpu⟩, hic, ⟨_, gpu_eq, .inl hunits⟩⟩, ?_⟩
    exact ⟨fun _ => ⟨_, gpu_eq, .inl hunits⟩, fun _ => by rw [gpu_eq, hgpu]⟩
  · obtain ⟨attrs, info, attr, q, hparse, hfind, hsub, -, hgpu, -⟩ :=
      tryAdjustGPU_eq_some hunits gpu_ok
    have hstamp := stampFor_eq_some hparse hfind
    have havail : S.available nd.resources.gpu.quantity ≠ 0 := by
      intro h0
      simp [tryAdjustGPU, hunits, h0] at gpu_ok
    refine ⟨⟨⟨_, cpu_eq, hcpu⟩, hic, ⟨_, gpu_eq, .inr ⟨havail, by rw [hstamp]; rfl,
      ((hS.subNLZ_eq_some _ _ _).mp hsub).1⟩⟩⟩, ?_⟩
    constructor
    · intro hkeep
      rw [gpu_eq, Option.some.injEq] at hkeep
      refine ⟨gpuReq, gpu_eq, .inr ?_⟩
      rw [hstamp, hkeep, hgpu]
    · rintro ⟨g, hg, hpin⟩
      simp_all

/-! ## Memory, volumes and sidecar -/

theorem subStorageClass_of_fit (hS : S.Lawful) {c : String} {v : Rtypes.ResourceValue}
    {s : InventoryV1.Storage} (hfit : s.quantity.Fits (wholeUnits v)) :
    ∀ l : List InventoryV1.Storage, storageEntry l c = some s →
      subStorageClass S c v l = .ok (chargeStorage (Pi.single c (wholeUnits v)) l) := by
  have hok : ∀ l : List InventoryV1.Storage, storageEntry l c = some s →
      ∃ l', subStorageClass S c v l = .ok l' := by
    intro l
    induction l with
    | nil => intro h; cases h
    | cons e rest ih =>
      intro h
      by_cases hc : e.info.storageClass = c
      · simp only [storageEntry, List.find?_cons, hc, decide_true, Option.some.injEq] at h
        subst h
        have hsub := (hS.subNLZ_eq_some _ _ _).mpr ⟨hfit, rfl⟩
        exact ⟨_, by rw [subStorageClass, if_pos hc, hsub]⟩
      · simp only [storageEntry, List.find?_cons, hc, decide_false] at h
        obtain ⟨rest', hrest⟩ := ih h
        exact ⟨_, by rw [subStorageClass, if_neg hc, hrest]; rfl⟩
  grind [subStorageClass_eq_ok]

theorem adjustVolume_of_room (hS : S.Lawful) (a : Node × List InventoryV1.Storage)
    (vol : Rtypes.Storage) (hadm : VolumeAdmitted S a.1 vol)
    (hroom : ∀ k ∈ {k | volumeAccount S vol = some k},
      replicaLedger.Room a k (volumeAmount S vol)) :
    adjustVolume S a vol = .ok (replicaLedger.charge a (volumeAmount S vol)) := by
  obtain ⟨nd, l⟩ := a
  obtain ⟨attrs, hparse, hsupported⟩ := hadm
  cases hpers : attrs.persistent with
  | true =>
    have hacc : volumeAccount S vol = some (.storageClass attrs.storageClass) := by
      simp only [volumeAccount, hparse, hpers, if_true]
    have hamount : volumeAmount S vol =
        Pi.single (.storageClass attrs.storageClass) (wholeUnits vol.quantity) := by
      simp only [volumeAmount, hacc]
    obtain ⟨rp, hrp, hfit⟩ := hroom _ hacc
    rw [hamount, Pi.single_eq_same] at hfit
    obtain ⟨s, hs, rfl⟩ := Option.map_eq_some_iff.mp hrp
    rw [hamount, charge_single_class]
    simp only [adjustVolume, hparse, hpers, hsupported hpers,
      subStorageClass_of_fit hS hfit l hs, Bool.not_true, Bool.false_eq_true, if_false]
    rfl
  | false =>
    by_cases hram : attrs.storageClass = "ram"
    · have hacc : volumeAccount S vol = some (.node .memory) := by
        simp only [volumeAccount, hparse, hpers, hram, Bool.false_eq_true, if_false, if_true]
      have hamount : volumeAmount S vol = Pi.single (.node .memory) (wholeUnits vol.quantity) := by
        simp only [volumeAmount, hacc]
      obtain ⟨rp, hrp, hfit⟩ := hroom _ hacc
      rw [hamount, Pi.single_eq_same] at hfit
      injection hrp with hrp
      subst hrp
      have hsub := (hS.subNLZ_eq_some _ _ _).mpr ⟨hfit, rfl⟩
      rw [hamount, charge_single_node]
      simp only [InventoryV1.NodeResources.pair] at hsub
      simp only [adjustVolume, hparse, hpers, hram, hsub, Bool.not_false, if_true]
      rfl
    · have hacc : volumeAccount S vol = some (.node .ephemeralStorage) := by
        simp only [volumeAccount, hparse, hpers, hram, Bool.false_eq_true, if_false]
      have hamount : volumeAmount S vol =
          Pi.single (.node .ephemeralStorage) (wholeUnits vol.quantity) := by
        simp only [volumeAmount, hacc]
      obtain ⟨rp, hrp, hfit⟩ := hroom _ hacc
      rw [hamount, Pi.single_eq_same] at hfit
      injection hrp with hrp
      subst hrp
      have hsub := (hS.subNLZ_eq_some _ _ _).mpr ⟨hfit, rfl⟩
      rw [hamount, charge_single_node]
      simp only [InventoryV1.NodeResources.pair] at hsub
      simp only [adjustVolume, tryAdjustEphemeralStorage, hparse, hpers, hram, hsub,
        Bool.not_false, if_true, if_false]
      rfl

variable {vol : Rtypes.Storage}

theorem adjustVolume_admitted {a b : Node × List InventoryV1.Storage}
    (h : adjustVolume S a vol = .ok b) : VolumeAdmitted S a.1 vol := by
  obtain ⟨attrs, hparse, htaken⟩ := adjustVolume_eq_ok h
  refine ⟨attrs, hparse, fun hpers => ?_⟩
  cases htaken with
  | ram q lost => cases lost.symm.trans hpers
  | ephemeral q lost => cases lost.symm.trans hpers
  | persistent l' kept supported => exact supported

theorem VolumeAdmitted.congr (hS : S.Lawful) {nd nd' : Node} (h : VolumeAdmitted S nd vol)
    (hcaps : nd.capabilities = nd'.capabilities) :
    VolumeAdmitted S nd' vol := by
  grind [VolumeAdmitted]

theorem volumes_admitted (hS : S.Lawful) {b : Node × List InventoryV1.Storage} :
    ∀ (vols : List Rtypes.Storage) (a : Node × List InventoryV1.Storage),
      vols.foldlM (adjustVolume S) a = .ok b → ∀ vol ∈ vols, VolumeAdmitted S a.1 vol := by
  intro vols
  induction vols with
  | nil =>
    intro a _ vol hvol
    cases hvol
  | cons v rest ih =>
    intro a h vol hvol
    obtain ⟨c, hc, hrest⟩ := Except.exists_of_bind_eq_ok h
    rcases List.mem_cons.mp hvol with hvol | hvol
    · subst hvol
      exact adjustVolume_admitted hc
    · have hcaps : c.1.capabilities = a.1.capabilities := by
        rw [(adjustVolume_draw hS a v c hc).eq_charge]
        rfl
      exact (ih c hrest vol hvol).congr hS hcaps

variable {sp : SchedulerParams}

theorem reserveSidecar_of_room (hS : S.Lawful)
    (hclass : cfg.teeType.isCC = true → sp.runtimeClass = "" ∨
      sp.runtimeClass = runtimeClassForTEEType cfg.teeType cfg.teePlatform)
    (hcpu : cfg.teeType.isCC = true →
      nd.resources.cpu.quantity.Fits (milliUnits sidecarCPULimitMillicores))
    (hmem : cfg.teeType.isCC = true → nd.resources.memory.quantity.Fits
      (wholeUnits (sidecarMemory (runtimeClassForTEEType cfg.teeType cfg.teePlatform)))) :
    ∃ out, reserveSidecar S nd sp cfg.teeType cfg.teePlatform = .ok out := by
  cases hcc : cfg.teeType.isCC with
  | false =>
    simp only [reserveSidecar, hcc, Bool.not_false, if_true]
    exact ⟨_, rfl⟩
  | true =>
    have hset := sidecar_runtimeClass (hclass hcc)
    have hsubCPU := (hS.subMilliNLZ_eq_some _ _ _).mpr ⟨hcpu hcc, rfl⟩
    have hsubMem := (hS.subNLZ_eq_some _ _ _).mpr ⟨hmem hcc, rfl⟩
    simp only [reserveSidecar, hcc, hset, hsubCPU, hsubMem, Bool.not_true, Bool.false_eq_true,
      if_false]
    exact ⟨_, rfl⟩

theorem volumeSum_nonneg (S : Sdk) (k : ReplicaAccount) (vols : List Rtypes.Storage) :
    0 ≤ (vols.map (volumeAmount S)).sum k := by
  induction vols with
  | nil => exact Int.le_refl 0
  | cons vol rest ih => exact Int.add_nonneg (volumeAmount_nonneg S vol k) ih

theorem volumes_of_room (hS : S.Lawful) (a : Node × List InventoryV1.Storage)
    (vols : List Rtypes.Storage) (hadm : ∀ vol ∈ vols, VolumeAdmitted S a.1 vol)
    (hroom : ∀ vol ∈ vols, ∀ k, volumeAccount S vol = some k →
      replicaLedger.Room a k (vols.map (volumeAmount S)).sum) :
    vols.foldlM (adjustVolume S) a =
      .ok (replicaLedger.charge a (vols.map (volumeAmount S)).sum) := by
  refine Ledger.foldlM_eq_ok_of_room (adjustVolume_of_room hS) ?_ ?_ vols a hadm hroom
  · intro a m vol h
    exact h.congr hS rfl
  · intro a k m vol h
    exact room_mono h (Int.le_add_of_nonneg_right (volumeAmount_nonneg S vol k))

theorem tryAdjustRest_of_room (hS : S.Lawful) {storage : List InventoryV1.Storage}
    {memReq : Rtypes.Memory} (hmemory : res.memory = some memReq)
    (hadm : ∀ vol ∈ res.storage, VolumeAdmitted S nd vol)
    (hclass : cfg.teeType.isCC = true → sp.runtimeClass = "" ∨
      sp.runtimeClass = runtimeClassForTEEType cfg.teeType cfg.teePlatform)
    (hroom : ∀ k ∈ restAccounts S cfg res, replicaLedger.Room (nd, storage) k
      (Pi.single (.node .memory) (wholeUnits memReq.quantity) +
        (res.storage.map (volumeAmount S)).sum + sidecarAmount cfg)) :
    ∃ out, tryAdjustRest S storage res cfg nd sp = .ok out := by
  have hmemFit : nd.resources.memory.quantity.Fits (wholeUnits memReq.quantity) := by
    obtain ⟨rp, hrp, hfit⟩ := hroom _ (.inl rfl)
    injection hrp with hrp
    subst hrp
    refine hfit.mono ?_
    simp only [Pi.add_apply, Pi.single_eq_same]
    rw [Int.add_assoc]
    exact Int.le_add_of_nonneg_right (Int.add_nonneg (volumeSum_nonneg S _ _)
      (sidecarAmount_nonneg cfg _))
  have hsub := (hS.subNLZ_eq_some _ _ _).mpr ⟨hmemFit, rfl⟩
  have hmid := (draw_setPair nd storage .memory hmemFit).eq_charge
  have hvolumes := volumes_of_room hS (nd.setPair .memory
    ((nd.resources.pair .memory).charge (wholeUnits memReq.quantity)), storage) res.storage
    (fun vol hvol => (hadm vol hvol).congr hS rfl) (by
      intro vol hvol k hk
      rw [hmid, replicaLedger.room_charge]
      refine room_mono (hroom k (.inr (.inr ⟨vol, hvol, hk⟩))) ?_
      exact Int.le_add_of_nonneg_right (sidecarAmount_nonneg cfg k))
  rcases hend : replicaLedger.charge (nd.setPair .memory
    ((nd.resources.pair .memory).charge (wholeUnits memReq.quantity)), storage)
      (res.storage.map (volumeAmount S)).sum with ⟨mid, storage'⟩
  have hside : ∀ k ∈ restAccounts S cfg res,
      replicaLedger.Room (mid, storage') k (sidecarAmount cfg) := by
    intro k hk
    rw [← hend, hmid, replicaLedger.room_charge, replicaLedger.room_charge, ← add_assoc]
    exact hroom k hk
  have hsidecar : ∃ out, reserveSidecar S mid sp cfg.teeType cfg.teePlatform = .ok out := by
    refine reserveSidecar_of_room hS hclass ?_ ?_
    · intro hcc
      obtain ⟨rp, hrp, hfit⟩ := hside _ (.inr (.inl ⟨rfl, hcc⟩))
      injection hrp with hrp
      subst hrp
      simp only [sidecarAmount, hcc, if_true] at hfit
      exact hfit
    · intro hcc
      obtain ⟨rp, hrp, hfit⟩ := hside _ (.inl rfl)
      injection hrp with hrp
      subst hrp
      simp only [sidecarAmount, hcc, if_true] at hfit
      exact hfit
  obtain ⟨⟨nd', sp'⟩, hsidecar⟩ := hsidecar
  rw [hend] at hvolumes
  simp only [InventoryV1.Node.setPair, InventoryV1.NodeResources.setPair,
    InventoryV1.NodeResources.pair] at hvolumes
  simp only [tryAdjustRest, hmemory, hsub, hvolumes, hsidecar]
  exact ⟨_, rfl⟩

theorem DevicesPassed.capabilities_eq (p : DevicesPassed S cluster node res cfg nd' sp' gpu') :
    p.nd.capabilities = nd'.capabilities := by
  obtain ⟨nd, _, _, _, _, _, _, -, -, -, -, -, -, rfl⟩ := p
  rfl

/-- After the gates up to the GPU, the later ones pass exactly if `RestFits` held of the node
to begin with. -/
theorem tryAdjustRest_isOk_iff (hS : S.Lawful)
    (p : DevicesPassed S cluster node res cfg nd' sp' gpu') :
    (∃ out, tryAdjustRest S cluster.storage { res with gpu := some gpu' } cfg nd' sp' =
      .ok out) ↔ RestFits S p.nd cluster.storage cfg res := by
  constructor
  · rintro ⟨⟨nd'', storage', sp''⟩, hok⟩
    obtain ⟨q⟩ := tryAdjustRest_eq_ok hok
    have hdraw := p.draw_rest hS q
    refine ⟨?_, ?_, ?_⟩
    · rw [q.memory_eq]
      exact Option.some_ne_none _
    · intro vol hvol
      exact (volumes_admitted hS _ _ q.volumes_ok vol hvol).congr hS p.capabilities_eq.symm
    · intro k hk
      refine hdraw.room ?_
      rcases hk with hk | ⟨hk, -⟩ | hk
      · exact .inr (.inl hk)
      · exact .inl hk
      · exact .inr (.inr (.inr (.inr hk)))
  · intro h
    obtain ⟨memReq, hmemReq⟩ := Option.ne_none_iff_exists'.mp h.memory
    have hdevices := p.draw hS cluster.storage
    refine tryAdjustRest_of_room hS hmemReq
      (fun vol hvol => (h.volumes vol hvol).congr hS p.capabilities_eq) p.runtimeClass ?_
    intro k hk
    rw [hdevices.eq_charge, replicaLedger.room_charge]
    have hroom : replicaLedger.Room (p.nd, cluster.storage) k (replicaAmount S cfg res) :=
      h.room k hk
    rw [replicaAmount, requestAmount_eq p.cpu_eq hmemReq p.gpu_eq] at hroom
    simpa only [add_assoc] using hroom

end AkashProvider
