import AkashProvider.Lib.Except
import AkashProvider.Inventory.Accounting

/-!
# The gates of `tryAdjust` are draws

One lemma per gate says what a gate that passes posts to the ledger of the replica;
`Passed.draw` composes them.  The sidecar takes the memory of the runtime class of the TEE
type.  Whatever the verdict, only the GPU attributes of the request can have changed
(`tryAdjust_sameRequest`).
-/

namespace AkashProvider

open InventoryV1 (Quantity ResourcePair Node NodeResources Cluster)
open Crd (SchedulerParams)

variable {S : Sdk}

/-! ## CPU, interconnect and GPU -/

theorem tryAdjustCPU_draw (hS : S.Lawful) (nd : Node) (l : List InventoryV1.Storage)
    {req : Rtypes.CPU} {cpu : InventoryV1.CPU}
    (h : tryAdjustCPU S nd.resources.cpu req = some cpu) :
    replicaLedger.Draw (Pi.single (.node .cpu) (milliUnits req.units)) {.node .cpu}
      (nd, l) ({ nd with resources.cpu := cpu }, l) := by
  unfold tryAdjustCPU at h
  split at h
  next =>
    obtain ⟨q, hq, hcpu⟩ := Option.map_eq_some_iff.mp h
    obtain ⟨hfit, hq⟩ := (hS.subMilliNLZ_eq_some _ _ _).mp hq
    subst hq
    subst hcpu
    exact draw_setPair nd l .cpu hfit
  next => cases h

variable {caps : InventoryV1.NodeCapabilities} {fabric : String} {required : Bool}
  {res : Rtypes.Resources} {sp sp' : SchedulerParams}

/-- An interconnect gate that passes does nothing, or takes the units of the GPU and records the
interconnect of the node. -/
theorem tryAdjustInterconnect_eq_some {rp rp' : ResourcePair}
    (h : tryAdjustInterconnect S rp caps res sp fabric required = some (rp', sp')) :
    (required = false ∧ rp' = rp ∧ sp' = sp) ∨
    (required = true ∧ interconnectCapsSuitable caps fabric = true ∧
      ∃ gpu, res.gpu = some gpu ∧ S.subNLZ rp gpu.units = some rp' ∧
        sp' = { sp with resources := some { sParamsEnsureResources sp with
          interconnect := some ⟨true, gpu.units, caps.interconnectResourceName,
            caps.interconnectFabric, caps.ncclHCAPrefixes⟩ } }) := by
  unfold tryAdjustInterconnect at h
  grind

theorem tryAdjustInterconnect_draw (hS : S.Lawful) (nd : Node) (l : List InventoryV1.Storage)
    {ic : ResourcePair}
    (h : tryAdjustInterconnect S nd.resources.gpuInterconnect caps res sp fabric required =
      some (ic, sp')) :
    replicaLedger.Draw
      (Pi.single (.node .gpuInterconnect) (if required then wholeUnits (gpuUnits res) else 0))
      {k | k = .node .gpuInterconnect ∧ required = true}
      (nd, l) ({ nd with resources.gpuInterconnect := ic }, l) := by
  obtain ⟨rfl, rfl, -⟩ | ⟨rfl, -, gpu, hg, hs, -⟩ := tryAdjustInterconnect_eq_some h
  · simpa using Ledger.Draw.refl (L := replicaLedger) (nd, l)
  · obtain ⟨hfit, rfl⟩ := (hS.subNLZ_eq_some _ _ _).mp hs
    simp only [gpuUnits, hg, Option.map_some, Option.getD_some, if_true, and_true,
      Set.ofPred_eq_eq_singleton]
    exact draw_setPair nd l .gpuInterconnect hfit

variable {req req' : Rtypes.GPU} {rp rp' : InventoryV1.GPU} {teePlatform : TEEPlatform}
  {teeType : TEEType}

/-- The GPU gate finds a device, takes the units and leaves one attribute that pins the request to
the device. -/
theorem tryAdjustGPU_eq_some (hunits : req.units ≠ 0)
    (h : tryAdjustGPU S rp req sp teeType teePlatform = some (rp', req', sp')) :
    ∃ attrs info attr q, parseGPUAttributes S req.attributes = .ok attrs ∧
      findGPU S attrs req.units.toNat rp.info = some (info, attr) ∧
      S.subNLZ rp.quantity req.units = some q ∧
      rp' = { rp with quantity := q } ∧
      req' = { req with attributes := [⟨gpuKey (S.toLower info.vendor) info.name attr, "true"⟩] } ∧
      sp' = stampGPU sp (S.toLower info.vendor) info.name teeType teePlatform := by
  unfold tryAdjustGPU at h
  grind

theorem tryAdjustGPU_zero {rp : InventoryV1.GPU} {req : Rtypes.GPU} {sp : SchedulerParams}
    (hunits : req.units = 0) :
    tryAdjustGPU S rp req sp teeType teePlatform = some (rp, req, sp) := by
  simp [tryAdjustGPU, hunits]

theorem tryAdjustGPU_draw (hS : S.Lawful) (nd : Node) (l : List InventoryV1.Storage)
    {gpu : InventoryV1.GPU}
    (h : tryAdjustGPU S nd.resources.gpu req sp teeType teePlatform = some (gpu, req', sp')) :
    replicaLedger.Draw (Pi.single (.node .gpu) (wholeUnits req.units))
      {k | k = .node .gpu ∧ req.units ≠ 0} (nd, l) ({ nd with resources.gpu := gpu }, l) := by
  by_cases hunits : req.units = 0
  · rw [tryAdjustGPU_zero hunits, Option.some.injEq, Prod.mk.injEq] at h
    obtain ⟨hgpu, -⟩ := h
    subst hgpu
    simpa [hunits, wholeUnits] using Ledger.Draw.refl (L := replicaLedger) (nd, l)
  · obtain ⟨_, _, _, q, -, -, hs, hgpu, -, -⟩ := tryAdjustGPU_eq_some hunits h
    obtain ⟨hfit, hq⟩ := (hS.subNLZ_eq_some _ _ _).mp hs
    subst hgpu
    subst hq
    simp only [ne_eq, hunits, not_false_eq_true, and_true, Set.ofPred_eq_eq_singleton]
    exact draw_setPair nd l .gpu hfit

theorem tryAdjustGPU_units
    (h : tryAdjustGPU S rp req sp teeType teePlatform = some (rp', req', sp')) :
    req'.units = req.units := by
  by_cases hunits : req.units = 0
  · grind [tryAdjustGPU_zero]
  · grind [tryAdjustGPU_eq_some]

/-! ## Volumes -/

theorem subStorageClass_eq_ok (hS : S.Lawful) {c : String} {v : Rtypes.ResourceValue} :
    ∀ {l l' : List InventoryV1.Storage}, subStorageClass S c v l = .ok l' →
      ∃ s, storageEntry l c = some s ∧ s.quantity.Fits (wholeUnits v) ∧
        l' = chargeStorage (Pi.single c (wholeUnits v)) l
  | [], _, h => by cases h
  | s :: rest, l', h => by
    by_cases hc : s.info.storageClass = c
    · simp only [subStorageClass, if_pos hc] at h
      cases hs : S.subNLZ s.quantity v with
      | none => simp only [hs] at h; cases h
      | some q =>
        simp only [hs, Except.ok.injEq] at h
        obtain ⟨hfit, hq⟩ := (hS.subNLZ_eq_some _ _ _).mp hs
        have hrest : Function.update (Pi.single c (wholeUnits v)) c 0 =
            (0 : String → Quantity) := by
          simp [Pi.single]
        refine ⟨s, by simp [storageEntry, hc], hfit, ?_⟩
        rw [chargeStorage, hc, hrest, chargeStorage_zero, Pi.single_eq_same, ← h, hq]
    · simp only [subStorageClass, if_neg hc] at h
      obtain ⟨rest', hrest, hl'⟩ := Except.exists_of_map_eq_ok h
      obtain ⟨e, he, hfit, hcharge⟩ := subStorageClass_eq_ok hS hrest
      have hzero : (Pi.single c (wholeUnits v) : String → Quantity) s.info.storageClass = 0 :=
        Pi.single_eq_of_ne hc _
      have hupd : Function.update (Pi.single c (wholeUnits v)) s.info.storageClass 0 =
          (Pi.single c (wholeUnits v) : String → Quantity) := by
        rw [← hzero, Function.update_eq_self]
      refine ⟨e, ?_, hfit, ?_⟩
      · rw [storageEntry] at he ⊢
        simp [hc, he]
      · rw [chargeStorage, hzero, hupd, ← hcharge, ← hl']
        simp

/-- The ways a volume is taken from a node and the storage classes. -/
inductive VolumeTaken (S : Sdk) (nd : Node) (l : List InventoryV1.Storage) (vol : Rtypes.Storage)
    (attrs : StorageAttributes) : Node × List InventoryV1.Storage → Prop where
  | ram (q : ResourcePair) (lost : attrs.persistent = false) (isRAM : attrs.storageClass = "ram")
      (taken : S.subNLZ nd.resources.memory.quantity vol.quantity = some q) :
      VolumeTaken S nd l vol attrs ({ nd with resources.memory.quantity := q }, l)
  | ephemeral (q : ResourcePair) (lost : attrs.persistent = false)
      (notRAM : attrs.storageClass ≠ "ram")
      (taken : S.subNLZ nd.resources.ephemeralStorage vol.quantity = some q) :
      VolumeTaken S nd l vol attrs ({ nd with resources.ephemeralStorage := q }, l)
  | persistent (l' : List InventoryV1.Storage) (kept : attrs.persistent = true)
      (supported : S.isStorageClassSupported nd attrs.storageClass = true)
      (taken : subStorageClass S attrs.storageClass vol.quantity l = .ok l') :
      VolumeTaken S nd l vol attrs (nd, l')

variable {l : List InventoryV1.Storage}

theorem adjustVolume_eq_ok {nd : Node} {vol : Rtypes.Storage} {b : Node × List InventoryV1.Storage}
    (h : adjustVolume S (nd, l) vol = .ok b) :
    ∃ attrs, parseStorageAttributes S vol.attributes = .ok attrs ∧
      VolumeTaken S nd l vol attrs b := by
  simp only [adjustVolume] at h
  cases hp : parseStorageAttributes S vol.attributes with
  | error e => simp only [hp] at h; cases h
  | ok attrs =>
    refine ⟨attrs, rfl, ?_⟩
    simp only [hp] at h
    cases hpers : attrs.persistent with
    | false =>
      simp only [hpers, Bool.not_false, if_true, tryAdjustEphemeralStorage] at h
      split at h
      next hram =>
        split at h
        next => cases h
        next q hq =>
          injection h with h
          subst h
          exact .ram q hpers hram hq
      next hram =>
        split at h
        next => cases h
        next q hq =>
          injection h with h
          subst h
          exact .ephemeral q hpers hram hq
    | true =>
      simp only [hpers, Bool.not_true, Bool.false_eq_true, if_false, Bool.not_eq_true'] at h
      split at h
      next => cases h
      next hsup =>
        obtain ⟨l', hl', hb⟩ := Except.exists_of_map_eq_ok h
        subst hb
        exact .persistent l' hpers (Bool.eq_true_of_not_eq_false hsup) hl'

theorem adjustVolume_draw (hS : S.Lawful) (a : Node × List InventoryV1.Storage)
    (vol : Rtypes.Storage) (b : Node × List InventoryV1.Storage)
    (h : adjustVolume S a vol = .ok b) :
    replicaLedger.Draw (volumeAmount S vol) {k | volumeAccount S vol = some k} a b := by
  obtain ⟨nd, l⟩ := a
  obtain ⟨attrs, hparse, htaken⟩ := adjustVolume_eq_ok h
  simp only [volumeAmount, volumeAccount, hparse]
  cases htaken with
  | ram q lost isRAM taken =>
    obtain ⟨hfit, hq⟩ := (hS.subNLZ_eq_some _ _ _).mp taken
    subst hq
    simp only [lost, isRAM, Bool.false_eq_true, if_false, if_true, Option.some.injEq,
      Set.ofPred_eq_eq_singleton']
    exact draw_setPair nd l .memory hfit
  | ephemeral q lost notRAM taken =>
    obtain ⟨hfit, hq⟩ := (hS.subNLZ_eq_some _ _ _).mp taken
    subst hq
    simp only [lost, if_neg notRAM, Bool.false_eq_true, if_false, Option.some.injEq,
      Set.ofPred_eq_eq_singleton']
    exact draw_setPair nd l .ephemeralStorage hfit
  | persistent l' kept supported taken =>
    obtain ⟨s, hentry, hfit, hcharge⟩ := subStorageClass_eq_ok hS taken
    subst hcharge
    have hpair : accountPair (nd, l) (.storageClass attrs.storageClass) = some s.quantity := by
      simp [accountPair, hentry]
    simp only [kept, if_true, Option.some.injEq, Set.ofPred_eq_eq_singleton']
    rw [← charge_single_class]
    exact draw_single hpair hfit

/-! ## The sidecar -/

variable {cfg : AttemptConfig}

theorem sidecarAmount_of_not_isCC (hcc : cfg.teeType.isCC = false) :
    sidecarAmount cfg = 0 := by
  funext k
  rcases k with r | c
  · cases r <;> simp [sidecarAmount, hcc]
  · rfl

theorem sidecarAmount_of_isCC (hcc : cfg.teeType.isCC = true) :
    sidecarAmount cfg =
      Pi.single (ReplicaAccount.node .cpu) (milliUnits sidecarCPULimitMillicores) +
        Pi.single (ReplicaAccount.node .memory)
          (wholeUnits (sidecarMemory (runtimeClassForTEEType cfg.teeType cfg.teePlatform))) := by
  funext k
  rcases k with r | c
  · cases r <;> simp [sidecarAmount, hcc]
  · simp [sidecarAmount]

/-- Whether the GPU gate has set the runtime class or not, it is the one of the TEE type. -/
theorem sidecar_runtimeClass {sp : SchedulerParams} {rc : RuntimeClass}
    (hclass : sp.runtimeClass = "" ∨ sp.runtimeClass = rc) :
    (if sp.runtimeClass = "" then { sp with runtimeClass := rc } else sp) =
      { sp with runtimeClass := rc } := by
  split
  next => rfl
  next hne => rw [← hclass.resolve_left hne]

variable {nd nd' : Node}

theorem reserveSidecar_eq_ok (h : reserveSidecar S nd sp teeType teePlatform = .ok (nd', sp')) :
    (teeType.isCC = false ∧ nd' = nd ∧ sp' = sp) ∨
    (teeType.isCC = true ∧
      sp' = (if sp.runtimeClass = "" then
        { sp with runtimeClass := runtimeClassForTEEType teeType teePlatform } else sp) ∧
      ∃ cpu mem, S.subMilliNLZ nd.resources.cpu.quantity sidecarCPULimitMillicores = some cpu ∧
        S.subNLZ nd.resources.memory.quantity (sidecarMemory sp'.runtimeClass) = some mem ∧
        nd' = { nd with resources.cpu.quantity := cpu, resources.memory.quantity := mem }) := by
  simp only [reserveSidecar] at h
  grind

theorem reserveSidecar_eq_error {nd : Node} {sp : SchedulerParams} {r : Refusal}
    (h : reserveSidecar S nd sp teeType teePlatform = .error r) : r = .node := by
  simp only [reserveSidecar] at h
  grind

theorem reserveSidecar_draw (hS : S.Lawful)
    (hclass : cfg.teeType.isCC = true → sp.runtimeClass = "" ∨
      sp.runtimeClass = runtimeClassForTEEType cfg.teeType cfg.teePlatform)
    (h : reserveSidecar S nd sp cfg.teeType cfg.teePlatform = .ok (nd', sp')) :
    replicaLedger.Draw (sidecarAmount cfg) ∅ (nd, l) (nd', l) := by
  obtain ⟨hcc, rfl, -⟩ | ⟨hcc, hsp, cpu, mem, hc, hm, rfl⟩ := reserveSidecar_eq_ok h
  · rw [sidecarAmount_of_not_isCC hcc]
    exact Ledger.Draw.refl _
  · rw [hsp, sidecar_runtimeClass (hclass hcc)] at hm
    obtain ⟨hcpuFit, hcpu⟩ := (hS.subMilliNLZ_eq_some _ _ _).mp hc
    obtain ⟨hmemFit, hmem⟩ := (hS.subNLZ_eq_some _ _ _).mp hm
    rw [sidecarAmount_of_isCC hcc, hcpu, hmem]
    have hfirst := draw_setPair nd l .cpu hcpuFit
    have hsecond := draw_setPair (nd.setPair .cpu (nd.resources.cpu.quantity.charge
      (milliUnits sidecarCPULimitMillicores))) l .memory hmemFit
    have hboth := hfirst.trans hsecond
    exact ⟨hboth.eq_charge, fun k hk => hboth.within k (hk.imp_left False.elim)⟩

/-! ## One attempt -/

/-- What an attempt that got past the GPU gate found. -/
structure DevicesPassed (S : Sdk) (cluster : Cluster) (node : Nat) (res : Rtypes.Resources)
    (cfg : AttemptConfig) (nd' : Node) (sp' : SchedulerParams) (gpuReq' : Rtypes.GPU) where
  nd : Node
  cpuReq : Rtypes.CPU
  gpuReq : Rtypes.GPU
  cpu : InventoryV1.CPU
  ic : ResourcePair
  sp : SchedulerParams
  gpu : InventoryV1.GPU
  node_eq : cluster.nodes[node]? = some nd
  cpu_eq : res.cpu = some cpuReq
  gpu_eq : res.gpu = some gpuReq
  cpu_ok : tryAdjustCPU S nd.resources.cpu cpuReq = some cpu
  ic_ok : tryAdjustInterconnect S nd.resources.gpuInterconnect nd.capabilities res .zero
    cfg.requiredFabric cfg.requiresInterconnect = some (ic, sp)
  gpu_ok : tryAdjustGPU S nd.resources.gpu gpuReq sp cfg.teeType cfg.teePlatform =
    some (gpu, gpuReq', sp')
  result : nd' = { nd with resources.cpu := cpu, resources.gpuInterconnect := ic,
                           resources.gpu := gpu }

variable {claims : GroupClaims} {cluster : Cluster} {node : Nat}

theorem tryAdjustDevices_eq_ok {nd' : Node} {sp' : SchedulerParams} {gpuReq' : Rtypes.GPU}
    (h : tryAdjustDevices S cluster node res cfg claims = .ok (nd', sp', gpuReq')) :
    Nonempty (DevicesPassed S cluster node res cfg nd' sp' gpuReq') := by
  unfold tryAdjustDevices at h
  split at h
  next => cases h
  next nd hnd =>
    split at h
    next => cases h
    next =>
      split at h
      next => cases h
      next =>
        split at h
        next => cases h
        next cpuReq hcpuReq =>
          split at h
          next => cases h
          next cpu hcpu =>
            split at h
            next => cases h
            next ic sp hic =>
              split at h
              next => cases h
              next gpuReq hgpuReq =>
                split at h
                next => cases h
                next gpu gpuReq₁ sp₁ hgpu =>
                  simp only [Except.ok.injEq, Prod.mk.injEq] at h
                  obtain ⟨hnd', hsp, hreq⟩ := h
                  subst hsp
                  subst hreq
                  exact ⟨nd, cpuReq, gpuReq, cpu, ic, sp, gpu, hnd, hcpuReq, hgpuReq, hcpu, hic,
                    hgpu, hnd'.symm⟩

theorem tryAdjustInterconnect_runtimeClass {rp rp' : ResourcePair}
    (h : tryAdjustInterconnect S rp caps res sp fabric required = some (rp', sp')) :
    sp'.runtimeClass = sp.runtimeClass := by
  obtain ⟨-, -, rfl⟩ | ⟨-, -, _, -, -, rfl⟩ := tryAdjustInterconnect_eq_some h
  · rfl
  · rfl

namespace DevicesPassed

variable {cluster : Cluster} {node : Nat} {res : Rtypes.Resources} {cfg : AttemptConfig}
  {nd' : Node} {sp' : SchedulerParams} {gpuReq' : Rtypes.GPU}

theorem runtimeClass (p : DevicesPassed S cluster node res cfg nd' sp' gpuReq')
    (hcc : cfg.teeType.isCC = true) : sp'.runtimeClass = "" ∨
      sp'.runtimeClass = runtimeClassForTEEType cfg.teeType cfg.teePlatform := by
  have hempty : p.sp.runtimeClass = "" := tryAdjustInterconnect_runtimeClass p.ic_ok
  have hgpu := p.gpu_ok
  by_cases hunits : p.gpuReq.units = 0
  · grind [tryAdjustGPU_zero]
  · grind [tryAdjustGPU_eq_some, stampGPU]

theorem draw (hS : S.Lawful) (p : DevicesPassed S cluster node res cfg nd' sp' gpuReq')
    (l : List InventoryV1.Storage) :
    replicaLedger.Draw
      (Pi.single (ReplicaAccount.node .cpu) (milliUnits p.cpuReq.units) +
        Pi.single (ReplicaAccount.node .gpuInterconnect)
          (if cfg.requiresInterconnect then wholeUnits (gpuUnits res) else 0) +
        Pi.single (ReplicaAccount.node .gpu) (wholeUnits p.gpuReq.units))
      ({.node .cpu} ∪ {k | k = .node .gpuInterconnect ∧ cfg.requiresInterconnect = true} ∪
        {k | k = .node .gpu ∧ p.gpuReq.units ≠ 0})
      (p.nd, l) (nd', l) := by
  obtain ⟨nd, cpuReq, gpuReq, cpu, ic, sp, gpu, -, -, -, cpu_ok, ic_ok, gpu_ok, rfl⟩ := p
  have hcpu := tryAdjustCPU_draw hS nd l cpu_ok
  have hic := tryAdjustInterconnect_draw hS { nd with resources.cpu := cpu } l ic_ok
  have hgpu := tryAdjustGPU_draw hS
    { nd with resources.cpu := cpu, resources.gpuInterconnect := ic } l gpu_ok
  exact (hcpu.trans hic).trans hgpu

end DevicesPassed

/-- What an attempt that got past the last gate found. -/
structure RestPassed (S : Sdk) (storage : List InventoryV1.Storage) (res : Rtypes.Resources)
    (cfg : AttemptConfig) (nd : Node) (sp : SchedulerParams) (nd' : Node)
    (storage' : List InventoryV1.Storage) (sp' : SchedulerParams) where
  memReq : Rtypes.Memory
  mem : ResourcePair
  mid : Node
  memory_eq : res.memory = some memReq
  memory_ok : S.subNLZ nd.resources.memory.quantity memReq.quantity = some mem
  volumes_ok : res.storage.foldlM (adjustVolume S)
    ({ nd with resources.memory.quantity := mem }, storage) = .ok (mid, storage')
  sidecar_ok : reserveSidecar S mid sp cfg.teeType cfg.teePlatform = .ok (nd', sp')

variable {storage storage' : List InventoryV1.Storage}

theorem tryAdjustRest_eq_ok (h : tryAdjustRest S storage res cfg nd sp = .ok (nd', storage', sp')) :
    Nonempty (RestPassed S storage res cfg nd sp nd' storage' sp') := by
  unfold tryAdjustRest at h
  split at h
  next => cases h
  next memReq hmemReq =>
    split at h
    next => cases h
    next mem hmem =>
      split at h
      next => cases h
      next mid storage₁ hvol =>
        split at h
        next => cases h
        next nd₁ sp₁ hside =>
          simp only [Except.ok.injEq, Prod.mk.injEq] at h
          obtain ⟨hnd, hst, hsp⟩ := h
          subst hnd
          subst hst
          subst hsp
          exact ⟨memReq, mem, mid, hmemReq, hmem, hvol, hside⟩

theorem RestPassed.draw (hS : S.Lawful) (hclass : cfg.teeType.isCC = true → sp.runtimeClass = "" ∨
      sp.runtimeClass = runtimeClassForTEEType cfg.teeType cfg.teePlatform)
    (p : RestPassed S storage res cfg nd sp nd' storage' sp') :
    replicaLedger.Draw
      (Pi.single (.node .memory) (wholeUnits p.memReq.quantity) +
        (res.storage.map (volumeAmount S)).sum + sidecarAmount cfg)
      ({.node .memory} ∪ {k | ∃ vol ∈ res.storage, volumeAccount S vol = some k} ∪ ∅)
      (nd, storage) (nd', storage') := by
  obtain ⟨hfit, hmem⟩ := (hS.subNLZ_eq_some _ _ _).mp p.memory_ok
  have hvolumes := Ledger.Draw.of_foldlM (adjustVolume_draw hS) _ _ _ p.volumes_ok
  rw [hmem] at hvolumes
  have hmemory := draw_setPair nd storage .memory hfit
  exact (hmemory.trans hvolumes).trans (reserveSidecar_draw hS hclass p.sidecar_ok)

theorem requestAmount_eq {cpuReq : Rtypes.CPU} {memReq : Rtypes.Memory} {gpuReq : Rtypes.GPU}
    (hcpu : res.cpu = some cpuReq) (hmem : res.memory = some memReq)
    (hgpu : res.gpu = some gpuReq) : requestAmount cfg res =
      Pi.single (ReplicaAccount.node .cpu) (milliUnits cpuReq.units) +
        Pi.single (ReplicaAccount.node .gpuInterconnect)
          (if cfg.requiresInterconnect then wholeUnits (gpuUnits res) else 0) +
        Pi.single (ReplicaAccount.node .gpu) (wholeUnits gpuReq.units) +
        Pi.single (ReplicaAccount.node .memory) (wholeUnits memReq.quantity) := by
  funext k
  rcases k with r | c
  · cases r <;> simp [requestAmount, gpuUnits, hcpu, hmem, hgpu]
  · simp [requestAmount]

/-- What an attempt that succeeded found, and what it committed. -/
structure Passed (S : Sdk) (cluster : Cluster) (node : Nat) (res : Rtypes.Resources)
    (cfg : AttemptConfig) (res' : Rtypes.Resources) (commit : Commit) where
  nd : Node
  sp : SchedulerParams
  gpu : Rtypes.GPU
  nd' : Node
  sp' : SchedulerParams
  devices : DevicesPassed S cluster node res cfg nd sp gpu
  rest : RestPassed S cluster.storage { res with gpu := some gpu } cfg nd sp nd'
    commit.cluster.storage sp'
  nodes_eq : commit.cluster.nodes = cluster.nodes.set node nd'
  request_eq : res' = { res with gpu := some gpu }
  sparams_eq : commit.sparams = if sp' = .zero then none else some sp'

variable {commit : Commit}

theorem tryAdjust_eq_ok {res res' : Rtypes.Resources}
    (h : tryAdjust S cluster node res cfg claims = (res', .ok commit)) :
    Nonempty (Passed S cluster node res cfg res' commit) := by
  unfold tryAdjust at h
  split at h
  next => cases h
  next nd sp gpu hdev =>
    obtain ⟨devices⟩ := tryAdjustDevices_eq_ok hdev
    simp only at h
    split at h
    next => cases h
    next nd' storage sp' hrest =>
      obtain ⟨rest⟩ := tryAdjustRest_eq_ok hrest
      simp only [Prod.mk.injEq, Except.ok.injEq] at h
      obtain ⟨hres, hcommit⟩ := h
      subst hcommit
      exact ⟨nd, sp, gpu, nd', sp', devices, rest, rfl, hres.symm, rfl⟩

variable {gpu : Rtypes.GPU}

/-- All gates together draw what the replica draws, and every account drawn on ends within
`Allocatable`. -/
theorem DevicesPassed.draw_rest (hS : S.Lawful) {storage' : List InventoryV1.Storage}
    (p : DevicesPassed S cluster node res cfg nd sp gpu)
    (q : RestPassed S cluster.storage { res with gpu := some gpu } cfg nd sp nd' storage' sp') :
    replicaLedger.Draw (replicaAmount S cfg res) (replicaTouches S cfg res)
      (p.nd, cluster.storage) (nd', storage') := by
  have hall := (p.draw hS cluster.storage).trans (q.draw hS p.runtimeClass)
  have hgpu : gpuUnits res = p.gpuReq.units := by simp [gpuUnits, p.gpu_eq]
  refine ⟨?_, fun k hk => hall.within k (hk.imp_left ?_)⟩
  · rw [hall.eq_charge, replicaAmount, requestAmount_eq p.cpu_eq q.memory_eq p.gpu_eq]
    simp only [add_assoc]
  · rintro (hk | hk | ⟨hk, hunits⟩ | hk | hk)
    · exact .inl (.inl (.inl hk))
    · exact .inr (.inl (.inl hk))
    · exact .inl (.inr ⟨hk, hgpu ▸ hunits⟩)
    · exact .inl (.inl (.inr hk))
    · exact .inr (.inl (.inr hk))

theorem Passed.draw (hS : S.Lawful) {res res' : Rtypes.Resources}
    (p : Passed S cluster node res cfg res' commit) :
    replicaLedger.Draw (replicaAmount S cfg res) (replicaTouches S cfg res)
      (p.devices.nd, cluster.storage) (p.nd', commit.cluster.storage) :=
  p.devices.draw_rest hS p.rest

/-! ## The request -/

/-- Two requests for the same resources: they may differ in the GPU attributes. -/
@[grind cases]
structure Rtypes.Resources.SameRequest (a b : Rtypes.Resources) : Prop where
  id_eq : a.id = b.id
  cpu_eq : a.cpu = b.cpu
  memory_eq : a.memory = b.memory
  storage_eq : a.storage = b.storage
  gpu_units_eq : a.gpu.map (·.units) = b.gpu.map (·.units)
  endpoints_eq : a.endpoints = b.endpoints

namespace Rtypes.Resources.SameRequest

variable {a b c : Rtypes.Resources}

theorem refl (a : Rtypes.Resources) : a.SameRequest a := ⟨rfl, rfl, rfl, rfl, rfl, rfl⟩

theorem trans (h₁ : a.SameRequest b) (h₂ : b.SameRequest c) : a.SameRequest c :=
  ⟨h₁.1.trans h₂.1, h₁.2.trans h₂.2, h₁.3.trans h₂.3, h₁.4.trans h₂.4, h₁.5.trans h₂.5,
    h₁.6.trans h₂.6⟩

theorem gpuUnits_eq (h : a.SameRequest b) : gpuUnits a = gpuUnits b := by
  unfold gpuUnits
  rw [h.gpu_units_eq]

theorem replicaAmount_eq (h : a.SameRequest b) (S : Sdk) (cfg : AttemptConfig) :
    replicaAmount S cfg a = replicaAmount S cfg b := by
  have hrequest : requestAmount cfg a = requestAmount cfg b := by
    funext k
    rcases k with r | c
    · cases r <;> simp [requestAmount, h.cpu_eq, h.memory_eq, h.gpuUnits_eq]
    · rfl
  rw [replicaAmount, replicaAmount, hrequest, h.storage_eq]

theorem replicaTouches_eq (h : a.SameRequest b) (S : Sdk) (cfg : AttemptConfig) :
    replicaTouches S cfg a = replicaTouches S cfg b := by
  unfold replicaTouches
  rw [h.gpuUnits_eq, h.storage_eq]

end Rtypes.Resources.SameRequest

theorem DevicesPassed.sameRequest {nd : Node} {sp : SchedulerParams}
    (p : DevicesPassed S cluster node res cfg nd sp gpu) :
    { res with gpu := some gpu }.SameRequest res := by
  refine ⟨rfl, rfl, rfl, rfl, ?_, rfl⟩
  simp [p.gpu_eq, tryAdjustGPU_units p.gpu_ok]

theorem Passed.sameRequest {res res' : Rtypes.Resources}
    (p : Passed S cluster node res cfg res' commit) :
    res'.SameRequest res := by
  have hsame := p.devices.sameRequest
  rw [← p.request_eq] at hsame
  exact hsame

theorem tryAdjust_sameRequest (cluster : Cluster) (node : Nat) (res : Rtypes.Resources)
    (cfg : AttemptConfig) (claims : GroupClaims) :
    (tryAdjust S cluster node res cfg claims).1.SameRequest res := by
  unfold tryAdjust
  split
  next => exact .refl res
  next hdev =>
    obtain ⟨p⟩ := tryAdjustDevices_eq_ok hdev
    simp only
    split
    next => exact p.sameRequest
    next => exact p.sameRequest

end AkashProvider
