import AkashProvider.Lib.Ledger
import AkashProvider.Inventory.Adjust

/-!
# What a replica draws

A replica draws on five quantities of its node and on the storage classes (`replicaAmount`).
Every gate of `tryAdjust` is a draw in the sense of `Lib.Ledger`.  A storage class that is listed
twice is charged at its first entry.
-/

namespace AkashProvider

open InventoryV1 (Quantity ResourcePair Node NodeResources Cluster)
open Crd (SchedulerParams)

/-! ## Accounts -/

/-- The quantities of a node that a replica draws on. -/
inductive NodeResource where
  | cpu
  | memory
  | gpu
  | ephemeralStorage
  | gpuInterconnect
deriving DecidableEq

/-- The accounts one replica draws on. -/
inductive ReplicaAccount where
  | node (r : NodeResource)
  | storageClass (c : String)
deriving DecidableEq

/-- `Allocated` is known and within `Allocatable`. -/
def InventoryV1.ResourcePair.Within (rp : ResourcePair) : Prop :=
  ∃ a l, rp.allocated = some a ∧ rp.allocatable = some l ∧ a ≤ l

namespace InventoryV1.ResourcePair

theorem fits_zero (rp : ResourcePair) : rp.Fits 0 ↔ rp.Within := by simp [Fits, Within]

theorem fits_charge (rp : ResourcePair) (p q : Quantity) :
    (rp.charge p).Fits q ↔ rp.Fits (p + q) := by
  simp_all [Fits, charge, Int.add_assoc]

end InventoryV1.ResourcePair

namespace InventoryV1.NodeResources

def pair (r : NodeResources) : NodeResource → ResourcePair
  | .cpu => r.cpu.quantity
  | .memory => r.memory.quantity
  | .gpu => r.gpu.quantity
  | .ephemeralStorage => r.ephemeralStorage
  | .gpuInterconnect => r.gpuInterconnect

def setPair (r : NodeResources) (k : NodeResource) (rp : ResourcePair) : NodeResources :=
  match k with
  | .cpu => { r with cpu.quantity := rp }
  | .memory => { r with memory.quantity := rp }
  | .gpu => { r with gpu.quantity := rp }
  | .ephemeralStorage => { r with ephemeralStorage := rp }
  | .gpuInterconnect => { r with gpuInterconnect := rp }

def charge (r : NodeResources) (f : NodeResource → Quantity) : NodeResources :=
  { r with
    cpu.quantity := r.cpu.quantity.charge (f .cpu)
    memory.quantity := r.memory.quantity.charge (f .memory)
    gpu.quantity := r.gpu.quantity.charge (f .gpu)
    ephemeralStorage := r.ephemeralStorage.charge (f .ephemeralStorage)
    gpuInterconnect := r.gpuInterconnect.charge (f .gpuInterconnect) }

@[simp] theorem pair_charge (r : NodeResources) (f : NodeResource → Quantity)
    (k : NodeResource) : (r.charge f).pair k = (r.pair k).charge (f k) := by
  cases k <;> rfl

@[simp] theorem charge_zero (r : NodeResources) : r.charge 0 = r := by simp [charge]

@[simp] theorem charge_charge (r : NodeResources) (f g : NodeResource → Quantity) :
    (r.charge f).charge g = r.charge (f + g) := by
  simp [charge]

theorem setPair_charge (r : NodeResources) (k : NodeResource) (q : Quantity) :
    r.setPair k ((r.pair k).charge q) = r.charge (Pi.single k q) := by
  cases k <;> simp [setPair, charge, pair]

end InventoryV1.NodeResources

def InventoryV1.Node.charge (nd : Node) (f : NodeResource → Quantity) : Node :=
  { nd with resources := nd.resources.charge f }

def InventoryV1.Node.setPair (nd : Node) (k : NodeResource) (rp : ResourcePair) : Node :=
  { nd with resources := nd.resources.setPair k rp }

/-! ## Storage classes -/

/-- Charge the first entry of every class. -/
def chargeStorage : (String → Quantity) → List InventoryV1.Storage → List InventoryV1.Storage
  | _, [] => []
  | f, s :: rest =>
    { s with quantity := s.quantity.charge (f s.info.storageClass) } ::
      chargeStorage (Function.update f s.info.storageClass 0) rest

/-- The entry a storage class is charged at. -/
def storageEntry (l : List InventoryV1.Storage) (c : String) : Option InventoryV1.Storage :=
  l.find? (·.info.storageClass = c)

theorem chargeStorage_zero (l : List InventoryV1.Storage) : chargeStorage 0 l = l := by
  induction l with
  | nil => rfl
  | cons s rest ih => simp [chargeStorage, ih]

theorem chargeStorage_add (l : List InventoryV1.Storage) :
    ∀ f g : String → Quantity, chargeStorage g (chargeStorage f l) = chargeStorage (f + g) l := by
  induction l with
  | nil => intro f g; rfl
  | cons s rest ih =>
    intro f g
    have hupd : Function.update (f + g) s.info.storageClass 0 =
        Function.update f s.info.storageClass 0 + Function.update g s.info.storageClass 0 := by
      funext c
      by_cases hc : c = s.info.storageClass
      · subst hc; simp
      · simp [Function.update_of_ne hc]
    simp only [chargeStorage, ih, hupd]
    simp

theorem storageEntry_chargeStorage (l : List InventoryV1.Storage) (c : String) :
    ∀ f : String → Quantity, storageEntry (chargeStorage f l) c =
      (storageEntry l c).map fun s => { s with quantity := s.quantity.charge (f c) } := by
  induction l with
  | nil => intro f; rfl
  | cons s rest ih =>
    intro f
    by_cases hc : s.info.storageClass = c
    · simp [storageEntry, chargeStorage, hc]
    · have ih' := ih (Function.update f s.info.storageClass 0)
      simp only [storageEntry] at ih'
      have hne : c ≠ s.info.storageClass := fun h => hc h.symm
      simp [storageEntry, chargeStorage, hc, ih', Function.update_of_ne hne]

/-! ## The ledger of one replica -/

def accountPair (a : Node × List InventoryV1.Storage) : ReplicaAccount → Option ResourcePair
  | .node r => some (a.1.resources.pair r)
  | .storageClass c => (storageEntry a.2 c).map (·.quantity)

def chargeAccounts (a : Node × List InventoryV1.Storage) (m : ReplicaAccount → Quantity) :
    Node × List InventoryV1.Storage :=
  (a.1.charge fun r => m (.node r), chargeStorage (fun c => m (.storageClass c)) a.2)

theorem accountPair_charge (a : Node × List InventoryV1.Storage) (m : ReplicaAccount → Quantity)
    (k : ReplicaAccount) :
    accountPair (chargeAccounts a m) k = (accountPair a k).map (·.charge (m k)) := by
  cases k with
  | node r => simp [accountPair, chargeAccounts, InventoryV1.Node.charge]
  | storageClass c =>
    simp only [accountPair, chargeAccounts, storageEntry_chargeStorage, Option.map_map]
    rfl

/-- The node of a replica and the storage classes, as one ledger. -/
def replicaLedger :
    Ledger (Node × List InventoryV1.Storage) (ReplicaAccount → Quantity) ReplicaAccount where
  charge := chargeAccounts
  charge_zero a := by
    obtain ⟨nd, l⟩ := a
    exact Prod.ext (by simp [chargeAccounts, InventoryV1.Node.charge, ← Pi.zero_def])
      (chargeStorage_zero l)
  charge_add a m n := by
    obtain ⟨nd, l⟩ := a
    refine Prod.ext ?_ (chargeStorage_add l _ _)
    simp only [chargeAccounts, InventoryV1.Node.charge, InventoryV1.NodeResources.charge_charge]
    rfl
  Room a k m := ∃ rp, accountPair a k = some rp ∧ rp.Fits (m k)
  room_charge a m k n := by
    rw [accountPair_charge]
    cases hrp : accountPair a k with
    | none => simp
    | some rp => simp [InventoryV1.ResourcePair.fits_charge]

theorem within_iff (a : Node × List InventoryV1.Storage) (k : ReplicaAccount) :
    replicaLedger.Within a k ↔ ∃ rp, accountPair a k = some rp ∧ rp.Within := by
  simp only [Ledger.Within, replicaLedger, Pi.zero_apply, InventoryV1.ResourcePair.fits_zero]

theorem draw_single {a : Node × List InventoryV1.Storage} {k : ReplicaAccount} {q : Quantity}
    {rp : ResourcePair} (hk : accountPair a k = some rp) (hfit : rp.Fits q) :
    replicaLedger.Draw (Pi.single k q) {k} a (replicaLedger.charge a (Pi.single k q)) where
  eq_charge := rfl
  within := by
    intro j hj
    rw [Ledger.within_charge]
    by_cases hjk : j = k
    · subst hjk
      exact ⟨rp, hk, by rwa [Pi.single_eq_same]⟩
    · obtain hj | ⟨rp', hrp', hw⟩ := hj
      · exact absurd hj hjk
      · exact ⟨rp', hrp', by rwa [Pi.single_eq_of_ne hjk]⟩

theorem charge_single_node (nd : Node) (l : List InventoryV1.Storage) (k : NodeResource)
    (q : Quantity) : replicaLedger.charge (nd, l) (Pi.single (.node k) q) =
      (nd.setPair k ((nd.resources.pair k).charge q), l) := by
  have hnode : (fun r => (Pi.single (.node k) q : ReplicaAccount → Quantity) (.node r)) =
      Pi.single k q := by
    funext r
    by_cases hr : r = k
    · subst hr; simp
    · simp [hr]
  have hclass : (fun c => (Pi.single (.node k) q : ReplicaAccount → Quantity) (.storageClass c)) =
      0 := by
    funext c
    simp
  simp only [replicaLedger, chargeAccounts, hnode, hclass, chargeStorage_zero,
    InventoryV1.Node.charge, InventoryV1.Node.setPair, InventoryV1.NodeResources.setPair_charge]

theorem draw_setPair (nd : Node) (l : List InventoryV1.Storage) (k : NodeResource) {q : Quantity}
    (hfit : (nd.resources.pair k).Fits q) :
    replicaLedger.Draw (Pi.single (.node k) q) {.node k} (nd, l)
      (nd.setPair k ((nd.resources.pair k).charge q), l) := by
  rw [← charge_single_node]
  exact draw_single (a := (nd, l)) rfl hfit

theorem charge_single_class (nd : Node) (l : List InventoryV1.Storage) (c : String)
    (q : Quantity) : replicaLedger.charge (nd, l) (Pi.single (.storageClass c) q) =
      (nd, chargeStorage (Pi.single c q) l) := by
  have hnode : (fun r => (Pi.single (.storageClass c) q : ReplicaAccount → Quantity) (.node r)) =
      0 := by
    funext r
    simp
  have hclass : (fun d => (Pi.single (.storageClass c) q : ReplicaAccount → Quantity)
      (.storageClass d)) = Pi.single c q := by
    funext d
    by_cases hd : d = c
    · subst hd; simp
    · simp [hd]
  simp only [replicaLedger, chargeAccounts, hnode, hclass, InventoryV1.Node.charge,
    InventoryV1.NodeResources.charge_zero]

/-! ## What a replica draws -/

def volumeAccount (S : Sdk) (vol : Rtypes.Storage) : Option ReplicaAccount :=
  match parseStorageAttributes S vol.attributes with
  | .error _ => none
  | .ok attrs =>
    if attrs.persistent then some (.storageClass attrs.storageClass)
    else if attrs.storageClass = "ram" then some (.node .memory)
    else some (.node .ephemeralStorage)

def volumeAmount (S : Sdk) (vol : Rtypes.Storage) : ReplicaAccount → Quantity :=
  match volumeAccount S vol with
  | none => 0
  | some k => Pi.single k (wholeUnits vol.quantity)

def totalSize (vols : List Rtypes.Storage) : Nat := (vols.map (·.quantity.toNat)).sum

@[simp] theorem totalSize_nil : totalSize [] = 0 := rfl

@[simp] theorem totalSize_cons (vol : Rtypes.Storage) (vols : List Rtypes.Storage) :
    totalSize (vol :: vols) = vol.quantity.toNat + totalSize vols := rfl

theorem sum_apply {ι : Type} (l : List (ι → Quantity)) (i : ι) :
    l.sum i = (l.map (· i)).sum :=
  map_list_sum (Pi.evalAddMonoidHom _ i) l

def drawnOn (S : Sdk) (k : ReplicaAccount) (vols : List Rtypes.Storage) : List Rtypes.Storage :=
  vols.filter fun vol => volumeAccount S vol = some k

theorem sum_volumeAmount (S : Sdk) (k : ReplicaAccount) (vols : List Rtypes.Storage) :
    (vols.map (volumeAmount S)).sum k = 1000 * (totalSize (drawnOn S k vols) : Int) := by
  rw [sum_apply, List.map_map]
  induction vols with
  | nil => rfl
  | cons vol rest ih =>
    rw [List.map_cons, List.sum_cons, ih]
    simp only [drawnOn, List.filter_cons, Function.comp_apply]
    by_cases hk : volumeAccount S vol = some k
    · simp [hk, volumeAmount, wholeUnits, mul_add]
    · have hzero : volumeAmount S vol k = 0 := by
        unfold volumeAmount
        cases hj : volumeAccount S vol with
        | none => rfl
        | some j => exact Pi.single_eq_of_ne (fun h => hk (by rw [hj, h])) _
      simp [hk, hzero]

theorem volumeAccount_node {S : Sdk} {vol : Rtypes.Storage} {k : NodeResource}
    (h : volumeAccount S vol = some (.node k)) : k = .memory ∨ k = .ephemeralStorage := by
  unfold volumeAccount at h
  grind

theorem drawnOn_eq_nil (S : Sdk) (vols : List Rtypes.Storage) {k : NodeResource}
    (hk : k ≠ .memory ∧ k ≠ .ephemeralStorage) : drawnOn S (.node k) vols = [] := by
  grind [drawnOn, List.filter_eq_nil_iff, volumeAccount_node]

def gpuUnits (res : Rtypes.Resources) : Rtypes.ResourceValue := (res.gpu.map (·.units)).getD 0

/-- What the CPU, memory and GPU request of a replica draws.  With an interconnect, the GPU
units are drawn a second time. -/
def requestAmount (cfg : AttemptConfig) (res : Rtypes.Resources) : ReplicaAccount → Quantity
  | .node .cpu => milliUnits ((res.cpu.map (·.units)).getD 0)
  | .node .memory => wholeUnits ((res.memory.map (·.quantity)).getD 0)
  | .node .gpu => wholeUnits (gpuUnits res)
  | .node .gpuInterconnect => if cfg.requiresInterconnect then wholeUnits (gpuUnits res) else 0
  | .node .ephemeralStorage => 0
  | .storageClass _ => 0

/-- One sidecar, for confidential compute only. -/
def sidecarAmount (cfg : AttemptConfig) : ReplicaAccount → Quantity
  | .node .cpu => if cfg.teeType.isCC then milliUnits sidecarCPULimitMillicores else 0
  | .node .memory =>
    if cfg.teeType.isCC then
      wholeUnits (sidecarMemory (runtimeClassForTEEType cfg.teeType cfg.teePlatform)) else 0
  | _ => 0

/-- What one replica draws: its request, its volumes and its sidecar. -/
def replicaAmount (S : Sdk) (cfg : AttemptConfig) (res : Rtypes.Resources) :
    ReplicaAccount → Quantity :=
  requestAmount cfg res + (res.storage.map (volumeAmount S)).sum + sidecarAmount cfg

/-- The accounts a replica draws on, be it by zero. -/
def replicaTouches (S : Sdk) (cfg : AttemptConfig) (res : Rtypes.Resources) :
    Set ReplicaAccount :=
  {k | k = .node .cpu ∨ k = .node .memory ∨ (k = .node .gpu ∧ gpuUnits res ≠ 0) ∨
    (k = .node .gpuInterconnect ∧ cfg.requiresInterconnect = true) ∨
    ∃ vol ∈ res.storage, volumeAccount S vol = some k}

end AkashProvider
