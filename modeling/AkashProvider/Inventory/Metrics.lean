import AkashProvider.Inventory.Load
import AkashProvider.Lib.Assoc
import AkashProvider.Lib.Forall2
import AkashProvider.Lib.Words

/-!
# The metrics of the inventory

The metrics say what each node and each class of storage can allocate and what is available, in
unsigned numbers of 64 bits.  Where more is allocated than allocatable, what is available is
reported as almost `2 ^ 64` (`overcommitted_node_overstated`).  `metrics_never_overstate_iff` says
that nothing else goes wrong.
-/

namespace AkashProvider

open InventoryV1 (Quantity ResourcePair Node Cluster NodeResources)

/-! ## The model -/

namespace InventoryV1

def Quantity.milliValue (q : Quantity) : Int := q

/-- `Value()`, rounded away from zero. -/
def Quantity.value (q : Quantity) : Int :=
  let n : Int := q
  if n < 0 then -((-n + 999) / 1000) else (n + 999) / 1000

/-- `Available()`: what is allocatable without what is allocated. -/
def ResourcePair.available (rp : ResourcePair) : Option Quantity :=
  match rp.allocatable, rp.allocated with
  | some l, some a => some (l - a)
  | _, _ => none

structure ResourcesMetric where
  cpu : UInt64
  gpu : UInt64
  memory : UInt64
  storageEphemeral : UInt64

structure NodeMetrics where
  name : String
  allocatable : ResourcesMetric
  available : ResourcesMetric

/-- `storage` is a map: an assignment is put in front, and `lookup` finds the last one. -/
structure MetricTotal where
  cpu : UInt64
  gpu : UInt64
  memory : UInt64
  storageEphemeral : UInt64
  storage : List (String × UInt64)

structure Metrics where
  nodes : List NodeMetrics
  totalAllocatable : MetricTotal
  totalAvailable : MetricTotal

end InventoryV1

open InventoryV1 (ResourcesMetric NodeMetrics MetricTotal Metrics)

/-- One quantity of each kind of resource of a node.  `none` is a panic: it is not there. -/
def resourcesMetric (read : ResourcePair → Option Quantity) (r : NodeResources) :
    Option ResourcesMetric := do
  let cpu ← read r.cpu.quantity
  let gpu ← read r.gpu.quantity
  let memory ← read r.memory.quantity
  let storageEphemeral ← read r.ephemeralStorage
  return {
    cpu := .ofInt cpu.milliValue
    gpu := .ofInt gpu.value
    memory := .ofInt memory.value
    storageEphemeral := .ofInt storageEphemeral.value }

def nodeMetrics (nd : Node) : Option NodeMetrics := do
  let allocatable ← resourcesMetric (·.allocatable) nd.resources
  let available ← resourcesMetric (·.available) nd.resources
  return ⟨nd.name, allocatable, available⟩

namespace InventoryV1

def MetricTotal.zero : MetricTotal := ⟨0, 0, 0, 0, []⟩

def MetricTotal.add (t : MetricTotal) (m : ResourcesMetric) : MetricTotal :=
  { t with
    cpu := t.cpu + m.cpu
    gpu := t.gpu + m.gpu
    memory := t.memory + m.memory
    storageEphemeral := t.storageEphemeral + m.storageEphemeral }

/-- What one round of the loop over the nodes adds. -/
def Metrics.addNode (ret : Metrics) (invNode : NodeMetrics) : Metrics where
  nodes := ret.nodes ++ [invNode]
  totalAllocatable := ret.totalAllocatable.add invNode.allocatable
  totalAvailable := ret.totalAvailable.add invNode.available

/-- A class of storage, and what is allocatable and available of it. -/
structure ClassMetrics where
  storageClass : String
  allocatable : UInt64
  available : UInt64

def Metrics.addClass (ret : Metrics) (m : ClassMetrics) : Metrics :=
  { ret with
    totalAllocatable.storage := (m.storageClass, m.allocatable) :: ret.totalAllocatable.storage
    totalAvailable.storage := (m.storageClass, m.available) :: ret.totalAvailable.storage }

end InventoryV1

open InventoryV1 (ClassMetrics)

def classMetrics (s : InventoryV1.Storage) : Option ClassMetrics := do
  let allocatable ← s.quantity.allocatable
  let available ← s.quantity.available
  return ⟨s.info.storageClass, .ofInt allocatable.value, .ofInt available.value⟩

def Inventory.metrics (inv : Inventory) : Option Metrics := do
  let ret ← inv.sanitized.nodes.foldlM (fun ret nd => (nodeMetrics nd).map ret.addNode)
    ⟨[], .zero, .zero⟩
  inv.sanitized.storage.foldlM (fun ret s => (classMetrics s).map ret.addClass) ret

/-! ## The kinds of resources -/

/-- The resources of a node that have metrics. -/
inductive Metered where
  | cpu
  | gpu
  | memory
  | storageEphemeral

namespace Metered

def resource : Metered → NodeResource
  | .cpu => .cpu
  | .gpu => .gpu
  | .memory => .memory
  | .storageEphemeral => .ephemeralStorage

/-- The number that is reported for a quantity. -/
def value : Metered → Quantity → Int
  | .cpu => Quantity.milliValue
  | _ => Quantity.value

theorem value_mono (k : Metered) {p q : Int} (h : p ≤ q) : k.value p ≤ k.value q := by
  cases k with
  | cpu => exact h
  | _ =>
    simp only [value, Quantity.value]
    split <;> split <;> omega

theorem value_neg (k : Metered) (q : Int) : k.value (-q) = -k.value q := by
  cases k with
  | cpu => rfl
  | _ =>
    simp only [value, Quantity.value]
    split <;> split <;> omega

theorem value_neg_iff (k : Metered) (q : Int) : k.value q < 0 ↔ q < 0 := by
  cases k with
  | cpu => exact Iff.rfl
  | _ =>
    simp only [value, Quantity.value]
    split <;> omega

theorem value_nonneg (k : Metered) {q : Int} (h : 0 ≤ q) : 0 ≤ k.value q :=
  not_lt.mp fun hlt => h.not_gt ((k.value_neg_iff q).mp hlt)

/-- The number that is reported as available is not above that reported as allocatable exactly if
no more is allocated. -/
theorem ofInt_value_le_iff (k : Metered) {l a : Int} (ha : 0 ≤ a) (hl : 0 ≤ l)
    (hl' : k.value l < 2 ^ 63) (ha' : k.value a < 2 ^ 63) :
    UInt64.ofInt (k.value (l - a)) ≤ UInt64.ofInt (k.value l) ↔ a ≤ l := by
  have hvl : 0 ≤ k.value l := k.value_nonneg hl
  have hle : k.value (l - a) ≤ k.value l := k.value_mono (by omega)
  have hge : -k.value a ≤ k.value (l - a) := by
    rw [← k.value_neg]
    exact k.value_mono (by omega)
  have hsign := k.value_neg_iff (l - a)
  have hn := Words.toNat_ofInt (k.value (l - a))
  have hn' := Words.toNat_ofInt (k.value l)
  rw [UInt64.le_iff_toNat_le]
  omega

end Metered

def InventoryV1.ResourcesMetric.get (m : ResourcesMetric) : Metered → UInt64
  | .cpu => m.cpu
  | .gpu => m.gpu
  | .memory => m.memory
  | .storageEphemeral => m.storageEphemeral

def InventoryV1.ResourcesMetric.of (f : Metered → UInt64) : ResourcesMetric :=
  ⟨f .cpu, f .gpu, f .memory, f .storageEphemeral⟩

theorem InventoryV1.ResourcesMetric.get_of (f : Metered → UInt64) (k : Metered) :
    (of f).get k = f k := by
  cases k <;> rfl

def InventoryV1.MetricTotal.get (t : MetricTotal) : Metered → UInt64
  | .cpu => t.cpu
  | .gpu => t.gpu
  | .memory => t.memory
  | .storageEphemeral => t.storageEphemeral

/-! ## What the loops compute -/

variable {rp : ResourcePair}

theorem InventoryV1.ResourcePair.available_eq_some_iff {q : Quantity} :
    rp.available = some q ↔ ∃ l a, rp.allocatable = some l ∧ rp.allocated = some a ∧ q = l - a := by
  obtain ⟨capacity, allocatable, allocated⟩ := rp
  cases allocatable with
  | none => simp [available]
  | some l =>
    cases allocated with
    | none => simp [available]
    | some a => simp [available, eq_comm]

theorem resourcesMetric_eq_some_iff {read : ResourcePair → Option Quantity} {r : NodeResources}
    {m : ResourcesMetric} : resourcesMetric read r = some m ↔
      ∀ k : Metered, ∃ q, read (r.pair k.resource) = some q ∧ m.get k = .ofInt (k.value q) := by
  simp only [resourcesMetric, bind, Option.bind_eq_some_iff]
  constructor
  · rintro ⟨cpu, hcpu, gpu, hgpu, memory, hmemory, storage, hstorage, h⟩ k
    cases h
    cases k <;> exact ⟨_, by assumption, rfl⟩
  · intro h
    obtain ⟨cpu, hcpu, hcpu'⟩ := h .cpu
    obtain ⟨gpu, hgpu, hgpu'⟩ := h .gpu
    obtain ⟨memory, hmemory, hmemory'⟩ := h .memory
    obtain ⟨storage, hstorage, hstorage'⟩ := h .storageEphemeral
    cases m
    cases hcpu'
    cases hgpu'
    cases hmemory'
    cases hstorage'
    exact ⟨cpu, hcpu, gpu, hgpu, memory, hmemory, storage, hstorage, rfl⟩

/-- The numbers `l` and `a` of a pair are reported as `allocatable` and `available`. -/
@[grind cases]
structure Reports (rp : ResourcePair) (value : Quantity → Int) (allocatable available : UInt64)
    (l a : Quantity) : Prop where
  allocatable_eq : rp.allocatable = some l
  allocated_eq : rp.allocated = some a
  allocatable_value : allocatable = .ofInt (value l)
  available_value : available = .ofInt (value (l - a))

theorem nodeMetrics_eq_some_iff {nd : Node} {n : NodeMetrics} : nodeMetrics nd = some n ↔
    n.name = nd.name ∧ ∀ k : Metered, ∃ l a, Reports (nd.resources.pair k.resource) k.value
      (n.allocatable.get k) (n.available.get k) l a := by
  simp only [nodeMetrics, bind, Option.bind_eq_some_iff, resourcesMetric_eq_some_iff,
    ResourcePair.available_eq_some_iff]
  constructor
  · rintro ⟨allocatable, hallocatable, available, havailable, h⟩
    cases h
    refine ⟨rfl, fun k => ?_⟩
    obtain ⟨l, hl, hlvalue⟩ := hallocatable k
    obtain ⟨_, ⟨l', a, hl', ha, rfl⟩, hqvalue⟩ := havailable k
    cases hl.symm.trans hl'
    exact ⟨l, a, hl, ha, hlvalue, hqvalue⟩
  · rintro ⟨hname, h⟩
    cases n
    cases hname
    refine ⟨_, fun k => ?_, _, fun k => ?_, rfl⟩ <;> obtain ⟨l, a, h⟩ := h k
    · exact ⟨l, h.allocatable_eq, h.allocatable_value⟩
    · exact ⟨l - a, ⟨l, a, h.allocatable_eq, h.allocated_eq, rfl⟩, h.available_value⟩

theorem classMetrics_eq_some_iff {s : InventoryV1.Storage} {m : ClassMetrics} :
    classMetrics s = some m ↔ m.storageClass = s.info.storageClass ∧
      ∃ l a, Reports s.quantity Quantity.value m.allocatable m.available l a := by
  simp only [classMetrics, bind, Option.bind_eq_some_iff, ResourcePair.available_eq_some_iff]
  constructor
  · rintro ⟨l, hl, _, ⟨l', a, hl', ha, rfl⟩, h⟩
    cases h
    cases hl.symm.trans hl'
    exact ⟨rfl, l, a, hl, ha, rfl, rfl⟩
  · rintro ⟨hclass, l, a, h⟩
    cases m
    cases hclass
    cases h.allocatable_value
    cases h.available_value
    exact ⟨l, h.allocatable_eq, l - a, ⟨l, a, h.allocatable_eq, h.allocated_eq, rfl⟩, rfl⟩

namespace InventoryV1.Metrics

theorem nodes_foldl_addNode (ns : List NodeMetrics) :
    ∀ ret : Metrics, (ns.foldl addNode ret).nodes = ret.nodes ++ ns := by
  induction ns with
  | nil => intro ret; exact (List.append_nil _).symm
  | cons n ns ih =>
    intro ret
    rw [List.foldl_cons, ih]
    simp [addNode]

theorem get_foldl_addNode (k : Metered) (ns : List NodeMetrics) : ∀ ret : Metrics,
    (ns.foldl addNode ret).totalAllocatable.get k =
        ret.totalAllocatable.get k + (ns.map (·.allocatable.get k)).sum ∧
      (ns.foldl addNode ret).totalAvailable.get k =
        ret.totalAvailable.get k + (ns.map (·.available.get k)).sum := by
  have hadd (t : MetricTotal) (m : ResourcesMetric) : (t.add m).get k = t.get k + m.get k := by
    cases k <;> rfl
  induction ns with
  | nil => simp
  | cons n ns ih =>
    simp_all [List.foldl_cons, List.map_cons, List.sum_cons, addNode, UInt64.add_assoc, and_self]

theorem foldl_addClass (ms : List ClassMetrics) : ∀ ret : Metrics,
    ms.foldl addClass ret = { ret with
      totalAllocatable.storage :=
        ms.reverse.map (fun m => (m.storageClass, m.allocatable)) ++ ret.totalAllocatable.storage
      totalAvailable.storage :=
        ms.reverse.map (fun m => (m.storageClass, m.available)) ++
          ret.totalAvailable.storage } := by
  induction ms with
  | nil => intro ret; rfl
  | cons m ms ih =>
    intro ret
    rw [List.foldl_cons, ih]
    simp [addClass]

def ofParts (ns : List NodeMetrics) (ms : List ClassMetrics) : Metrics :=
  ms.foldl addClass (ns.foldl addNode ⟨[], .zero, .zero⟩)

variable (ns : List NodeMetrics) (ms : List ClassMetrics)

theorem nodes_ofParts : (ofParts ns ms).nodes = ns := by
  rw [ofParts, foldl_addClass, nodes_foldl_addNode]
  exact List.nil_append ns

theorem get_ofParts (k : Metered) :
    (ofParts ns ms).totalAllocatable.get k = (ns.map (·.allocatable.get k)).sum ∧
      (ofParts ns ms).totalAvailable.get k = (ns.map (·.available.get k)).sum := by
  have hzero : MetricTotal.zero.get k = 0 := by cases k <;> rfl
  have hnodes := get_foldl_addNode k ns ⟨[], .zero, .zero⟩
  rw [ofParts, foldl_addClass]
  cases k <;> simp_all [MetricTotal.get]

theorem storage_ofParts (c : String) :
    (ofParts ns ms).totalAllocatable.storage.lookup c =
        (ms.reverse.find? (c == ·.storageClass)).map (·.allocatable) ∧
      (ofParts ns ms).totalAvailable.storage.lookup c =
        (ms.reverse.find? (c == ·.storageClass)).map (·.available) := by
  have hnodes (l : List NodeMetrics) : ∀ ret : Metrics,
      (l.foldl addNode ret).totalAllocatable.storage = ret.totalAllocatable.storage ∧
        (l.foldl addNode ret).totalAvailable.storage = ret.totalAvailable.storage := by
    induction l with
    | nil => intro ret; exact ⟨rfl, rfl⟩
    | cons n l ih => intro ret; exact ih (ret.addNode n)
  rw [ofParts, foldl_addClass]
  simp only [(hnodes ns _).1, (hnodes ns _).2, MetricTotal.zero, List.append_nil, Assoc.lookup_map,
    and_self]

end InventoryV1.Metrics

variable {inv : Inventory}

theorem Inventory.metrics_eq_some_iff {m : Metrics} : inv.metrics = some m ↔
    ∃ ns ms, List.Forall₂ (fun nd n => nodeMetrics nd = some n) inv.sanitized.nodes ns ∧
      List.Forall₂ (fun s m => classMetrics s = some m) inv.sanitized.storage ms ∧
      m = .ofParts ns ms := by
  simp only [metrics, bind, Option.bind_eq_some_iff, List.foldlM_map_eq_some_iff]
  constructor
  · rintro ⟨_, ⟨ns, hns, rfl⟩, ms, hms, rfl⟩
    exact ⟨ns, ms, hns, hms, rfl⟩
  · rintro ⟨ns, ms, hns, hms, rfl⟩
    exact ⟨_, ⟨ns, hns, rfl⟩, ms, hms, rfl⟩

/-! ## Metrics that never overstate -/

/-- Nothing is reported as available beyond what is allocatable, and the totals are the sums. -/
@[grind cases]
structure InventoryV1.Metrics.NeverOverstates (m : Metrics) : Prop where
  node : ∀ n ∈ m.nodes, ∀ k, n.available.get k ≤ n.allocatable.get k
  storage : ∀ c available, m.totalAvailable.storage.lookup c = some available →
    ∃ allocatable, m.totalAllocatable.storage.lookup c = some allocatable ∧ available ≤ allocatable
  allocatable_sum : ∀ k, (m.totalAllocatable.get k).toNat =
    (m.nodes.map fun n => (n.allocatable.get k).toNat).sum
  available_sum : ∀ k, (m.totalAvailable.get k).toNat =
    (m.nodes.map fun n => (n.available.get k).toNat).sum
  total : ∀ k, m.totalAvailable.get k ≤ m.totalAllocatable.get k

theorem InventoryV1.Metrics.neverOverstates_ofParts (ns : List NodeMetrics)
    (ms : List ClassMetrics) : (ofParts ns ms).NeverOverstates ↔
      (∀ n ∈ ns, ∀ k, n.available.get k ≤ n.allocatable.get k) ∧
      (∀ c m, ms.reverse.find? (c == ·.storageClass) = some m → m.available ≤ m.allocatable) ∧
      ∀ k, (ns.map fun n => (n.allocatable.get k).toNat).sum < 2 ^ 64 := by
  have hmap (f : NodeMetrics → UInt64) :
      ((ns.map f).map UInt64.toNat).sum = (ns.map fun n => (f n).toNat).sum := by
    rw [List.map_map]
    rfl
  have hnodes := nodes_ofParts ns ms
  constructor
  · intro h
    refine ⟨hnodes ▸ h.node, fun c m hm => ?_, fun k => ?_⟩
    · obtain ⟨hallocatable, havailable⟩ := storage_ofParts ns ms c
      rw [hm] at hallocatable havailable
      obtain ⟨t, ht, hle⟩ := h.storage c _ havailable
      cases ht.symm.trans hallocatable
      exact hle
    · have hsum := h.allocatable_sum k
      rw [hnodes] at hsum
      exact hsum ▸ UInt64.toNat_lt _
  · rintro ⟨hnode, hstorage, htotal⟩
    have hle (k : Metered) : (ns.map fun n => (n.available.get k).toNat).sum ≤
        (ns.map fun n => (n.allocatable.get k).toNat).sum :=
      List.sum_le_sum fun n hn => UInt64.le_iff_toNat_le.mp (hnode n hn k)
    have hallocatable (k : Metered) : ((ofParts ns ms).totalAllocatable.get k).toNat =
        (ns.map fun n => (n.allocatable.get k).toNat).sum := by
      rw [(get_ofParts ns ms k).1, ← hmap]
      exact (Words.toNat_sum_eq_iff _).mpr (by rw [hmap]; exact htotal k)
    have havailable (k : Metered) : ((ofParts ns ms).totalAvailable.get k).toNat =
        (ns.map fun n => (n.available.get k).toNat).sum := by
      rw [(get_ofParts ns ms k).2, ← hmap]
      exact (Words.toNat_sum_eq_iff _).mpr (by rw [hmap]; exact (hle k).trans_lt (htotal k))
    refine ⟨by rwa [hnodes], fun c available hlookup => ?_, by rwa [hnodes], by rwa [hnodes],
      fun k => ?_⟩
    · obtain ⟨ht, ha⟩ := storage_ofParts ns ms c
      obtain ⟨m, hm, rfl⟩ := Option.map_eq_some_iff.mp (ha.symm.trans hlookup)
      rw [hm] at ht
      exact ⟨_, ht, hstorage c m hm⟩
    · rw [UInt64.le_iff_toNat_le, hallocatable, havailable]
      exact hle k

/-! ## Quantities of an inventory -/

/-- The quantities of a pair that the metrics are made of. -/
@[grind cases]
structure InventoryV1.ResourcePair.All (rp : ResourcePair) (P : Quantity → Prop) : Prop where
  allocatable : ∀ q, rp.allocatable = some q → P q
  allocated : ∀ q, rp.allocated = some q → P q

/-- The quantities of a cluster that the metrics are made of. -/
@[grind cases]
structure InventoryV1.Cluster.All (cl : Cluster) (P : Metered → Quantity → Prop) : Prop where
  node : ∀ nd ∈ cl.nodes, ∀ k : Metered, (nd.resources.pair k.resource).All (P k)
  storage : ∀ s ∈ cl.storage, s.quantity.All (P .storageEphemeral)

/-- The inventories that are made from what a cluster reports, and adjusted. -/
inductive Inventory.Made (S : Sdk) : Inventory → Prop
  | new (clState : Cluster) : Made S (newInventory clState)
  | adjusted {inv : Inventory} (rg : ResourceGroup) (opts : InventoryOptions) (made : Made S inv) :
      Made S (adjust S inv rg opts).1

theorem all_nonneg_sanitizeResourcePair (rp : ResourcePair) :
    (sanitizeResourcePair rp).All fun q => 0 ≤ q := by
  have hquantity (q : Option Quantity) : ∀ v, sanitizeQuantity q = some v → 0 ≤ v := by
    intro v hv
    obtain ⟨w, -, rfl⟩ := Option.map_eq_some_iff.mp hv
    split
    · exact le_rfl
    · next h => exact not_lt.mp h
  exact ⟨hquantity _, hquantity _⟩

theorem all_nonneg_charge (h : rp.All fun q => 0 ≤ q) {amount : Quantity} (hamount : 0 ≤ amount) :
    (rp.charge amount).All fun q => 0 ≤ q := by
  refine ⟨h.allocatable, fun q hq => ?_⟩
  obtain ⟨a, ha, rfl⟩ := Option.map_eq_some_iff.mp hq
  exact add_nonneg (h.allocated a ha) hamount

theorem all_nonneg_chargeStorage {l : List InventoryV1.Storage}
    (h : ∀ s ∈ l, s.quantity.All fun q => 0 ≤ q) : ∀ {f : String → Quantity}, 0 ≤ f →
      ∀ s ∈ chargeStorage f l, s.quantity.All fun q => 0 ≤ q := by
  induction l with
  | nil =>
    intro f _ s hs
    cases hs
  | cons s l ih =>
    intro f hf s' hs'
    rcases List.mem_cons.mp hs' with rfl | hs'
    · exact all_nonneg_charge (h s List.mem_cons_self) (hf _)
    · refine ih (fun s' hs' => h s' (List.mem_cons_of_mem s hs')) ?_ s' hs'
      intro c
      rw [Function.update_apply]
      split
      · exact le_rfl
      · exact hf c

theorem Inventory.Made.all_nonneg {S : Sdk} (hS : S.Lawful) (h : inv.Made S) :
    inv.sanitized.All fun _ q => 0 ≤ q := by
  induction h with
  | new clState =>
    constructor
    · intro nd hnd k
      obtain ⟨nd₀, -, rfl⟩ := List.mem_map.mp hnd
      cases k <;> exact all_nonneg_sanitizeResourcePair _
    · intro s hs
      obtain ⟨s₀, -, rfl⟩ := List.mem_map.mp hs
      exact all_nonneg_sanitizeResourcePair _
  | @adjusted inv rg opts _ ih =>
    obtain ⟨hgrant, hsame⟩ := adjust_exact hS inv rg opts
    by_cases hok : (∀ g, (adjust S inv rg opts).2 ≠ .ok g) ∨ opts.dryRun = true
    · rwa [hsame hok]
    · rw [not_or, not_forall_not, Bool.not_eq_true] at hok
      obtain ⟨⟨g, hg⟩, hdry⟩ := hok
      obtain ⟨a, -, hcharge, -⟩ := hgrant g hg hdry
      rw [hcharge]
      have hamount := a.amount_nonneg S (adjustEnv rg opts)
      refine ⟨fun nd hnd k => ?_, all_nonneg_chargeStorage ih.storage fun c => hamount _⟩
      obtain ⟨j, hj, rfl⟩ := List.mem_mapIdx.mp hnd
      simp only [InventoryV1.Node.charge, InventoryV1.NodeResources.pair_charge]
      exact all_nonneg_charge (ih.node _ (List.getElem_mem hj) k) (hamount _)

/-! ## When the metrics never overstate -/

def lastEntry (l : List InventoryV1.Storage) (c : String) : Option InventoryV1.Storage :=
  l.reverse.find? (c == ·.info.storageClass)

/-- No more is allocated than allocatable, on every node and in every class of storage.  Of a
class that is reported twice, the last entry counts. -/
@[grind cases]
structure InventoryV1.Cluster.Covered (cl : Cluster) : Prop where
  node : ∀ nd ∈ cl.nodes, ∀ k : Metered, (nd.resources.pair k.resource).Within
  reported : ∀ s ∈ cl.storage,
    ∃ l a, s.quantity.allocatable = some l ∧ s.quantity.allocated = some a
  storage : ∀ c s, lastEntry cl.storage c = some s → s.quantity.Within

def InventoryV1.Cluster.allocatable (cl : Cluster) (k : Metered) : Int :=
  (cl.nodes.map fun nd => k.value ((nd.resources.pair k.resource).allocatable.getD 0)).sum

theorem Reports.le_iff {k : Metered} {allocatable available : UInt64} {l a : Quantity}
    (h : Reports rp k.value allocatable available l a) (hnonneg : rp.All fun q => 0 ≤ q)
    (hbits : rp.All fun q => k.value q < 2 ^ 63) :
    available ≤ allocatable ↔ rp.Within := by
  rw [h.allocatable_value, h.available_value,
    k.ofInt_value_le_iff (hnonneg.allocated a h.allocated_eq)
      (hnonneg.allocatable l h.allocatable_eq) (hbits.allocatable l h.allocatable_eq)
      (hbits.allocated a h.allocated_eq)]
  constructor
  · exact fun hle => ⟨a, l, h.allocated_eq, h.allocatable_eq, hle⟩
  · rintro ⟨a', l', ha, hl, hle⟩
    cases ha.symm.trans h.allocated_eq
    cases hl.symm.trans h.allocatable_eq
    exact hle

section

variable {S : Sdk} {inv : Inventory} {ns : List NodeMetrics} {ms : List ClassMetrics}

theorem allocatable_eq_sum (hnonneg : inv.sanitized.All fun _ q => 0 ≤ q)
    (hbits : inv.sanitized.All fun k q => k.value q < 2 ^ 63)
    (hns : List.Forall₂ (fun nd n => nodeMetrics nd = some n) inv.sanitized.nodes ns)
    (k : Metered) :
    inv.sanitized.allocatable k = ((ns.map fun n => (n.allocatable.get k).toNat).sum : Nat) := by
  have hsame : inv.sanitized.nodes.map
        (fun nd => k.value ((nd.resources.pair k.resource).allocatable.getD 0)) =
      ns.map fun n => ((n.allocatable.get k).toNat : Int) := by
    rw [← List.forall₂_eq_eq_eq, List.forall₂_map_left_iff, List.forall₂_map_right_iff]
    refine ((List.forall₂_and_left _ _).mpr ⟨fun nd hnd => hnd, hns⟩).imp fun nd n ⟨hnd, hn⟩ => ?_
    obtain ⟨l, a, h⟩ := (nodeMetrics_eq_some_iff.mp hn).2 k
    have hl := (hnonneg.node nd hnd k).allocatable l h.allocatable_eq
    have hlt := (hbits.node nd hnd k).allocatable l h.allocatable_eq
    rw [h.allocatable_eq, Option.getD_some, h.allocatable_value,
      Words.toNat_ofInt_of_nonneg (k.value_nonneg hl) (hlt.trans (by decide))]
  rw [InventoryV1.Cluster.allocatable, hsame, Nat.cast_list_sum, List.map_map]
  rfl

theorem exists_nodeMetrics {nd : Node}
    (h : ∀ k : Metered, (nd.resources.pair k.resource).Within) : ∃ n, nodeMetrics nd = some n := by
  choose a l ha hl hle using h
  refine ⟨⟨nd.name, .of fun k => .ofInt (k.value (l k)),
    .of fun k => .ofInt (k.value (l k - a k))⟩, nodeMetrics_eq_some_iff.mpr ⟨rfl, fun k => ?_⟩⟩
  exact ⟨l k, a k, hl k, ha k, ResourcesMetric.get_of _ k, ResourcesMetric.get_of _ k⟩

theorem exists_classMetrics {s : InventoryV1.Storage} {l a : Quantity}
    (hl : s.quantity.allocatable = some l) (ha : s.quantity.allocated = some a) :
    ∃ m, classMetrics s = some m :=
  ⟨⟨s.info.storageClass, .ofInt l.value, .ofInt (Quantity.value (l - a))⟩,
    classMetrics_eq_some_iff.mpr ⟨rfl, l, a, hl, ha, rfl, rfl⟩⟩

theorem nodes_le_iff (hnonneg : inv.sanitized.All fun _ q => 0 ≤ q)
    (hbits : inv.sanitized.All fun k q => k.value q < 2 ^ 63)
    (hns : List.Forall₂ (fun nd n => nodeMetrics nd = some n) inv.sanitized.nodes ns) :
    (∀ n ∈ ns, ∀ k, n.available.get k ≤ n.allocatable.get k) ↔
      ∀ nd ∈ inv.sanitized.nodes, ∀ k : Metered, (nd.resources.pair k.resource).Within := by
  have hread {nd : Node} {n : NodeMetrics} (hnd : nd ∈ inv.sanitized.nodes)
      (h : nodeMetrics nd = some n) (k : Metered) :
      n.available.get k ≤ n.allocatable.get k ↔ (nd.resources.pair k.resource).Within := by
    obtain ⟨l, a, hreports⟩ := (nodeMetrics_eq_some_iff.mp h).2 k
    exact hreports.le_iff (hnonneg.node nd hnd k) (hbits.node nd hnd k)
  have hns' := (List.forall₂_and_left _ _).mpr ⟨fun nd hnd => hnd, hns⟩
  constructor
  · intro h nd hnd k
    obtain ⟨n, hn, -, hmetrics⟩ := hns'.exists_of_mem_left hnd
    exact (hread hnd hmetrics k).mp (h n hn k)
  · intro h n hn k
    obtain ⟨nd, hnd, -, hmetrics⟩ := hns'.exists_of_mem hn
    exact (hread hnd hmetrics k).mpr (h nd hnd k)

theorem classes_le_iff (hnonneg : inv.sanitized.All fun _ q => 0 ≤ q)
    (hbits : inv.sanitized.All fun k q => k.value q < 2 ^ 63)
    (hms : List.Forall₂ (fun s m => classMetrics s = some m) inv.sanitized.storage ms) :
    (∀ c m, ms.reverse.find? (c == ·.storageClass) = some m → m.available ≤ m.allocatable) ↔
      ∀ c s, lastEntry inv.sanitized.storage c = some s → s.quantity.Within := by
  have hread {s : InventoryV1.Storage} {m : ClassMetrics} (hs : s ∈ inv.sanitized.storage)
      (h : classMetrics s = some m) : m.available ≤ m.allocatable ↔ s.quantity.Within := by
    obtain ⟨-, l, a, hreports⟩ := classMetrics_eq_some_iff.mp h
    exact Reports.le_iff (k := .storageEphemeral) hreports (hnonneg.storage s hs)
      (hbits.storage s hs)
  have hms' := List.forall₂_reverse_iff.mpr
    ((List.forall₂_and_left _ _).mpr ⟨fun s hs => hs, hms⟩)
  have hclass (c : String) (s : InventoryV1.Storage) (m : ClassMetrics)
      (h : s ∈ inv.sanitized.storage ∧ classMetrics s = some m) :
      (c == s.info.storageClass) = (c == m.storageClass) := by
    rw [(classMetrics_eq_some_iff.mp h.2).1]
  constructor
  · intro h c s hs
    obtain ⟨m, hm, hmem, hmetrics⟩ := hms'.find?_eq_some (hclass c) hs
    exact (hread hmem hmetrics).mp (h c m hm)
  · intro h c m hm
    obtain ⟨s, hs, hmem, hmetrics⟩ :=
      hms'.flip.find?_eq_some (fun m s hR => (hclass c s m hR).symm) hm
    exact (hread hmem hmetrics).mpr (h c s hs)

/-- For quantities of 63 bits.  The metrics never overstate exactly if no more is allocated than
allocatable, and the totals have 64 bits. -/
theorem metrics_never_overstate_iff (hS : S.Lawful) (hmade : inv.Made S)
    (hbits : inv.sanitized.All fun k q => k.value q < 2 ^ 63) :
    (∃ m, inv.metrics = some m ∧ m.NeverOverstates) ↔
      inv.sanitized.Covered ∧ ∀ k, inv.sanitized.allocatable k < 2 ^ 64 := by
  have hnonneg := hmade.all_nonneg hS
  constructor
  · rintro ⟨m, hm, hnever⟩
    obtain ⟨ns, ms, hns, hms, rfl⟩ := Inventory.metrics_eq_some_iff.mp hm
    obtain ⟨hnode, hstorage, htotal⟩ :=
      (InventoryV1.Metrics.neverOverstates_ofParts ns ms).mp hnever
    refine ⟨⟨(nodes_le_iff hnonneg hbits hns).mp hnode, fun s hs => ?_,
      (classes_le_iff hnonneg hbits hms).mp hstorage⟩, fun k => ?_⟩
    · obtain ⟨m, -, hread⟩ := hms.exists_of_mem_left hs
      obtain ⟨-, l, a, h⟩ := classMetrics_eq_some_iff.mp hread
      exact ⟨l, a, h.allocatable_eq, h.allocated_eq⟩
    · rw [allocatable_eq_sum hnonneg hbits hns]
      exact_mod_cast htotal k
  · rintro ⟨hcovered, htotal⟩
    obtain ⟨ns, hns⟩ := List.Forall₂.exists_of_forall fun nd hnd =>
      exists_nodeMetrics (hcovered.node nd hnd)
    obtain ⟨ms, hms⟩ := List.Forall₂.exists_of_forall fun s hs => by
      obtain ⟨l, a, hl, ha⟩ := hcovered.reported s hs
      exact exists_classMetrics hl ha
    refine ⟨.ofParts ns ms, Inventory.metrics_eq_some_iff.mpr ⟨ns, ms, hns, hms, rfl⟩,
      (InventoryV1.Metrics.neverOverstates_ofParts ns ms).mpr
        ⟨(nodes_le_iff hnonneg hbits hns).mpr hcovered.node,
          (classes_le_iff hnonneg hbits hms).mpr hcovered.storage, fun k => ?_⟩⟩
    have hlt := htotal k
    rw [allocatable_eq_sum hnonneg hbits hns] at hlt
    exact_mod_cast hlt

end

/-- Two nodes with nothing allocated. -/
theorem metrics_never_overstate_free :
    let inv := newInventory ⟨[freeNode "a" 1000 64 0 [], freeNode "b" 1000 64 0 []], []⟩
    ∃ m, inv.metrics = some m ∧ m.NeverOverstates := by
  intro inv
  have hpair (nd : Node) (hnd : nd ∈ inv.sanitized.nodes) (k : Metered) :
      ∃ l, nd.resources.pair k.resource = freePair l ∧ 0 ≤ l ∧ k.value l < 2 ^ 63 := by
    have hnode : nd ∈ [freeNode "a" 1000 64 0 [], freeNode "b" 1000 64 0 []] := hnd
    simp only [List.mem_cons, List.not_mem_nil, or_false] at hnode
    obtain rfl | rfl := hnode <;> cases k <;> exact ⟨_, rfl, by decide, by decide⟩
  have hbits : inv.sanitized.All fun k q => k.value q < 2 ^ 63 := by
    refine ⟨fun nd hnd k => ?_, fun s hs => (nomatch hs)⟩
    obtain ⟨l, hl, hpos, hlt⟩ := hpair nd hnd k
    rw [hl]
    refine ⟨fun q hq => ?_, fun q hq => ?_⟩
    · cases hq
      exact hlt
    · cases hq
      exact lt_of_le_of_lt (k.value_mono hpos) hlt
  refine (metrics_never_overstate_iff Sdk.reference_lawful (.new _) hbits).mpr
    ⟨⟨fun nd hnd k => ?_, fun s hs => (nomatch hs), fun c s hs => (nomatch hs)⟩, fun k => ?_⟩
  · obtain ⟨l, hl, hpos, -⟩ := hpair nd hnd k
    exact hl ▸ ⟨0, l, rfl, rfl, hpos⟩
  · cases k <;> decide

/-- A node of 1000 milli-units with 2000 allocated reports almost `2 ^ 64` as available. -/
theorem overcommitted_node_overstated :
    let nd := freeNode "a" 1000 64 0 []
    let cpu : InventoryV1.CPU := ⟨⟨some 1000, some 1000, some 2000⟩, []⟩
    let inv := newInventory ⟨[{ nd with resources.cpu := cpu }], []⟩
    (inv.metrics.map fun m => (m.totalAllocatable.cpu, m.totalAvailable.cpu)) =
        some (1000, 18446744073709550616) ∧
      inv.sanitized.nodes.map (·.resources.cpu.quantity) = [cpu.quantity] := by
  decide +kernel

end AkashProvider
