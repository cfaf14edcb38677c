import AkashProvider.Inventory.Admission
import AkashProvider.Inventory.Placement

/-!
# What a cluster carries

`load` and `limit` read off what is allocated and what is allocatable on each
account of a cluster, with zero for what is not reported.  A grant of `Adjust`
adds to the load exactly what some assignment of its replicas draws, and keeps
the load below the limit if it was (`adjust_load`).
-/

namespace AkashProvider

open InventoryV1 (Quantity ResourcePair Cluster)

variable {S : Sdk} {env : AdjustEnv}

/-! ## Loads and limits -/

namespace InventoryV1.Cluster

def load (cl : Cluster) (k : ClusterAccount) : Quantity :=
  ((cl.pair k).bind (·.allocated)).getD 0

def limit (cl : Cluster) (k : ClusterAccount) : Quantity :=
  ((cl.pair k).bind (·.allocatable)).getD 0

variable {cl : Cluster} {m : ClusterAccount → Quantity} {k : ClusterAccount}

theorem load_le_limit_of_within (h : cl.Within k) : cl.load k ≤ cl.limit k := by
  obtain ⟨rp, hrp, a, l, ha, hl, hle⟩ := h
  simpa [load, limit, hrp, ha, hl] using hle

theorem limit_charge (cl : Cluster) (m : ClusterAccount → Quantity) :
    (cl.charge m).limit = cl.limit := by
  funext k
  simp only [limit, pair_charge]
  cases cl.pair k with
  | none => rfl
  | some rp => rfl

theorem length_nodes_charge (cl : Cluster) (m : ClusterAccount → Quantity) :
    (cl.charge m).nodes.length = cl.nodes.length := by
  simp [charge]

theorem load_charge (cl : Cluster) (m : ClusterAccount → Quantity) (k : ClusterAccount) :
    (cl.charge m).load k = cl.load k + m k ∨
      ((cl.charge m).load k = 0 ∧ cl.load k = 0 ∧ ¬ (cl.charge m).Within k) := by
  simp only [load, Within, pair_charge]
  cases hrp : cl.pair k with
  | none => simp
  | some rp =>
    cases ha : rp.allocated with
    | none => simp [ResourcePair.charge, ha, ResourcePair.Within]
    | some a => simp [ResourcePair.charge, ha]

theorem load_charge_of_within (h : (cl.charge m).Within k) :
    (cl.charge m).load k = cl.load k + m k :=
  (load_charge cl m k).resolve_right fun hno => hno.2.2 h

theorem load_charge_of_eq_zero (h : m k = 0) : (cl.charge m).load k = cl.load k := by
  obtain hadd | ⟨hcharge, hload, -⟩ := load_charge cl m k
  · rw [hadd, h, Int.add_zero]
  · rw [hcharge, hload]

end InventoryV1.Cluster

/-! ## What an assignment draws -/

variable {k : ReplicaAccount}

theorem volumeSum_eq_zero {vols : List Rtypes.Storage}
    (h : ∀ vol ∈ vols, volumeAccount S vol ≠ some k) : (vols.map (volumeAmount S)).sum k = 0 := by
  rw [Pi.list_sum_apply]
  refine List.sum_eq_zero ?_
  simp only [List.map_map, List.mem_map, Function.comp_apply]
  rintro _ ⟨vol, hvol, rfl⟩
  simp only [volumeAmount]
  cases hacc : volumeAccount S vol with
  | none => rfl
  | some j => grind

theorem replicaAmount_eq_zero {cfg : AttemptConfig} {res : Rtypes.Resources}
    (h : k ∉ replicaTouches S cfg res) : replicaAmount S cfg res k = 0 := by
  simp only [replicaTouches, Set.mem_ofPred_eq, not_or, not_and, not_exists] at h
  obtain ⟨hcpu, hmemory, hgpu, hinter, hvols⟩ := h
  simp only [replicaAmount, Pi.add_apply, volumeSum_eq_zero hvols, Int.add_zero]
  rcases k with r | c
  · cases r with
    | cpu => exact absurd rfl hcpu
    | memory => exact absurd rfl hmemory
    | gpu => simp [requestAmount, sidecarAmount, not_not.mp (hgpu rfl), wholeUnits]
    | ephemeralStorage => rfl
    | gpuInterconnect => simp [requestAmount, sidecarAmount, hinter rfl]
  · rfl

theorem requestAmount_nonneg (cfg : AttemptConfig) (res : Rtypes.Resources)
    (k : ReplicaAccount) : 0 ≤ requestAmount cfg res k := by
  rcases k with r | c
  · cases r with
    | cpu => exact Int.natCast_nonneg _
    | memory => exact wholeUnits_nonneg _
    | gpu => exact wholeUnits_nonneg _
    | ephemeralStorage => exact Int.le_refl 0
    | gpuInterconnect =>
      simp only [requestAmount]
      split
      next => exact wholeUnits_nonneg _
      next => exact Int.le_refl 0
  · exact Int.le_refl 0

theorem unitAmount_nonneg (S : Sdk) (env : AdjustEnv) (i : Nat) : 0 ≤ unitAmount S env i := by
  intro k
  simp only [unitAmount]
  cases env.origResources[i]? with
  | none => exact Int.le_refl 0
  | some u =>
    exact Int.add_nonneg (Int.add_nonneg (requestAmount_nonneg _ _ k) (volumeSum_nonneg S k _))
      (sidecarAmount_nonneg _ k)

theorem unitAmount_eq_zero {i : Nat} (h : k ∉ unitTouches S env i) :
    unitAmount S env i k = 0 := by
  simp only [unitAmount, unitTouches] at h ⊢
  cases hu : env.origResources[i]? with
  | none => rfl
  | some u =>
    rw [hu] at h
    exact replicaAmount_eq_zero h

theorem Assignment.amount_nonneg (S : Sdk) (env : AdjustEnv) (a : Assignment) :
    0 ≤ a.amount S env := by
  refine List.sum_nonneg ?_
  rintro _ he
  obtain ⟨e, -, rfl⟩ := List.mem_map.mp he
  intro k
  cases k with
  | node j r =>
    simp only [onNode]
    split
    next => exact unitAmount_nonneg S env e.1 _
    next => exact Int.le_refl 0
  | storageClass c => exact unitAmount_nonneg S env e.1 _

theorem Assignment.amount_eq_zero {a : Assignment} {k : ClusterAccount}
    (h : k ∉ a.touches S env) : a.amount S env k = 0 := by
  rw [amount, Pi.list_sum_apply]
  refine List.sum_eq_zero ?_
  simp only [List.map_map, List.mem_map, Function.comp_apply]
  rintro _ ⟨e, he, rfl⟩
  have hk : k ∉ onNodeAccounts e.2 (unitTouches S env e.1) := fun hk => h ⟨e, he, hk⟩
  cases k with
  | node j r =>
    simp only [onNode]
    split
    next hj => exact unitAmount_eq_zero fun hr => hk ⟨hj, hr⟩
    next => rfl
  | storageClass c => exact unitAmount_eq_zero hk

/-! ## What a grant adds -/

/-- A state of the cluster `cap`: its nodes and limits, with a load within them. -/
@[grind cases]
structure InventoryV1.Cluster.StateOf (cl cap : Cluster) : Prop where
  length_eq : cl.nodes.length = cap.nodes.length
  limit_eq : cl.limit = cap.limit
  load_le : cl.load ≤ cl.limit

theorem adjust_load (hS : S.Lawful) {inv inv' : Inventory} {rg : ResourceGroup}
    {opts : InventoryOptions} {g : Grant} (h : adjust S inv rg opts = (inv', .ok g))
    (hdry : opts.dryRun = false) {cap : Cluster} (hcap : inv.sanitized.StateOf cap) :
    ∃ a : Assignment, a.Covers rg.resourceUnits cap ∧
      inv'.sanitized.load = inv.sanitized.load + a.amount S (adjustEnv rg opts) ∧
      inv'.sanitized.StateOf cap := by
  obtain ⟨a, hcovers, hinv, hwithin⟩ := adjust_assigns hS h hdry
  subst hinv
  have hlimit := InventoryV1.Cluster.limit_charge inv.sanitized (a.amount S (adjustEnv rg opts))
  refine ⟨a, ⟨hcovers.unit_lt, ?_, hcovers.count_eq⟩, ?_, ?_, ?_, ?_⟩
  · rw [← hcap.length_eq]
    exact hcovers.node_lt
  · funext k
    by_cases hk : k ∈ a.touches S (adjustEnv rg opts)
    · exact InventoryV1.Cluster.load_charge_of_within (hwithin k hk)
    · have hzero := Assignment.amount_eq_zero hk
      rw [Pi.add_apply, hzero, Int.add_zero]
      exact InventoryV1.Cluster.load_charge_of_eq_zero hzero
  · rw [← hcap.length_eq]
    exact InventoryV1.Cluster.length_nodes_charge _ _
  · rw [← hcap.limit_eq]
    exact hlimit
  · intro k
    by_cases hk : k ∈ a.touches S (adjustEnv rg opts)
    · exact InventoryV1.Cluster.load_le_limit_of_within (hwithin k hk)
    · have hzero := Assignment.amount_eq_zero hk
      show (inv.sanitized.charge _).load k ≤ (inv.sanitized.charge _).limit k
      rw [InventoryV1.Cluster.load_charge_of_eq_zero hzero, hlimit]
      exact hcap.load_le k

/-! ## Sanitizing -/

theorem pair_sanitizeCluster (cl : Cluster) (k : ClusterAccount) :
    (sanitizeCluster cl).pair k = (cl.pair k).map sanitizeResourcePair := by
  cases k with
  | node j r =>
    simp only [InventoryV1.Cluster.pair, sanitizeCluster, List.getElem?_map, Option.map_map]
    cases cl.nodes[j]? with
    | none => rfl
    | some nd => cases r <;> rfl
  | storageClass c =>
    simp only [InventoryV1.Cluster.pair, sanitizeCluster, storageEntry, List.find?_map,
      Option.map_map]
    rfl

theorem getD_sanitizeQuantity (q : Option Quantity) (h : 0 ≤ q.getD 0) :
    (sanitizeQuantity q).getD 0 = q.getD 0 := by
  cases q with
  | none => rfl
  | some v => grind [sanitizeQuantity]

/-- A cluster that reports no negative load or limit is sanitized to the same ones. -/
theorem sanitizeCluster_stateOf {cl cap : Cluster} (h : cl.StateOf cap) (hpos : 0 ≤ cl.load) :
    (sanitizeCluster cl).load = cl.load ∧ (sanitizeCluster cl).StateOf cap := by
  have hload : (sanitizeCluster cl).load = cl.load := by
    funext k
    have hk := hpos k
    simp only [InventoryV1.Cluster.load, pair_sanitizeCluster, Pi.zero_apply] at hk ⊢
    cases hrp : cl.pair k with
    | none => rfl
    | some rp =>
      rw [hrp] at hk
      exact getD_sanitizeQuantity rp.allocated hk
  have hlimit : (sanitizeCluster cl).limit = cl.limit := by
    funext k
    have hk := Int.le_trans (hpos k) (h.load_le k)
    simp only [InventoryV1.Cluster.limit, pair_sanitizeCluster, Pi.zero_apply] at hk ⊢
    cases hrp : cl.pair k with
    | none => rfl
    | some rp =>
      rw [hrp] at hk
      exact getD_sanitizeQuantity rp.allocatable hk
  refine ⟨hload, ?_, hlimit.trans h.limit_eq, ?_⟩
  · simpa [sanitizeCluster] using h.length_eq
  · rw [hload, hlimit]
    exact h.load_le

end AkashProvider
