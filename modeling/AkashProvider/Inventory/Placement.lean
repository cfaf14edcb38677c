import AkashProvider.Inventory.Loop

/-!
# Placement is exact

A replica that draws on the ledger of its node draws on that of the cluster (`draw_onNode`).
`adjust_exact` says what `Adjust` does: if it grants, the replicas were assigned to nodes, the
cluster has grown by exactly what they draw, and what was drawn on is within `Allocatable`;
otherwise nothing has changed.
-/

namespace AkashProvider

open InventoryV1 (Quantity ResourcePair Node Cluster)

variable {S : Sdk} {env : AdjustEnv}

/-! ## The ledger of the cluster -/

/-- The accounts of a cluster: five of every node, and the storage classes. -/
inductive ClusterAccount where
  | node (j : Nat) (r : NodeResource)
  | storageClass (c : String)

def InventoryV1.Cluster.charge (cl : Cluster) (m : ClusterAccount → Quantity) : Cluster where
  nodes := cl.nodes.mapIdx fun j nd => nd.charge fun r => m (.node j r)
  storage := chargeStorage (fun c => m (.storageClass c)) cl.storage

/-- The pair an account of the cluster stands for. -/
def InventoryV1.Cluster.pair (cl : Cluster) : ClusterAccount → Option ResourcePair
  | .node j r => (cl.nodes[j]?).map (·.resources.pair r)
  | .storageClass c => (storageEntry cl.storage c).map (·.quantity)

/-- The account is there and within `Allocatable`. -/
def InventoryV1.Cluster.Within (cl : Cluster) (k : ClusterAccount) : Prop :=
  ∃ rp, cl.pair k = some rp ∧ rp.Within

theorem InventoryV1.Cluster.pair_charge (cl : Cluster) (m : ClusterAccount → Quantity)
    (k : ClusterAccount) : (cl.charge m).pair k = (cl.pair k).map (·.charge (m k)) := by
  cases k with
  | node j r =>
    simp only [pair, charge, List.getElem?_mapIdx, Option.map_map]
    cases cl.nodes[j]? with
    | none => rfl
    | some nd => simp [InventoryV1.Node.charge]
  | storageClass c =>
    simp only [pair, charge, storageEntry_chargeStorage, Option.map_map]
    rfl

theorem InventoryV1.Node.charge_zero (nd : Node) : nd.charge (fun _ => 0) = nd := by
  simp [charge, ← Pi.zero_def]

theorem InventoryV1.Node.charge_charge (nd : Node) (f g : NodeResource → Quantity) :
    (nd.charge f).charge g = nd.charge (f + g) := by
  simp [charge]

def clusterLedger : Ledger Cluster (ClusterAccount → Quantity) ClusterAccount where
  charge := InventoryV1.Cluster.charge
  charge_zero cl := by
    obtain ⟨nodes, storage⟩ := cl
    have hstorage : chargeStorage (fun _ => 0) storage = storage := chargeStorage_zero storage
    have hnodes : (nodes.mapIdx fun _ nd => nd) = nodes := by
      refine List.ext_getElem? fun i => ?_
      simp
    simp [InventoryV1.Cluster.charge, InventoryV1.Node.charge_zero, hstorage, hnodes]
  charge_add cl m n := by
    obtain ⟨nodes, storage⟩ := cl
    simp only [InventoryV1.Cluster.charge, chargeStorage_add, List.mapIdx_mapIdx]
    congr 2
    funext j nd
    exact InventoryV1.Node.charge_charge nd _ _
  Room cl k m := ∃ rp, cl.pair k = some rp ∧ rp.Fits (m k)
  room_charge cl m k n := by
    rw [InventoryV1.Cluster.pair_charge]
    cases hrp : cl.pair k with
    | none => simp
    | some rp => simp [InventoryV1.ResourcePair.fits_charge]

theorem clusterLedger_within_iff (cl : Cluster) (k : ClusterAccount) :
    clusterLedger.Within cl k ↔ cl.Within k := by
  simp only [Ledger.Within, clusterLedger, Pi.zero_apply, InventoryV1.ResourcePair.fits_zero,
    InventoryV1.Cluster.Within]

/-- An amount on the accounts of a replica, for a replica on node `j`. -/
def onNode (j : Nat) (m : ReplicaAccount → Quantity) : ClusterAccount → Quantity
  | .node i r => if i = j then m (.node r) else 0
  | .storageClass c => m (.storageClass c)

/-- The accounts of the cluster that a replica on node `j` reaches. -/
def onNodeAccounts (j : Nat) (T : Set ReplicaAccount) : Set ClusterAccount
  | .node i r => i = j ∧ .node r ∈ T
  | .storageClass c => .storageClass c ∈ T

variable {cl : Cluster} {j : Nat}

theorem charge_onNode {nd : Node} (hnd : cl.nodes[j]? = some nd) (m : ReplicaAccount → Quantity) :
    cl.charge (onNode j m) =
      ⟨cl.nodes.set j (replicaLedger.charge (nd, cl.storage) m).1,
        (replicaLedger.charge (nd, cl.storage) m).2⟩ := by
  have hnodes : (cl.nodes.mapIdx fun i nd => nd.charge fun r => onNode j m (.node i r)) =
      cl.nodes.set j (nd.charge fun r => m (.node r)) := by
    refine List.ext_getElem? fun i => ?_
    by_cases hij : j = i
    · grind [onNode]
    · have hzero : (fun r => onNode j m (.node i r)) = fun _ => 0 := by simp [onNode, Ne.symm hij]
      simp [hij, hzero, InventoryV1.Node.charge_zero]
  rw [InventoryV1.Cluster.charge, hnodes]
  rfl

theorem draw_onNode {nd nd' : Node} {storage : List InventoryV1.Storage}
    {m : ReplicaAccount → Quantity} {T : Set ReplicaAccount} (hnd : cl.nodes[j]? = some nd)
    (h : replicaLedger.Draw m T (nd, cl.storage) (nd', storage)) :
    clusterLedger.Draw (onNode j m) (onNodeAccounts j T) cl ⟨cl.nodes.set j nd', storage⟩ where
  eq_charge := by
    have hcharge := charge_onNode hnd m
    rw [← h.eq_charge] at hcharge
    exact hcharge.symm
  within := by
    have hlt : j < cl.nodes.length := (List.getElem?_eq_some_iff.mp hnd).1
    intro k hk
    cases k with
    | node i r =>
      by_cases hij : j = i
      · subst hij
        have hreplica : ReplicaAccount.node r ∈ T ∨
            replicaLedger.Within (nd, cl.storage) (.node r) := by
          refine hk.imp (fun hk => hk.2) ?_
          rintro ⟨rp, hrp, hw⟩
          simp only [InventoryV1.Cluster.pair, hnd, Option.map_some] at hrp
          exact ⟨rp, hrp, hw⟩
        obtain ⟨rp, hrp, hw⟩ := h.within _ hreplica
        refine ⟨rp, ?_, hw⟩
        simpa [InventoryV1.Cluster.pair, accountPair, hlt] using hrp
      · obtain hk | ⟨rp, hrp, hw⟩ := hk
        · exact absurd hk.1.symm hij
        · refine ⟨rp, ?_, hw⟩
          simpa [InventoryV1.Cluster.pair, List.getElem?_set, hij] using hrp
    | storageClass c => exact h.within (.storageClass c) hk

/-! ## Runs of placements -/

/-- What a replica of unit `i` draws on its accounts, as the group requests it. -/
def unitAmount (S : Sdk) (env : AdjustEnv) (i : Nat) : ReplicaAccount → Quantity :=
  match env.origResources[i]? with
  | none => 0
  | some u => replicaAmount S (env.attempt i) u.resources

def unitTouches (S : Sdk) (env : AdjustEnv) (i : Nat) : Set ReplicaAccount :=
  match env.origResources[i]? with
  | none => ∅
  | some u => replicaTouches S (env.attempt i) u.resources

/-- An assignment of replicas to nodes: the unit and the node of each. -/
abbrev Assignment := List (Nat × Nat)

def Assignment.amount (S : Sdk) (env : AdjustEnv) (a : Assignment) : ClusterAccount → Quantity :=
  (a.map fun e => onNode e.2 (unitAmount S env e.1)).sum

def Assignment.touches (S : Sdk) (env : AdjustEnv) (a : Assignment) : Set ClusterAccount :=
  {k | ∃ e ∈ a, k ∈ onNodeAccounts e.2 (unitTouches S env e.1)}

/-- Every replica of the group is assigned, to a node that is there. -/
@[grind cases]
structure Assignment.Covers (a : Assignment) (us : ResourceUnits) (cl : Cluster) : Prop where
  unit_lt : ∀ e ∈ a, e.1 < us.length
  node_lt : ∀ e ∈ a, e.2 < cl.nodes.length
  count_eq : ∀ (i : Nat) (u : ResourceUnit), us[i]? = some u → a.countP (·.1 = i) = u.count

def assignmentOf (placed : List Placed) : Assignment := placed.map fun p => (p.unit, p.node)

theorem placeStep_draw (hS : S.Lawful) {a b : Cluster × List Placed} (h : PlaceStep S env a b) :
    ∃ p, b.2 = a.2 ++ [p] ∧ p.unit < env.origResources.length ∧ p.node < a.1.nodes.length ∧
      clusterLedger.Draw (onNode p.node (unitAmount S env p.unit))
        (onNodeAccounts p.node (unitTouches S env p.unit)) a.1 b.1 := by
  cases h with
  | @place cluster placed i node u res res' claims commit hunit hsame hok =>
    obtain ⟨p⟩ := tryAdjust_eq_ok hok
    refine ⟨⟨i, node, res', commit.sparams⟩, rfl, (List.getElem?_eq_some_iff.mp hunit).1,
      (List.getElem?_eq_some_iff.mp p.devices.node_eq).1, ?_⟩
    have hdraw := draw_onNode p.devices.node_eq (p.draw hS)
    rw [← p.nodes_eq, hsame.replicaAmount_eq, hsame.replicaTouches_eq] at hdraw
    simp only [unitAmount, unitTouches, hunit]
    exact hdraw

variable {start : Cluster}

theorem run_draw (hS : S.Lawful) {b : Cluster × List Placed}
    (h : Relation.ReflTransGen (PlaceStep S env) (start, []) b) :
    clusterLedger.Draw ((assignmentOf b.2).amount S env) ((assignmentOf b.2).touches S env)
        start b.1 ∧
      ∀ p ∈ b.2, p.unit < env.origResources.length ∧ p.node < start.nodes.length := by
  induction h with
  | refl =>
    simpa [assignmentOf, Assignment.amount, Assignment.touches] using
      Ledger.Draw.refl (L := clusterLedger) start
  | @tail b c _ hstep ih =>
    obtain ⟨p, hplaced, hunit, hnode, hdraw⟩ := placeStep_draw hS hstep
    obtain ⟨hrun, hrange⟩ := ih
    have hlen : b.1.nodes.length = start.nodes.length := by
      rw [hrun.eq_charge]
      simp [clusterLedger, InventoryV1.Cluster.charge]
    have htouches : (assignmentOf c.2).touches S env = (assignmentOf b.2).touches S env ∪
        onNodeAccounts p.node (unitTouches S env p.unit) := by
      ext k
      simp only [hplaced, assignmentOf, Assignment.touches, List.map_append, List.mem_append,
        Set.mem_union, Set.mem_ofPred_eq, or_and_right, exists_or]
      simp
    refine ⟨?_, ?_⟩
    · rw [htouches]
      have hamount : (assignmentOf c.2).amount S env = (assignmentOf b.2).amount S env +
          onNode p.node (unitAmount S env p.unit) := by
        simp [hplaced, assignmentOf, Assignment.amount]
      rw [hamount]
      exact hrun.trans hdraw
    grind

theorem node_charged_of_run (hS : S.Lawful) {b : Cluster × List Placed}
    (h : Relation.ReflTransGen (PlaceStep S env) (start, []) b) {j : Nat} {nd' : Node}
    (hnode : b.1.nodes[j]? = some nd') : ∃ nd f, start.nodes[j]? = some nd ∧ nd' = nd.charge f := by
  have hcluster : b.1 = start.charge ((assignmentOf b.2).amount S env) :=
    (run_draw hS h).1.eq_charge
  grind [InventoryV1.Cluster.charge]

theorem Attempt.node_charged (hS : S.Lawful) {p : Placed} (a : Attempt S env start p) {nd' : Node}
    (hnode : a.cluster.nodes[p.node]? = some nd') :
    ∃ nd f, start.nodes[p.node]? = some nd ∧ nd' = nd.charge f :=
  node_charged_of_run hS a.run hnode

/-! ## `Adjust` -/

theorem Progress.covers (hS : S.Lawful) {st : AdjustState} (h : Progress S env start st)
    (hnil : st.resources = []) :
    (assignmentOf st.placed).Covers env.origResources start where
  unit_lt := by
    intro e he
    obtain ⟨p, hp, rfl⟩ := List.mem_map.mp he
    exact ((run_draw hS h.run).2 p hp).1
  node_lt := by
    intro e he
    obtain ⟨p, hp, rfl⟩ := List.mem_map.mp he
    exact ((run_draw hS h.run).2 p hp).2
  count_eq := by
    intro i u hu
    have hcounts := h.counts i
    simp_all [countAt, placedCount, assignmentOf, List.countP_map, Function.comp_def]

theorem adjust_assigns (hS : S.Lawful) {inv inv' : Inventory} {rg : ResourceGroup}
    {opts : InventoryOptions} {g : Grant} (h : adjust S inv rg opts = (inv', .ok g))
    (hdry : opts.dryRun = false) :
    ∃ a : Assignment, a.Covers rg.resourceUnits inv.sanitized ∧
      inv' = { inv with sanitized := inv.sanitized.charge (a.amount S (adjustEnv rg opts)) } ∧
      ∀ k ∈ a.touches S (adjustEnv rg opts), inv'.sanitized.Within k := by
  obtain ⟨st, hprog, hnil, hinv, -⟩ := adjust_eq_ok h
  rw [hdry] at hinv
  have hdraw := (run_draw hS hprog.run).1
  have hcluster : st.cluster = inv.sanitized.charge
      ((assignmentOf st.placed).amount S (adjustEnv rg opts)) := hdraw.eq_charge
  refine ⟨assignmentOf st.placed, hprog.covers hS hnil, ?_, ?_⟩
  · rw [hinv, ← hcluster]
    rfl
  · intro k hk
    rw [hinv]
    exact (clusterLedger_within_iff _ _).mp (hdraw.within k (.inl hk))

/-- `Adjust` places every replica of the group and charges exactly what they draw, or it
leaves the inventory as it was. -/
theorem adjust_exact (hS : S.Lawful) (inv : Inventory) (rg : ResourceGroup)
    (opts : InventoryOptions) :
    (∀ g, (adjust S inv rg opts).2 = .ok g → opts.dryRun = false →
      ∃ a : Assignment, a.Covers rg.resourceUnits inv.sanitized ∧
        (adjust S inv rg opts).1 =
          { inv with sanitized := inv.sanitized.charge (a.amount S (adjustEnv rg opts)) } ∧
        ∀ k ∈ a.touches S (adjustEnv rg opts), (adjust S inv rg opts).1.sanitized.Within k) ∧
    ((∀ g, (adjust S inv rg opts).2 ≠ .ok g) ∨ opts.dryRun = true →
      (adjust S inv rg opts).1 = inv) := by
  rcases hadj : adjust S inv rg opts with ⟨inv', verdict⟩
  cases verdict with
  | error err => grind [adjust_eq_error]
  | ok g => grind [adjust_assigns, adjust_eq_ok]

def freePair (q : Quantity) : ResourcePair := ⟨some q, some q, some 0⟩

/-- A node with nothing allocated: `cpu` milli-units, `memory` bytes, and `gpus` devices. -/
def freeNode (name : String) (cpu memory gpus : Int) (info : List InventoryV1.GPUInfo) : Node where
  name := name
  resources :=
    { cpu := ⟨freePair cpu, []⟩
      memory := ⟨freePair (1000 * memory)⟩
      gpu := ⟨freePair (1000 * gpus), info⟩
      ephemeralStorage := freePair 1000000
      volumesAttached := freePair 0
      volumesMounted := freePair 0
      gpuInterconnect := freePair 0 }
  capabilities := ⟨[], "", "", []⟩

/-- A request for `cpu` milli-units, `memory` bytes and GPUs. -/
def plainRequest (cpu memory : UInt64) (gpu : Rtypes.GPU) : Rtypes.Resources where
  id := 1
  cpu := some ⟨cpu, []⟩
  memory := some ⟨memory, []⟩
  storage := []
  gpu := some gpu
  endpoints := []

def plainGroup (res : Rtypes.Resources) (count : Nat) : ResourceGroup :=
  .spec ⟨"group", [], [⟨res, count⟩]⟩

/-- A call without dry run and without confidential compute. -/
def plainOptions : InventoryOptions := ⟨false, .none, .none⟩

/-- Two replicas of 700 milli-units on two nodes of 1000. -/
theorem adjust_exact_two_nodes :
    let inv := newInventory ⟨[freeNode "a" 1000 64 0 [], freeNode "b" 1000 64 0 []], []⟩
    let rg := plainGroup (plainRequest 700 16 ⟨0, []⟩) 2
    ∃ a : Assignment, a.Covers rg.resourceUnits inv.sanitized ∧
      (adjust .reference inv rg plainOptions).1 = { inv with
        sanitized := inv.sanitized.charge (a.amount .reference (adjustEnv rg plainOptions)) } ∧
      ∀ k ∈ a.touches .reference (adjustEnv rg plainOptions),
        (adjust .reference inv rg plainOptions).1.sanitized.Within k := by
  intro inv rg
  have hok : (adjust .reference inv rg plainOptions).2 = .ok _ := rfl
  exact (adjust_exact Sdk.reference_lawful inv rg plainOptions).1 _ hok rfl

end AkashProvider
