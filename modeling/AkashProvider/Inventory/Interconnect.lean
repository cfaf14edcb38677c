import AkashProvider.Inventory.Devices

/-!
# Placement of interconnect groups

Replicas of one interconnect group go to distinct nodes: the nodes that a group has taken are kept
through the call.  The opt-in is read off the units as requested, since placing a replica replaces
the attributes.  What is recorded for a replica comes from its node (`placed_interconnect`).
-/

namespace AkashProvider

open InventoryV1 (Cluster Node)
open Crd (SchedulerParams)

variable {S : Sdk} {env : AdjustEnv} {start : Cluster}

def interconnectOf (sparams : Option SchedulerParams) :
    Option Crd.SchedulerResourceInterconnect :=
  (sparams.bind (·.resources)).bind (·.interconnect)

/-- The group of a unit, empty if it has none. -/
def AdjustEnv.groupOf (env : AdjustEnv) (i : Nat) : String := (env.attempt i).interconnectGroup

theorem AdjustEnv.groupOf_eq {i : Nat} {u : ResourceUnit} {group : String}
    (hu : env.origResources[i]? = some u)
    (hgroup : resourceInterconnectGroup u.resources = some group) : env.groupOf i = group := by
  simp [groupOf, attempt, hu, hgroup]

theorem interconnectCapsSuitable_iff {caps : InventoryV1.NodeCapabilities} {fabric : String} :
    interconnectCapsSuitable caps fabric = true ↔ caps.interconnectFabric ≠ "" ∧
      caps.interconnectResourceName ≠ "" ∧ (fabric ≠ "" → caps.interconnectFabric = fabric) := by
  grind [interconnectCapsSuitable]

/-! ## One attempt -/

variable {cfg : AttemptConfig} {claims : GroupClaims} {cluster : Cluster} {node : Nat}

theorem tryAdjustDevices_unclaimed {res : Rtypes.Resources}
    {out : Node × SchedulerParams × Rtypes.GPU}
    (h : tryAdjustDevices S cluster node res cfg claims = .ok out) :
    cfg.interconnectGroup = "" ∨ (cfg.interconnectGroup, node) ∉ claims := by
  unfold tryAdjustDevices at h
  grind

theorem tryAdjust_claims {res res' : Rtypes.Resources} {commit : Commit}
    (h : tryAdjust S cluster node res cfg claims = (res', .ok commit)) :
    (cfg.interconnectGroup = "" ∨ (cfg.interconnectGroup, node) ∉ claims) ∧
      commit.groupClaims = if cfg.interconnectGroup ≠ "" then
        (cfg.interconnectGroup, node) :: claims else claims := by
  unfold tryAdjust at h
  split at h
  next => cases h
  next hdevices =>
    refine ⟨tryAdjustDevices_unclaimed hdevices, ?_⟩
    simp only at h
    split at h
    next => cases h
    next => grind

theorem placed_interconnect (hS : S.Lawful) {b : Cluster × List Placed}
    (hrun : Relation.ReflTransGen (PlaceStep S env) (start, []) b) {p : Placed} (hp : p ∈ b.2) :
    ∃ u nd, env.origResources[p.unit]? = some u ∧ start.nodes[p.node]? = some nd ∧
      interconnectOf p.sparams = interconnectRecord (env.attempt p.unit).requiresInterconnect
        (gpuUnits u.resources) nd.capabilities ∧
      ((env.attempt p.unit).requiresInterconnect = true →
        interconnectCapsSuitable nd.capabilities env.requiredFabric = true) := by
  obtain ⟨a⟩ := placed_attempt hrun hp
  obtain ⟨passed⟩ := tryAdjust_eq_ok a.ok
  obtain ⟨nd, f, hnd, hcharged⟩ := a.node_charged hS passed.devices.node_eq
  have hcaps : passed.devices.nd.capabilities = nd.capabilities := by
    rw [hcharged]
    rfl
  refine ⟨a.u, nd, a.unit, hnd, ?_, ?_⟩
  · rw [interconnectOf, a.sparams, passed.sparams_resources, passed.interconnect.1, hcaps,
      a.same.gpuUnits_eq]
  · intro hrequired
    obtain ⟨hno, -, -⟩ | ⟨-, hsuitable, -⟩ := tryAdjustInterconnect_eq_some passed.devices.ic_ok
    · rw [hrequired] at hno
      cases hno
    · rw [hcaps] at hsuitable
      exact hsuitable

/-! ## The loop -/

/-- Two replicas that are not of one group, or on distinct nodes. -/
def Apart (env : AdjustEnv) (p q : Placed) : Prop :=
  env.groupOf p.unit ≠ "" → env.groupOf p.unit = env.groupOf q.unit → p.node ≠ q.node

/-- What holds of the replicas placed so far and of the claims. -/
@[grind cases]
structure Linked (env : AdjustEnv) (st : AdjustState) : Prop where
  claimed : ∀ p ∈ st.placed, env.groupOf p.unit ≠ "" →
    (env.groupOf p.unit, p.node) ∈ st.groupClaims
  apart : st.placed.Pairwise (Apart env)
  /-- Only the last unit left and those removed have replicas placed. -/
  settled : ∀ p ∈ st.placed, st.resources.length ≤ p.unit + 1
  alike : ∀ p ∈ st.placed, ∀ q ∈ st.placed, p.unit = q.unit →
    interconnectOf p.sparams = interconnectOf q.sparams
  /-- The parameters under the ID of the last unit are its own, once it has some. -/
  current : ∀ i u, st.resources.length = i + 1 → st.adjustedResources[i]? = some u →
    ∀ p ∈ st.placed, p.unit = i →
      interconnectOf (st.cparams.lookup u.resources.id).join = interconnectOf p.sparams

/-- The parameters under an ID are those of the replica that was placed last with it. -/
def Latest (st : AdjustState) : Prop :=
  ∀ id, (st.cparams.lookup id).join =
    (st.placed.reverse.find? (·.resources.id = id)).bind (·.sparams)

theorem Latest.step {st st' : AdjustState} (h : Latest st) (hstep : LoopStep S env st st') :
    Latest st' := by
  cases hstep with
  | refuse last unit fresh => exact h
  | @place i node left u res' commit last unit fresh count ok =>
    intro id
    grind [Latest]
  | @follow i node left u commit last unit count ok recorded =>
    intro id
    grind [Latest]
  | done last zero => exact h

variable {st : AdjustState}

theorem latest_of_steps {rg : ResourceGroup}
    (hrun : Relation.ReflTransGen (LoopStep S env) (adjustStart start rg) st) : Latest st := by
  induction hrun with
  | refl => exact fun _ => rfl
  | tail _ hstep ih => exact ih.step hstep

/-- Until a unit is on a second node, all its replicas are on the first. -/
theorem Progress.on_node (h : Progress S env start st) {i node : Nat}
    (fresh : countAt env.origResources i ≤ countAt st.resources i + placedOn st.placed i node) :
    ∀ p ∈ st.placed, p.unit = i → p.node = node := by
  have hon : placedOn st.placed i node =
      (st.placed.filter (·.unit = i)).countP (·.node = node) := by
    rw [List.countP_filter, placedOn]
    grind
  have hall : (st.placed.filter (·.unit = i)).countP (·.node = node) =
      (st.placed.filter (·.unit = i)).length := by
    grind [placedCount]
  simp_all

theorem Progress.record_eq (hS : S.Lawful) (h : Progress S env start st) {p q : Placed}
    (hp : p ∈ st.placed) (hq : q ∈ st.placed) (hunit : p.unit = q.unit) (hnode : p.node = q.node) :
    interconnectOf p.sparams = interconnectOf q.sparams := by
  obtain ⟨u, nd, hu, hnd, hrecord, -⟩ := placed_interconnect hS h.run hp
  obtain ⟨v, nd', hv, hnd', hrecord', -⟩ := placed_interconnect hS h.run hq
  simp_all

theorem linked_start (cluster : Cluster) (rg : ResourceGroup) (opts : InventoryOptions) :
    Linked (adjustEnv rg opts) (adjustStart cluster rg) where
  claimed := by simp [adjustStart]
  apart := .nil
  settled := by simp [adjustStart]
  alike := by simp [adjustStart]
  current := by simp [adjustStart]

namespace Linked

variable {st st' : AdjustState}

theorem attempt_apart (h : Linked env st) {i node : Nat} {res res' : Rtypes.Resources}
    {commit : Commit}
    (ok : tryAdjust S st.cluster node res (env.attempt i) st.groupClaims = (res', .ok commit)) :
    let placed := st.placed ++ [⟨i, node, res', commit.sparams⟩]
    (∀ p ∈ placed, env.groupOf p.unit ≠ "" →
      (env.groupOf p.unit, p.node) ∈ commit.groupClaims) ∧ placed.Pairwise (Apart env) := by
  obtain ⟨hunclaimed, hclaims⟩ := tryAdjust_claims ok
  constructor
  · intro p hp hgroup
    rcases List.mem_append.mp hp with hp | hp
    · grind
    · rw [List.mem_singleton] at hp
      subst hp
      rw [hclaims]
      exact (if_pos hgroup).symm ▸ List.mem_cons_self
  · rw [List.pairwise_append]
    refine ⟨h.apart, List.pairwise_singleton _ _, ?_⟩
    intro p hp q hq hgroup hsame hnode
    rw [List.mem_singleton] at hq
    subst hq
    have hmem := h.claimed p hp hgroup
    rw [hsame, hnode] at hmem
    rw [hsame] at hgroup
    exact hunclaimed.elim hgroup fun hnot => hnot hmem

variable {p : Placed}

theorem attempt_alike (h : Linked env st)
    (hp : ∀ q ∈ st.placed, q.unit = p.unit → interconnectOf q.sparams = interconnectOf p.sparams) :
    ∀ q ∈ st.placed ++ [p], ∀ r ∈ st.placed ++ [p], q.unit = r.unit →
      interconnectOf q.sparams = interconnectOf r.sparams := by
  grind

variable {i left : Nat}

theorem attempt_settled (h : Linked env st) (hp : p.unit = i) (last : st.resources.length = i + 1) :
    ∀ q ∈ st.placed ++ [p], (setCount st.resources i left).length ≤ q.unit + 1 := by
  rw [setCount, List.length_modify]
  grind

theorem attempt_current {adjusted : List ResourceUnit} {cparams : Crd.ReservationClusterSettings}
    {u : ResourceUnit}
    (hp : ∀ q ∈ st.placed, q.unit = i → interconnectOf q.sparams = interconnectOf p.sparams)
    (last : st.resources.length = i + 1) (unit : adjusted[i]? = some u)
    (hrecord : interconnectOf (cparams.lookup u.resources.id).join = interconnectOf p.sparams) :
    ∀ j v, (setCount st.resources i left).length = j + 1 → adjusted[j]? = some v →
      ∀ q ∈ st.placed ++ [p], q.unit = j →
        interconnectOf (cparams.lookup v.resources.id).join = interconnectOf q.sparams := by
  intro j v hlast hv q hq hunit
  rw [setCount, List.length_modify] at hlast
  grind

theorem step (hS : S.Lawful) (h : Linked env st) (hprog : Progress S env start st)
    (hstep : LoopStep S env st st') : Linked env st' := by
  have hprog' := hprog.step hstep
  cases hstep with
  | @refuse i node u last unit fresh =>
    refine ⟨h.claimed, h.apart, h.settled, h.alike, ?_⟩
    grind
  | @place i node left u res' commit last unit fresh count ok =>
    obtain ⟨hclaimed, hapart⟩ := h.attempt_apart ok
    -- the others of the unit are on this node
    have hsame : ∀ q ∈ st.placed, q.unit = i →
        interconnectOf q.sparams = interconnectOf commit.sparams := by
      intro q hq hunit
      exact hprog'.record_eq hS (List.mem_append_left _ hq)
        (List.mem_append_right _ List.mem_cons_self) hunit (hprog.on_node fresh q hq hunit)
    refine ⟨hclaimed, hapart, h.attempt_settled rfl last, h.attempt_alike hsame,
      attempt_current hsame last (getElem?_setResources unit res') ?_⟩
    rw [List.lookup_cons_self, Option.join_some]
  | @follow i node left u commit last unit count ok recorded =>
    obtain ⟨hclaimed, hapart⟩ := h.attempt_apart ok
    have hsame : ∀ q ∈ st.placed, q.unit = i →
        interconnectOf q.sparams = interconnectOf commit.sparams := by
      intro q hq hunit
      rw [recorded]
      exact (h.current i u last unit q hq hunit).symm
    exact ⟨hclaimed, hapart, h.attempt_settled rfl last, h.attempt_alike hsame,
      attempt_current hsame last unit (congrArg interconnectOf recorded.symm)⟩
  | @done i last zero =>
    refine ⟨h.claimed, h.apart, ?_, h.alike, ?_⟩
    all_goals grind

theorem steps (hS : S.Lawful) (h : Linked env st) (hprog : Progress S env start st)
    (hrun : Relation.ReflTransGen (LoopStep S env) st st') : Linked env st' := by
  induction hrun with
  | refl => exact h
  | tail hrun hstep ih => exact ih.step hS (hprog.steps hrun) hstep

end Linked

/-! ## `Adjust` -/

/-- A call that succeeds places every replica, those of one group on distinct nodes.  A replica that
opts in is on a suitable node and has its record, the same for all replicas of the unit, and one
that does not has none.  An ID of one unit only leads to that record. -/
theorem interconnect_placement (hS : S.Lawful) {inv inv' : Inventory} {rg : ResourceGroup}
    {opts : InventoryOptions} {g : Grant} (h : adjust S inv rg opts = (inv', .ok g)) :
    (∀ i, placedCount g.placed i = countAt rg.resourceUnits i) ∧
    g.placed.Pairwise (fun p q => ∀ u v group,
      rg.resourceUnits[p.unit]? = some u → rg.resourceUnits[q.unit]? = some v →
      resourceInterconnectGroup u.resources = some group →
      resourceInterconnectGroup v.resources = some group → group ≠ "" → p.node ≠ q.node) ∧
    (∀ p ∈ g.placed, ∃ u nd, rg.resourceUnits[p.unit]? = some u ∧
      inv.sanitized.nodes[p.node]? = some nd ∧
      if (resourceInterconnectGroup u.resources).isSome then
        nd.capabilities.interconnectFabric ≠ "" ∧
        nd.capabilities.interconnectResourceName ≠ "" ∧
        (placementRequiredFabric rg ≠ "" →
          nd.capabilities.interconnectFabric = placementRequiredFabric rg) ∧
        interconnectOf p.sparams = some
          { enabled := true
            units := gpuUnits u.resources
            resourceName := nd.capabilities.interconnectResourceName
            fabric := nd.capabilities.interconnectFabric
            ncclHCAPrefixes := nd.capabilities.ncclHCAPrefixes }
      else interconnectOf p.sparams = none) ∧
    (∀ p ∈ g.placed, ∀ q ∈ g.placed, p.unit = q.unit →
      interconnectOf p.sparams = interconnectOf q.sparams) ∧
    (∀ p ∈ g.placed, (∀ q ∈ g.placed, q.resources.id = p.resources.id → q.unit = p.unit) →
      interconnectOf (g.clusterParams.lookup p.resources.id).join = interconnectOf p.sparams) := by
  obtain ⟨st, hrun, hnil, -, rfl⟩ := adjust_reaches h
  have hstart := progress_start (S := S) inv.sanitized rg opts
  have hprog := hstart.steps hrun
  have hlinked := (linked_start inv.sanitized rg opts).steps hS hstart hrun
  have hlatest : Latest st := latest_of_steps hrun
  refine ⟨?_, ?_, ?_, hlinked.alike, ?_⟩
  · intro i
    have hcounts := hprog.counts i
    rwa [hnil, countAt, List.getElem?_nil, Option.map_none, Option.getD_none, Nat.zero_add]
      at hcounts
  · refine hlinked.apart.imp ?_
    intro p q hapart u v group hu hv hgroup hgroup' hne
    rw [Apart, AdjustEnv.groupOf_eq hu hgroup, AdjustEnv.groupOf_eq hv hgroup'] at hapart
    exact hapart hne rfl
  · intro p hp
    obtain ⟨u, nd, hu, hnd, hrecord, hsuitable⟩ := placed_interconnect hS hprog.run hp
    have hrequired : ((adjustEnv rg opts).attempt p.unit).requiresInterconnect =
        (resourceInterconnectGroup u.resources).isSome := by
      simp only [AdjustEnv.attempt, hu, Option.bind_some]
    rw [hrequired] at hrecord hsuitable
    refine ⟨u, nd, hu, hnd, ?_⟩
    split
    next hsome =>
      rw [hsome] at hrecord
      obtain ⟨hfabric, hname, hpin⟩ := interconnectCapsSuitable_iff.mp (hsuitable hsome)
      exact ⟨hfabric, hname, hpin, hrecord⟩
    next hnone =>
      rw [Bool.not_eq_true] at hnone
      rw [hnone] at hrecord
      exact hrecord
  · intro p hp hown
    rw [hlatest]
    cases hfind : st.placed.reverse.find? (·.resources.id = p.resources.id) with
    | none => simpa using List.find?_eq_none.mp hfind p (List.mem_reverse.mpr hp)
    | some q => grind

/-- A node of an InfiniBand fabric with eight devices of one model. -/
def linkedNode (name : String) : Node :=
  let nd := freeNode name 1000 64 8 (List.replicate 8 infoA100)
  { nd with
    resources.gpuInterconnect := freePair 8000
    capabilities := ⟨[], "infiniband", "rdma/hca", ["mlx5"]⟩ }

/-- Two replicas of four GPUs each that opt in, with a pin to the fabric. -/
def linkedGroup : ResourceGroup :=
  .spec ⟨"group", [⟨attributeInterconnectFabricInfiniBand, "true"⟩],
    [⟨plainRequest 100 16 ⟨4, [⟨"vendor/nvidia/model/a100", "true"⟩,
      ⟨attributeGPUInterconnectGroupKey, "ring"⟩]⟩, 2⟩]⟩

/-- They go to two nodes, although the first has room for both. -/
theorem interconnect_placement_ring :
    let inv := newInventory ⟨[linkedNode "a", linkedNode "b"], []⟩
    ∃ inv' g, adjust .reference inv linkedGroup plainOptions = (inv', .ok g) ∧
      g.placed.map (fun p => (p.unit, p.node)) = [(0, 0), (0, 1)] ∧
      ∀ p ∈ g.placed, ∀ q ∈ g.placed, p.unit = q.unit →
        interconnectOf p.sparams = interconnectOf q.sparams := by
  intro inv
  have hok : adjust .reference inv linkedGroup plainOptions =
      ((adjust .reference inv linkedGroup plainOptions).1, .ok _) := Prod.ext rfl rfl
  exact ⟨_, _, hok, rfl, (interconnect_placement Sdk.reference_lawful hok).2.2.2.1⟩

end AkashProvider
