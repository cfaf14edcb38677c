import AkashProvider.Lib.Demand
import AkashProvider.Inventory.Load
import AkashProvider.Service.Machine

/-!
# Reservations and the capacity of the cluster

The cluster has a fixed capacity, runs workloads, and takes snapshots that reach the service
later.  A new inventory replaces the one in use: pending reservations are charged again, and those
marked allocated are taken to be part of the snapshot, which nothing ensures (`overcommitted`).
If every inventory taken into use shows what readjusting leaves uncounted, the live reservations
fit at every grant (`granted_reservations_fit`).
-/

namespace AkashProvider

open InventoryV1 (Quantity Cluster)

/-! ## The cluster -/

/-- What a lease runs, with the resources it takes on each account. -/
structure Workload where
  lease : LeaseID
  load : ClusterAccount → Quantity
  load_nonneg : 0 ≤ load

/-- A cluster with nothing running. -/
structure Capacity where
  cluster : Cluster
  load_eq_zero : cluster.load = 0
  limit_nonneg : 0 ≤ cluster.limit

def InventoryV1.Cluster.accounts (cl : Cluster) : List ClusterAccount :=
  ((List.range cl.nodes.length).flatMap fun j =>
    [.node j .cpu, .node j .memory, .node j .gpu, .node j .ephemeralStorage,
      .node j .gpuInterconnect]) ++
    cl.storage.map fun s => .storageClass s.info.storageClass

/-- An amount is within the limits of the cluster. -/
def InventoryV1.Cluster.Carries (cl : Cluster) (m : ClusterAccount → Quantity) : Prop :=
  ∀ k ∈ cl.accounts, m k ≤ cl.limit k

instance (cl : Cluster) (m : ClusterAccount → Quantity) : Decidable (cl.Carries m) :=
  inferInstanceAs (Decidable (∀ k ∈ cl.accounts, m k ≤ cl.limit k))

def totalLoad (running : List Workload) : ClusterAccount → Quantity :=
  (running.map (·.load)).sum

/-- The cluster as it is seen with some workloads running. -/
def Capacity.snapshot (cap : Capacity) (running : List Workload) : Cluster :=
  cap.cluster.charge (totalLoad running)

/-! ## The service next to the cluster -/

structure World where
  svc : ServiceState
  running : List Workload
  /-- Snapshots that were taken and are not delivered yet, oldest first. -/
  snapshots : List Cluster

inductive WorldEvent where
  | service (e : ServiceEvent)
  | start (x : Workload)
  | stop (lease : LeaseID)
  | snapshot
  | deliver

def worldStep (cfg : ServiceConfig) (cap : Capacity) (w : World) : WorldEvent → Option World
  -- inventories come from the cluster only
  | .service (.inventoryUpdate _) => none
  | .service e => (serviceStep cfg w.svc e).map fun s => { w with svc := s }
  | .start x =>
    if cap.cluster.Carries (totalLoad (x :: w.running)) then
      some { w with running := x :: w.running }
    else none
  | .stop lease => some { w with running := w.running.eraseP (·.lease = lease) }
  | .snapshot => some { w with snapshots := w.snapshots ++ [cap.snapshot w.running] }
  | .deliver =>
    match w.snapshots with
    | [] => none
    | cl :: rest =>
      (serviceStep cfg w.svc (.inventoryUpdate (some (newInventory cl)))).map fun s =>
        { w with svc := s, snapshots := rest }

def startWorld (cfg : ServiceConfig) (reservations : List Reservation)
    (running : List Workload) : World :=
  ⟨startState cfg reservations, running, []⟩

/-! ## Reservations that fit -/

/-- What a reservation takes from the cluster, for one of the ways to place its replicas. -/
def Reservation.Demands (cfg : ServiceConfig) (cl : Cluster) (r : Reservation)
    (m : ClusterAccount → Quantity) : Prop :=
  ∃ a : Assignment, a.Covers r.resources.resourceUnits cl ∧
    m = a.amount cfg.sdk (adjustEnv r.resources (adjustOpts cfg r.teeType))

/-- The replicas of all reservations can be placed within the limits of the cluster. -/
def FitTogether (cfg : ServiceConfig) (cl : Cluster) (rs : List Reservation) : Prop :=
  Meets (Reservation.Demands cfg cl) rs cl.limit

/-- What readjusting does not charge to a new inventory: reservations marked allocated, and
pending ones that `Adjust` refuses. -/
def uncounted (cfg : ServiceConfig) : Inventory → List Reservation → List Reservation
  | _, [] => []
  | inv, r :: rest =>
    if r.allocated then r :: uncounted cfg inv rest
    else
      match r.adjust cfg inv with
      | (inv, .error _) => r :: uncounted cfg inv rest
      | (inv, .ok _) => uncounted cfg inv rest

/-- An inventory that is taken into use shows what it will not be charged for. -/
def ShowsUncounted (cfg : ServiceConfig) (cap : Capacity) (w : World) : WorldEvent → Prop
  | .service .applyInventory =>
    ∀ inv, w.svc.invupch = some inv →
      Meets (Reservation.Demands cfg cap.cluster) (uncounted cfg inv w.svc.reservations)
        inv.sanitized.load
  | _ => True

section Demands

variable {cfg : ServiceConfig} {cl : Cluster} {r r' : Reservation}
  {m : ClusterAccount → Quantity}

theorem Reservation.Demands.nonneg (h : r.Demands cfg cl m) : 0 ≤ m := by
  obtain ⟨a, -, rfl⟩ := h
  exact Assignment.amount_nonneg _ _ a

theorem Reservation.Kept.demands (hkept : r.Kept r') (h : r.Demands cfg cl m) :
    r'.Demands cfg cl m := by
  rw [Reservation.Demands, hkept.resources_eq, hkept.teeType_eq]
  exact h

theorem Reservation.adjust_demands (hS : cfg.sdk.Lawful) {inv inv' : Inventory}
    (h : r.adjust cfg inv = (inv', .ok r')) (hcl : inv.sanitized.StateOf cl) :
    ∃ m, r.Demands cfg cl m ∧ inv'.sanitized.load = inv.sanitized.load + m ∧
      inv'.sanitized.StateOf cl := by
  obtain ⟨g, hadj, -⟩ := Reservation.adjust_eq_ok h
  obtain ⟨a, hcovers, hload, hstate⟩ := adjust_load hS hadj rfl hcl
  exact ⟨_, ⟨a, hcovers, rfl⟩, hload, hstate⟩

/-- Readjusting raises the load by what it meets on top of the uncounted reservations. -/
theorem readjust_meets (hS : cfg.sdk.Lawful) (rs : List Reservation) :
    ∀ inv : Inventory, inv.sanitized.StateOf cl →
      (readjust cfg inv rs).1.sanitized.StateOf cl ∧
      ∃ d, (readjust cfg inv rs).1.sanitized.load = inv.sanitized.load + d ∧
        ∀ b, Meets (Reservation.Demands cfg cl) (uncounted cfg inv rs) b →
          Meets (Reservation.Demands cfg cl) rs (b + d) := by
  induction rs with
  | nil =>
    intro inv hcl
    refine ⟨hcl, 0, (add_zero _).symm, fun b hb => ?_⟩
    rw [add_zero]
    exact hb
  | cons r rest ih =>
    intro inv hcl
    -- a reservation that is left out is met by the level of the uncounted ones
    have hleft : ∀ d : ClusterAccount → Quantity,
        (∀ b, Meets (Reservation.Demands cfg cl) (uncounted cfg inv rest) b →
          Meets (Reservation.Demands cfg cl) rest (b + d)) →
        ∀ b, Meets (Reservation.Demands cfg cl) (r :: uncounted cfg inv rest) b →
          Meets (Reservation.Demands cfg cl) (r :: rest) (b + d) := by
      intro d hrest b hb
      obtain ⟨m, c, hm, hc, hle⟩ := Meets.cons_iff.mp hb
      refine Meets.cons_iff.mpr ⟨m, c + d, hm, hrest c hc, ?_⟩
      rw [← add_assoc]
      exact add_le_add_left hle d
    rw [readjust, uncounted]
    cases halloc : r.allocated with
    | true =>
      obtain ⟨hstate, d, hload, hrest⟩ := ih inv hcl
      exact ⟨hstate, d, hload, hleft d hrest⟩
    | false =>
      rcases hadj : r.adjust cfg inv with ⟨inv', verdict⟩
      cases verdict with
      | error err => grind [Reservation.adjust_eq_error]
      | ok r' =>
        obtain ⟨m, hm, hcharge, hcl'⟩ := Reservation.adjust_demands hS hadj hcl
        obtain ⟨hstate, d, hload, hrest⟩ := ih inv' hcl'
        refine ⟨hstate, m + d, ?_, fun b hb => ?_⟩
        · rw [← add_assoc, ← hcharge]
          exact hload
        · refine Meets.cons_iff.mpr ⟨m, b + d, hm, hrest b hb, ?_⟩
          rw [add_left_comm]

end Demands

/-! ## What every step keeps -/

/-- The inventories at hand are states of the cluster, and the load of the one in use meets
the live reservations. -/
@[grind cases]
structure Counted (cfg : ServiceConfig) (cl : Cluster) (s : ServiceState) : Prop where
  invupch : ∀ inv, s.invupch = some inv → inv.sanitized.StateOf cl
  currinv : ∀ inv, s.currinv = some inv → inv.sanitized.StateOf cl
  inventory : ∀ inv, s.inventory = some inv → inv.sanitized.StateOf cl ∧
    Meets (Reservation.Demands cfg cl) s.reservations inv.sanitized.load

section Steps

variable {cfg : ServiceConfig} {cl : Cluster} {s s' : ServiceState}

theorem Counted.updateIPs (h : Counted cfg cl s) : Counted cfg cl (updateIPs cfg s) where
  invupch := by
    rw [updateIPs_invupch]
    exact h.invupch
  currinv := by
    rw [updateIPs_currinv]
    exact h.currinv
  inventory := by
    rw [updateIPs_inventory, updateIPs_reservations]
    exact h.inventory

theorem Counted.reservations {rs : List Reservation} (h : Counted cfg cl s)
    (hrs : List.Forall₂ Reservation.Kept s.reservations rs) :
    Counted cfg cl { s with reservations := rs } where
  invupch := h.invupch
  currinv := h.currinv
  inventory := fun inv hinv =>
    (h.inventory inv hinv).imp_right fun hmeets =>
      hmeets.congr (fun _ _ _ hkept hm => hkept.demands hm) hrs

theorem ServiceMove.counted (hS : cfg.sdk.Lawful) {e : ServiceEvent}
    (hmove : ServiceMove cfg s e s')
    (hupdate : ∀ inv, e = .inventoryUpdate (some inv) → inv.sanitized.StateOf cl)
    (happly : e = .applyInventory → ∀ inv, s.invupch = some inv →
      Meets (Reservation.Demands cfg cl) (uncounted cfg inv s.reservations) inv.sanitized.load)
    (h : Counted cfg cl s) : Counted cfg cl s' := by
  cases hmove with
  | deployment lease group status ports invupch hback =>
    refine Counted.updateIPs ⟨?_, h.currinv, ?_⟩
    · intro inv hinv
      obtain hback | hback := hback
      · exact h.invupch inv (hback ▸ hinv)
      · rw [hback, Option.or_eq_some_iff] at hinv
        exact hinv.elim (h.invupch inv) fun hinv => h.currinv inv hinv.2
    · have hkept : List.Forall₂ Reservation.Kept s.reservations
          (setFirst (isOf lease group) (setAllocated status) s.reservations) :=
        setFirst_forall₂ .refl (fun r _ => ⟨rfl, rfl, rfl, rfl, rfl⟩) s.reservations
      exact (h.reservations hkept).inventory
  | tick => exact Counted.updateIPs ⟨h.invupch, h.currinv, h.inventory⟩
  | refuse order rg => exact h
  | grant order rg inv inv' r enabled ips before ok =>
    obtain ⟨hstate, hmeets⟩ := h.inventory inv before
    obtain ⟨m, hm, hload, hstate'⟩ := Reservation.adjust_demands hS ok hstate
    refine ⟨h.invupch, h.currinv, ?_⟩
    intro inv₁ hinv₁
    injection hinv₁ with hinv₁
    subst hinv₁
    refine ⟨hstate', ?_⟩
    rw [hload]
    exact hmeets.append (Meets.singleton ((Reservation.adjust_kept ok).demands hm))
  | unreserve order ports =>
    refine ⟨h.invupch, h.currinv, fun inv hinv => ?_⟩
    refine (h.inventory inv hinv).imp_right fun hmeets => ?_
    exact hmeets.sublist (fun _ _ hm => hm.nonneg) List.eraseP_sublist
  | ignore => exact h
  | store inv =>
    refine ⟨?_, h.currinv, h.inventory⟩
    simp_all
  | apply inv stored =>
    have hstate := h.invupch inv stored
    obtain ⟨hstate', d, hload, hrest⟩ := readjust_meets hS s.reservations inv hstate
    have hmeets := hrest _ (happly rfl inv stored)
    rw [← hload] at hmeets
    simp only [applyInventory, updateIPs_reservations]
    refine ⟨?_, ?_, ?_⟩
    · simp
    · simp_all
    · intro inv₁ hinv₁
      injection hinv₁ with hinv₁
      subst hinv₁
      refine ⟨hstate', hmeets.congr (fun _ _ _ hkept hm => ?_)
        (readjust_forall₂ cfg s.reservations inv)⟩
      exact hkept.kept.demands hm
  | check items res running =>
    cases res with
    | none => exact ⟨h.invupch, h.currinv, h.inventory⟩
    | some res =>
      have hconfirm := (confirmIPs_forall₂ res.confirmedResult s.reservations).imp
        fun _ _ hc => Confirmed.kept hc
      have hkept := h.reservations hconfirm
      exact ⟨hkept.invupch, hkept.currinv, hkept.inventory⟩

end Steps

/-! ## Snapshots -/

theorem totalLoad_nonneg (running : List Workload) : 0 ≤ totalLoad running := by
  refine List.sum_nonneg ?_
  intro m hm
  obtain ⟨x, -, rfl⟩ := List.mem_map.mp hm
  exact x.load_nonneg

theorem mem_accounts {cl : Cluster} {k : ClusterAccount} {rp : InventoryV1.ResourcePair}
    (h : cl.pair k = some rp) : k ∈ cl.accounts := by
  simp only [InventoryV1.Cluster.accounts, List.mem_append]
  cases k with
  | node j r =>
    obtain ⟨nd, hnd, -⟩ := Option.map_eq_some_iff.mp h
    refine .inl (List.mem_flatMap.mpr ⟨j, ?_, by cases r <;> simp⟩)
    grind
  | storageClass c =>
    obtain ⟨s, hs, -⟩ := Option.map_eq_some_iff.mp h
    have hc : s.info.storageClass = c := by simpa using List.find?_some hs
    refine .inr (List.mem_map.mpr ⟨s, List.mem_of_find?_eq_some hs, ?_⟩)
    rw [hc]

theorem Capacity.snapshot_stateOf (cap : Capacity) {running : List Workload}
    (h : cap.cluster.Carries (totalLoad running)) :
    (cap.snapshot running).StateOf cap.cluster ∧ 0 ≤ (cap.snapshot running).load := by
  have hlimit := InventoryV1.Cluster.limit_charge cap.cluster (totalLoad running)
  have hbounds : ∀ k, 0 ≤ (cap.snapshot running).load k ∧
      (cap.snapshot running).load k ≤ cap.cluster.limit k := by
    intro k
    obtain hadd | ⟨hzero, -, -⟩ := InventoryV1.Cluster.load_charge cap.cluster (totalLoad running) k
    · rw [cap.load_eq_zero, Pi.zero_apply, Int.zero_add] at hadd
      cases hrp : cap.cluster.pair k with
      | none =>
        have hnone : (cap.snapshot running).load k = 0 := by
          simp [snapshot, InventoryV1.Cluster.load, InventoryV1.Cluster.pair_charge, hrp]
        rw [hnone]
        exact ⟨Int.le_refl 0, cap.limit_nonneg k⟩
      | some rp =>
        rw [snapshot, hadd]
        exact ⟨totalLoad_nonneg running k, h k (mem_accounts hrp)⟩
    · rw [snapshot, hzero]
      exact ⟨Int.le_refl 0, cap.limit_nonneg k⟩
  refine ⟨⟨InventoryV1.Cluster.length_nodes_charge _ _, hlimit, ?_⟩, fun k => (hbounds k).1⟩
  intro k
  have hle := (hbounds k).2
  rw [← hlimit] at hle
  exact hle

/-! ## Runs -/

/-- What holds of the service and the cluster in every state of a run. -/
@[grind cases]
structure World.Counted (cfg : ServiceConfig) (cap : Capacity) (w : World) : Prop where
  svc : AkashProvider.Counted cfg cap.cluster w.svc
  running : cap.cluster.Carries (totalLoad w.running)
  snapshots : ∀ cl ∈ w.snapshots, cl.StateOf cap.cluster ∧ 0 ≤ cl.load

theorem totalLoad_eraseP_le (p : Workload → Bool) (running : List Workload) :
    totalLoad (running.eraseP p) ≤ totalLoad running := by
  have hsub : (running.eraseP p).Sublist running := List.eraseP_sublist
  refine (hsub.map Workload.load).sum_le_sum ?_
  intro m hm
  obtain ⟨x, -, rfl⟩ := List.mem_map.mp hm
  exact x.load_nonneg

theorem worldStep_counted {cfg : ServiceConfig} (hS : cfg.sdk.Lawful) {cap : Capacity}
    {w w' : World} {e : WorldEvent} (hok : ShowsUncounted cfg cap w e)
    (hstep : worldStep cfg cap w e = some w') (h : w.Counted cfg cap) : w'.Counted cfg cap := by
  cases e with
  | service e =>
    have hno : ∀ inv, e ≠ .inventoryUpdate inv := by
      rintro inv rfl
      cases hstep
    have hsvc : (serviceStep cfg w.svc e).map (fun s => { w with svc := s }) = some w' := by
      cases e with
      | inventoryUpdate inv => exact absurd rfl (hno inv)
      | _ => exact hstep
    obtain ⟨s, hs, rfl⟩ := Option.map_eq_some_iff.mp hsvc
    refine ⟨(serviceStep_move hs).counted hS (fun inv he => absurd he (hno _)) ?_ h.svc,
      h.running, h.snapshots⟩
    rintro rfl
    exact hok
  | start x =>
    simp only [worldStep] at hstep
    split at hstep
    next hfits =>
      injection hstep with hstep
      subst hstep
      exact ⟨h.svc, hfits, h.snapshots⟩
    next => cases hstep
  | stop lease =>
    injection hstep with hstep
    subst hstep
    refine ⟨h.svc, fun k hk => ?_, h.snapshots⟩
    exact Int.le_trans (totalLoad_eraseP_le _ w.running k) (h.running k hk)
  | snapshot =>
    injection hstep with hstep
    subst hstep
    refine ⟨h.svc, h.running, fun cl hcl => ?_⟩
    obtain hcl | hcl := List.mem_append.mp hcl
    · exact h.snapshots cl hcl
    · rw [List.mem_singleton] at hcl
      subst hcl
      exact cap.snapshot_stateOf h.running
  | deliver =>
    simp only [worldStep] at hstep
    split at hstep
    next => cases hstep
    next cl rest hsnap =>
      obtain ⟨s, hs, rfl⟩ := Option.map_eq_some_iff.mp hstep
      have hsnapshots := h.snapshots
      rw [hsnap, List.forall_mem_cons] at hsnapshots
      obtain ⟨⟨hcl, hpos⟩, hrest⟩ := hsnapshots
      refine ⟨(serviceStep_move hs).counted hS ?_ (fun he => by cases he) h.svc, h.running, hrest⟩
      intro inv he
      injection he with he
      injection he with he
      subst he
      exact (sanitizeCluster_stateOf hcl hpos).2

theorem startWorld_counted (cfg : ServiceConfig) (cap : Capacity) (rs : List Reservation)
    {running : List Workload} (h : cap.cluster.Carries (totalLoad running)) :
    (startWorld cfg rs running).Counted cfg cap where
  svc :=
    { invupch := by
        intro inv hinv
        cases hinv
      currinv := by
        intro inv hinv
        cases hinv
      inventory := by
        intro inv hinv
        cases hinv }
  running := h
  snapshots := by
    intro cl hcl
    cases hcl

/-- As long as every inventory taken into use shows what readjusting leaves uncounted, the live
reservations fit the cluster whenever one is granted. -/
theorem granted_reservations_fit {cfg : ServiceConfig} (hS : cfg.sdk.Lawful) (cap : Capacity)
    (rs : List Reservation) {running : List Workload}
    (hrunning : cap.cluster.Carries (totalLoad running)) {w : World}
    (hrun : Runs (worldStep cfg cap) (ShowsUncounted cfg cap) (startWorld cfg rs running) w)
    {order : OrderID} {rg : ResourceGroup} {s' : ServiceState} {r : Reservation}
    (hgrant : handleRequest cfg w.svc order rg = (s', .ok r)) :
    FitTogether cfg cap.cluster s'.reservations := by
  have hcounted := hrun.invariant (fun _ _ _ hok hstep h => worldStep_counted hS hok hstep h)
    (startWorld_counted cfg cap rs hrunning)
  obtain ⟨inv, inv', -, hinv, hadj, rfl⟩ := handleRequest_eq_ok hgrant
  obtain ⟨hstate, hmeets⟩ := hcounted.svc.inventory inv hinv
  obtain ⟨m, hm, hload, hstate'⟩ := Reservation.adjust_demands hS hadj hstate
  have hall := hmeets.append (Meets.singleton ((Reservation.adjust_kept hadj).demands hm))
  rw [← hload] at hall
  -- the load that meets them all is within the limits, since `Adjust` checked what it charged
  refine hall.mono ?_
  rw [← hstate'.limit_eq]
  exact hstate'.load_le

def oneNode : Capacity where
  cluster := ⟨[freeNode "node" 1000 64 0 []], []⟩
  load_eq_zero := by
    funext k
    rcases k with ⟨_ | j, r⟩ | c
    · cases r <;> rfl
    · rfl
    · rfl
  limit_nonneg := by
    intro k
    rcases k with ⟨_ | j, r⟩ | c
    · cases r <;> decide
    · exact Int.le_refl 0
    · exact Int.le_refl 0

def cpuGroup (cpu : UInt64) : ResourceGroup := plainGroup (plainRequest cpu 16 ⟨0, []⟩) 1

def cpuLoad (cpu : UInt64) : ClusterAccount → Quantity :=
  Assignment.amount .reference (adjustEnv (cpuGroup cpu) plainOptions) [(0, 0)]

def cpuWorkload (n cpu : UInt64) : Workload :=
  ⟨leaseNo n, cpuLoad cpu, Assignment.amount_nonneg _ _ _⟩

/-- The service with the snapshot of the empty cluster in use. -/
def servingEmpty : World :=
  { svc := applyInventory (plainConfig false)
      { startState (plainConfig false) [] with
        invupch := some (newInventory (oneNode.snapshot [])) } (newInventory (oneNode.snapshot []))
    running := []
    snapshots := [] }

theorem runs_servingEmpty : Runs (worldStep (plainConfig false) oneNode)
    (ShowsUncounted (plainConfig false) oneNode) (startWorld (plainConfig false) [] [])
    servingEmpty := by
  have hstart : Runs (worldStep (plainConfig false) oneNode)
    (ShowsUncounted (plainConfig false) oneNode) (startWorld (plainConfig false) [] []) _ := .refl _
  have hsnapshot := hstart.next .snapshot trivial rfl
  have hdeliver := hsnapshot.next .deliver trivial rfl
  refine hdeliver.next (.service .applyInventory) ?_ rfl
  intro inv hinv
  injection hinv with hinv
  subst hinv
  refine Meets.nil ?_
  intro k
  rcases k with ⟨_ | j, r⟩ | c
  · cases r <;> decide
  · exact Int.le_refl 0
  · exact Int.le_refl 0

theorem cpuGroup_covers {cpu : UInt64} {a : Assignment}
    (h : a.Covers (cpuGroup cpu).resourceUnits oneNode.cluster) : a = [(0, 0)] := by
  have hunit : ∀ e ∈ a, e = (0, 0) := by
    intro e he
    have hu : e.1 < 1 := h.unit_lt e he
    have hn : e.2 < 1 := h.node_lt e he
    exact Prod.ext (by omega) (by omega)
  have hlen : a.length = 1 := by
    have hcount : a.countP (·.1 = 0) = 1 := h.count_eq 0 _ rfl
    grind [List.countP_eq_length]
  obtain ⟨e, rfl⟩ := List.length_eq_one_iff.mp hlen
  rw [hunit e List.mem_cons_self]

/-- The service after a first lease was granted 600 milli-units, and after it was deployed. -/
def grantedFirst : ServiceState :=
  (handleRequest (plainConfig false) servingEmpty.svc (orderNo 1) (cpuGroup 600)).1

def deployedFirst : ServiceState :=
  updateIPs (plainConfig false) (markDeployment grantedFirst (leaseNo 1) "group" .deployed)

theorem runs_deployedFirst : Runs (worldStep (plainConfig false) oneNode)
    (ShowsUncounted (plainConfig false) oneNode) (startWorld (plainConfig false) [] [])
    ⟨deployedFirst, [cpuWorkload 1 600], []⟩ := by
  have hreserve : Runs _ _ _ (World.mk grantedFirst [] []) := runs_servingEmpty.next
    (.service (.reserve (orderNo 1) (cpuGroup 600))) trivial rfl
  have hstart : Runs _ _ _ (World.mk grantedFirst [cpuWorkload 1 600] []) :=
    hreserve.next (.start (cpuWorkload 1 600)) trivial rfl
  exact hstart.next (.service (.clusterDeployment (leaseNo 1) "group" .deployed)) trivial rfl

/-- The next snapshot, which shows the first lease. -/
def nextSnapshot : Inventory := newInventory (oneNode.snapshot [cpuWorkload 1 600])

/-- The service after the next snapshot was delivered, and after it was taken into use. -/
def deliveredNext : ServiceState := { deployedFirst with invupch := some nextSnapshot }

def servingNext : ServiceState := applyInventory (plainConfig false) deliveredNext nextSnapshot

theorem nextSnapshot_meets : Meets (Reservation.Demands (plainConfig false) oneNode.cluster)
    (uncounted (plainConfig false) nextSnapshot deployedFirst.reservations)
    nextSnapshot.sanitized.load := by
  refine Meets.mono (Meets.singleton ⟨[(0, 0)], ⟨?_, ?_, ?_⟩, rfl⟩) ?_
  · decide
  · decide
  · rintro (_ | i) u hu
    · injection hu with hu
      subst hu
      rfl
    · cases hu
  · intro k
    rcases k with ⟨_ | j, r⟩ | c
    · cases r <;> decide
    · exact Int.le_refl 0
    · exact Int.le_refl 0

/-- With the next snapshot in use, a second lease is granted what is left. -/
theorem granted_reservations_fit_next_snapshot :
    ∃ s' r, Runs (worldStep (plainConfig false) oneNode)
        (ShowsUncounted (plainConfig false) oneNode) (startWorld (plainConfig false) [] [])
        ⟨servingNext, [cpuWorkload 1 600], []⟩ ∧
      handleRequest (plainConfig false) servingNext (orderNo 2) (cpuGroup 300) = (s', .ok r) ∧
      FitTogether (plainConfig false) oneNode.cluster s'.reservations := by
  have hsnapshot : Runs _ _ _ (World.mk deployedFirst _ [oneNode.snapshot [cpuWorkload 1 600]]) :=
    runs_deployedFirst.next .snapshot trivial rfl
  have hdeliver : Runs _ _ _ (World.mk deliveredNext _ []) := hsnapshot.next .deliver trivial rfl
  have hshows : ShowsUncounted (plainConfig false) oneNode
      ⟨deliveredNext, [cpuWorkload 1 600], []⟩ (.service .applyInventory) := by
    intro inv hinv
    injection hinv with hinv
    subst hinv
    exact nextSnapshot_meets
  have hrun : Runs _ _ _ (World.mk servingNext _ []) := hdeliver.next _ hshows rfl
  have hgrant : handleRequest (plainConfig false) servingNext (orderNo 2) (cpuGroup 300) =
    (_, .ok _) := rfl
  exact ⟨_, _, hrun, hgrant,
    granted_reservations_fit Sdk.reference_lawful oneNode [] (by decide) hrun hgrant⟩

/-- The service after the first snapshot was taken into use again. -/
def servingStale : ServiceState :=
  applyInventory (plainConfig false) deployedFirst (newInventory (oneNode.snapshot []))

/-- The deployment event of the first lease puts back the snapshot taken before it ran, and a
second lease is granted 600 of the same 1000 milli-units. -/
theorem overcommitted :
    ∃ s' r, Runs (worldStep (plainConfig false) oneNode) (fun _ _ => True)
        (startWorld (plainConfig false) [] []) ⟨servingStale, [cpuWorkload 1 600], []⟩ ∧
      servingStale.reservech = true ∧
      handleRequest (plainConfig false) servingStale (orderNo 2) (cpuGroup 600) = (s', .ok r) ∧
      ¬ FitTogether (plainConfig false) oneNode.cluster s'.reservations := by
  have hrun : Runs (worldStep (plainConfig false) oneNode) (fun _ _ => True) _
      ⟨servingStale, [cpuWorkload 1 600], []⟩ :=
    (runs_deployedFirst.mono fun _ _ _ => trivial).next (.service .applyInventory) trivial rfl
  have hgrant : handleRequest (plainConfig false) servingStale (orderNo 2) (cpuGroup 600) =
    (_, .ok _) := rfl
  refine ⟨_, _, hrun, rfl, hgrant, ?_⟩
  intro hfit
  -- one node leaves one way to place the two replicas, so their CPU adds up there
  obtain ⟨_, c, ⟨a, ha, rfl⟩, hrest, hle⟩ := Meets.cons_iff.mp hfit
  obtain ⟨_, d, ⟨b, hb, rfl⟩, ⟨_, hnil, hsum⟩, hle'⟩ := Meets.cons_iff.mp hrest
  cases hnil
  rw [cpuGroup_covers ha] at hle
  rw [cpuGroup_covers hb] at hle'
  have hfirst : (600 : Int) + c (.node 0 .cpu) ≤ 1000 := hle (.node 0 .cpu)
  have hsecond : (600 : Int) + d (.node 0 .cpu) ≤ c (.node 0 .cpu) := hle' (.node 0 .cpu)
  have hnone : (0 : Int) ≤ d (.node 0 .cpu) := hsum (.node 0 .cpu)
  omega

end AkashProvider
