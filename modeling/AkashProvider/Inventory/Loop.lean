import AkashProvider.Inventory.Gates

/-!
# The loop of `Adjust` as a run of placements

`LoopStep` is what one pass of the innermost loop can do.  The scan always works on the last unit
left, and the state that the loop has reached comes from a run of such steps (`adjust_reaches`).
`PlaceStep` is the part of a step that has to do with the cluster.  The replicas left and the
replicas placed add up to those requested (`Progress.counts`).
-/

namespace AkashProvider

open InventoryV1 (Cluster)
open Crd (SchedulerParams)

variable {S : Sdk} {env : AdjustEnv} {start : Cluster}

/-! ## Units -/

/-- The units `us` request the resources and counts of `vs`. -/
@[grind cases]
structure SameUnits (us vs : ResourceUnits) : Prop where
  length_eq : us.length = vs.length
  same : ∀ (i : Nat) (u v : ResourceUnit), us[i]? = some u → vs[i]? = some v →
    u.resources.SameRequest v.resources ∧ u.count = v.count

theorem SameUnits.refl (us : ResourceUnits) : SameUnits us us where
  length_eq := rfl
  same := by
    intro i u v hu hv
    rw [hu, Option.some.injEq] at hv
    subst hv
    exact ⟨.refl _, rfl⟩

variable {i : Nat}

theorem SameUnits.setResources {us vs : ResourceUnits} (h : SameUnits us vs) {v : ResourceUnit}
    {res : Rtypes.Resources} (hv : vs[i]? = some v) (hres : res.SameRequest v.resources) :
    SameUnits (setResources us i res) vs where
  length_eq := by simp [AkashProvider.setResources, h.length_eq]
  same := by
    intro j u w hu hw
    simp only [AkashProvider.setResources, List.getElem?_modify] at hu
    grind

variable {us : ResourceUnits}

theorem lt_length_of_countAt_pos {i n : Nat} (h : countAt us i = n + 1) :
    i < us.length := by
  grind [countAt]

theorem countAt_setCount (h : i < us.length) (n j : Nat) :
    countAt (setCount us i n) j = if j = i then n else countAt us j := by
  grind [countAt, setCount, List.getElem?_eq_getElem]

theorem countAt_eraseIdx (hlen : us.length = i + 1) (hzero : countAt us i = 0) (j : Nat) :
    countAt (us.eraseIdx i) j = countAt us j := by
  simp only [countAt, List.getElem?_eraseIdx] at hzero ⊢
  grind

/-! ## Placements -/

/-- One replica placed: a successful attempt with the resources of its unit. -/
inductive PlaceStep (S : Sdk) (env : AdjustEnv) :
    Cluster × List Placed → Cluster × List Placed → Prop
  | place {cluster : Cluster} {placed : List Placed} {i node : Nat} {u : ResourceUnit}
      {res res' : Rtypes.Resources} {claims : GroupClaims} {commit : Commit}
      (unit : env.origResources[i]? = some u)
      (same : res.SameRequest u.resources)
      (ok : tryAdjust S cluster node res (env.attempt i) claims = (res', .ok commit)) :
      PlaceStep S env (cluster, placed)
        (commit.cluster, placed ++ [⟨i, node, res', commit.sparams⟩])

structure Attempt (S : Sdk) (env : AdjustEnv) (start : Cluster) (p : Placed) where
  cluster : Cluster
  before : List Placed
  u : ResourceUnit
  res : Rtypes.Resources
  claims : GroupClaims
  commit : Commit
  run : Relation.ReflTransGen (PlaceStep S env) (start, []) (cluster, before)
  unit : env.origResources[p.unit]? = some u
  same : res.SameRequest u.resources
  ok : tryAdjust S cluster p.node res (env.attempt p.unit) claims = (p.resources, .ok commit)
  sparams : p.sparams = commit.sparams

theorem placed_attempt {b : Cluster × List Placed}
    (h : Relation.ReflTransGen (PlaceStep S env) (start, []) b) {p : Placed} (hp : p ∈ b.2) :
    Nonempty (Attempt S env start p) := by
  induction h with
  | refl => cases hp
  | tail hrun hstep ih =>
    cases hstep with
    | place hunit hsame hok =>
      obtain hp | hp := List.mem_append.mp hp
      · exact ih hp
      · rw [List.mem_singleton] at hp
        subst hp
        exact ⟨⟨_, _, _, _, _, _, hrun, hunit, hsame, hok, rfl⟩⟩

def placedCount (placed : List Placed) (i : Nat) : Nat := placed.countP (·.unit = i)

theorem placedCount_append (placed : List Placed) (p : Placed) (i : Nat) :
    placedCount (placed ++ [p]) i = placedCount placed i + if p.unit = i then 1 else 0 := by
  by_cases h : p.unit = i <;> simp [placedCount, h]

/-- What holds of the variables of the loop at every pass. -/
@[grind cases]
structure Progress (S : Sdk) (env : AdjustEnv) (start : Cluster) (st : AdjustState) : Prop where
  run : Relation.ReflTransGen (PlaceStep S env) (start, []) (st.cluster, st.placed)
  units : SameUnits st.adjustedResources env.origResources
  counts : ∀ i, countAt st.resources i + placedCount st.placed i = countAt env.origResources i
  params : ∀ e ∈ st.cparams, ∃ p ∈ st.placed, e = (p.resources.id, p.sparams)

/-! ## What the loop does

A pass works on the last unit that is left.  Its request is the one in the list of adjusted
units, whether the replicas share the entry or each has a copy. -/

def placedOn (placed : List Placed) (i node : Nat) : Nat :=
  placed.countP fun p => p.unit = i ∧ p.node = node

theorem placedOn_append_self (placed : List Placed) (i node : Nat) (res : Rtypes.Resources)
    (sparams : Option SchedulerParams) :
    placedOn (placed ++ [⟨i, node, res, sparams⟩]) i node = placedOn placed i node + 1 := by
  simp [placedOn]

inductive LoopStep (S : Sdk) (env : AdjustEnv) : AdjustState → AdjustState → Prop
  /-- A refusal.  Nothing of the unit is placed but on this node, so the request is written
  back. -/
  | refuse {st : AdjustState} {i node : Nat} {u : ResourceUnit}
      (last : st.resources.length = i + 1) (unit : st.adjustedResources[i]? = some u)
      (fresh : countAt env.origResources i ≤
        countAt st.resources i + placedOn st.placed i node) :
      LoopStep S env st
        { st with
          adjustedResources := setResources st.adjustedResources i
            (tryAdjust S st.cluster node u.resources (env.attempt i) st.groupClaims).1 }
  /-- A replica on the first node that takes one of the unit. -/
  | place {st : AdjustState} {i node left : Nat} {u : ResourceUnit} {res' : Rtypes.Resources}
      {commit : Commit} (last : st.resources.length = i + 1)
      (unit : st.adjustedResources[i]? = some u)
      (fresh : countAt env.origResources i ≤
        countAt st.resources i + placedOn st.placed i node)
      (count : countAt st.resources i = left + 1)
      (ok : tryAdjust S st.cluster node u.resources (env.attempt i) st.groupClaims =
        (res', .ok commit)) :
      LoopStep S env st
        { cluster := commit.cluster
          groupClaims := commit.groupClaims
          resources := setCount st.resources i left
          adjustedResources := setResources st.adjustedResources i res'
          cparams := (res'.id, commit.sparams) :: st.cparams
          placed := st.placed ++ [⟨i, node, res', commit.sparams⟩] }
  /-- A replica on a later node, which has to leave request and parameters as they are. -/
  | follow {st : AdjustState} {i node left : Nat} {u : ResourceUnit} {commit : Commit}
      (last : st.resources.length = i + 1) (unit : st.adjustedResources[i]? = some u)
      (count : countAt st.resources i = left + 1)
      (ok : tryAdjust S st.cluster node u.resources (env.attempt i) st.groupClaims =
        (u.resources, .ok commit))
      (recorded : commit.sparams = (st.cparams.lookup u.resources.id).join) :
      LoopStep S env st
        { cluster := commit.cluster
          groupClaims := commit.groupClaims
          resources := setCount st.resources i left
          adjustedResources := st.adjustedResources
          cparams := st.cparams
          placed := st.placed ++ [⟨i, node, u.resources, commit.sparams⟩] }
  /-- A unit of which no replica is left. -/
  | done {st : AdjustState} {i : Nat} (last : st.resources.length = i + 1)
      (zero : countAt st.resources i = 0) :
      LoopStep S env st { st with resources := st.resources.eraseIdx i }

/-- Where a level of the loop gets, however it was left.  A `break` leaves units over. -/
def Flow.Reaches (S : Sdk) (env : AdjustEnv) (st : AdjustState) : Flow → Prop
  | .fallThrough st' | .continueNodes st' | .gotoNodes st' =>
    Relation.ReflTransGen (LoopStep S env) st st'
  | .breakNodes _ st' => st'.resources ≠ []

variable {st st' : AdjustState}

theorem Flow.Reaches.head {flow : Flow} (hrun : Relation.ReflTransGen (LoopStep S env) st st')
    (h : flow.Reaches S env st') :
    flow.Reaches S env st := by
  cases flow with
  | fallThrough | continueNodes | gotoNodes => exact hrun.trans h
  | breakNodes => exact h

variable {u : ResourceUnit}

theorem getElem?_setResources (hu : us[i]? = some u) (res : Rtypes.Resources) :
    (setResources us i res)[i]? = some { u with resources := res } := by
  simp [setResources, hu]

theorem replicaLoop_reaches (node : Nat) (shared : Bool) :
    ∀ (left : Nat) (u : ResourceUnit) (st : AdjustState), st.resources.length = i + 1 →
      st.adjustedResources[i]? = some u → countAt st.resources i = left →
      (shared = false → countAt env.origResources i ≤
        countAt st.resources i + placedOn st.placed i node) →
      (replicaLoop S env node i shared left u.resources st).Reaches S env st
  | 0, _, _, _, _, _, _ => .refl
  | left + 1, u, st, hlast, hu, hleft, hfresh => by
    have hne : st.resources ≠ [] := List.ne_nil_of_length_pos (by omega)
    have hlt := lt_length_of_countAt_pos hleft
    have hlast' : (setCount st.resources i left).length = i + 1 := by
      rw [setCount, List.length_modify, hlast]
    have hleft' : countAt (setCount st.resources i left) i = left := by simp [countAt_setCount hlt]
    unfold replicaLoop
    cases hok : tryAdjust S st.cluster node u.resources (env.attempt i) st.groupClaims with
    | mk res' verdict =>
      cases verdict with
      | error r =>
        cases r with
        | node =>
          cases shared with
          | true => exact .refl
          | false =>
            have hstep := LoopStep.refuse (S := S) hlast hu (hfresh rfl)
            rw [hok] at hstep
            exact .single hstep
        | cluster => cases shared <;> exact hne
        | panics => cases shared <;> exact hne
      | ok commit =>
        cases shared with
        | true =>
          simp only [if_true]
          split
          next => exact hne
          next hsame =>
            rw [not_or, not_not, not_not, hu, Option.map_some, Option.some.injEq] at hsame
            obtain ⟨rfl, hrecorded⟩ := hsame
            have hstep := LoopStep.follow hlast hu hleft hok hrecorded
            exact .head (.single hstep) (replicaLoop_reaches node true left u _ hlast' hu
              hleft' fun h => absurd h (by decide))
        | false =>
          have hstep := LoopStep.place hlast hu (hfresh rfl) hleft hok
          refine .head (.single hstep) (replicaLoop_reaches node false left
            { u with resources := res' } _ hlast' (getElem?_setResources hu res') hleft' ?_)
          grind [placedOn_append_self]

theorem replicaLoop_fallThrough {node i : Nat} {shared : Bool} {st' : AdjustState} :
    ∀ (left : Nat) (adjusted : Rtypes.Resources) (st : AdjustState),
      replicaLoop S env node i shared left adjusted st = .fallThrough st' →
      countAt st.resources i = left →
      countAt st'.resources i = 0 ∧ st'.resources.length = st.resources.length
  | 0, _, _, h, hleft => by
    injection h with h
    subst h
    exact ⟨hleft, rfl⟩
  | left + 1, adjusted, st, h, hleft => by
    have hlt := lt_length_of_countAt_pos hleft
    have hset : countAt (setCount st.resources i left) i = left := by simp [countAt_setCount hlt]
    have hlen : (setCount st.resources i left).length = st.resources.length := by simp [setCount]
    unfold replicaLoop at h
    cases hok : tryAdjust S st.cluster node adjusted (env.attempt i) st.groupClaims with
    | mk adjusted' verdict =>
      cases verdict with
      | error r => rw [hok] at h; cases r <;> cases h
      | ok commit =>
        rw [hok] at h
        cases shared with
        | true =>
          simp only [if_true] at h
          split at h
          next => cases h
          next =>
            have ih := replicaLoop_fallThrough left adjusted' _ h hset
            exact ⟨ih.1, ih.2.trans hlen⟩
        | false =>
          have ih := replicaLoop_fallThrough left adjusted' _ h hset
          exact ⟨ih.1, ih.2.trans hlen⟩

theorem unitLoop_reaches (node : Nat) (st : AdjustState) :
    (unitLoop S env node st.resources.length st).Reaches S env st := by
  cases hlen : st.resources.length with
  | zero => exact .refl
  | succ i =>
    have hne : st.resources ≠ [] := List.ne_nil_of_length_pos (by omega)
    unfold unitLoop
    cases hu : st.adjustedResources[i]? with
    | none => exact hne
    | some u =>
      have hreaches : (replicaLoop S env node i
          (decide (countAt env.origResources i ≠ countAt st.resources i))
          (countAt st.resources i) u.resources st).Reaches S env st :=
        replicaLoop_reaches node _ _ u st hlen hu rfl fun hfresh =>
          Nat.le_trans (Nat.le_of_eq (not_not.mp (of_decide_eq_false hfresh)))
            (Nat.le_add_right _ _)
      simp only
      -- a unit is left by `goto` or for the next node, so the loop never gets to a second one
      split
      next st' hfall =>
        obtain ⟨hzero, hlen'⟩ := replicaLoop_fallThrough _ _ _ hfall rfl
        rw [hfall] at hreaches
        rw [if_pos hzero]
        exact hreaches.tail (.done (hlen'.trans hlen) hzero)
      next => exact hreaches

theorem nodeLoop_reaches : ∀ (nodes : List Nat) (st : AdjustState),
    (nodeLoop S env nodes st).Reaches S env st
  | [], _ => .refl
  | node :: rest, st => by
    have hunit : (unitLoop S env node st.resources.length st).Reaches S env st :=
      unitLoop_reaches node st
    unfold nodeLoop
    split
    next st' hflow =>
      rw [hflow] at hunit
      exact .head hunit (nodeLoop_reaches rest st')
    next st' hflow =>
      rw [hflow] at hunit
      exact .head hunit (nodeLoop_reaches rest st')
    next => exact hunit

theorem nodesLabel_reaches : ∀ (left : Nat) (st : AdjustState),
    (nodesLabel S env left st).2.resources = [] →
    Relation.ReflTransGen (LoopStep S env) st (nodesLabel S env left st).2
  | 0, _, _ => .refl
  | left + 1, st, hnil => by
    have hnode : (nodeLoop S env (List.range st.cluster.nodes.length) st).Reaches S env st :=
      nodeLoop_reaches _ st
    unfold nodesLabel at hnil ⊢
    split at hnil
    next st' hflow =>
      rw [hflow] at hnode
      exact Relation.ReflTransGen.trans hnode (nodesLabel_reaches left st' hnil)
    next err st' hflow =>
      -- the loop broke off with units left
      rw [hflow] at hnode
      exact absurd hnil hnode
    next st' hflow =>
      rw [hflow] at hnode
      exact hnode
    next st' hflow =>
      rw [hflow] at hnode
      exact hnode

/-! ## Progress -/

theorem counts_place {st : AdjustState} {i left : Nat} (hleft : countAt st.resources i = left + 1)
    (hcounts : ∀ j, countAt st.resources j + placedCount st.placed j =
      countAt env.origResources j) (p : Placed) (hp : p.unit = i) (j : Nat) :
    countAt (setCount st.resources i left) j + placedCount (st.placed ++ [p]) j =
      countAt env.origResources j := by
  rw [countAt_setCount (lt_length_of_countAt_pos hleft), placedCount_append, hp, ← hcounts j]
  grind

theorem Progress.unit_same {st : AdjustState} (h : Progress S env start st)
    (hu : st.adjustedResources[i]? = some u) :
    ∃ v, env.origResources[i]? = some v ∧ u.resources.SameRequest v.resources := by
  grind

theorem Progress.step (h : Progress S env start st) (hstep : LoopStep S env st st') :
    Progress S env start st' := by
  cases hstep with
  | @refuse i node u last unit fresh =>
    obtain ⟨v, hv, hsame⟩ := h.unit_same unit
    have hres := (tryAdjust_sameRequest (S := S) st.cluster node u.resources (env.attempt i)
      st.groupClaims).trans hsame
    exact ⟨h.run, h.units.setResources hv hres, h.counts, h.params⟩
  | @place i node left u res' commit last unit fresh count ok =>
    obtain ⟨v, hv, hsame⟩ := h.unit_same unit
    have hres := tryAdjust_sameRequest (S := S) st.cluster node u.resources (env.attempt i)
      st.groupClaims
    rw [ok] at hres
    refine ⟨h.run.tail (.place hv hsame ok), h.units.setResources hv (hres.trans hsame),
      counts_place count h.counts _ rfl, ?_⟩
    intro e he
    rcases List.mem_cons.mp he with he | he
    · exact ⟨_, List.mem_append_right _ List.mem_cons_self, he⟩
    · obtain ⟨p, hp, hpe⟩ := h.params e he
      exact ⟨p, List.mem_append_left _ hp, hpe⟩
  | @follow i node left u commit last unit count ok recorded =>
    obtain ⟨v, hv, hsame⟩ := h.unit_same unit
    refine ⟨h.run.tail (.place hv hsame ok), h.units, counts_place count h.counts _ rfl, ?_⟩
    grind
  | done last zero =>
    refine ⟨h.run, h.units, fun j => ?_, h.params⟩
    rw [← h.counts j, countAt_eraseIdx last zero]

theorem Progress.steps (h : Progress S env start st)
    (hrun : Relation.ReflTransGen (LoopStep S env) st st') : Progress S env start st' := by
  induction hrun with
  | refl => exact h
  | tail _ hstep ih => exact ih.step hstep

/-! ## `Adjust` -/

theorem progress_start (cluster : Cluster) (rg : ResourceGroup) (opts : InventoryOptions) :
    Progress S (adjustEnv rg opts) cluster (adjustStart cluster rg) where
  run := .refl
  units := .refl _
  counts := by simp [adjustStart, adjustEnv, placedCount]
  params := by
    intro e he
    cases he

variable {g : Grant} {inv inv' : Inventory} {opts : InventoryOptions} {rg : ResourceGroup}

theorem adjust_reaches (h : adjust S inv rg opts = (inv', .ok g)) :
    ∃ st, Relation.ReflTransGen (LoopStep S (adjustEnv rg opts))
        (adjustStart inv.sanitized rg) st ∧ st.resources = [] ∧
      inv' = (if opts.dryRun then inv else { inv with sanitized := st.cluster }) ∧
      g = ⟨st.adjustedResources, st.cparams, st.placed⟩ := by
  unfold adjust at h
  split at h
  next => cases h
  next =>
    simp only at h
    split at h
    next hnil => grind [nodesLabel_reaches]
    next => cases h

theorem adjust_eq_ok (h : adjust S inv rg opts = (inv', .ok g)) :
    ∃ st, Progress S (adjustEnv rg opts) inv.sanitized st ∧ st.resources = [] ∧
      inv' = (if opts.dryRun then inv else { inv with sanitized := st.cluster }) ∧
      g = ⟨st.adjustedResources, st.cparams, st.placed⟩ := by
  obtain ⟨st, hrun, hend⟩ := adjust_reaches h
  exact ⟨st, (progress_start _ rg opts).steps hrun, hend⟩

theorem adjust_eq_error {err : AdjustErr} (h : adjust S inv rg opts = (inv', .error err)) :
    inv' = inv := by
  unfold adjust at h
  grind

end AkashProvider
