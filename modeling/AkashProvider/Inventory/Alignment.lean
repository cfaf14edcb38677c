import AkashProvider.Inventory.Loop

/-!
# The units that the loop of `Adjust` works on

`nodesTrace` records the passes of the unit loop, with the calls of `tryAdjust` each one makes.
A pass is always on the last unit left, which is the unit of the same index in every other list,
and the calls for a unit are at most one for each node and each replica (`adjust_aligned`).
-/

namespace AkashProvider

open InventoryV1 (Cluster)

/-- A pass of the unit loop: the index, the variables when it is entered, and the number of calls
of `tryAdjust`. -/
structure UnitPass where
  index : Nat
  st : AdjustState
  calls : Nat

/-- The calls that `replicaLoop` makes. -/
def replicaCalls (S : Sdk) (env : AdjustEnv) (node i : Nat) (adjustedGroup : Bool) :
    Nat → Rtypes.Resources → AdjustState → Nat
  | 0, _, _ => 0
  | left + 1, adjusted, st =>
    let attempt := tryAdjust S st.cluster node adjusted (env.attempt i) st.groupClaims
    let adjusted := attempt.1
    let st := if adjustedGroup then st else
      { st with adjustedResources := setResources st.adjustedResources i adjusted }
    match attempt.2 with
    | .error _ => 1
    | .ok commit =>
      let st : AdjustState := { st with
        cluster := commit.cluster
        groupClaims := commit.groupClaims
        placed := st.placed ++ [⟨i, node, adjusted, commit.sparams⟩] }
      if adjustedGroup then
        if (st.adjustedResources[i]?).map (·.resources) ≠ some adjusted ∨
            commit.sparams ≠ (st.cparams.lookup adjusted.id).join then 1
        else
          1 + replicaCalls S env node i adjustedGroup left adjusted
            { st with resources := setCount st.resources i left }
      else
        1 + replicaCalls S env node i adjustedGroup left adjusted
          { st with
            cparams := (adjusted.id, commit.sparams) :: st.cparams
            resources := setCount st.resources i left }

/-- The passes of `unitLoop`. -/
def unitTrace (S : Sdk) (env : AdjustEnv) (node : Nat) : Nat → AdjustState → List UnitPass
  | 0, _ => []
  | i + 1, st =>
    match st.adjustedResources[i]? with
    | none => [⟨i, st, 0⟩]
    | some u =>
      let adjustedGroup := countAt env.origResources i ≠ countAt st.resources i
      ⟨i, st, replicaCalls S env node i adjustedGroup (countAt st.resources i) u.resources st⟩ ::
        match replicaLoop S env node i adjustedGroup (countAt st.resources i) u.resources st with
        | .fallThrough st =>
          if countAt st.resources i = 0 then [] else unitTrace S env node i st
        | _ => []

/-- The passes of `nodeLoop`. -/
def nodeTrace (S : Sdk) (env : AdjustEnv) : List Nat → AdjustState → List UnitPass
  | [], _ => []
  | node :: rest, st =>
    unitTrace S env node st.resources.length st ++
      match unitLoop S env node st.resources.length st with
      | .fallThrough st | .continueNodes st => nodeTrace S env rest st
      | _ => []

/-- The passes from the label `nodes` on. -/
def nodesTrace (S : Sdk) (env : AdjustEnv) : Nat → AdjustState → List UnitPass
  | 0, _ => []
  | left + 1, st =>
    let nodes := List.range st.cluster.nodes.length
    nodeTrace S env nodes st ++
      match nodeLoop S env nodes st with
      | .gotoNodes st => nodesTrace S env left st
      | _ => []

/-- The calls for a unit. -/
def callsFor (i : Nat) (ps : List UnitPass) : Nat := ((ps.filter (·.index = i)).map (·.calls)).sum

variable {S : Sdk} {env : AdjustEnv} {start : Cluster} {st st' : AdjustState} {i node : Nat}

/-! ## One pass -/

/-- What `replicaLoop` has done to its unit.  Each call but a refused one places a replica. -/
def Flow.Called (i n calls left : Nat) : Flow → Prop
  | .continueNodes st' => calls + countAt st'.resources i = left + 1 ∧ st'.resources.length = n
  | .gotoNodes _ => False
  | .fallThrough _ | .breakNodes _ _ => calls ≤ left

theorem Flow.Called.next {n calls left : Nat} : ∀ {flow : Flow}, flow.Called i n calls left →
    flow.Called i n (1 + calls) (left + 1)
  | .continueNodes _, h => ⟨by have := h.1; omega, h.2⟩
  | .fallThrough _, h | .breakNodes _ _, h => by
    have : calls ≤ left := h
    simp only [Flow.Called]
    omega

theorem replicaLoop_called (S : Sdk) (env : AdjustEnv) (node : Nat) {n : Nat} (shared : Bool) :
    ∀ (left : Nat)
    (adjusted : Rtypes.Resources) (st : AdjustState), countAt st.resources i = left →
    st.resources.length = n → (replicaLoop S env node i shared left adjusted st).Called i n
      (replicaCalls S env node i shared left adjusted st) left
  | 0, _, _, _, _ => Nat.le_refl 0
  | left + 1, adjusted, st, hleft, hn => by
    have hset : countAt (setCount st.resources i left) i = left := by
      simp [countAt_setCount (lt_length_of_countAt_pos hleft)]
    have hlength : (setCount st.resources i left).length = n := by simp [setCount, hn]
    unfold replicaLoop replicaCalls
    cases hok : tryAdjust S st.cluster node adjusted (env.attempt i) st.groupClaims with
    | mk adjusted' verdict =>
      cases verdict with
      | error r =>
        cases r <;> cases shared <;> simp only [Flow.Called, if_true] <;> grind
      | ok commit =>
        cases shared with
        | true =>
          simp only [if_true]
          split
          · exact Nat.le_add_left 1 left
          · exact (replicaLoop_called S env node true left adjusted' _ (by exact hset) hlength).next
        | false =>
          exact (replicaLoop_called S env node false left adjusted' _ (by exact hset) hlength).next

/-- What a pass on the last unit has done. -/
def Flow.Passed (i calls left : Nat) : Flow → Prop
  | .fallThrough _ => False
  | .continueNodes st' => calls + countAt st'.resources i = left + 1 ∧
    st'.resources.length = i + 1
  | .gotoNodes st' => calls ≤ left ∧ st'.resources.length = i
  | .breakNodes _ _ => calls ≤ left

/-- There is one pass for a node. -/
theorem unitTrace_eq (S : Sdk) (env : AdjustEnv) (node : Nat) (hst : st.resources.length = i + 1) :
    ∃ calls, unitTrace S env node st.resources.length st = [⟨i, st, calls⟩] ∧
      (unitLoop S env node st.resources.length st).Passed i calls (countAt st.resources i) := by
  rw [hst]
  unfold unitTrace unitLoop
  cases st.adjustedResources[i]? with
  | none => exact ⟨0, rfl, Nat.zero_le _⟩
  | some u =>
    have hcalled := replicaLoop_called (i := i) S env node
      (decide (countAt env.origResources i ≠ countAt st.resources i)) _ u.resources st rfl hst
    simp only
    cases hflow : replicaLoop S env node i
        (decide (countAt env.origResources i ≠ countAt st.resources i))
        (countAt st.resources i) u.resources st with
    | fallThrough st' =>
      obtain ⟨hzero, hlength⟩ := replicaLoop_fallThrough _ _ _ hflow rfl
      rw [hflow] at hcalled
      simp only [hzero, if_true]
      exact ⟨_, rfl, hcalled, by simp [List.length_eraseIdx, hlength, hst]⟩
    | continueNodes | breakNodes =>
      rw [hflow] at hcalled
      exact ⟨_, rfl, hcalled⟩
    | gotoNodes =>
      rw [hflow] at hcalled
      exact hcalled.elim

/-- What holds whenever a pass is entered: only `resources` has shrunk, from its end, and only
counts were changed in it. -/
@[grind cases]
structure Aligned (S : Sdk) (env : AdjustEnv) (start : Cluster) (st : AdjustState) : Prop where
  progress : Progress S env start st
  nodes : st.cluster.nodes.length = start.nodes.length
  units : ∀ (j : Nat) (u : ResourceUnit), st.resources[j]? = some u →
    ∃ v, env.origResources[j]? = some v ∧ u.resources = v.resources

theorem length_nodes_tryAdjust {cluster : Cluster} {res res' : Rtypes.Resources}
    {cfg : AttemptConfig} {claims : GroupClaims} {commit : Commit}
    (h : tryAdjust S cluster node res cfg claims = (res', .ok commit)) :
    commit.cluster.nodes.length = cluster.nodes.length := by
  unfold tryAdjust at h
  grind

theorem Aligned.step (h : Aligned S env start st) (hstep : LoopStep S env st st') :
    Aligned S env start st' := by
  refine ⟨h.progress.step hstep, ?_, ?_⟩
  · cases hstep with
    | refuse | done => exact h.nodes
    | place _ _ _ _ ok | follow _ _ _ ok => exact (length_nodes_tryAdjust ok).trans h.nodes
  · intro j u hu
    cases hstep with
    | refuse => exact h.units j u hu
    | place | follow =>
      simp only [setCount, List.getElem?_modify] at hu
      grind
    | done last zero =>
      simp only [List.getElem?_eraseIdx] at hu
      grind

theorem Aligned.steps (h : Aligned S env start st)
    (hrun : Relation.ReflTransGen (LoopStep S env) st st') : Aligned S env start st' := by
  induction hrun with
  | refl => exact h
  | tail _ hstep ih => exact ih.step hstep

/-- A pass on the last unit left. -/
structure OnLast (S : Sdk) (env : AdjustEnv) (start : Cluster) (p : UnitPass) : Prop where
  aligned : Aligned S env start p.st
  last : p.st.resources.length = p.index + 1

theorem nodeTrace_passes : ∀ (nodes : List Nat) (st : AdjustState), Aligned S env start st →
    st.resources.length = i + 1 →
    (∀ p ∈ nodeTrace S env nodes st, OnLast S env start p ∧ p.index = i) ∧
      ((nodeTrace S env nodes st).map (·.calls)).sum ≤ nodes.length + countAt st.resources i ∧
      ∀ st', nodeLoop S env nodes st = .gotoNodes st' → st'.resources.length = i
  | [], _, _, _ => ⟨by simp [nodeTrace], Nat.zero_le _, by simp [nodeLoop]⟩
  | node :: rest, st, h, hst => by
    obtain ⟨calls, htrace, hpassed⟩ := unitTrace_eq S env node hst
    have hreaches := @unitLoop_reaches S env node st
    have hpass : OnLast S env start ⟨i, st, calls⟩ := ⟨h, hst⟩
    unfold nodeTrace nodeLoop
    rw [htrace]
    cases hflow : unitLoop S env node st.resources.length st with
    | fallThrough st' =>
      rw [hflow] at hpassed
      exact hpassed.elim
    | continueNodes st' =>
      rw [hflow] at hpassed hreaches
      obtain ⟨hpasses, hsum, hgoto⟩ := nodeTrace_passes rest st' (h.steps hreaches) hpassed.2
      refine ⟨by simpa [hpass] using hpasses, ?_, hgoto⟩
      have := hpassed.1
      simp only [List.singleton_append, List.map_cons, List.sum_cons, List.length_cons]
      omega
    | breakNodes err st' =>
      rw [hflow] at hpassed
      have : calls ≤ countAt st.resources i := hpassed
      exact ⟨by simp [hpass], by simp; omega, by simp⟩
    | gotoNodes st' =>
      rw [hflow] at hpassed
      have := hpassed.1
      refine ⟨by simp [hpass], by simp; omega, ?_⟩
      rintro _ ⟨⟩
      exact hpassed.2

/-! ## All passes -/

theorem nodeLoop_nil (h : st.resources = []) (nodes : List Nat) :
    nodeLoop S env nodes st = .fallThrough st := by
  induction nodes with
  | nil => rfl
  | cons node rest ih => simp [nodeLoop, h, unitLoop, ih]

theorem callsFor_append (j : Nat) (ps ps' : List UnitPass) :
    callsFor j (ps ++ ps') = callsFor j ps + callsFor j ps' := by
  simp [callsFor]

theorem callsFor_eq_zero {j : Nat} {ps : List UnitPass} (h : ∀ p ∈ ps, p.index ≠ j) :
    callsFor j ps = 0 := by
  have hnone : ps.filter (·.index = j) = [] :=
    List.filter_eq_nil_iff.mpr fun p hp => by simpa using h p hp
  simp [callsFor, hnone]

/-- A round is for the last unit left. -/
theorem callsFor_nodeTrace (h : Aligned S env start st) (hst : st.resources.length = i + 1)
    (j : Nat) : callsFor j (nodeTrace S env (List.range st.cluster.nodes.length) st) ≤
      if j = i then start.nodes.length + countAt env.origResources j else 0 := by
  obtain ⟨hpasses, hsum, -⟩ := nodeTrace_passes (List.range st.cluster.nodes.length) st h hst
  split
  · next hj =>
    have hcount := h.progress.counts i
    have hnodes := h.nodes
    rw [List.length_range] at hsum
    rw [callsFor, List.filter_eq_self.mpr fun p hp => by simpa [hj] using (hpasses p hp).2, hj]
    omega
  · next hj =>
    exact Nat.le_of_eq (callsFor_eq_zero fun p hp heq => hj (heq ▸ (hpasses p hp).2))

theorem nodesTrace_passes : ∀ (left : Nat) (st : AdjustState), Aligned S env start st →
    st.resources.length = left →
    (∀ p ∈ nodesTrace S env left st, OnLast S env start p ∧ p.index < left) ∧
      (∀ j, callsFor j (nodesTrace S env left st) ≤
        start.nodes.length + countAt env.origResources j) ∧
      ∀ k ≥ left, nodesLabel S env k st = nodesLabel S env left st
  | 0, st, _, hst => by
    refine ⟨by simp [nodesTrace], fun _ => Nat.zero_le _, fun k _ => ?_⟩
    cases k with
    | zero => rfl
    | succ k => simp [nodesLabel, nodeLoop_nil (List.length_eq_zero_iff.mp hst)]
  | i + 1, st, h, hst => by
    obtain ⟨hpasses, -, hgoto⟩ := nodeTrace_passes (List.range st.cluster.nodes.length) st h hst
    have hreaches := @nodeLoop_reaches S env (List.range st.cluster.nodes.length) st
    have hfirst := callsFor_nodeTrace h hst
    cases hflow : nodeLoop S env (List.range st.cluster.nodes.length) st with
    | gotoNodes st' =>
      rw [hflow] at hreaches
      simp only [nodesTrace, hflow]
      obtain ⟨ihpasses, ihcalls, ihfuel⟩ :=
        nodesTrace_passes i st' (h.steps hreaches) (hgoto st' hflow)
      refine ⟨fun p hp => ?_, fun j => ?_, fun k hk => ?_⟩
      · obtain hp | hp := List.mem_append.mp hp
        · exact ⟨(hpasses p hp).1, by have := (hpasses p hp).2; omega⟩
        · exact ⟨(ihpasses p hp).1, Nat.lt_succ_of_lt (ihpasses p hp).2⟩
      · have hj := hfirst j
        have hrest := ihcalls j
        simp only [callsFor_append]
        split at hj
        · have hnone := callsFor_eq_zero (j := j) fun p hp => by
            have := (ihpasses p hp).2
            omega
          omega
        · omega
      · obtain ⟨k, rfl⟩ := Nat.exists_eq_add_one.mpr (Nat.lt_of_lt_of_le (Nat.succ_pos i) hk)
        simp only [nodesLabel, hflow]
        exact ihfuel k (Nat.le_of_succ_le_succ hk)
    | fallThrough | continueNodes | breakNodes =>
      simp only [nodesTrace, hflow, List.append_nil]
      refine ⟨fun p hp => ⟨(hpasses p hp).1, by have := (hpasses p hp).2; omega⟩, fun j => ?_,
        fun k hk => ?_⟩
      · have hj := hfirst j
        split at hj <;> omega
      · obtain ⟨k, rfl⟩ := Nat.exists_eq_add_one.mpr (Nat.lt_of_lt_of_le (Nat.succ_pos i) hk)
        simp only [nodesLabel, hflow]

/-- Every pass of the unit loop is on the last unit left, which is the unit of its index in the
other lists as well; the calls of `tryAdjust` for a unit are at most one for each node and each of
its replicas; and more rounds than there are units change nothing. -/
theorem adjust_aligned (S : Sdk) (inv : Inventory) (rg : ResourceGroup) (opts : InventoryOptions) :
    let env := adjustEnv rg opts
    let st := adjustStart inv.sanitized rg
    let passes := nodesTrace S env rg.resourceUnits.length st
    (∀ p ∈ passes, p.st.resources.length = p.index + 1 ∧
      (∀ (j : Nat) (u : ResourceUnit), p.st.resources[j]? = some u →
        ∃ v : ResourceUnit, env.origResources[j]? = some v ∧ u.resources = v.resources) ∧
      SameUnits p.st.adjustedResources env.origResources) ∧
    (∀ i, callsFor i passes ≤ inv.sanitized.nodes.length + countAt env.origResources i) ∧
    ∀ k ≥ rg.resourceUnits.length,
      nodesLabel S env k st = nodesLabel S env rg.resourceUnits.length st := by
  intro env st passes
  have haligned : Aligned S env inv.sanitized st :=
    ⟨progress_start inv.sanitized rg opts, rfl, fun j u hu => ⟨u, hu, rfl⟩⟩
  obtain ⟨hpasses, hcalls, hfuel⟩ := nodesTrace_passes _ st haligned rfl
  refine ⟨fun p hp => ?_, hcalls, hfuel⟩
  obtain ⟨⟨h, hlast⟩, -⟩ := hpasses p hp
  exact ⟨hlast, h.units, h.progress.units⟩

end AkashProvider
