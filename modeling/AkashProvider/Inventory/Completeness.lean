import AkashProvider.Inventory.Admission
import AkashProvider.Inventory.Placement

/-!
# Placement of one replica is complete up to the stamped GPU

A node that passes every gate for a request should be enough for `Adjust` to succeed.  A refusal
by the cluster does not depend on the node (`tryAdjust_not_stopped`).  But the GPU gate pins the
request to the model of the node before memory, volumes and sidecar are checked, and the pin
stays.  Completeness is equivalent to `NoStrayPin`.
-/

namespace AkashProvider

open InventoryV1 (Node Cluster)
open Crd (SchedulerParams)

variable {S : Sdk}

/-! ## A refusal by the cluster does not depend on the node -/

/-- What a volume does to the storage classes, whatever the node. -/
def storageAfter (S : Sdk) (storage : List InventoryV1.Storage) (vol : Rtypes.Storage) :
    Except Refusal (List InventoryV1.Storage) :=
  match parseStorageAttributes S vol.attributes with
  | .error _ => .error .cluster
  | .ok attrs =>
    if attrs.persistent then subStorageClass S attrs.storageClass vol.quantity storage
    else .ok storage

variable {a b : Node × List InventoryV1.Storage} {vol : Rtypes.Storage}

theorem adjustVolume_ok_storageAfter (h : adjustVolume S a vol = .ok b) :
    storageAfter S a.2 vol = .ok b.2 := by
  obtain ⟨attrs, hparse, htaken⟩ := adjustVolume_eq_ok h
  simp only [storageAfter, hparse]
  cases htaken with
  | ram q lost => simp [lost]
  | ephemeral q lost => simp [lost]
  | persistent l' kept supported taken =>
    rw [if_pos kept]
    exact taken

theorem subStorageClass_error {c : String} {v : Rtypes.ResourceValue} :
    ∀ {l : List InventoryV1.Storage} {r : Refusal}, subStorageClass S c v l = .error r →
      r = .cluster
  | [], r, h => by
    injection h with h
    exact h.symm
  | s :: rest, r, h => by
    unfold subStorageClass at h
    split at h
    next =>
      split at h
      next =>
        injection h with h
        exact h.symm
      next => cases h
    next =>
      cases hrest : subStorageClass S c v rest with
      | error r' =>
        rw [hrest] at h
        injection h with h
        exact h ▸ subStorageClass_error hrest
      | ok l => rw [hrest] at h; cases h

variable {r : Refusal}

theorem adjustVolume_error {a : Node × List InventoryV1.Storage}
    (h : adjustVolume S a vol = .error r) :
    r = .node ∨ r = .cluster ∧ storageAfter S a.2 vol = .error .cluster := by
  unfold adjustVolume at h
  unfold storageAfter
  cases hp : parseStorageAttributes S vol.attributes with
  | error e => simp_all
  | ok attrs =>
    simp only [hp] at h ⊢
    cases hpers : attrs.persistent with
    | false => grind
    | true =>
      simp only [hpers, Bool.not_true, Bool.false_eq_true, if_false] at h
      split at h
      next =>
        injection h with h
        exact .inl h.symm
      next =>
        cases hsub : subStorageClass S attrs.storageClass vol.quantity a.2 with
        | ok l => rw [hsub] at h; cases h
        | error r' =>
          rw [hsub] at h
          injection h with h
          grind [subStorageClass_error]

/-- The volumes that one node takes are refused by the cluster on no other. -/
theorem foldlM_adjustVolume_error :
    ∀ (vols : List Rtypes.Storage) (c : Node × List InventoryV1.Storage), a.2 = c.2 →
      vols.foldlM (adjustVolume S) a = .ok b → vols.foldlM (adjustVolume S) c = .error r →
      r = .node := by
  intro vols
  induction vols generalizing a with
  | nil => intro c _ _ h; cases h
  | cons vol rest ih =>
    intro c hac hok herr
    rw [List.foldlM_cons] at hok herr
    obtain ⟨a', ha', hok⟩ := Except.exists_of_bind_eq_ok hok
    have hstep := adjustVolume_ok_storageAfter ha'
    cases hc : adjustVolume S c vol with
    | error r' =>
      rw [hc] at herr
      injection herr with herr
      grind [adjustVolume_error]
    | ok c' =>
      rw [hc] at herr
      have hstep' := adjustVolume_ok_storageAfter hc
      rw [← hac, hstep, Except.ok.injEq] at hstep'
      exact ih c' hstep' hok herr

variable {cfg : AttemptConfig} {claims : GroupClaims} {cluster : Cluster} {res : Rtypes.Resources}

theorem tryAdjustDevices_error {node : Nat} (hnode : node < cluster.nodes.length)
    (hcpu : res.cpu ≠ none) (hgpu : res.gpu ≠ none)
    (h : tryAdjustDevices S cluster node res cfg claims = .error r) : r = .node := by
  unfold tryAdjustDevices at h
  rw [List.getElem?_eq_getElem hnode] at h
  simp only at h
  split at h
  next =>
    injection h with h
    exact h.symm
  next =>
    split at h
    next =>
      injection h with h
      exact h.symm
    next =>
      split at h
      all_goals grind

/-- After a node that passes, the later gates of another node can only refuse the node. -/
theorem tryAdjustRest_error {storage storage' : List InventoryV1.Storage}
    {res res' : Rtypes.Resources} {cfg cfg' : AttemptConfig} {nd₁ nd₁' nd₂ : Node}
    {sp₁ sp₁' sp₂ : SchedulerParams} (hmem : res'.memory = res.memory)
    (hvols : res'.storage = res.storage)
    (hok : tryAdjustRest S storage res cfg nd₁ sp₁ = .ok (nd₁', storage', sp₁'))
    (h : tryAdjustRest S storage res' cfg' nd₂ sp₂ = .error r) : r = .node := by
  obtain ⟨p⟩ := tryAdjustRest_eq_ok hok
  unfold tryAdjustRest at h
  rw [hmem, p.memory_eq, hvols] at h
  simp only at h
  split at h
  next =>
    injection h with h
    exact h.symm
  next =>
    split at h
    next hvol =>
      injection h with h
      subst h
      refine foldlM_adjustVolume_error res.storage _ ?_ p.volumes_ok hvol
      rfl
    next =>
      split at h
      next hside => grind [reserveSidecar_eq_error]
      next => cases h

theorem tryAdjust_not_stopped {j k : Nat} {commit : Commit}
    (hk : (tryAdjust S cluster k res cfg claims).2 = .ok commit) (hj : j < cluster.nodes.length)
    (h : (tryAdjust S cluster j res cfg claims).2 = .error r) : r = .node := by
  unfold tryAdjust at h hk
  split at hk
  next => cases hk
  next hdev =>
    obtain ⟨p⟩ := tryAdjustDevices_eq_ok hdev
    simp only at hk
    split at hk
    next => cases hk
    next hrest =>
      split at h
      next hdev' =>
        injection h with h
        subst h
        refine tryAdjustDevices_error hj ?_ ?_ hdev'
        · rw [p.cpu_eq]
          exact Option.some_ne_none _
        · rw [p.gpu_eq]
          exact Option.some_ne_none _
      next =>
        simp only at h
        split at h
        next hrest' =>
          injection h with h
          subst h
          exact tryAdjustRest_error rfl rfl hrest hrest'
        next => cases h

/-! ## The scan for one replica -/

section OneReplica

variable {env : AdjustEnv} {cluster : Cluster} {res : Rtypes.Resources}

/-- The loop at its start, with one replica of one unit. -/
def oneReplica (cluster : Cluster) (res : Rtypes.Resources) : AdjustState :=
  ⟨cluster, [], [⟨res, 1⟩], [⟨res, 1⟩], [], []⟩

variable {commit : Commit} {j : Nat}

theorem unitLoop_ok (henv : env.origResources = [⟨res, 1⟩])
    (h : (tryAdjust S cluster j res (env.attempt 0) []).2 = .ok commit) :
    ∃ st, unitLoop S env j 1 (oneReplica cluster res) = .gotoNodes st ∧ st.resources = [] := by
  simp_all [unitLoop, oneReplica, countAt, replicaLoop, setCount, setResources]

theorem unitLoop_refused (henv : env.origResources = [⟨res, 1⟩])
    (h : tryAdjust S cluster j res (env.attempt 0) [] = (res, .error .node)) :
    unitLoop S env j 1 (oneReplica cluster res) = .continueNodes (oneReplica cluster res) := by
  simp [unitLoop, oneReplica, henv, countAt, replicaLoop, h, setResources]

theorem nodeLoop_complete (henv : env.origResources = [⟨res, 1⟩]) {k : Nat}
    (hk : (tryAdjust S cluster k res (env.attempt 0) []).2 = .ok commit)
    (hkeep : ∀ j r, (tryAdjust S cluster j res (env.attempt 0) []).2 = .error r →
      (tryAdjust S cluster j res (env.attempt 0) []).1 = res) :
    ∀ nodes : List Nat, k ∈ nodes → (∀ j ∈ nodes, j < cluster.nodes.length) →
      ∃ st, nodeLoop S env nodes (oneReplica cluster res) = .gotoNodes st ∧ st.resources = []
  | [], hmem, _ => by cases hmem
  | j :: rest, hmem, hlt => by
    have hlen : (oneReplica cluster res).resources.length = 1 := rfl
    unfold nodeLoop
    rw [hlen]
    cases hj : (tryAdjust S cluster j res (env.attempt 0) []).2 with
    | ok commit' => grind [unitLoop_ok]
    | error r =>
      -- a refusal by the cluster would have met node `k` as well
      have hr := tryAdjust_not_stopped hk (hlt j List.mem_cons_self) hj
      subst hr
      have hrefused : tryAdjust S cluster j res (env.attempt 0) [] = (res, .error .node) :=
        Prod.ext (hkeep j _ hj) hj
      rw [unitLoop_refused henv hrefused]
      have hmem' : k ∈ rest := by grind
      exact nodeLoop_complete henv hk hkeep rest hmem'
        fun i hi => hlt i (List.mem_cons_of_mem _ hi)

end OneReplica

/-! ## Completeness -/

section Completeness

variable (S) (inv : Inventory) (rg : ResourceGroup) (opts : InventoryOptions)
  (res : Rtypes.Resources)

/-- The attempt on node `j` alone, with the request as it was made. -/
def attemptAlone (j : Nat) : Rtypes.Resources × Except Refusal Commit :=
  tryAdjust S inv.sanitized j res ((adjustEnv rg opts).attempt 0) []

/-- If some node passes every gate, the call succeeds. -/
def CompleteForOne : Prop :=
  (∃ j commit, (attemptAlone S inv rg opts res j).2 = .ok commit) →
    ∃ g, (adjust S inv rg opts).2 = .ok g

/-- A node that fails leaves the request as it was. -/
def FailureKeepsRequest : Prop :=
  ∀ j r, (attemptAlone S inv rg opts res j).2 = .error r →
    (attemptAlone S inv rg opts res j).1 = res

/-- Every node with the CPU, the interconnect and the GPUs of the request has the rest as well, or
the request is pinned to its device already. -/
def NoStrayPin : Prop :=
  ∀ nd ∈ inv.sanitized.nodes, DevicesFit S nd ((adjustEnv rg opts).attempt 0) res →
    Pinned S nd res ∨ RestFits S nd inv.sanitized.storage ((adjustEnv rg opts).attempt 0) res

theorem failureKeepsRequest_iff (hS : S.Lawful) :
    FailureKeepsRequest S inv rg opts res ↔ NoStrayPin S inv rg opts res := by
  constructor
  · intro hkeep nd hnd hfit
    obtain ⟨j, hj⟩ := List.mem_iff_getElem?.mp hnd
    obtain ⟨⟨nd', sp, gpu⟩, hdev⟩ := tryAdjustDevices_of_fit hS hj hfit
    obtain ⟨p⟩ := tryAdjustDevices_eq_ok hdev
    have hp : p.nd = nd := by
      have hnode := p.node_eq
      simp_all
    rw [← hp, ← tryAdjustRest_isOk_iff hS p, ← (p.fits hS).2]
    cases hrest : tryAdjustRest S inv.sanitized.storage { res with gpu := some gpu }
        ((adjustEnv rg opts).attempt 0) nd' sp with
    | ok out => exact .inr ⟨out, rfl⟩
    | error r =>
      -- the request as it is left has the stamp of this node
      have halone : attemptAlone S inv rg opts res j =
          ({ res with gpu := some gpu }, .error r) := by
        simp only [attemptAlone, tryAdjust, hdev, hrest]
      have hres := hkeep j r (by rw [halone])
      rw [halone] at hres
      exact .inl (congrArg Rtypes.Resources.gpu hres).symm
  · intro hpin j r hfail
    simp only [attemptAlone, tryAdjust] at hfail ⊢
    cases hdev : tryAdjustDevices S inv.sanitized j res ((adjustEnv rg opts).attempt 0) [] with
    | error r' => rfl
    | ok out =>
      obtain ⟨p⟩ := tryAdjustDevices_eq_ok hdev
      simp only [hdev] at hfail ⊢
      have hcase := hpin p.nd (List.mem_of_getElem? p.node_eq) (p.fits hS).1
      rw [← tryAdjustRest_isOk_iff hS p, ← (p.fits hS).2] at hcase
      rcases hcase with hgpu | ⟨out, hrest⟩
      · rw [← hgpu] at hfail ⊢
        split
        next => rfl
        next => rfl
      · simp only [hrest] at hfail
        cases hfail

variable {S inv rg opts res} in
theorem completeForOne_of_keeps (hrg : rg.resourceUnits = [⟨res, 1⟩])
    (hlabel : invalidGroup S rg.resourceUnits = none)
    (hkeep : FailureKeepsRequest S inv rg opts res) : CompleteForOne S inv rg opts res := by
  rintro ⟨k, commit, hk⟩
  have hklt : k < inv.sanitized.nodes.length := by
    obtain ⟨p⟩ := tryAdjust_eq_ok (Prod.ext rfl hk)
    exact (List.getElem?_eq_some_iff.mp p.devices.node_eq).1
  have henv : (adjustEnv rg opts).origResources = [⟨res, 1⟩] := hrg
  obtain ⟨st, hflow, hnil⟩ := nodeLoop_complete henv hk hkeep
    (List.range inv.sanitized.nodes.length) (List.mem_range.mpr hklt)
    fun j hj => List.mem_range.mp hj
  have hstart : adjustStart inv.sanitized rg = oneReplica inv.sanitized res := by
    simp [adjustStart, oneReplica, hrg]
  have hlabel' : nodesLabel S (adjustEnv rg opts) rg.resourceUnits.length
      (adjustStart inv.sanitized rg) = (none, st) := by
    grind [List.length_singleton, nodesLabel, oneReplica]
  simp_all [adjust]

/-- One replica is placed whenever a node passes, and failed attempts leave no trace, exactly when
no node pins the request and then refuses it. -/
theorem adjust_complete_iff (hS : S.Lawful) (hrg : rg.resourceUnits = [⟨res, 1⟩])
    (hlabel : invalidGroup S rg.resourceUnits = none) :
    CompleteForOne S inv rg opts res ∧ FailureKeepsRequest S inv rg opts res ↔
      NoStrayPin S inv rg opts res := by
  rw [← failureKeepsRequest_iff S inv rg opts res hS]
  exact ⟨fun h => h.2, fun h => ⟨completeForOne_of_keeps hrg hlabel h, h⟩⟩

end Completeness

/-- A node with an A100 and little memory, and a node with a T4 and enough. -/
def a100ThenT4 : Inventory :=
  newInventory ⟨[freeNode "a100" 1000 8 1 [⟨"nvidia", "a100", "pcie", "80Gi"⟩],
    freeNode "t4" 1000 64 1 [⟨"nvidia", "t4", "pcie", "16Gi"⟩]], []⟩

/-- One replica with one GPU, given by one attribute, and 32 bytes of memory. -/
def oneGPU (key : String) : Rtypes.Resources := plainRequest 100 32 ⟨1, [⟨key, "true"⟩]⟩

/-- A request for the T4 by name is placed. -/
theorem adjust_complete_pinned :
    let res := oneGPU "vendor/nvidia/model/t4"
    CompleteForOne .reference a100ThenT4 (plainGroup res 1) plainOptions res ∧
      FailureKeepsRequest .reference a100ThenT4 (plainGroup res 1) plainOptions res := by
  intro res
  refine (adjust_complete_iff .reference a100ThenT4 (plainGroup res 1) plainOptions res
    Sdk.reference_lawful rfl rfl).mpr ?_
  intro nd hnd hfit
  rcases List.mem_cons.mp hnd with hnd | hnd
  · subst hnd
    obtain ⟨g, hg, hunits | ⟨-, hstamp, -⟩⟩ := hfit.gpu
    · cases hg
      cases hunits
    · cases hg
      cases hstamp
  · rw [List.map_singleton, List.mem_singleton] at hnd
    subst hnd
    exact .inl ⟨_, rfl, .inr rfl⟩

/-- Any NVIDIA GPU will do, and the T4 node passes, but the A100 node has pinned the request
to an A100 by then. -/
theorem adjust_incomplete_wildcard :
    let res := oneGPU "vendor/nvidia/model/*"
    (plainGroup res 1).resourceUnits = [⟨res, 1⟩] ∧
      invalidGroup .reference (plainGroup res 1).resourceUnits = none ∧
      (∃ commit, (attemptAlone .reference a100ThenT4 (plainGroup res 1) plainOptions res 1).2 =
        .ok commit) ∧
      (adjust .reference a100ThenT4 (plainGroup res 1) plainOptions).2 =
        .error .insufficientCapacity ∧
      ¬ (CompleteForOne .reference a100ThenT4 (plainGroup res 1) plainOptions res ∧
        FailureKeepsRequest .reference a100ThenT4 (plainGroup res 1) plainOptions res) := by
  intro res
  have hpass : ∃ commit,
      (attemptAlone .reference a100ThenT4 (plainGroup res 1) plainOptions res 1).2 = .ok commit :=
    ⟨_, rfl⟩
  have hfail : (adjust .reference a100ThenT4 (plainGroup res 1) plainOptions).2 =
      .error .insufficientCapacity := rfl
  refine ⟨rfl, rfl, hpass, hfail, ?_⟩
  rintro ⟨hcomplete, -⟩
  obtain ⟨g, hg⟩ := hcomplete ⟨1, hpass⟩
  cases hg

end AkashProvider
