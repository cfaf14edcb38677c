import AkashProvider.Inventory.Placement
import AkashProvider.Service.Machine

/-!
# The terms of a granted reservation

The terms of a reservation are the adjusted units and cluster parameters.  An inventory that is
taken into use is adjusted for every pending reservation again, and the terms are replaced.  A
reservation that is allocated at every such update keeps them.
-/

namespace AkashProvider

variable {cfg : ServiceConfig}

/-- `GetAllocatedResources` and `ClusterParams`. -/
def Reservation.terms (r : Reservation) : ResourceUnits × ClusterParams :=
  (r.adjustedResources, r.clusterParams)

/-- The reservation at a pointer, if it is there, is allocated whenever an inventory is taken
into use. -/
def AllocatedAtUpdates (ref : Nat) (s : ServiceState) : ServiceEvent → Prop
  | .applyInventory => ∀ r ∈ s.reservations, r.ref = ref → r.allocated = true
  | _ => True

def RefsFresh (s : ServiceState) : Prop := ∀ r ∈ s.reservations, r.ref < s.nextRef

/-- The reservation at a pointer, if it is there, has these terms. -/
def HasTerms (ref : Nat) (terms : ResourceUnits × ClusterParams) (s : ServiceState) : Prop :=
  ∀ r ∈ s.reservations, r.ref = ref → r.terms = terms

/-! ## One step -/

variable {e : ServiceEvent} {s s' : ServiceState}

/-- A reservation after a step was there before, with the same terms unless it was pending and
an inventory was taken into use, or it was just granted. -/
theorem ServiceMove.reservations (h : ServiceMove cfg s e s') {r' : Reservation}
    (hr' : r' ∈ s'.reservations) :
    (∃ r ∈ s.reservations, r.Kept r' ∧
      (r'.terms = r.terms ∨ e = .applyInventory ∧ r.allocated = false)) ∨
    (r'.ref = s.nextRef ∧ s'.nextRef = s.nextRef + 1) := by
  have hsame : r' ∈ s.reservations → ∃ r ∈ s.reservations, r.Kept r' ∧
      (r'.terms = r.terms ∨ e = .applyInventory ∧ r.allocated = false) :=
    fun hr => ⟨r', hr, .refl r', .inl rfl⟩
  cases h with
  | deployment lease group status ports invupch back =>
    rw [updateIPs_reservations] at hr'
    have hset := setFirst_forall₂ (R := fun r r' => r.Kept r' ∧ r'.terms = r.terms)
      (fun r => ⟨.refl r, rfl⟩) (p := isOf lease group) (f := setAllocated status)
      (fun r _ => ⟨⟨rfl, rfl, rfl, rfl, rfl⟩, rfl⟩) s.reservations
    obtain ⟨r, hr, hkept, hterms⟩ := hset.exists_of_mem hr'
    exact .inl ⟨r, hr, hkept, .inl hterms⟩
  | tick => simp_all
  | refuse => exact .inl (hsame hr')
  | grant order rg inv inv' r enabled ips before ok =>
    rcases List.mem_append.mp hr' with hr' | hr'
    · exact .inl (hsame hr')
    · rw [List.mem_singleton] at hr'
      subst hr'
      exact .inr ⟨(Reservation.adjust_kept ok).ref_eq, rfl⟩
  | unreserve order ports => exact .inl (hsame (List.mem_of_mem_eraseP hr'))
  | ignore => exact .inl (hsame hr')
  | store => exact .inl (hsame hr')
  | apply inv stored =>
    simp only [applyInventory, updateIPs_reservations] at hr'
    obtain ⟨r, hr, hre⟩ := (readjust_forall₂ cfg s.reservations inv).exists_of_mem hr'
    grind
  | check items res running =>
    cases res with
    | none => exact .inl (hsame hr')
    | some res =>
      obtain ⟨r, hr, hc⟩ :=
        (confirmIPs_forall₂ res.confirmedResult s.reservations).exists_of_mem hr'
      exact .inl ⟨r, hr, hc.kept, .inl (by rw [hc.eq_with]; rfl)⟩

theorem ServiceMove.nextRef_le (h : ServiceMove cfg s e s') : s.nextRef ≤ s'.nextRef := by
  cases h with
  | deployment => rw [updateIPs_nextRef]
  | tick => rw [updateIPs_nextRef]
  | refuse => exact Nat.le_refl _
  | grant => exact Nat.le_succ _
  | unreserve => exact Nat.le_refl _
  | ignore => exact Nat.le_refl _
  | store => exact Nat.le_refl _
  | apply => simp only [applyInventory, updateIPs_nextRef, Nat.le_refl]
  | check items res running =>
    cases res with
    | none => exact Nat.le_refl _
    | some res => exact Nat.le_refl _

theorem serviceStep_refsFresh (hstep : serviceStep cfg s e = some s') (h : RefsFresh s) :
    RefsFresh s' := by
  have hmove := serviceStep_move hstep
  intro r' hr'
  rcases hmove.reservations hr' with ⟨r, hr, hkept, -⟩ | ⟨href, hnext⟩
  · rw [hkept.ref_eq]
    exact Nat.lt_of_lt_of_le (h r hr) hmove.nextRef_le
  · rw [href, hnext]
    exact Nat.lt_succ_self _

theorem serviceStep_hasTerms {ref : Nat} {terms : ResourceUnits × ClusterParams}
    (hok : AllocatedAtUpdates ref s e) (hstep : serviceStep cfg s e = some s')
    (href : ref < s.nextRef) (h : HasTerms ref terms s) : HasTerms ref terms s' := by
  intro r' hr' hr'ref
  rcases (serviceStep_move hstep).reservations hr' with ⟨r, hr, hkept, hterms⟩ | ⟨hnew, -⟩
  · have hrref : r.ref = ref := by rw [← hkept.ref_eq, hr'ref]
    rcases hterms with hterms | ⟨he, hpending⟩
    · rw [hterms, h r hr hrref]
    · subst he
      rw [hok r hr hrref] at hpending
      cases hpending
  · -- a reservation that was just granted has a newer pointer
    omega

/-! ## Runs -/

theorem startState_refsFresh (cfg : ServiceConfig) (rs : List Reservation) :
    RefsFresh (startState cfg rs) := by
  intro r hr
  obtain ⟨i, hi, rfl⟩ := List.mem_mapIdx.mp hr
  exact hi

/-- A granted reservation keeps its terms until it is unreserved, in every run in which it is
allocated whenever an inventory is taken into use. -/
theorem granted_terms_kept {reservations : List Reservation} {s s' s'' : ServiceState}
    {order : OrderID} {rg : ResourceGroup} {r : Reservation}
    (hbefore : Runs (serviceStep cfg) (fun _ _ => True) (startState cfg reservations) s)
    (hgrant : handleRequest cfg s order rg = (s', .ok r))
    (hafter : Runs (serviceStep cfg) (AllocatedAtUpdates r.ref) s' s'') :
    HasTerms r.ref r.terms s'' := by
  have hfresh : RefsFresh s := by
    refine hbefore.invariant (fun s e s' _ hstep h => serviceStep_refsFresh hstep h) ?_
    exact startState_refsFresh cfg reservations
  obtain ⟨inv, inv', -, -, hadj, hs'⟩ := handleRequest_eq_ok hgrant
  have href : r.ref = s.nextRef := (Reservation.adjust_kept hadj).ref_eq
  have hstart : r.ref < s'.nextRef ∧ HasTerms r.ref r.terms s' := by
    subst hs'
    refine ⟨by rw [href]; exact Nat.lt_succ_self _, ?_⟩
    intro r₁ hr₁ hr₁ref
    rcases List.mem_append.mp hr₁ with hr₁ | hr₁
    · -- the pointer is new, so no older reservation has it
      have hlt := hfresh r₁ hr₁
      omega
    · rw [List.mem_singleton.mp hr₁]
  have hend := hafter.invariant (I := fun s => r.ref < s.nextRef ∧ HasTerms r.ref r.terms s)
    (fun s e s' hok hstep h => ⟨Nat.lt_of_lt_of_le h.1 (serviceStep_move hstep).nextRef_le,
      serviceStep_hasTerms hok hstep h.1 h.2⟩) hstart
  exact hend.2

def anyNvidia : ResourceGroup :=
  plainGroup (plainRequest 100 16 ⟨1, [⟨"vendor/nvidia/model/*", "true"⟩]⟩) 1

def inventoryA100 : Inventory :=
  newInventory ⟨[freeNode "a" 1000 64 1 [⟨"nvidia", "a100", "pcie", "80Gi"⟩]], []⟩

def inventoryT4 : Inventory :=
  newInventory ⟨[freeNode "b" 1000 64 1 [⟨"nvidia", "t4", "pcie", "16Gi"⟩]], []⟩

def servingA100 : ServiceState :=
  applyInventory (plainConfig false)
    { startState (plainConfig false) [] with invupch := some inventoryA100 } inventoryA100

theorem runs_servingA100 : Runs (serviceStep (plainConfig false)) (fun _ _ => True)
    (startState (plainConfig false) []) servingA100 :=
  Runs.of_foldlM [.inventoryUpdate (some inventoryA100), .applyInventory] _ _ rfl

/-- Once deployed, the reservation keeps the A100 through an update that has a T4 only. -/
theorem granted_terms_kept_deployed :
    ∃ s' r s'', handleRequest (plainConfig false) servingA100 (orderNo 1) anyNvidia = (s', .ok r) ∧
      s''.reservations.length = 1 ∧ s''.currinv = some inventoryT4 ∧
      HasTerms r.ref r.terms s'' := by
  have hgrant : handleRequest (plainConfig false) servingA100 (orderNo 1) anyNvidia =
    (_, .ok _) := rfl
  have hstart : Runs (serviceStep (plainConfig false)) (AllocatedAtUpdates 0)
    (handleRequest (plainConfig false) servingA100 (orderNo 1) anyNvidia).1 _ := Runs.refl _
  have hdeployed := hstart.next (.clusterDeployment (leaseNo 1) "group" .deployed) trivial rfl
  have hstored := hdeployed.next (.inventoryUpdate (some inventoryT4)) trivial rfl
  have hrun := hstored.next .applyInventory (by unfold AllocatedAtUpdates; decide) rfl
  exact ⟨_, _, _, hgrant, rfl, rfl, granted_terms_kept runs_servingA100 hgrant hrun⟩

/-- A pending reservation that was granted an A100 has a T4 after the next update. -/
theorem granted_terms_replaced :
    Runs (serviceStep (plainConfig false)) (fun _ _ => True) (startState (plainConfig false) [])
      servingA100 ∧
    ∃ s' r s'' r', handleRequest (plainConfig false) servingA100 (orderNo 1) anyNvidia =
        (s', .ok r) ∧
      Runs (serviceStep (plainConfig false)) (fun _ _ => True) s' s'' ∧
      r' ∈ s''.reservations ∧ r'.ref = r.ref ∧
      (r.adjustedResources.map fun u => (u.resources.gpu.map (·.attributes)).getD []) =
        [[⟨"vendor/nvidia/model/a100", "true"⟩]] ∧
      (r'.adjustedResources.map fun u => (u.resources.gpu.map (·.attributes)).getD []) =
        [[⟨"vendor/nvidia/model/t4", "true"⟩]] ∧
      ¬ HasTerms r.ref r.terms s'' := by
  have hgrant : handleRequest (plainConfig false) servingA100 (orderNo 1) anyNvidia =
    (_, .ok _) := rfl
  have hrun : Runs (serviceStep (plainConfig false)) (fun _ _ => True)
      (handleRequest (plainConfig false) servingA100 (orderNo 1) anyNvidia).1 _ :=
    Runs.of_foldlM [.inventoryUpdate (some inventoryT4), .applyInventory] _ _ rfl
  refine ⟨runs_servingA100, _, _, _, _, hgrant, hrun, List.mem_cons_self, rfl, rfl, rfl, ?_⟩
  intro hterms
  exact absurd (hterms _ List.mem_cons_self rfl) (by decide)

end AkashProvider
