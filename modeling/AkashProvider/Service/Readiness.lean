import AkashProvider.Inventory.Placement
import AkashProvider.Service.Machine

/-!
# Reservations wait for an inventory

`reservech` should be set only when there is an inventory.  The result of an IP check sets it
without looking, and a check starts with any deployment event.  So the invariant holds along the
runs in which no check ends before the first inventory is in use.
-/

namespace AkashProvider

variable {cfg : ServiceConfig}

/-- Requests are taken only with an inventory. -/
def Ready (s : ServiceState) : Prop := s.reservech = true → s.inventory.isSome = true

/-- The result of an IP check comes when there is an inventory. -/
def CheckAfterInventory (s : ServiceState) : ServiceEvent → Prop
  | .checkResult _ => s.inventory.isSome = true
  | _ => True

theorem Ready.updateIPs {s : ServiceState} (h : Ready s) : Ready (updateIPs cfg s) := by
  grind [updateIPs_cases, updateIPs_inventory, Ready, updateIPs]

theorem serviceStep_ready {s s' : ServiceState} {e : ServiceEvent}
    (hok : CheckAfterInventory s e) (hstep : serviceStep cfg s e = some s') (h : Ready s) :
    Ready s' := by
  cases serviceStep_move hstep with
  | deployment lease group status ports invupch back => exact Ready.updateIPs h
  | tick => exact Ready.updateIPs h
  | refuse => exact h
  | grant => exact fun _ => rfl
  | unreserve => exact h
  | ignore => exact h
  | store => exact h
  | apply => exact fun _ => rfl
  | check items res running =>
    -- requests are taken again after a failed check too
    cases res with
    | none => exact fun _ => hok
    | some res => exact fun _ => hok

/-- In every run in which no IP check ends before the first inventory is in use, requests are
taken only with an inventory, and none meets a nil one. -/
theorem reservech_waits_for_inventory (reservations : List Reservation) {s : ServiceState}
    (hrun : Runs (serviceStep cfg) CheckAfterInventory (startState cfg reservations) s) :
    Ready s ∧ ∀ order rg, s.reservech = true →
      (handleRequest cfg s order rg).2 ≠ .error .nilInventory := by
  have hready : Ready s := by
    refine hrun.invariant (fun s e s' hok hstep h => serviceStep_ready hok hstep h) ?_
    intro hres
    cases hres
  refine ⟨hready, ?_⟩
  intro order rg hres
  obtain ⟨inv, hinv⟩ := Option.isSome_iff_exists.mp (hready hres)
  simp only [handleRequest, hinv]
  split
  next err herr =>
    simp only [checkIPs] at herr
    grind
  grind

/-- With an IP client, the first inventory and then a check: requests are taken. -/
theorem reservech_waits_for_inventory_first_check :
    ∃ s, Runs (serviceStep (plainConfig true)) CheckAfterInventory
        (startState (plainConfig true) []) s ∧ s.reservech = true ∧ Ready s := by
  let inv := newInventory ⟨[freeNode "node" 1000 64 0 []], []⟩
  have hstart : Runs (serviceStep (plainConfig true)) CheckAfterInventory
    (startState (plainConfig true) []) _ := Runs.refl _
  have hstored := hstart.next (.inventoryUpdate (some inv)) trivial rfl
  have happlied := hstored.next .applyInventory trivial rfl
  have hrun := happlied.next (.checkResult (some ⟨⟨4, 0⟩, []⟩)) rfl rfl
  exact ⟨_, hrun, rfl, (reservech_waits_for_inventory [] hrun).1⟩

/-- With an IP client, a deployment event sets off a check, and its result lets requests in
before there is an inventory. -/
theorem reservech_before_inventory :
    ∃ s, Runs (serviceStep (plainConfig true)) (fun _ _ => True)
        (startState (plainConfig true) []) s ∧
      s.reservech = true ∧ s.inventory = none ∧ ¬ Ready s ∧
      (handleRequest (plainConfig true) s (orderNo 1)
        (plainGroup (plainRequest 100 16 ⟨0, []⟩) 1)).2 = .error .nilInventory := by
  refine ⟨_, Runs.of_foldlM [.clusterDeployment (leaseNo 1) "group" .pending,
    .checkResult (some ⟨⟨4, 0⟩, []⟩)] _ _ rfl, rfl, rfl, ?_, rfl⟩
  intro hready
  cases hready rfl

end AkashProvider
