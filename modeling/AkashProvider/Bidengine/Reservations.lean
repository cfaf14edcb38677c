import AkashProvider.Bidengine.Progress

/-!
# Reservations of the order monitor

A reservation granted to a monitor without a lease is given back, once
(`reservations_given_back`).  A monitor that catches up may see the lease before it has fetched
the group, and wins without a reservation (`lease_won_unbacked`); `lease_won_backed` says that
this is the only way.
-/

namespace AkashProvider

namespace OrderMonitor

variable {cfg : OrderConfig} {o : OrderMonitor}

/-! ## Giving back -/

/-- When the monitor returns without a lease, `Unreserve` was called as often as reservations were
granted, and none is in flight.  With a lease it is never called. -/
theorem reservations_given_back {checkForExistingBid : Bool}
    (hrun : Runs (step cfg) (fun _ _ => True) (start checkForExistingBid) o) :
    (o.stage = .returned → o.won = false →
      o.clusterch = none ∧ o.granted ≤ 1 ∧ o.unreserved = List.replicate o.granted cfg.orderID) ∧
    (o.won = true → o.unreserved = []) := by
  have h := inv_of_runs hrun
  grind [Inv.unreserved_eq_nil]

/-- The order is closed while the reservation is in flight; it is granted all the same. -/
theorem reservations_given_back_in_flight :
    ∃ o, [OrderEvent.group (.ok plainChainGroup), .shouldBid (.ok true),
        .orderClosed ⟨"owner", 42, 1, 1⟩, .reserve (.ok []), .cleanup, .return].foldlM
          (step plainOrder) (start false) = some o ∧
      o.granted = 1 ∧ o.unreserved = [⟨"owner", 42, 1, 1⟩] := by
  have hrun : [OrderEvent.group (.ok plainChainGroup), .shouldBid (.ok true),
      .orderClosed ⟨"owner", 42, 1, 1⟩, .reserve (.ok []), .cleanup, .return].foldlM
        (step plainOrder) (start false) = some _ := rfl
  obtain ⟨-, -, hback⟩ := (reservations_given_back (Runs.of_foldlM _ _ _ hrun)).1 rfl rfl
  exact ⟨_, hrun, rfl, hback⟩

/-! ## Winning -/

/-- The event is a lease of the group for this provider. -/
def OwnLease (cfg : OrderConfig) (id : LeaseID) : Prop :=
  id.groupID = cfg.orderID.groupID ∧ id.provider = cfg.providerAddress

/-- The lease comes after a reservation was asked for, and one that is in flight then is
granted. -/
def AskedBeforeLease (cfg : OrderConfig) (o : OrderMonitor) : OrderEvent → Prop
  | .leaseCreated id _ => OwnLease cfg id → o.clusterch.isSome ∨ o.reservation.isSome
  | .reserve (.error _) => o.won = false
  | _ => True

/-- What has been published is backed. -/
@[grind cases]
structure Backed (o : OrderMonitor) : Prop where
  won : o.leaseWon ≠ [] → o.won = true
  group : ∀ w ∈ o.leaseWon, w.group.isSome
  reserved : o.leaseWon ≠ [] → o.granted = 1 ∨ o.clusterch.isSome

theorem Backed.of_nil (h : o.leaseWon = []) : Backed o where
  won := fun hne => absurd h hne
  group := fun w hw => by
    rw [h] at hw
    cases hw
  reserved := fun hne => absurd h hne

theorem handleLeaseCreated_backed (h : o.Inv cfg) (hloop : o.stage = .loop) {id : LeaseID}
    {price : DecCoin} (hok : AskedBeforeLease cfg o (.leaseCreated id price)) :
    Backed (o.handleLeaseCreated cfg id price) := by
  obtain ⟨-, hnil⟩ := h.not_won hloop
  -- a reservation that was asked for was asked for with the group
  have hgroup : o.clusterch.isSome ∨ o.reservation.isSome → o.group.isSome := by
    cases hres : o.reservation <;> cases hgroup : o.group <;> grind
  have hheld : o.reservation.isSome → o.granted = 1 := by
    cases hres : o.reservation <;> grind
  constructor <;> grind [AskedBeforeLease, OwnLease]

variable {e : OrderEvent} {o' : OrderMonitor}

/-- The lease is there, so a result of `Reserve` is the one that was in flight at the win. -/
theorem waitStep_backed (h : o.Inv cfg) (hok : AskedBeforeLease cfg o e)
    (hstep : o.waitStep e = some o') (hbacked : Backed o) :
    Backed o' := by
  cases e with
  | reserve result =>
    cases result <;> constructor <;>
      grind [Backed, Ending, waitStep, AskedBeforeLease]
  | group _ | bid _ | price _ | «return» =>
    constructor <;> grind [Backed, Ending, waitStep]
  | _ => cases hstep

theorem cleanupStep_backed (hstep : o.cleanupStep cfg e = some o') (hbacked : Backed o) :
    Backed o' := by
  cases e with
  | reserve result =>
    cases result <;> constructor <;> grind [Backed, Ending, cleanupStep]
  | cleanup => constructor <;> grind [Backed, Ending, cleanupStep]
  | _ => cases hstep

theorem step_backed (h : o.Inv cfg) (hok : AskedBeforeLease cfg o e)
    (hstep : o.step cfg e = some o') (hbacked : Backed o) :
    Backed o' := by
  simp only [step] at hstep
  split at hstep
  · next hloop =>
    obtain ⟨-, hnil⟩ := h.not_won hloop
    rcases loopStep_sends hstep with hquiet | ⟨id, price, rfl, rfl⟩ | ⟨result, rfl, -, rfl⟩
    · exact Backed.of_nil (hquiet.leaseWon.trans hnil)
    · exact handleLeaseCreated_backed h hloop hok
    · exact Backed.of_nil ((handlePrice_leaseWon o result).trans hnil)
  · exact cleanupStep_backed hstep hbacked
  · exact waitStep_backed h hok hstep hbacked
  · cases hstep
  · cases hstep

/-- As long as the lease comes after a reservation was asked for, what is published has a group and
a reservation that is granted, or will be, and kept. -/
theorem lease_won_backed {checkForExistingBid : Bool}
    (hrun : Runs (step cfg) (AskedBeforeLease cfg) (start checkForExistingBid) o) :
    (∀ w ∈ o.leaseWon, w.group.isSome) ∧
    (o.leaseWon ≠ [] → (o.granted = 1 ∨ o.clusterch.isSome) ∧
      (o.stage = .returned → o.granted = 1) ∧ o.unreserved = []) := by
  have hinv := inv_of_runs hrun
  obtain ⟨-, hbacked⟩ := hrun.invariant (I := fun o => o.Inv cfg ∧ Backed o)
    (fun _ _ _ hok hstep h => ⟨h.1.step hstep, step_backed h.1 hok hstep h.2⟩)
    ⟨Inv.start cfg checkForExistingBid, Backed.of_nil rfl⟩
  grind [Inv.unreserved_eq_nil]

/-- The lease comes while the reservation is in flight. -/
def leasedEarly : OrderMonitor :=
  after plainOrder (start false) [.group (.ok plainChainGroup), .shouldBid (.ok true)]

theorem lease_won_backed_in_flight :
    let o := after plainOrder leasedEarly
      [.leaseCreated ⟨"owner", 42, 1, 1, "provider"⟩ ⟨"uakt", 50⟩, .cleanup, .reserve (.ok []),
        .return]
    o.stage = .returned ∧ o.leaseWon = [⟨⟨"owner", 42, 1, 1, "provider"⟩, some plainChainGroup,
      ⟨"uakt", 50⟩⟩] ∧ o.granted = 1 ∧ o.unreserved = [] := by
  have hstart : Runs (step plainOrder) (AskedBeforeLease plainOrder) _ (start false) := Runs.refl _
  have hgroup : Runs _ _ _ (after plainOrder (start false) [.group (.ok plainChainGroup)]) :=
    hstart.next (.group (.ok plainChainGroup)) trivial rfl
  have hasked : Runs _ _ _ leasedEarly := hgroup.next (.shouldBid (.ok true)) trivial rfl
  have hwon := hasked.next (.leaseCreated ⟨"owner", 42, 1, 1, "provider"⟩ ⟨"uakt", 50⟩)
    (fun _ => .inl rfl) rfl
  have hcleanup := hwon.next .cleanup trivial rfl
  have hgrant := hcleanup.next (.reserve (.ok [])) trivial rfl
  have hrun := hgrant.next .return trivial rfl
  obtain ⟨-, hreserved⟩ := lease_won_backed hrun
  obtain ⟨-, hgranted, hkept⟩ := hreserved (List.cons_ne_nil _ _)
  exact ⟨rfl, rfl, hgranted rfl, hkept⟩

/-- A monitor that catches up sees its lease before it has the group. -/
theorem lease_won_unbacked :
    ∃ o, [OrderEvent.leaseCreated ⟨"owner", 42, 1, 1, "provider"⟩ ⟨"uakt", 50⟩, .cleanup,
        .return].foldlM (step plainOrder) (start true) = some o ∧
      o.stage = .returned ∧
      o.leaseWon = [⟨⟨"owner", 42, 1, 1, "provider"⟩, none, ⟨"uakt", 50⟩⟩] ∧
      o.granted = 0 ∧ o.clusterch = none :=
  ⟨_, rfl, rfl, rfl, rfl, rfl⟩

end OrderMonitor

end AkashProvider
