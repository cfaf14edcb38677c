import AkashProvider.Bidengine.StaleBids

/-!
# Bids that are closed by others

When its bid is closed by others, the monitor should end without a transaction of its own.  It
compares the address in the bid with the text of its whole provider record, takes no closed bid
for its own, and closes the bid once more (`own_bid_closed_again`, `own_bid_closed_iff`).
-/

namespace AkashProvider

namespace OrderMonitor

variable {cfg : OrderConfig} {o o' : OrderMonitor}

/-! ## From the clean-up to the return -/

/-- The monitor has left the loop without a lease, and thinks that it has no bid. -/
@[grind cases]
structure Withdrawn (o : OrderMonitor) : Prop where
  stage : o.stage = .cleanup ∨ o.stage = .waiting ∨ o.stage = .returned
  won : o.won = false
  bidPlaced : o.bidPlaced = false
  closed : o.closed = []

theorem cleanupStep_withdrawn {e : OrderEvent} (hstage : o.stage = .cleanup) (h : Withdrawn o)
    (hstep : o.cleanupStep cfg e = some o') : Withdrawn o' := by
  cases e with
  | reserve result =>
    cases result <;> constructor <;> grind [cleanupStep, Withdrawn]
  | cleanup => constructor <;> grind [cleanupStep, Withdrawn]
  | _ => cases hstep

theorem Withdrawn.step {e : OrderEvent} (h : Withdrawn o) (hstep : o.step cfg e = some o') :
    Withdrawn o' := by
  rcases h.stage with hstage | hstage | hstage
  · rw [step_of_cleanup hstage] at hstep
    exact cleanupStep_withdrawn hstage h hstep
  · simp only [OrderMonitor.step, hstage] at hstep
    have hending := waitStep_ending hstep
    obtain ⟨hlate, hclosed⟩ := waitStep_closed hstage hstep
    exact ⟨.inr hlate, hending.won.trans h.won, hending.bidPlaced.trans h.bidPlaced,
      hclosed.trans h.closed⟩
  · simp only [OrderMonitor.step, hstage] at hstep
    cases hstep

theorem exists_returned_of_waiting (hstage : o.stage = .waiting) (hcluster : o.clusterch = none) :
    ∃ o', Runs (step cfg) (fun _ _ => True) o o' ∧ o'.stage = .returned := by
  -- a call that is in flight returns, and one that is not has its channel nil already
  have hgroup : Runs (OrderMonitor.step cfg) (fun _ _ => True) o { o with groupch := false } := by
    cases hch : o.groupch with
    | false => exact hch ▸ Runs.refl o
    | true =>
      exact (Runs.refl o).next (.group (.error "")) trivial
        (by simp [step, hstage, waitStep, hch])
  have hbid : Runs (OrderMonitor.step cfg) (fun _ _ => True) o
      { o with groupch := false, bidch := none } := by
    cases hch : o.bidch with
    | none => exact hch ▸ hgroup
    | some msg =>
      exact hgroup.next (.bid (.error "")) trivial (by simp [step, hstage, waitStep, hch])
  have hprice : Runs (OrderMonitor.step cfg) (fun _ _ => True) o
      { o with groupch := false, bidch := none, pricech := none } := by
    cases hch : o.pricech with
    | none => exact hch ▸ hbid
    | some req =>
      exact hbid.next (.price (.error "")) trivial (by simp [step, hstage, waitStep, hch])
  exact ⟨_, hprice.next .return trivial (by simp [step, hstage, waitStep, hcluster]; rfl), rfl⟩

theorem exists_returned_of_cleanup (hstage : o.stage = .cleanup) (hwon : o.won = false) :
    ∃ o', Runs (step cfg) (fun _ _ => True) o o' ∧ o'.stage = .returned := by
  have hreserve : Runs (step cfg) (fun _ _ => True) o { o with clusterch := none } := by
    cases hch : o.clusterch with
    | none => exact hch ▸ Runs.refl o
    | some group =>
      exact (Runs.refl o).next (.reserve (.error "")) trivial
        (by simp [step, hstage, cleanupStep, hwon, hch])
  have hcleanup := hreserve.next .cleanup trivial
    (show step cfg { o with clusterch := none } .cleanup = some _ by
      simp [step, hstage, cleanupStep]; rfl)
  have hwaiting : (cleanUp cfg { o with clusterch := none }).stage = .waiting := by
    simp [cleanUp, hwon]
  obtain ⟨o', hreturn, hreturned⟩ := exists_returned_of_waiting hwaiting (by simp [cleanUp, hwon])
  exact ⟨o', hcleanup.trans hreturn, hreturned⟩

/-! ## The event -/

/-- The monitor leaves the loop.  From here on it broadcasts no `MsgCloseBid`, and after the
clean-up it has given back what it was granted. -/
@[grind cases]
structure EndsQuietly (cfg : OrderConfig) (o : OrderMonitor) : Prop where
  left : o.stage ≠ .loop
  returns : ∃ o', Runs (step cfg) (fun _ _ => True) o o' ∧ o'.stage = .returned
  closed : ∀ o', Runs (step cfg) (fun _ _ => True) o o' → o'.closed = []
  unreserved : ∀ o', Runs (step cfg) (fun _ _ => True) o o' →
    o'.stage = .waiting ∨ o'.stage = .returned →
      o'.clusterch = none ∧ o'.unreserved = List.replicate o'.granted cfg.orderID

theorem endsQuietly_of_withdrawn (hinv : o.Inv cfg) (h : Withdrawn o)
    (hstage : o.stage = .cleanup) : EndsQuietly cfg o := by
  have hafter : ∀ o', Runs (step cfg) (fun _ _ => True) o o' → o'.Inv cfg ∧ Withdrawn o' :=
    fun o' hrun => hrun.invariant (I := fun o => o.Inv cfg ∧ Withdrawn o)
      (fun _ _ _ _ hstep h => ⟨h.1.step hstep, h.2.step hstep⟩) ⟨hinv, h⟩
  refine ⟨fun hloop => ?_, exists_returned_of_cleanup hstage h.won, fun o' hrun => ?_,
    fun o' hrun hlate => ?_⟩
  all_goals grind

theorem step_bidClosed (hinv : o.Inv cfg) (hloop : o.stage = .loop) (id : BidID) :
    ∃ o', o.step cfg (.bidClosed id) = some o' ∧
      (o'.stage = .cleanup ∧ Withdrawn o' ∧
          id.groupID = cfg.orderID.groupID ∧ id.provider = cfg.providerString ∨
        o'.stage = .loop ∧
          ¬ (id.groupID = cfg.orderID.groupID ∧ id.provider = cfg.providerString)) := by
  refine ⟨_, step_of_loop hloop _, ?_⟩
  have hwon : o.won = false := (hinv.not_won hloop).1
  have hclosed : o.closed = [] := (hinv.early (.inl hloop)).2.1
  grind [Withdrawn]

/-- In the loop, the closing of the own bid ends the monitor quietly exactly if the text of the
provider record is the address.  The closing of a bid ends the loop exactly if it is of the group,
and the text is the provider that it names. -/
theorem own_bid_closed_iff {checkForExistingBid : Bool}
    (hrun : Runs (step cfg) (fun _ _ => True) (start checkForExistingBid) o)
    (hloop : o.stage = .loop) :
    (∃ o', o.step cfg (.bidClosed cfg.bidID) = some o' ∧
      (EndsQuietly cfg o' ↔ cfg.providerString = cfg.providerAddress)) ∧
    ∀ id : BidID, ∃ o', o.step cfg (.bidClosed id) = some o' ∧
      (o'.stage ≠ .loop ↔ id.groupID = cfg.orderID.groupID ∧ id.provider = cfg.providerString) := by
  have hinv := inv_of_runs hrun
  constructor
  · obtain ⟨o', hstep, ⟨hstage, hwithdrawn, -, hprovider⟩ | ⟨hstay, hother⟩⟩ :=
      step_bidClosed hinv hloop cfg.bidID
    · exact ⟨o', hstep, iff_of_true
        (endsQuietly_of_withdrawn (hinv.step hstep) hwithdrawn hstage) hprovider.symm⟩
    · exact ⟨o', hstep, iff_of_false (fun hquiet => hquiet.left hstay)
        fun htext => hother ⟨rfl, htext.symm⟩⟩
  · intro id
    obtain ⟨o', hstep, ⟨hstage, -, hown⟩ | ⟨hstay, hother⟩⟩ := step_bidClosed hinv hloop id
    all_goals grind

/-- A monitor whose provider record reads as the address. -/
def addressedOrder : OrderConfig := { plainOrder with providerString := "provider" }

def bidOnce (cfg : OrderConfig) : Option OrderMonitor :=
  [OrderEvent.group (.ok plainChainGroup), .shouldBid (.ok true), .reserve (.ok []),
    .price (.ok ⟨"uakt", 80⟩), .bid (.ok ())].foldlM (step cfg) (start false)

/-- The bid is closed by hand.  The monitor gives its reservation back and is quiet. -/
theorem own_bid_closed_quietly :
    ∃ o, bidOnce addressedOrder = some o ∧ o.bidPlaced = true ∧
      ∃ o', o.step addressedOrder (.bidClosed addressedOrder.bidID) = some o' ∧
        EndsQuietly addressedOrder o' := by
  have hbid : bidOnce addressedOrder = some _ := rfl
  obtain ⟨⟨o', hstep, hquiet⟩, -⟩ := own_bid_closed_iff (Runs.of_foldlM _ _ _ hbid) rfl
  exact ⟨_, hbid, rfl, o', hstep, hquiet.mpr rfl⟩

/-- The bid is closed by hand, and the event is not taken for the own one.  At shutdown the monitor
closes the bid again. -/
theorem own_bid_closed_again :
    ∃ o, bidOnce plainOrder = some o ∧
      ∃ o', o.step plainOrder (.bidClosed plainOrder.bidID) = some o' ∧ o'.stage = .loop ∧
        o'.bidPlaced = true ∧
        ∃ o'', [OrderEvent.shutdownRequest, .cleanup, .return].foldlM (step plainOrder) o' =
            some o'' ∧
          o''.stage = .returned ∧ o''.won = false ∧ o''.closed = [plainOrder.bidID] :=
  ⟨_, rfl, _, rfl, rfl, rfl, _, rfl, rfl, rfl, rfl⟩

end OrderMonitor

end AkashProvider
