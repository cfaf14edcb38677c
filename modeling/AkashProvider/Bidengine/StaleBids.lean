import AkashProvider.Bidengine.Progress

/-!
# Bids that are found to be stale

A bid that is found when catching up and is older than the timeout should be closed at once.  The
age is computed as the height of the bid minus that of the session, which is not positive, so no
such bid is stale, up to an overflow (`stale_bid_closed_iff`).
-/

namespace AkashProvider

namespace OrderMonitor

variable {cfg : OrderConfig} {o : OrderMonitor}

/-- The age that a bid has at least, by the height of the session. -/
def minAge (cfg : OrderConfig) (createdAt : Int) : Int :=
  (cfg.createdAtBlockHeight - createdAt) * OrderConfig.minTimePerBlock

/-- The monitor goes on, and whatever it does next closes its bid. -/
def ClosesNext (cfg : OrderConfig) (o : OrderMonitor) : Prop :=
  (∃ e o', o.step cfg e = some o') ∧ ∀ e o', o.step cfg e = some o' → o'.closed = [cfg.bidID]

theorem durationMul_of_nonpos {n : Int} (hn : n ≤ 0)
    (hrange : -9223372036854775808 ≤ n * OrderConfig.minTimePerBlock) :
    OrderConfig.durationMul n OrderConfig.minTimePerBlock ≤ 0 := by
  have hle : n * OrderConfig.minTimePerBlock ≤ 0 := mul_nonpos_of_nonpos_of_nonneg hn (by decide)
  rw [OrderConfig.durationMul, Int.bmod_eq_of_le (by omega) (by omega)]
  exact hle

theorem isStaleBid_iff (htimeout : 0 < cfg.bidTimeout) (createdAt : Int) :
    cfg.isStaleBid ⟨.open, createdAt⟩ = true ↔
      OrderConfig.durationMul (createdAt - cfg.createdAtBlockHeight)
        OrderConfig.minTimePerBlock > cfg.bidTimeout := by
  simp [OrderConfig.isStaleBid, OrderConfig.bidTimeoutEnabled, htimeout]

theorem step_of_loop (hloop : o.stage = .loop) (e : OrderEvent) :
    o.step cfg e = o.loopStep cfg e := by
  simp only [step]
  rw [hloop]

theorem step_of_cleanup (hstage : o.stage = .cleanup) (e : OrderEvent) :
    o.step cfg e = o.cleanupStep cfg e := by
  simp only [step]
  rw [hstage]

/-- In the clean-up, without a lease, all there is to do is to give back what is held and close the
bid. -/
theorem closesNext_of_cleanup (hstage : o.stage = .cleanup) (hwon : o.won = false)
    (hcluster : o.clusterch = none) (hclosed : o.closed = []) (hplaced : o.bidPlaced = true) :
    ClosesNext cfg o := by
  have hcleanUp : (o.cleanUp cfg).closed = [cfg.bidID] := by simp [cleanUp, hwon, hclosed, hplaced]
  refine ⟨⟨.cleanup, o.cleanUp cfg, ?_⟩, ?_⟩
  · rw [step_of_cleanup hstage]
    simp [cleanupStep, hcluster]
  · intro e o' hstep
    rw [step_of_cleanup hstage] at hstep
    cases e with
    | cleanup => simp_all [cleanupStep, Option.isNone_none, Bool.or_true]
    | reserve result => simp [cleanupStep, hcluster] at hstep
    | _ => cases hstep

theorem not_closesNext_of_loop (hloop : o.stage = .loop) (hclosed : o.closed = []) :
    ¬ ClosesNext cfg o := by
  rintro ⟨-, hnext⟩
  have hstay := hnext .otherEvent o (step_of_loop hloop .otherEvent)
  cases hclosed.symm.trans hstay

theorem queryBid_open_closes_iff (h : o.Inv cfg) (hloop : o.stage = .loop)
    (hquery : o.queryBidCh = true) (createdAt : Int) :
    ∃ o', o.step cfg (.queryBid (.ok ⟨.open, createdAt⟩)) = some o' ∧
      (ClosesNext cfg o' ↔ cfg.isStaleBid ⟨.open, createdAt⟩ = true) := by
  have hgroup : o.group = none := h.fetching (.inr (h.query hquery))
  have hcluster : o.clusterch = none := (h.declined (h.undecided hgroup)).1
  have hwon : o.won = false := (h.not_won hloop).1
  have hclosed : o.closed = [] := (h.early (.inl hloop)).2.1
  refine ⟨handleQueryBid cfg { o with queryBidCh := false } (.ok ⟨.open, createdAt⟩), ?_, ?_⟩
  · rw [step_of_loop hloop]
    simp only [loopStep, hquery, if_true]
  · simp only [handleQueryBid, ne_eq, not_true_eq_false, if_false]
    split
    next hstale => exact iff_of_true (closesNext_of_cleanup rfl hwon hcluster hclosed rfl) hstale
    next hfresh => exact iff_of_false (not_closesNext_of_loop hloop hclosed) hfresh

/-- For an open bid from before the session.  The monitor closes one that is too old exactly if it
is not too old, or the product overflows. -/
theorem stale_bid_closed_iff (createdAt : Int)
    (hrun : Runs (step cfg) (fun _ _ => True) (start true) o) (hloop : o.stage = .loop)
    (hquery : o.queryBidCh = true) (htimeout : 0 < cfg.bidTimeout)
    (hbefore : createdAt ≤ cfg.createdAtBlockHeight) :
    ∃ o', o.step cfg (.queryBid (.ok ⟨.open, createdAt⟩)) = some o' ∧
      ((minAge cfg createdAt > cfg.bidTimeout → ClosesNext cfg o') ↔
        minAge cfg createdAt ≤ cfg.bidTimeout ∨
          OrderConfig.durationMul (createdAt - cfg.createdAtBlockHeight)
            OrderConfig.minTimePerBlock > cfg.bidTimeout) ∧
      (minAge cfg createdAt ≤ 9223372036854775808 → ¬ ClosesNext cfg o') ∧
      (createdAt = cfg.createdAtBlockHeight → cfg.isStaleBid ⟨.open, createdAt⟩ = false) := by
  obtain ⟨o', hstep, hcloses⟩ := queryBid_open_closes_iff (inv_of_runs hrun) hloop hquery createdAt
  grind [isStaleBid_iff, minAge, durationMul_of_nonpos]

/-- A monitor with a bid timeout of five minutes, in a session of height 100. -/
def timedOrder : OrderConfig := { plainOrder with bidTimeout := 300 * 1000000000 }

/-- A bid of ten blocks is not too old, and is kept. -/
theorem stale_bid_closed_young :
    minAge timedOrder 90 ≤ timedOrder.bidTimeout ∧
      ∃ o', (start true).step timedOrder (.queryBid (.ok ⟨.open, 90⟩)) = some o' ∧
        (minAge timedOrder 90 > timedOrder.bidTimeout → ClosesNext timedOrder o') ∧
        ¬ ClosesNext timedOrder o' := by
  have hyoung : minAge timedOrder 90 ≤ timedOrder.bidTimeout := by decide
  have hrun : Runs (step timedOrder) (fun _ _ => True) (start true) (start true) := Runs.refl _
  obtain ⟨o', hstep, hcloses, hkept, -⟩ :=
    stale_bid_closed_iff 90 hrun rfl rfl (by decide) (by decide)
  exact ⟨hyoung, o', hstep, hcloses.mpr (.inl hyoung), hkept (by decide)⟩

/-- A bid of ninety blocks is seven and a half minutes old at least, and is kept: the loop goes
on with a new timeout. -/
theorem stale_bid_kept :
    minAge timedOrder 10 > timedOrder.bidTimeout ∧ 0 < timedOrder.bidTimeout ∧
      (10 : Int) ≤ timedOrder.createdAtBlockHeight ∧
      ∃ o', (start true).step timedOrder (.queryBid (.ok ⟨.open, 10⟩)) = some o' ∧
        o'.stage = .loop ∧ o'.bidTimeout = true ∧ o'.closed = [] ∧ ¬ ClosesNext timedOrder o' := by
  refine ⟨by decide, by decide, by decide, _, rfl, by decide, by decide, by decide, ?_⟩
  exact not_closesNext_of_loop (by decide) (by decide)

end OrderMonitor

end AkashProvider
