import AkashProvider.Balance.Withdrawals

/-!
# One chain of checks for each lease

A monitor that is current and not closed has one check outstanding.  A check that is outstanding
when its lease is added again is taken for one of the new monitor, and the lease has two chains of
checks (`stale_check_withdraws`).  `one_check_chain_iff` says that this is the only way.
-/

namespace AkashProvider

namespace BalanceChecker

def checksOf (s : BalanceChecker) (lid : LeaseID) : List FundsCheck :=
  s.checks.filter (·.lid = lid)

/-- The lease has one check outstanding if its monitor is not closed. -/
def OneCheck (s : BalanceChecker) (lid : LeaseID) : Prop :=
  ∀ r, s.leases lid = some r → (s.monitors r).closed = false → (s.checksOf lid).length = 1

/-- A check that was started for another monitor does nothing to the present one. -/
def StaleInert (s : BalanceChecker) (e : BalanceEvent) (s' : BalanceChecker) : Prop :=
  ∀ id published now c r, e = .response id published now → s.check id = some c →
    s.leases c.lid = some r → c.monitor ≠ r →
    s'.monitors r = s.monitors r ∧ s'.checks = (s.dropCheck id).checks ∧
      s'.withdrawals = s.withdrawals ∧ s'.inFlight = s.inFlight

/-- A lease is added only when none of its checks is outstanding. -/
def AddsClear (s : BalanceChecker) : BalanceEvent → Prop
  | .add lid _ _ _ _ => s.checksOf lid = []
  | _ => True

instance (s : BalanceChecker) (e : BalanceEvent) : Decidable (AddsClear s e) := by
  unfold AddsClear
  split <;> infer_instance

@[grind cases]
structure ChecksInv (s : BalanceChecker) : Prop where
  nodup : (s.checks.map (·.id)).Nodup
  bound : ∀ c ∈ s.checks, c.id < s.nextCheck
  responded : ∀ c ∈ s.checks, ∀ res, c.stage = .responded res → res.lid = c.lid
  /-- The timer of a monitor is for its lease. -/
  tm : ∀ {r id}, (s.monitors r).tm = some id → id < s.nextCheck ∧
    ∀ c ∈ s.checks, c.id = id → c.lid = (s.monitors r).lid
  /-- A check of a lease was started for the monitor it has. -/
  own : ∀ c ∈ s.checks, ∀ r, s.leases c.lid = some r → c.monitor = r

variable {cfg : BalanceCheckerConfig} {pkg : ChainPackages} {s s' : BalanceChecker}
  {lid : LeaseID} {r : Nat}

/-! ## Frames -/

/-- The checks are the same, and a monitor may only have been closed. -/
@[grind cases]
structure SameChecks (s s' : BalanceChecker) : Prop where
  leases : s'.leases = s.leases
  checks : s'.checks = s.checks
  nextCheck : s'.nextCheck = s.nextCheck
  lid : ∀ r, (s'.monitors r).lid = (s.monitors r).lid
  tm : ∀ r, (s'.monitors r).tm = (s.monitors r).tm
  closed : ∀ r, (s'.monitors r).closed = false → (s.monitors r).closed = false

theorem SameChecks.trans {s'' : BalanceChecker} (h : SameChecks s s') (h' : SameChecks s' s'') :
    SameChecks s s'' :=
  ⟨h'.leases.trans h.leases, h'.checks.trans h.checks, h'.nextCheck.trans h.nextCheck,
    fun r => (h'.lid r).trans (h.lid r), fun r => (h'.tm r).trans (h.tm r),
    fun r hclosed => h.closed r (h'.closed r hclosed)⟩

theorem SameChecks.inv (h : SameChecks s s') (hinv : ChecksInv s) : ChecksInv s' := by
  obtain ⟨hleases, hchecks, hnext, hlid, htm, -⟩ := h
  obtain ⟨hnodup, hbound, hresponded, hold, hown⟩ := hinv
  refine ⟨by rwa [hchecks], by rwa [hchecks, hnext], by rwa [hchecks], ?_,
    by rwa [hchecks, hleases]⟩
  intro r id hid
  rw [hchecks, hnext, hlid]
  exact hold (htm r ▸ hid)

theorem SameChecks.oneCheck (h : SameChecks s s') (hone : OneCheck s lid) : OneCheck s' lid := by
  intro r hlease hclosed
  rw [h.leases] at hlease
  rw [checksOf, h.checks]
  exact hone r hlease (h.closed r hclosed)

theorem SameChecks.of_update {m : FundsMonitor} (hleases : s'.leases = s.leases)
    (hchecks : s'.checks = s.checks) (hnext : s'.nextCheck = s.nextCheck)
    (hmonitors : s'.monitors = Function.update s.monitors r m)
    (hlid : m.lid = (s.monitors r).lid) (htm : m.tm = (s.monitors r).tm)
    (hclosed : m.closed = false → (s.monitors r).closed = false) : SameChecks s s' := by
  refine ⟨hleases, hchecks, hnext, ?_, ?_, ?_⟩ <;> rw [hmonitors]
  · exact update_proj (·.lid) hlid
  · exact update_proj (·.tm) htm
  · grind [Function.update_apply]

theorem sameChecks_sendWithdrawals (s : BalanceChecker) : SameChecks s s.sendWithdrawals := by
  constructor <;> grind [sendWithdrawals_frame, sendWithdrawals]

theorem sameChecks_withdrawDone (s : BalanceChecker) (item : WithdrawItem) :
    SameChecks s (s.withdrawDone item) :=
  .of_update rfl rfl rfl rfl rfl rfl id

theorem sameChecks_reportClosed (s : BalanceChecker) (r : Nat) (closed : EventLeaseClosed) :
    SameChecks s (s.reportClosed r closed) :=
  .of_update (r := r) rfl rfl rfl rfl rfl rfl nofun

theorem sameChecks_queueWithdrawal (s : BalanceChecker) (lid : LeaseID) (r : Nat) :
    SameChecks s (s.queueWithdrawal lid r) :=
  .of_update rfl rfl rfl rfl rfl rfl id

theorem sameChecks_failAlone (s : BalanceChecker) (item : WithdrawItem) :
    SameChecks s (s.failAlone item) :=
  .of_update rfl rfl rfl rfl rfl rfl id

theorem sameChecks_retryLater (s : BalanceChecker) (r : Nat) : SameChecks s (s.retryLater r) :=
  .of_update rfl rfl rfl rfl rfl rfl id

theorem sameChecks_withdrawFailed (s : BalanceChecker) (item : WithdrawItem) (err : WithdrawErr)
    (published : Bool) : SameChecks s (s.withdrawFailed pkg item err published) := by
  obtain ⟨-, heq | ⟨closed, heq⟩⟩ | ⟨-, ⟨-, heq⟩ | ⟨-, heq⟩⟩ :=
    withdrawFailed_cases pkg s item err published <;> rw [heq]
  · exact sameChecks_withdrawDone s item
  · exact (sameChecks_withdrawDone s item).trans (sameChecks_reportClosed _ _ closed)
  · exact (sameChecks_failAlone s item).trans (sameChecks_retryLater _ _)
  · exact sameChecks_failAlone s item

theorem SameChecks.refl (s : BalanceChecker) : SameChecks s s :=
  ⟨rfl, rfl, rfl, fun _ => rfl, fun _ => rfl, fun _ => id⟩

theorem sameChecks_foldl_withdrawDone : ∀ (items : List WithdrawItem) (s : BalanceChecker),
    SameChecks s (items.foldl withdrawDone s) := by
  intro items
  induction items with
  | nil => exact SameChecks.refl
  | cons item items ih => exact fun s => (sameChecks_withdrawDone s item).trans (ih _)

theorem sameChecks_handleResult (s : BalanceChecker) (items : List WithdrawItem)
    (err : Option WithdrawErr) (published : Bool) :
    SameChecks s (s.handleResult pkg items err published) := by
  have hreceived : SameChecks s { s with sending := false, inFlight := s.inFlight.erase items } :=
    ⟨rfl, rfl, rfl, fun _ => rfl, fun _ => rfl, fun _ => id⟩
  refine hreceived.trans (SameChecks.trans ?_ (sameChecks_sendWithdrawals _))
  simp only [settle]
  split
  · exact sameChecks_foldl_withdrawDone _ _
  · exact sameChecks_withdrawFailed _ _ _ _
  · exact ⟨rfl, rfl, rfl, fun _ => rfl, fun _ => rfl, fun _ => id⟩

/-! ## Checks come and go -/

variable {stage : CheckStage}

theorem ChecksInv.start_check (h : ChecksInv s) {scheduledWithdraw : Bool}
    (hlease : s.leases lid = some r) (hstage : ∀ res, stage ≠ .responded res)
    (hleases : s'.leases = s.leases) (hnext : s'.nextCheck = s.nextCheck + 1)
    (hchecks : s'.checks = s.checks ++ [⟨s.nextCheck, lid, scheduledWithdraw, r, stage⟩])
    (hlid : ∀ r', (s'.monitors r').lid = (s.monitors r').lid)
    (htm : ∀ r' id, (s'.monitors r').tm = some id → (s.monitors r').tm = some id ∨
      (id = s.nextCheck ∧ (s.monitors r').lid = lid)) : ChecksInv s' := by
  have hmem : ∀ {c}, c ∈ s'.checks → c ∈ s.checks ∨
      c = ⟨s.nextCheck, lid, scheduledWithdraw, r, stage⟩ := by
    simp_all
  refine ⟨?_, ?_, ?_, ?_, ?_⟩
  · rw [hchecks, List.map_append]
    refine List.Nodup.append h.nodup (List.nodup_singleton _) ?_
    intro id hold hnew
    obtain ⟨c, hc, rfl⟩ := List.mem_map.mp hold
    exact absurd (h.bound c hc) (by simp [List.mem_singleton.mp hnew])
  all_goals grind

theorem checksOf_append (c : FundsCheck) (hchecks : s'.checks = s.checks ++ [c]) (lid : LeaseID) :
    s'.checksOf lid = s.checksOf lid ++ if c.lid = lid then [c] else [] := by
  rw [checksOf, hchecks, List.filter_append, checksOf]
  by_cases hc : c.lid = lid
  · simp [hc]
  · simp [hc]

theorem ChecksInv.timerFunc (h : ChecksInv s) (hlease : s.leases lid = some r)
    (hlid : (s.monitors r).lid = lid) (after : Duration) (scheduledWithdraw : Bool) :
    ChecksInv (s.timerFunc after lid scheduledWithdraw r) := by
  refine h.start_check hlease ?_ rfl rfl rfl ?_ ?_
  · intro res hres
    cases hres
  · refine update_proj (·.lid) ?_
    rfl
  · intro r' id hid
    by_cases hr : r' = r
    · simp_all [BalanceChecker.timerFunc, addCheck, setMonitor, Function.update_self]
    · simp_all [BalanceChecker.timerFunc, addCheck, setMonitor]

theorem ChecksInv.sublist (h : ChecksInv s) (hsub : s'.checks.Sublist s.checks)
    (hnext : s'.nextCheck = s.nextCheck) (hmonitors : s'.monitors = s.monitors)
    (hleases : ∀ lid r, s'.leases lid = some r → s.leases lid = some r) : ChecksInv s' where
  nodup := (hsub.map _).nodup h.nodup
  bound c hc := by
    rw [hnext]
    exact h.bound c (hsub.subset hc)
  responded c hc := h.responded c (hsub.subset hc)
  tm {r id} htm := by
    rw [hmonitors] at htm ⊢
    grind
  own c hc r hr := h.own c (hsub.subset hc) r (hleases _ _ hr)

@[grind cases]
structure AllChecked (s : BalanceChecker) : Prop where
  inv : ChecksInv s
  one : ∀ lid, OneCheck s lid

theorem SameChecks.allChecked (h : SameChecks s s') (hall : AllChecked s) : AllChecked s' :=
  ⟨h.inv hall.inv, fun lid => h.oneCheck (hall.one lid)⟩

/-- A check of the lease has been received, and the next one not been started. -/
@[grind cases]
structure Received (s : BalanceChecker) (lid : LeaseID) : Prop where
  inv : ChecksInv s
  others : ∀ lid' ≠ lid, OneCheck s lid'
  none : ∀ r, s.leases lid = some r → (s.monitors r).closed = false → s.checksOf lid = []

theorem SameChecks.received (h : SameChecks s s') (hrec : Received s lid) : Received s' lid where
  inv := h.inv hrec.inv
  others lid' hne := h.oneCheck (hrec.others lid' hne)
  none r hlease hclosed := by
    rw [h.leases] at hlease
    rw [checksOf, h.checks]
    exact hrec.none r hlease (h.closed r hclosed)

theorem Received.allChecked (h : Received s lid)
    (hgone : ∀ r, s.leases lid = some r → (s.monitors r).closed = true) : AllChecked s where
  inv := h.inv
  one lid' := by
    by_cases hl : lid' = lid
    · intro r hlease hclosed
      simp_all
    · exact h.others lid' hl

theorem Received.start_check (h : Received s lid) (c : FundsCheck) (hinv : ChecksInv s')
    (hlease : s.leases lid = some r) (hclosed : (s.monitors r).closed = false)
    (hlid : c.lid = lid) (hleases : s'.leases = s.leases)
    (hchecks : s'.checks = s.checks ++ [c])
    (hsame : ∀ r', (s'.monitors r').closed = (s.monitors r').closed) : AllChecked s' := by
  refine ⟨hinv, fun lid' r' hlease' hclosed' => ?_⟩
  rw [hleases] at hlease'
  rw [hsame] at hclosed'
  rw [checksOf_append c hchecks]
  by_cases hl : lid' = lid
  · simp [hl, hlid, h.none r hlease hclosed]
  · rw [if_neg fun hc => hl (hc.symm.trans hlid), List.append_nil]
    exact h.others lid' hl r' hlease' hclosed'

theorem Received.timerFunc (h : Received s lid) (hlease : s.leases lid = some r)
    (hlid : (s.monitors r).lid = lid) (hclosed : (s.monitors r).closed = false)
    (after : Duration) (scheduledWithdraw : Bool) :
    AllChecked (s.timerFunc after lid scheduledWithdraw r) :=
  h.start_check ⟨s.nextCheck, lid, scheduledWithdraw, r, .timer after⟩
    (h.inv.timerFunc hlease hlid after scheduledWithdraw) hlease hclosed rfl rfl rfl
    (sameFlags_timerFunc s after lid scheduledWithdraw r).closed

theorem Received.runEscrowCheck (h : Received s lid) (hlease : s.leases lid = some r)
    (hclosed : (s.monitors r).closed = false) (scheduledWithdraw : Bool) :
    AllChecked (s.runEscrowCheck lid scheduledWithdraw r) := by
  refine h.start_check ⟨s.nextCheck, lid, scheduledWithdraw, r, .running⟩ ?_ hlease hclosed rfl rfl
    rfl fun _ => rfl
  refine h.inv.start_check hlease ?_ rfl rfl rfl (fun _ => rfl) fun _ _ htm => .inl htm
  intro res hres
  cases hres

/-! ## Steps -/

variable {c : FundsCheck} {id : Nat}

theorem AllChecked.dropCheck (h : AllChecked s) (hc : s.check id = some c) :
    Received (s.dropCheck id) c.lid := by
  have hmem : c ∈ s.checks := List.mem_of_find?_eq_some hc
  have hid : c.id = id := by simpa using List.find?_some hc
  have hfilter : ∀ lid, (s.dropCheck id).checksOf lid = (s.checksOf lid).filter (·.id ≠ id) := by
    simp [checksOf, BalanceChecker.dropCheck, List.filter_filter, Bool.and_comm]
  refine ⟨h.inv.sublist List.filter_sublist rfl rfl fun _ _ hlease => hlease, ?_, ?_⟩
  · intro lid hne r hlease hclosed
    have hkeep : (s.checksOf lid).filter (·.id ≠ id) = s.checksOf lid := by
      refine List.filter_eq_self.mpr fun c' hc' => ?_
      obtain ⟨hc', hlid⟩ := List.mem_filter.mp hc'
      have hsame := List.inj_on_of_nodup_map h.inv.nodup hc' hmem
      grind
    rw [hfilter, hkeep]
    exact h.one lid r hlease hclosed
  · intro r hlease hclosed
    obtain ⟨c', hc'⟩ := List.length_eq_one_iff.mp (h.one c.lid r hlease hclosed)
    have hin : c ∈ s.checksOf c.lid := List.mem_filter.mpr ⟨hmem, by simp⟩
    simp_all

variable {res : LeaseCheckResponse}

theorem Received.reschedule (h : Received s res.lid) (hlease : s.leases res.lid = some r)
    (hlid : (s.monitors r).lid = res.lid) (hclosed : (s.monitors r).closed = false)
    (cfg : BalanceCheckerConfig) (withdraw : Bool) (now : Int) :
    AllChecked (s.reschedule cfg r res withdraw now) := by
  have hset : ∀ m : FundsMonitor, m.lid = (s.monitors r).lid → m.tm = (s.monitors r).tm →
      m.closed = (s.monitors r).closed → ∀ after scheduledWithdraw,
      AllChecked ((s.setMonitor r m).timerFunc after res.lid scheduledWithdraw r) := by
    intro m hmlid htm hm after scheduledWithdraw
    have hself : (s.setMonitor r m).monitors r = m := Function.update_self ..
    have hsame : SameChecks s (s.setMonitor r m) :=
      .of_update rfl rfl rfl rfl hmlid htm fun _ => hclosed
    exact (hsame.received h).timerFunc hlease (by rw [hself, hmlid, hlid])
      (by rw [hself, hm, hclosed]) after scheduledWithdraw
  refine hset _ ?_ ?_ ?_ _ _
  all_goals split <;> rfl

theorem Received.handleResponse (h : Received s res.lid)
    (hlids : ∀ {lid r}, s.leases lid = some r → (s.monitors r).lid = lid)
    (cfg : BalanceCheckerConfig) (published : Bool) (now : Int) :
    AllChecked (s.handleResponse cfg res published now) := by
  simp only [BalanceChecker.handleResponse]
  split
  · exact h.allChecked (by simp_all)
  next r hlease =>
  have hsome : ∀ r', s.leases res.lid = some r' → r' = r := by simp_all
  split
  · next hclosed => exact h.allChecked fun r' hr' => hsome r' hr' ▸ hclosed
  next hclosed =>
  have hopen := Bool.eq_false_iff.mpr hclosed
  have hretry := h.timerFunc hlease (hlids hlease) hopen
  split
  · next _ _ closed _ =>
    cases published with
    | true =>
      refine ((sameChecks_reportClosed s r closed).received h).allChecked fun r' hr' => ?_
      rw [hsome r' hr']
      simp [BalanceChecker.reportClosed, setMonitor]
    | false => exact hretry _ _
  · exact hretry _ _
  · have hnext := h.reschedule hlease (hlids hlease) hopen cfg
    simp only [handleFunds]
    split
    · exact ((sameChecks_queueWithdrawal _ res.lid r).trans
        (sameChecks_sendWithdrawals _)).allChecked (hnext _ now)
    · exact hnext _ now

theorem mem_setStage (hc : c ∈ (s.setStage id stage).checks) :
    ∃ c' ∈ s.checks, c'.id = c.id ∧ c'.lid = c.lid ∧
      c'.monitor = c.monitor ∧ (c.stage = c'.stage ∨ (c'.id = id ∧ c.stage = stage)) := by
  obtain ⟨c', hc', rfl⟩ := List.mem_map.mp hc
  refine ⟨c', hc', ?_⟩
  by_cases hid : c'.id = id
  · simp_all
  · grind

theorem ids_setStage (s : BalanceChecker) (id : Nat) (stage : CheckStage) :
    (s.setStage id stage).checks.map (·.id) = s.checks.map (·.id) := by
  rw [setStage, List.map_map]
  grind [List.map_congr_left]

theorem length_checksOf_setStage (s : BalanceChecker) (id : Nat) (stage : CheckStage)
    (lid : LeaseID) : ((s.setStage id stage).checksOf lid).length = (s.checksOf lid).length := by
  rw [checksOf, setStage, List.filter_map, List.length_map, checksOf]
  congr 2
  grind

theorem AllChecked.setStage (h : AllChecked s)
    (hstage : ∀ c ∈ s.checks, c.id = id → ∀ res, stage = .responded res → res.lid = c.lid) :
    AllChecked (s.setStage id stage) := by
  refine ⟨⟨?_, ?_, ?_, ?_, ?_⟩, fun lid r hlease hclosed => ?_⟩
  · rw [ids_setStage]
    exact h.inv.nodup
  · intro c hc
    obtain ⟨c', hc', hid, -⟩ := mem_setStage hc
    exact hid ▸ h.inv.bound c' hc'
  · intro c hc res hres
    have hold := mem_setStage hc
    grind
  · intro r tm htm
    obtain ⟨hbound, hall⟩ := h.inv.tm htm
    refine ⟨hbound, fun c hc hid => ?_⟩
    obtain ⟨c', hc', hid', hlid, -⟩ := mem_setStage hc
    exact hlid ▸ hall c' hc' (hid'.trans hid)
  · intro c hc r hlease
    obtain ⟨c', hc', -, hlid, hmonitor, -⟩ := mem_setStage hc
    exact hmonitor ▸ h.inv.own c' hc' r (hlid ▸ hlease)
  · rw [length_checksOf_setStage]
    exact h.one lid r hlease hclosed

theorem AllChecked.removeMonitor (h : AllChecked s)
    (hlids : ∀ {lid r}, s.leases lid = some r → (s.monitors r).lid = lid) (lid : LeaseID) :
    AllChecked (s.removeMonitor lid) := by
  simp only [BalanceChecker.removeMonitor]
  split
  · exact h
  next r hlease =>
  cases htm : (s.monitors r).tm with
  | none =>
    refine ⟨h.inv.sublist (.refl _) rfl rfl fun _ _ hl => (leases_of_remove hl).2, ?_⟩
    exact fun lid' r' hl => h.one lid' r' (leases_of_remove hl).2
  | some tm =>
    refine ⟨h.inv.sublist List.filter_sublist rfl rfl fun _ _ hl => (leases_of_remove hl).2, ?_⟩
    intro lid' r' hl hclosed
    obtain ⟨hne, hold⟩ := leases_of_remove hl
    -- The timer that is stopped is one of the lease that is removed.
    have hkeep : (s.checks.filter fun c => ¬ (c.id = tm ∧ c.stage.isTimer)).filter
        (·.lid = lid') = s.checksOf lid' := by
      rw [List.filter_filter, checksOf]
      refine List.filter_congr fun c hc => ?_
      have hlid : c.id = tm → c.lid = lid := fun hid => by
        rw [(h.inv.tm htm).2 c hc hid, hlids hlease]
      by_cases hcl : c.lid = lid'
      · simp_all
      · simp [hcl]
    exact (congrArg List.length hkeep).trans (h.one lid' r' hold hclosed)

theorem checksOf_addMonitor (cfg : BalanceCheckerConfig) (s : BalanceChecker) (lid : LeaseID)
    (isNewLease : Bool) (firstIn checkIn : Duration) (now : Int) :
    ((s.addMonitor cfg lid isNewLease firstIn checkIn now).checksOf lid).length =
      (s.checksOf lid).length + 1 := by
  have hadded : ∀ {s' : BalanceChecker} (c : FundsCheck), s'.checks = s.checks ++ [c] →
      c.lid = lid → (s'.checksOf lid).length = (s.checksOf lid).length + 1 := by
    grind [checksOf_append]
  cases isNewLease with
  | true => exact hadded ⟨s.nextCheck, lid, false, s.nextMonitor, .running⟩ rfl rfl
  | false => exact hadded ⟨s.nextCheck, lid, false, s.nextMonitor, .timer checkIn⟩ rfl rfl

theorem added_addMonitor (cfg : BalanceCheckerConfig) (s : BalanceChecker) (lid : LeaseID)
    (isNewLease : Bool) (firstIn checkIn : Duration) (now : Int) :
    (s.addMonitor cfg lid isNewLease firstIn checkIn now).leases lid = some s.nextMonitor ∧
      ((s.addMonitor cfg lid isNewLease firstIn checkIn now).monitors s.nextMonitor).closed =
        false := by
  cases isNewLease with
  | true => simp [addMonitor, BalanceChecker.runEscrowCheck, addCheck, setMonitor]
  | false => simp [addMonitor, BalanceChecker.timerFunc, addCheck, setMonitor]

theorem AllChecked.addMonitor (h : AllChecked s) (hclear : s.checksOf lid = [])
    (hbound : ∀ {lid r}, s.leases lid = some r → r < s.nextMonitor)
    (cfg : BalanceCheckerConfig) (isNewLease : Bool) (firstIn checkIn : Duration) (now : Int) :
    AllChecked (s.addMonitor cfg lid isNewLease firstIn checkIn now) := by
  have hother : ∀ c ∈ s.checks, c.lid ≠ lid := by
    intro c hc hlid
    have hmem : c ∈ s.checksOf lid := List.mem_filter.mpr ⟨hc, decide_eq_true hlid⟩
    rw [hclear] at hmem
    cases hmem
  have hreceived : ∀ scheduledWithdraw, Received
      { s.setMonitor s.nextMonitor ⟨lid, none, scheduledWithdraw, false, false, false⟩ with
        leases := Function.update s.leases lid (some s.nextMonitor)
        nextMonitor := s.nextMonitor + 1 } lid := by
    intro scheduledWithdraw
    refine ⟨⟨h.inv.nodup, h.inv.bound, h.inv.responded, ?_, ?_⟩, ?_, fun _ _ _ => hclear⟩
    · intro r id htm
      simp only [setMonitor] at htm ⊢
      by_cases hr : r = s.nextMonitor
      · simp_all
      · rw [Function.update_of_ne hr] at htm ⊢
        exact h.inv.tm htm
    · intro c hc r hlease
      simp only [Function.update_of_ne (hother c hc)] at hlease
      exact h.inv.own c hc r hlease
    · intro lid' hne r hlease hclosed
      simp only [Function.update_of_ne hne] at hlease
      simp only [setMonitor, Function.update_of_ne (Nat.ne_of_lt (hbound hlease))] at hclosed
      exact h.one lid' r hlease hclosed
  cases isNewLease with
  | true =>
    refine (hreceived _).runEscrowCheck (Function.update_self ..) ?_ false
    simp [setMonitor]
  | false =>
    refine (hreceived _).timerFunc (Function.update_self ..) ?_ ?_ checkIn false
    · simp [setMonitor]
    · simp [setMonitor]

/-! ## Runs -/

theorem step_allChecked {e : BalanceEvent} (hqueue : QueueInv s) (h : AllChecked s)
    (hclear : AddsClear s e) (hstep : step cfg pkg s e = some s') : AllChecked s' := by
  cases step_move hstep with
  | add lid isNewLease firstIn checkIn now =>
    exact h.addMonitor hclear (fun hlease => (hqueue.queued.lease hlease).1) ..
  | remove lid => exact h.removeMonitor (fun hlease => (hqueue.queued.lease hlease).2) lid
  | timerFired hc =>
    refine h.setStage fun c hmem hid res hres => ?_
    cases hres
  | @checked id c answers hc =>
    refine h.setStage fun c' hmem hid res hres => ?_
    have hcid : c.id = id := by simpa using List.find?_some hc
    have hsame := List.inj_on_of_nodup_map h.inv.nodup hmem (List.mem_of_find?_eq_some hc)
      (hid.trans hcid.symm)
    cases hres
    rw [doEscrowCheck_lid, hsame]
  | @response id c res published now hc hstage =>
    have hlid := h.inv.responded c (List.mem_of_find?_eq_some hc) res hstage
    have hreceived := h.dropCheck hc
    rw [← hlid] at hreceived
    exact hreceived.handleResponse (fun hlease => (hqueue.queued.lease hlease).2) cfg published
      now
  | withdrawn err published hitems => exact (sameChecks_handleResult ..).allChecked h

theorem start_allChecked : AllChecked start := by
  exact ⟨⟨List.nodup_nil, nofun, nofun, nofun, nofun⟩, nofun⟩

/-- As long as leases are added clear of checks, each has one check and no stale one acts.  A step
breaks this exactly if it adds a lease with a check outstanding. -/
theorem one_check_chain_iff (h : Runs (step cfg pkg) AddsClear start s) :
    (∀ lid, OneCheck s lid) ∧
      ∀ e s', step cfg pkg s e = some s' →
        (((∀ lid, OneCheck s' lid) ∧ StaleInert s e s') ↔ AddsClear s e) := by
  have hinv : QueueInv s ∧ AllChecked s :=
    h.invariant (I := fun s => QueueInv s ∧ AllChecked s)
      (fun _ _ _ hclear hstep hinv => ⟨(step_queueInv hinv.1 hstep).1,
        step_allChecked hinv.1 hinv.2 hclear hstep⟩) ⟨start_queueInv, start_allChecked⟩
  obtain ⟨hqueue, hall⟩ := hinv
  refine ⟨hall.one, fun e s' hstep => ⟨fun hone => ?_, fun hclear => ?_⟩⟩
  · cases step_move hstep with
    | add lid isNewLease firstIn checkIn now =>
      obtain ⟨hlease, hclosed⟩ := added_addMonitor cfg s lid isNewLease firstIn checkIn now
      have hlength := hone.1 lid _ hlease hclosed
      rw [checksOf_addMonitor] at hlength
      exact List.eq_nil_of_length_eq_zero (Nat.succ.inj hlength)
    | _ => trivial
  · refine ⟨(step_allChecked hqueue hall hclear hstep).one, ?_⟩
    -- A check of a lease is one of the monitor it has, so none is stale.
    intro id published now c r _ hc hlease hne
    exact absurd (hall.inv.own c (List.mem_of_find?_eq_some hc) r hlease) hne

/-- A lease is added, checked and its check received. -/
theorem one_check_chain_of_one :
    ∃ s, Runs (step someConfig somePackages) AddsClear start s ∧
      s.leases someLease = some 0 ∧ (s.monitors 0).closed = false ∧
      (s.checksOf someLease).length = 1 := by
  obtain ⟨s, hrun⟩ : ∃ s, [BalanceEvent.add someLease true 0 0 0, .checked 0 openAnswers,
      .response 0 true 1].foldlM (fun s e => if AddsClear s e then
        step someConfig somePackages s e else none) start = some s := ⟨_, rfl⟩
  have hruns := Runs.of_guarded _ _ _ hrun
  have hone := (one_check_chain_iff hruns).1 someLease
  cases hrun
  exact ⟨_, hruns, rfl, rfl, hone 0 rfl rfl⟩

/-- The lease is added again while its first check runs, which then withdraws for the second monitor
and starts another check of it. -/
theorem stale_check_withdraws :
    ∃ s s' c, [BalanceEvent.add someLease true 0 0 0, .remove someLease,
        .add someLease true 0 0 0, .checked 0 openAnswers].foldlM
          (step someConfig somePackages) start = some s ∧
      s.leases someLease = some 1 ∧ (s.monitors 1).closed = false ∧
      (s.checksOf someLease).length = 2 ∧
      s.check 0 = some c ∧ c.monitor = 0 ∧
      step someConfig somePackages s (.response 0 true 1) = some s' ∧
      (s.monitors 1).withdrawing = false ∧ (s'.monitors 1).withdrawing = true ∧
      s'.inFlight = [[⟨someLease, 1⟩]] ∧ (s'.checksOf someLease).length = 2 :=
  ⟨_, _, _, rfl, rfl, rfl, rfl, rfl, rfl, rfl, rfl, rfl, rfl, rfl⟩

end BalanceChecker

end AkashProvider
