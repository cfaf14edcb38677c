import AkashProvider.Balance.Checker

/-!
# No withdrawal is lost or made twice

The withdrawals that wait and those in flight are outstanding.  A monitor that is current and not
closed is withdrawing exactly when it is outstanding, and then once (`Queued`).
`withdrawals_accounted` says this of every state that can be reached, and of every step what it
starts and that a failed withdrawal is queued again.
-/

namespace AkashProvider

namespace BalanceChecker

/-- The items that wait or are in flight. -/
def outstanding (s : BalanceChecker) : List WithdrawItem :=
  s.withdrawals.items ++ s.inFlight.flatten

def refs (items : List WithdrawItem) : List Nat := items.map (·.state)

/-- What the flags of a current monitor say. -/
@[grind cases]
structure FlagsSay (out owed : List Nat) (r : Nat) (m : FundsMonitor) : Prop where
  withdrawing : m.withdrawing = true ↔ r ∈ out
  retry : m.retryWithdraw = true → m.withdrawing = false
  owed : r ∈ owed → m.retryWithdraw = true

/-- The monitors agree with the items `out`. -/
@[grind cases]
structure Queued (s : BalanceChecker) (out : List WithdrawItem) : Prop where
  lease : ∀ {lid r}, s.leases lid = some r → r < s.nextMonitor ∧ (s.monitors r).lid = lid
  flags : ∀ {lid r}, s.leases lid = some r → (s.monitors r).closed = false →
    FlagsSay (refs out) s.owed r (s.monitors r)
  item : ∀ i ∈ out, i.state < s.nextMonitor ∧ (s.monitors i.state).lid = i.lid
  nodup : (refs out).Nodup
  owed : ∀ r ∈ s.owed, r < s.nextMonitor

def InFlight (s : BalanceChecker) : Prop :=
  (s.sending = true ∧ ∃ batch, s.inFlight = [batch] ∧ batch ≠ [] ∧
    batch.length ≤ maxWithdrawBatch) ∨
  (s.sending = false ∧ s.inFlight = [])

@[grind cases]
structure QueueInv (s : BalanceChecker) : Prop where
  queued : Queued s s.outstanding
  inFlight : InFlight s
  idle : s.sending = false → s.withdrawals.items = []

/-! ## Frames -/

@[grind cases]
structure SameQueue (s s' : BalanceChecker) : Prop where
  withdrawals : s'.withdrawals = s.withdrawals
  sending : s'.sending = s.sending
  inFlight : s'.inFlight = s.inFlight
  started : s'.started = s.started

/-- So is what the monitors say about them. -/
@[grind cases]
structure SameFlags (s s' : BalanceChecker) : Prop extends SameQueue s s' where
  leases : s'.leases = s.leases
  nextMonitor : s'.nextMonitor = s.nextMonitor
  owed : s'.owed = s.owed
  lid : ∀ r, (s'.monitors r).lid = (s.monitors r).lid
  closed : ∀ r, (s'.monitors r).closed = (s.monitors r).closed
  withdrawing : ∀ r, (s'.monitors r).withdrawing = (s.monitors r).withdrawing
  retryWithdraw : ∀ r, (s'.monitors r).retryWithdraw = (s.monitors r).retryWithdraw

variable {cfg : BalanceCheckerConfig} {pkg : ChainPackages} {s s' : BalanceChecker}
  {lid : LeaseID} {r : Nat} {item : WithdrawItem} {items out out' : List WithdrawItem}

theorem SameQueue.refl (s : BalanceChecker) : SameQueue s s := ⟨rfl, rfl, rfl, rfl⟩

variable {s'' : BalanceChecker}

theorem SameQueue.trans (h : SameQueue s s') (h' : SameQueue s' s'') :
    SameQueue s s'' :=
  ⟨h'.withdrawals.trans h.withdrawals, h'.sending.trans h.sending, h'.inFlight.trans h.inFlight,
    h'.started.trans h.started⟩

theorem SameQueue.outstanding (h : SameQueue s s') : s'.outstanding = s.outstanding := by
  rw [BalanceChecker.outstanding, BalanceChecker.outstanding, h.withdrawals, h.inFlight]

variable {m : FundsMonitor}

theorem sameFlags_setMonitor (hlid : m.lid = (s.monitors r).lid)
    (hclosed : m.closed = (s.monitors r).closed)
    (hwithdrawing : m.withdrawing = (s.monitors r).withdrawing)
    (hretry : m.retryWithdraw = (s.monitors r).retryWithdraw) :
    SameFlags s (s.setMonitor r m) :=
  ⟨⟨rfl, rfl, rfl, rfl⟩, rfl, rfl, rfl, update_proj (·.lid) hlid, update_proj (·.closed) hclosed,
    update_proj (·.withdrawing) hwithdrawing, update_proj (·.retryWithdraw) hretry⟩

theorem SameFlags.refl (s : BalanceChecker) : SameFlags s s :=
  ⟨.refl s, rfl, rfl, rfl, fun _ => rfl, fun _ => rfl, fun _ => rfl, fun _ => rfl⟩

theorem SameFlags.addCheck (h : SameFlags s s') (lid : LeaseID) (scheduledWithdraw : Bool)
    (r : Nat) (stage : CheckStage) : SameFlags s (s'.addCheck lid scheduledWithdraw r stage) :=
  ⟨⟨h.withdrawals, h.sending, h.inFlight, h.started⟩, h.leases, h.nextMonitor, h.owed, h.lid,
    h.closed, h.withdrawing, h.retryWithdraw⟩

theorem SameFlags.trans (h : SameFlags s s') (h' : SameFlags s' s'') :
    SameFlags s s'' := by
  refine ⟨h.toSameQueue.trans h'.toSameQueue, ?_, ?_, ?_, ?_, ?_, ?_, ?_⟩ <;> grind

theorem sameFlags_timerFunc (s : BalanceChecker) (after : Duration) (lid : LeaseID)
    (scheduledWithdraw : Bool) (r : Nat) :
    SameFlags s (s.timerFunc after lid scheduledWithdraw r) := by
  refine SameFlags.addCheck (sameFlags_setMonitor ?_ ?_ ?_ ?_) ..
  all_goals rfl

theorem sameFlags_reschedule (cfg : BalanceCheckerConfig) (s : BalanceChecker) (r : Nat)
    (res : LeaseCheckResponse) (withdraw : Bool) (now : Int) :
    SameFlags s (s.reschedule cfg r res withdraw now) := by
  refine SameFlags.trans (sameFlags_setMonitor ?_ ?_ ?_ ?_) (sameFlags_timerFunc ..)
  all_goals split <;> rfl

theorem sameFlags_checks (s : BalanceChecker) (checks : List FundsCheck) :
    SameFlags s { s with checks := checks } :=
  ⟨⟨rfl, rfl, rfl, rfl⟩, rfl, rfl, rfl, fun _ => rfl, fun _ => rfl, fun _ => rfl, fun _ => rfl⟩

theorem sameFlags_stopTimer (s : BalanceChecker) (tm : Option Nat) :
    SameFlags s (s.stopTimer tm) := by
  cases tm with
  | none => exact .refl s
  | some id => exact sameFlags_checks s _

theorem Queued.of_sameFlags (h : Queued s out) (hsame : SameFlags s s') : Queued s' out where
  lease hlease := by
    rw [hsame.leases] at hlease
    rw [hsame.nextMonitor, hsame.lid]
    exact h.lease hlease
  flags hlease hclosed := by
    rw [hsame.leases] at hlease
    rw [hsame.closed] at hclosed
    have hflags := h.flags hlease hclosed
    exact ⟨by rw [hsame.withdrawing]; exact hflags.withdrawing,
      by rw [hsame.withdrawing, hsame.retryWithdraw]; exact hflags.retry,
      by rw [hsame.owed, hsame.retryWithdraw]; exact hflags.owed⟩
  item i hi := by
    rw [hsame.nextMonitor, hsame.lid]
    exact h.item i hi
  nodup := h.nodup
  owed r hr := by
    rw [hsame.owed] at hr
    rw [hsame.nextMonitor]
    exact h.owed r hr

theorem InFlight.of_same (h : InFlight s) (hsame : SameQueue s s') : InFlight s' := by
  rw [InFlight, hsame.sending, hsame.inFlight]
  exact h

theorem QueueInv.of_sameFlags (h : QueueInv s) (hsame : SameFlags s s') : QueueInv s' := by
  refine ⟨?_, h.inFlight.of_same hsame.toSameQueue, by grind⟩
  rw [hsame.outstanding]
  exact h.queued.of_sameFlags hsame

/-! ## Monitors and items change -/

theorem Queued.update (h : Queued s out) (hleases : s'.leases = s.leases)
    (hnext : s'.nextMonitor = s.nextMonitor)
    (hmonitors : s'.monitors = Function.update s.monitors r m) (hlid : m.lid = (s.monitors r).lid)
    (hout : ∀ r' ≠ r, r' ∈ refs out' ↔ r' ∈ refs out) (howed : ∀ r' ≠ r, r' ∈ s'.owed → r' ∈ s.owed)
    (hflags : ∀ lid, s.leases lid = some r → m.closed = false → FlagsSay (refs out') s'.owed r m)
    (hitem : ∀ i ∈ out', i.state < s.nextMonitor ∧ (s.monitors i.state).lid = i.lid)
    (hnodup : (refs out').Nodup) (hbound : ∀ r' ∈ s'.owed, r' < s.nextMonitor) :
    Queued s' out' := by
  have hsame : ∀ r', (s'.monitors r').lid = (s.monitors r').lid := by
    rw [hmonitors]
    exact update_proj (·.lid) hlid
  refine ⟨?_, ?_, ?_, hnodup, ?_⟩
  · intro lid r' hlease
    rw [hleases] at hlease
    rw [hnext, hsame]
    exact h.lease hlease
  · intro lid r' hlease hclosed
    rw [hleases] at hlease
    by_cases hr : r' = r
    · subst hr
      rw [hmonitors, Function.update_self] at hclosed ⊢
      exact hflags lid hlease hclosed
    · rw [hmonitors, Function.update_of_ne hr] at hclosed ⊢
      have hold := h.flags hlease hclosed
      exact ⟨hold.withdrawing.trans (hout r' hr).symm, hold.retry,
        fun ho => hold.owed (howed r' hr ho)⟩
  · simp_all
  · rw [hnext]
    exact hbound

theorem Queued.drop (h : Queued s out) (hsub : out'.Subperm out)
    (hkeep : ∀ i ∈ out, s.keep i = true → i ∈ out') : Queued s out' := by
  have hsubset := hsub.subset
  refine ⟨h.lease, fun {lid r} hlease hclosed => ?_, fun i hi => h.item i (hsubset hi), ?_, h.owed⟩
  · have hold := h.flags hlease hclosed
    refine ⟨hold.withdrawing.trans ?_, hold.retry, hold.owed⟩
    -- The lease of an item is the one whose monitor this is.
    grind [refs, keep]
  · obtain ⟨l, hperm, hsublist⟩ := hsub
    exact (hperm.map _).nodup_iff.mp ((hsublist.map _).nodup h.nodup)

theorem Queued.perm (h : Queued s out) (hperm : out'.Perm out) : Queued s out' :=
  h.drop hperm.subperm fun _ hi _ => hperm.mem_iff.mpr hi

theorem Queued.add (h : Queued s out)
    (hleases : s'.leases = Function.update s.leases lid (some s.nextMonitor))
    (hnext : s'.nextMonitor = s.nextMonitor + 1)
    (hmonitors : s'.monitors = Function.update s.monitors s.nextMonitor m)
    (howed : s'.owed = s.owed) (hlid : m.lid = lid) (hwithdrawing : m.withdrawing = false) :
    Queued s' out := by
  have hold : ∀ {r}, r < s.nextMonitor → s'.monitors r = s.monitors r := by
    intro r hr
    rw [hmonitors, Function.update_of_ne (Nat.ne_of_lt hr)]
  have hnew : s'.monitors s.nextMonitor = m := by rw [hmonitors, Function.update_self]
  have hfresh : s.nextMonitor ∉ refs out := by
    intro hmem
    obtain ⟨i, hi, hstate⟩ := List.mem_map.mp hmem
    exact absurd (h.item i hi).1 (by simp [hstate])
  refine ⟨?_, ?_, ?_, h.nodup, ?_⟩
  · intro lid' r hlease
    rw [hleases] at hlease
    rcases leases_of_add hlease with ⟨rfl, rfl⟩ | hlease
    · simp_all
    · obtain ⟨hr, hrlid⟩ := h.lease hlease
      grind
  · intro lid' r hlease hclosed
    rw [hleases] at hlease
    rw [howed]
    rcases leases_of_add hlease with ⟨rfl, rfl⟩ | hlease
    · rw [hnew]
      refine ⟨?_, fun _ => hwithdrawing, fun ho => absurd (h.owed _ ho) (Nat.lt_irrefl _)⟩
      simp [hwithdrawing, hfresh]
    · rw [hold (h.lease hlease).1] at hclosed ⊢
      exact h.flags hlease hclosed
  · intro i hi
    grind
  · intro r hr
    rw [howed] at hr
    rw [hnext]
    exact Nat.lt_succ_of_lt (h.owed r hr)

theorem Queued.remove (h : Queued s out) (lid : LeaseID) :
    Queued { s with leases := Function.update s.leases lid none } out :=
  ⟨fun hlease => h.lease (leases_of_remove hlease).2,
    fun hlease => h.flags (leases_of_remove hlease).2, h.item, h.nodup, h.owed⟩

theorem Queued.withdrawDone (h : Queued s (item :: out)) : Queued (s.withdrawDone item) out := by
  obtain ⟨hfresh, hnodup⟩ := List.nodup_cons.mp h.nodup
  refine h.update rfl rfl rfl rfl ?_ (fun _ _ ho => ho) ?_ ?_ hnodup h.owed
  · intro r' hr
    exact ⟨List.mem_cons_of_mem _, fun hmem => (List.mem_cons.mp hmem).resolve_left hr⟩
  · intro lid hlease hclosed
    have hold := h.flags hlease hclosed
    exact ⟨⟨fun hw => absurd hw Bool.false_ne_true, fun hmem => absurd hmem hfresh⟩,
      fun _ => rfl, hold.owed⟩
  · exact fun i hi => h.item i (List.mem_cons_of_mem _ hi)

theorem Queued.foldl_withdrawDone : ∀ (items : List WithdrawItem) (s : BalanceChecker),
    Queued s (items ++ out) → Queued (items.foldl BalanceChecker.withdrawDone s) out := by
  intro items
  induction items with
  | nil => exact fun s h => h
  | cons item items ih => exact fun s h => ih _ h.withdrawDone

theorem sameQueue_foldl_withdrawDone : ∀ (items : List WithdrawItem) (s : BalanceChecker),
    SameQueue s (items.foldl withdrawDone s) := by
  intro items
  induction items with
  | nil => exact SameQueue.refl
  | cons item items ih =>
    intro s
    have hone : SameQueue s (s.withdrawDone item) := ⟨rfl, rfl, rfl, rfl⟩
    exact hone.trans (ih _)

theorem Queued.reportClosed (h : Queued s out) (r : Nat) (closed : EventLeaseClosed) :
    Queued (s.reportClosed r closed) out :=
  h.update (r := r) rfl rfl rfl rfl (fun _ _ => Iff.rfl) (fun _ _ ho => ho)
    (fun _ _ hclosed => nomatch hclosed) h.item h.nodup h.owed

theorem Queued.queueWithdrawal (h : Queued s out) (hlease : s.leases lid = some r)
    (hclosed : (s.monitors r).closed = false) (hwithdrawing : (s.monitors r).withdrawing = false) :
    Queued (s.queueWithdrawal lid r) (⟨lid, r⟩ :: out) := by
  have hfresh : r ∉ refs out := by grind
  refine h.update rfl rfl rfl rfl ?_ ?_ (fun _ _ _ => ⟨?_, ?_, ?_⟩) ?_
    (List.nodup_cons.mpr ⟨hfresh, h.nodup⟩) ?_
  all_goals grind [refs, BalanceChecker.queueWithdrawal, setMonitor]

/-! ## The result of a transaction -/

theorem closed_withdrawDone (s : BalanceChecker) (item : WithdrawItem) (r : Nat) :
    ((s.withdrawDone item).monitors r).closed = (s.monitors r).closed := by
  refine update_proj (·.closed) ?_ r
  rfl

/-- A withdrawal has failed alone, and not because of a closed escrow. -/
def failAlone (s : BalanceChecker) (item : WithdrawItem) : BalanceChecker :=
  { s.withdrawDone item with owed := s.owed ++ [item.state] }

/-- With a closed escrow the lease may be reported closed.  Otherwise the withdrawal is owed. -/
theorem withdrawFailed_cases (pkg : ChainPackages) (s : BalanceChecker) (item : WithdrawItem)
    (err : WithdrawErr) (published : Bool) :
    (isEscrowClosedErr err = true ∧
      (s.withdrawFailed pkg item err published = s.withdrawDone item ∨
        ∃ closed, s.withdrawFailed pkg item err published =
          (s.withdrawDone item).reportClosed item.state closed)) ∨
    (isEscrowClosedErr err = false ∧
      ((s.keep item = true ∧ s.withdrawFailed pkg item err published =
          (s.failAlone item).retryLater item.state) ∨
        (s.keep item = false ∧ s.withdrawFailed pkg item err published = s.failAlone item))) := by
  cases herr : isEscrowClosedErr err with
  | true =>
    have howe : (s.withdrawDone item).owe item.state err = s.withdrawDone item := by
      rw [owe, herr, if_pos rfl]
    simp only [withdrawFailed, howe, herr, Bool.not_true, Bool.or_false]
    grind
  | false =>
    have howe : (s.withdrawDone item).owe item.state err = s.failAlone item := by
      rw [owe, herr]
      rfl
    have hkeep : (decide ((s.failAlone item).leases item.lid = some item.state) &&
        !((s.failAlone item).monitors item.state).closed) = s.keep item := by
      rw [keep, ← closed_withdrawDone s item]
      rfl
    grind [withdrawFailed, keep]

theorem Queued.withdrawFailed (h : Queued s (item :: out)) (err : WithdrawErr)
    (published : Bool) : Queued (s.withdrawFailed pkg item err published) out := by
  have hdone := h.withdrawDone
  obtain ⟨hfresh, -⟩ := List.nodup_cons.mp h.nodup
  obtain ⟨hbound, hlid⟩ := h.item item List.mem_cons_self
  have howed : ∀ r' ≠ item.state, r' ∈ s.owed ++ [item.state] → r' ∈ s.owed := by simp_all
  have howedBound : ∀ r' ∈ s.owed ++ [item.state], r' < s.nextMonitor := by
    intro r' hmem
    rcases List.mem_append.mp hmem with hmem | hmem
    · exact h.owed r' hmem
    · grind
  obtain ⟨-, heq | ⟨closed, heq⟩⟩ | ⟨-, ⟨hkeep, heq⟩ | ⟨hkeep, heq⟩⟩ :=
    withdrawFailed_cases pkg s item err published
  · rw [heq]
    exact hdone
  · rw [heq]
    exact hdone.reportClosed item.state closed
  · rw [heq]
    refine hdone.update (r := item.state) rfl rfl rfl rfl (fun _ _ => Iff.rfl) howed ?_ hdone.item
      hdone.nodup howedBound
    intro lid hlease hclosed
    have hold := hdone.flags hlease hclosed
    have hidle : ((s.withdrawDone item).monitors item.state).withdrawing = false :=
      Bool.eq_false_iff.mpr fun hw => hfresh (hold.withdrawing.mp hw)
    exact ⟨hold.withdrawing, fun _ => hidle, fun _ => rfl⟩
  · rw [heq]
    -- The monitor is not the current one, or it is closed: its flags say nothing.
    refine hdone.update (r := item.state) rfl rfl (Function.update_eq_self _ _).symm rfl
      (fun _ _ => Iff.rfl) howed ?_ hdone.item hdone.nodup howedBound
    intro lid hlease hclosed
    have hitem : item.lid = lid := hlid.symm.trans (h.lease hlease).2
    have hopen : (s.monitors item.state).closed = false :=
      (closed_withdrawDone s item item.state).symm.trans hclosed
    have hlease' : s.leases item.lid = some item.state := by
      rw [hitem]
      exact hlease
    simp [keep, hlease', hopen] at hkeep

theorem sameQueue_withdrawFailed (s : BalanceChecker) (item : WithdrawItem) (err : WithdrawErr)
    (published : Bool) : SameQueue s (s.withdrawFailed pkg item err published) := by
  obtain ⟨-, heq | ⟨closed, heq⟩⟩ | ⟨-, ⟨-, heq⟩ | ⟨-, heq⟩⟩ :=
    withdrawFailed_cases pkg s item err published
  all_goals
    rw [heq]
    exact ⟨rfl, rfl, rfl, rfl⟩

theorem Queued.settle (pkg : ChainPackages) (h : Queued s (items ++ s.withdrawals.items))
    (hidle : s.inFlight = []) (err : Option WithdrawErr) (published : Bool) :
    Queued (s.settle pkg items err published) (s.settle pkg items err published).outstanding ∧
      (s.settle pkg items err published).inFlight = [] ∧
      (s.settle pkg items err published).sending = s.sending ∧
      (s.settle pkg items err published).started = s.started := by
  have hsame : ∀ {s'}, SameQueue s s' → Queued s' s.withdrawals.items →
      Queued s' s'.outstanding ∧ s'.inFlight = [] ∧ s'.sending = s.sending ∧
        s'.started = s.started := by
    grind [SameQueue.outstanding, outstanding]
  simp only [BalanceChecker.settle]
  split
  · exact hsame (sameQueue_foldl_withdrawDone items s) (h.foldl_withdrawDone items s)
  · next err item =>
    exact hsame (sameQueue_withdrawFailed s item err published) (h.withdrawFailed err published)
  · refine ⟨Queued.perm ⟨h.lease, h.flags, h.item, h.nodup, h.owed⟩ ?_, hidle, rfl, rfl⟩
    rw [outstanding, hidle, List.flatten_nil, List.append_nil, BatchQueue.items, BatchQueue.items,
      ← List.append_assoc]
    exact List.perm_append_comm

/-! ## Sending -/

/-- What a step starts is for monitors that are current and not closed. -/
def StartsKept (s s' : BalanceChecker) : Prop :=
  ∃ batches, s'.started = s.started ++ batches ∧
    ∀ batch ∈ batches, ∀ item ∈ batch, s'.keep item = true

theorem StartsKept.of_eq (h : s'.started = s.started) : StartsKept s s' :=
  ⟨[], by rw [h, List.append_nil], nofun⟩

theorem StartsKept.of_started (h : s'.started = s.started) (hstarts : StartsKept s' s'') :
    StartsKept s s'' := by
  rw [StartsKept, ← h]
  exact hstarts

/-- A batch is taken and sent, unless it is empty or a transaction is in flight. -/
theorem sendWithdrawals_cases (s : BalanceChecker) :
    (s.sending = true ∧ s.sendWithdrawals = s) ∨
    (s.sending = false ∧ ∃ batch withdrawals,
      s.withdrawals.next s.keep maxWithdrawBatch = (batch, withdrawals) ∧
      ((batch = [] ∧ s.sendWithdrawals = { s with withdrawals := withdrawals }) ∨
        (batch ≠ [] ∧ s.sendWithdrawals = { s with
          withdrawals := withdrawals
          sending := true
          inFlight := s.inFlight ++ [batch]
          started := s.started ++ [batch] }))) := by
  grind [sendWithdrawals, keep, maxWithdrawBatch]

theorem sendWithdrawals_frame (s : BalanceChecker) :
    s.sendWithdrawals.leases = s.leases ∧ s.sendWithdrawals.monitors = s.monitors ∧
      s.sendWithdrawals.owed = s.owed ∧ s.sendWithdrawals.checks = s.checks ∧
      s.sendWithdrawals.nextCheck = s.nextCheck := by
  obtain ⟨-, heq⟩ | ⟨-, batch, withdrawals, -, ⟨-, heq⟩ | ⟨-, heq⟩⟩ := sendWithdrawals_cases s
  all_goals
    rw [heq]
    exact ⟨rfl, rfl, rfl, rfl, rfl⟩

theorem sendWithdrawals_inv (h : Queued s s.outstanding) (hflight : InFlight s) :
    QueueInv s.sendWithdrawals ∧ StartsKept s s.sendWithdrawals := by
  obtain ⟨hsending, heq⟩ | ⟨hsending, batch, withdrawals, hnext, hbatch⟩ := sendWithdrawals_cases s
  · rw [heq]
    exact ⟨⟨h, hflight, by grind⟩, .of_eq rfl⟩
  have hidle : s.inFlight = [] := by grind [InFlight]
  have htaken := BatchQueue.nextBatch (by decide) hnext
  have hqueued : Queued s (batch ++ withdrawals.items) := by
    rw [outstanding, hidle, List.flatten_nil, List.append_nil] at h
    exact h.drop htaken.subperm htaken.complete
  obtain ⟨hnil, heq⟩ | ⟨hne, heq⟩ := hbatch <;> rw [heq]
  · have hitems := htaken.eq_nil hnil
    rw [hnil, hitems] at hqueued
    refine ⟨⟨?_, .inr ⟨hsending, hidle⟩, fun _ => hitems⟩, .of_eq rfl⟩
    simp only [outstanding, hitems, hidle]
    exact ⟨hqueued.lease, hqueued.flags, hqueued.item, hqueued.nodup, hqueued.owed⟩
  · refine ⟨⟨?_, .inl ⟨rfl, batch, by simp [hidle], hne, htaken.length_le⟩, nofun⟩, [batch], rfl,
      ?_⟩
    · refine Queued.perm ⟨hqueued.lease, hqueued.flags, hqueued.item, hqueued.nodup,
        hqueued.owed⟩ ?_
      grind [outstanding]
    · rintro _ hmem item hitem
      obtain rfl := List.mem_singleton.mp hmem
      exact htaken.kept item hitem

/-! ## Steps -/

theorem handleResult_inv (pkg : ChainPackages) (h : QueueInv s) (hitems : items ∈ s.inFlight)
    (err : Option WithdrawErr) (published : Bool) :
    QueueInv (s.handleResult pkg items err published) ∧
      StartsKept s (s.handleResult pkg items err published) := by
  -- There is one transaction, and this is its result.
  have hflight : s.inFlight = [items] := by grind [InFlight]
  have herase : s.inFlight.erase items = [] := by rw [hflight, List.erase_cons_head]
  have hout : (items ++ s.withdrawals.items).Perm s.outstanding := by grind [outstanding]
  have hq := h.queued.perm hout
  have hreceived : Queued { s with sending := false, inFlight := s.inFlight.erase items }
      (items ++ s.withdrawals.items) := ⟨hq.lease, hq.flags, hq.item, hq.nodup, hq.owed⟩
  obtain ⟨hqueued, hidle, hsending, hstarted⟩ := hreceived.settle pkg herase err published
  obtain ⟨hinv, hstarts⟩ := sendWithdrawals_inv hqueued (.inr ⟨hsending, hidle⟩)
  exact ⟨hinv, hstarts.of_started hstarted⟩

theorem addMonitor_inv (h : QueueInv s) (lid : LeaseID) (isNewLease : Bool)
    (firstIn checkIn : Duration) (now : Int) :
    QueueInv (s.addMonitor cfg lid isNewLease firstIn checkIn now) ∧
      (s.addMonitor cfg lid isNewLease firstIn checkIn now).started = s.started ∧
      (s.addMonitor cfg lid isNewLease firstIn checkIn now).owed = s.owed := by
  have hadded : ∀ scheduledWithdraw, QueueInv
      { s.setMonitor s.nextMonitor ⟨lid, none, scheduledWithdraw, false, false, false⟩ with
        leases := Function.update s.leases lid (some s.nextMonitor)
        nextMonitor := s.nextMonitor + 1 } := by
    intro scheduledWithdraw
    exact ⟨h.queued.add rfl rfl rfl rfl rfl rfl, h.inFlight, h.idle⟩
  cases isNewLease with
  | true => exact ⟨(hadded _).of_sameFlags (SameFlags.addCheck (.refl _) ..), rfl, rfl⟩
  | false => exact ⟨(hadded _).of_sameFlags (sameFlags_timerFunc ..), rfl, rfl⟩

theorem removeMonitor_inv (h : QueueInv s) (lid : LeaseID) :
    QueueInv (s.removeMonitor lid) ∧ (s.removeMonitor lid).started = s.started ∧
      (s.removeMonitor lid).owed = s.owed := by
  simp only [removeMonitor]
  split
  · exact ⟨h, rfl, rfl⟩
  · next r _ =>
    have hsame := sameFlags_stopTimer s (s.monitors r).tm
    have hstopped := h.of_sameFlags hsame
    refine ⟨⟨?_, hstopped.inFlight, hstopped.idle⟩, hsame.started, hsame.owed⟩
    have hremoved := hstopped.queued.remove lid
    rw [hsame.leases] at hremoved
    exact hremoved

theorem handleResponse_cases (cfg : BalanceCheckerConfig) (s : BalanceChecker)
    (res : LeaseCheckResponse) (published : Bool) (now : Int) :
    SameFlags s (s.handleResponse cfg res published now) ∨
    (∃ r closed, s.handleResponse cfg res published now = s.reportClosed r closed) ∨
    (∃ r s', SameFlags s s' ∧ s.leases res.lid = some r ∧ (s.monitors r).closed = false ∧
      (s.monitors r).withdrawing = false ∧
      s.handleResponse cfg res published now = (s'.queueWithdrawal res.lid r).sendWithdrawals) := by
  simp only [handleResponse]
  split
  · exact .inl (.refl s)
  next r hlease =>
  split
  · exact .inl (.refl s)
  next hclosed =>
  split
  · next _ _ closed _ => grind [sameFlags_timerFunc]
  · exact .inl (sameFlags_timerFunc ..)
  · have hsame := sameFlags_reschedule cfg s r res
      (withdraws cfg (s.monitors r) res.state) now
    simp only [handleFunds]
    grind

theorem queueWithdrawal_inv (h : QueueInv s) (hlease : s.leases lid = some r)
    (hclosed : (s.monitors r).closed = false) (hwithdrawing : (s.monitors r).withdrawing = false) :
    QueueInv (s.queueWithdrawal lid r).sendWithdrawals ∧
      StartsKept s (s.queueWithdrawal lid r).sendWithdrawals ∧
      r ∈ refs (s.queueWithdrawal lid r).sendWithdrawals.outstanding := by
  have hqueued := h.queued.queueWithdrawal hlease hclosed hwithdrawing
  have hperm : (s.queueWithdrawal lid r).outstanding.Perm (⟨lid, r⟩ :: s.outstanding) := by
    simp only [outstanding, queueWithdrawal, setMonitor, BatchQueue.items, List.append_assoc,
      List.cons_append, List.nil_append]
    exact List.perm_middle
  obtain ⟨hinv, hstarts⟩ := sendWithdrawals_inv (hqueued.perm hperm) h.inFlight
  obtain ⟨hleases, hmonitors, -⟩ := sendWithdrawals_frame (s.queueWithdrawal lid r)
  have hflag : ((s.queueWithdrawal lid r).sendWithdrawals.monitors r) =
      { s.monitors r with withdrawing := true, retryWithdraw := false } := by
    rw [hmonitors]
    exact Function.update_self ..
  refine ⟨hinv, hstarts, (hinv.queued.flags (hleases ▸ hlease) ?_).withdrawing.mp ?_⟩ <;>
    simp [hflag, hclosed]

theorem handleResponse_inv (cfg : BalanceCheckerConfig) (h : QueueInv s)
    (res : LeaseCheckResponse) (published : Bool) (now : Int) :
    QueueInv (s.handleResponse cfg res published now) ∧
      StartsKept s (s.handleResponse cfg res published now) ∧
      ∀ r ∈ s.owed, r ∈ (s.handleResponse cfg res published now).owed ∨
        r ∈ refs (s.handleResponse cfg res published now).outstanding := by
  obtain hsame | ⟨r, closed, heq⟩ | ⟨r, s', hsame, hlease, hclosed, hwithdrawing, heq⟩ :=
    handleResponse_cases cfg s res published now
  · exact ⟨h.of_sameFlags hsame, .of_eq hsame.started, fun r hr => .inl (hsame.owed ▸ hr)⟩
  · rw [heq]
    exact ⟨⟨h.queued.reportClosed r closed, h.inFlight, h.idle⟩, .of_eq rfl, fun _ => .inl⟩
  · rw [heq]
    obtain ⟨hinv, hstarts, hmem⟩ := queueWithdrawal_inv (h.of_sameFlags hsame)
      (hsame.leases ▸ hlease) ((hsame.closed r).trans hclosed)
      ((hsame.withdrawing r).trans hwithdrawing)
    refine ⟨hinv, hstarts.of_started hsame.started, fun r' hr' => ?_⟩
    by_cases hr : r' = r
    · exact .inr (hr ▸ hmem)
    · rw [(sendWithdrawals_frame _).2.2.1]
      rw [← hsame.owed] at hr'
      exact .inl (List.mem_filter.mpr ⟨hr', by simpa using hr⟩)

theorem handleResponse_retries (h : QueueInv s) (hperiod : 0 < cfg.withdrawalPeriod)
    {res : LeaseCheckResponse} (herr : res.err = none) (hres : res.closed = none)
    (hlease : s.leases res.lid = some r) (hclosed : (s.monitors r).closed = false)
    (howed : r ∈ s.owed) (published : Bool) (now : Int) :
    r ∉ refs s.outstanding ∧ r ∈ refs (s.handleResponse cfg res published now).outstanding := by
  have hflags := h.queued.flags hlease hclosed
  have hretry := hflags.owed howed
  have hidle := hflags.retry hretry
  have hwithdraw : withdraws cfg (s.monitors r) res.state = true := by
    cases hstate : res.state <;> simp [withdraws, hretry, hperiod]
  refine ⟨by grind, ?_⟩
  simp only [handleResponse, hlease, hclosed, hres, herr, handleFunds, hwithdraw, hidle,
    Bool.false_eq_true, if_false, Bool.not_false, Bool.and_self, if_true]
  have hsame := sameFlags_reschedule cfg s r res true now
  refine (queueWithdrawal_inv (h.of_sameFlags hsame) ?_ ?_ ?_).2.2 <;> grind

/-! ## Runs -/

@[grind cases]
structure WithdrawalsAccounted (s : BalanceChecker) : Prop where
  /-- A current monitor that is not closed is withdrawing exactly when it is outstanding once. -/
  once : ∀ lid r, s.leases lid = some r → (s.monitors r).closed = false →
    ((s.monitors r).withdrawing = true ↔ (refs s.outstanding).count r = 1)
  /-- No monitor is outstanding twice. -/
  notTwice : ∀ r, (refs s.outstanding).count r ≤ 1
  oneInFlight : s.inFlight.length ≤ 1
  batchSize : ∀ batch ∈ s.inFlight, batch.length ≤ maxWithdrawBatch
  idle : s.inFlight = [] → s.withdrawals.due = [] ∧ s.withdrawals.alone = []

@[grind cases]
structure StepAccounted (cfg : BalanceCheckerConfig) (s : BalanceChecker) (e : BalanceEvent)
    (s' : BalanceChecker) : Prop where
  starts : StartsKept s s'
  /-- A withdrawal that fails alone, and not because of a closed escrow, is owed. -/
  failed : ∀ item err published, e = .withdrawn [item] (some err) published →
    isEscrowClosedErr err = false → item.state ∈ s'.owed
  /-- It stays so until it is queued again. -/
  owed : ∀ r ∈ s.owed, r ∈ s'.owed ∨ r ∈ refs s'.outstanding
  /-- The first check of the lease that goes well queues it. -/
  retried : 0 < cfg.withdrawalPeriod → ∀ id published now c res r,
    e = .response id published now → s.check id = some c → c.stage = .responded res →
    res.err = none → res.closed = none → s.leases res.lid = some r →
    (s.monitors r).closed = false → r ∈ s.owed →
    r ∉ refs s.outstanding ∧ r ∈ refs s'.outstanding

theorem QueueInv.accounted (h : QueueInv s) : WithdrawalsAccounted s := by
  refine ⟨fun lid r hlease hclosed => ?_, List.nodup_iff_count_le_one.mp h.queued.nodup, ?_, ?_,
    fun hidle => List.append_eq_nil_iff.mp ?_⟩
  · rw [(h.queued.flags hlease hclosed).withdrawing]
    exact ⟨List.count_eq_one_of_mem h.queued.nodup, fun hcount =>
      List.count_pos_iff.mp (hcount ▸ Nat.one_pos)⟩
  all_goals grind [InFlight, BatchQueue.items]

theorem mem_owed_handleResult (pkg : ChainPackages) (items : List WithdrawItem)
    (err : Option WithdrawErr) (published : Bool) (hr : r ∈ s.owed) :
    r ∈ (s.handleResult pkg items err published).owed := by
  have hfoldl : ∀ (items : List WithdrawItem) (s : BalanceChecker),
      (items.foldl withdrawDone s).owed = s.owed := by
    intro items
    induction items with
    | nil => exact fun _ => rfl
    | cons item items ih => exact fun s => ih _
  rw [handleResult, (sendWithdrawals_frame _).2.2.1]
  simp only [settle]
  split
  · rw [hfoldl]
    exact hr
  · next err item =>
    obtain ⟨-, heq | ⟨closed, heq⟩⟩ | ⟨-, ⟨-, heq⟩ | ⟨-, heq⟩⟩ := withdrawFailed_cases pkg
      { s with sending := false, inFlight := s.inFlight.erase [item] } item err published
    · rw [heq]
      exact hr
    · rw [heq]
      exact hr
    · rw [heq]
      exact List.mem_append_left _ hr
    · rw [heq]
      exact List.mem_append_left _ hr
  · exact hr

theorem failed_handleResult (pkg : ChainPackages) (s : BalanceChecker) (item : WithdrawItem)
    {err : WithdrawErr} (herr : isEscrowClosedErr err = false) (published : Bool) :
    item.state ∈ (s.handleResult pkg [item] (some err) published).owed := by
  rw [handleResult, (sendWithdrawals_frame _).2.2.1]
  simp only [settle]
  grind [withdrawFailed_cases, setMonitor, retryLater, failAlone]

theorem step_queueInv {e : BalanceEvent} (h : QueueInv s) (hstep : step cfg pkg s e = some s') :
    QueueInv s' ∧ StepAccounted cfg s e s' := by
  have hplain : ∀ {e' : BalanceEvent} {t : BalanceChecker},
      (∀ items err published, e' ≠ .withdrawn items err published) →
      (∀ id published now, e' ≠ .response id published now) →
      t.started = s.started → t.owed = s.owed → StepAccounted cfg s e' t := by
    intro e' t hwithdrawn hresponse hstarted howed
    refine ⟨.of_eq hstarted, fun item err published he => absurd he (hwithdrawn _ _ _),
      fun r hr => .inl (howed ▸ hr), fun _ id published now c res r he => ?_⟩
    exact absurd he (hresponse _ _ _)
  cases step_move hstep with
  | add lid isNewLease firstIn checkIn now => grind [addMonitor_inv]
  | remove lid => grind [removeMonitor_inv]
  | timerFired hc => exact ⟨h.of_sameFlags (sameFlags_checks s _), hplain nofun nofun rfl rfl⟩
  | checked answers hc => exact ⟨h.of_sameFlags (sameFlags_checks s _), hplain nofun nofun rfl rfl⟩
  | @response id c res published now hc hstage =>
    have hdrop : QueueInv (s.dropCheck id) := h.of_sameFlags (sameFlags_checks s _)
    obtain ⟨hinv, hstarts, howed⟩ := handleResponse_inv cfg hdrop res published now
    refine ⟨hinv, hstarts, nofun, howed, ?_⟩
    intro hperiod id' published' now' c' res' r he hc' hstage' herr hres hlease hclosed hr
    cases he
    cases hc.symm.trans hc'
    cases hstage.symm.trans hstage'
    exact handleResponse_retries hdrop hperiod herr hres hlease hclosed hr published now
  | @withdrawn items err published hitems =>
    obtain ⟨hinv, hstarts⟩ := handleResult_inv pkg h hitems err published
    refine ⟨hinv, hstarts, ?_, ?_, ?_⟩
    · intro item err' published' he herr
      cases he
      exact failed_handleResult pkg s item herr published
    · exact fun r hr => .inl (mem_owed_handleResult pkg items err published hr)
    · intro _ _ _ _ _ _ _ he
      cases he

theorem start_queueInv : QueueInv start := by
  exact ⟨⟨nofun, nofun, nofun, List.nodup_nil, nofun⟩, .inr ⟨rfl, rfl⟩, fun _ => rfl⟩

theorem Reachable.queueInv (h : Reachable cfg pkg s) : QueueInv s :=
  Runs.invariant (fun _ _ _ _ hstep hinv => (step_queueInv hinv hstep).1) h start_queueInv

/-- In every state that is reached, and every step from there, withdrawals are accounted for. -/
theorem withdrawals_accounted (h : Reachable cfg pkg s) :
    WithdrawalsAccounted s ∧ ∀ e s', step cfg pkg s e = some s' → StepAccounted cfg s e s' :=
  ⟨h.queueInv.accounted, fun _ _ hstep => (step_queueInv h.queueInv hstep).2⟩

/-! ### A withdrawal that fails -/

/-- The packages, where only the number of blocks matters: the funds of a lease last for none. -/
def somePackages : ChainPackages where
  errNodeNotSynced := "not synced"
  leaseIDText _ := ""
  leaseStateText _ := ""
  denomUact := "uact"
  averageBlockTime := 6
  leaseCalcBalanceRemain _ _ _ _ := 0
  leaseCalcBlocksRemain _ _ := 0
  reasonUnspecified := 0
  reasonOwner := 1
  reasonInsufficientFunds := 2

def someConfig : BalanceCheckerConfig := ⟨100, 10⟩

def someLease : LeaseID := ⟨"owner", 1, 1, 1, "provider"⟩

/-- The lease is active and its escrow open. -/
def openAnswers : EscrowAnswers where
  syncInfo := .ok (false, 7)
  lease := .ok (⟨someLease, .active, 0⟩, .stateOpen)
  deployment := .ok ⟨.stateOpen, [], 0⟩
  leases _ := .ok []

/-- The lease is out of funds, its withdrawal fails, and the next check is about to be received. -/
def failingRun : List BalanceEvent :=
  [.add someLease true 0 0 0, .checked 0 openAnswers, .response 0 true 1,
    .withdrawn [⟨someLease, 0⟩] (some ⟨false, false⟩) true, .timerFired 1, .checked 1 openAnswers]

theorem failed_withdrawal_queued_again :
    ∃ s s', Reachable someConfig somePackages s ∧ s.outstanding = [] ∧ s.owed = [0] ∧
      step someConfig somePackages s (.response 1 true 20) = some s' ∧
      WithdrawalsAccounted s ∧ 0 ∈ refs s'.outstanding := by
  obtain ⟨s, hrun⟩ : ∃ s, failingRun.foldlM (step someConfig somePackages) start = some s :=
    ⟨_, rfl⟩
  have hreach : Reachable someConfig somePackages s := Runs.of_foldlM failingRun start s hrun
  obtain ⟨hstate, hsteps⟩ := withdrawals_accounted hreach
  cases hrun
  refine ⟨_, _, hreach, rfl, rfl, rfl, hstate, ?_⟩
  exact ((hsteps _ _ rfl).retried (by decide) 1 true 20 _ _ 0 rfl rfl rfl rfl rfl rfl rfl
    (by decide)).2

end BalanceChecker

end AkashProvider
