import AkashProvider.Lib.Batch
import AkashProvider.Lib.Run
import AkashProvider.Types.Resources

/-!
# The balance checker

For each lease the balance checker keeps a funds monitor.  The response of a check says when to
check again, and whether to withdraw.  Withdrawals go out in batches, one transaction at a time.

A check runs beside the loop: its timer is pending, it runs, its response waits (`FundsCheck`).
Stopping a timer does not stop a check that runs.  Monitors are known by numbers, since a lease
that is added again has a new one; the response of a check names its lease only.

The lease of a monitor, the monitor of a check and the fields after `nextCheck` are a record that
no step reads.
-/

namespace AkashProvider

/-! ## Checks -/

inductive RespState where
  | nextCheck
  | outOfFunds
  | scheduledWithdraw
deriving DecidableEq

/-- In nanoseconds, as a point of time is. -/
abbrev Duration := Int

def maxWithdrawBatch : Nat := 20

structure BalanceCheckerConfig where
  /-- Zero turns withdrawals off. -/
  withdrawalPeriod : Duration
  leaseFundsCheckInterval : Duration

structure LeaseCheckResponse where
  lid : LeaseID
  checkAfter : Duration
  state : RespState
  err : Option String
  closed : Option EventLeaseClosed
deriving DecidableEq

inductive EscrowState where
  | stateInvalid
  | stateOpen
  | stateClosed
  | stateOverdrawn

/-- Amounts are decimals with eighteen places, in units of the last one. -/
abbrev DecAmount := Int

structure EscrowAccount where
  state : EscrowState
  funds : List (String × DecAmount)
  settledAt : Int

/-- What the chain answers to the queries of one check. -/
structure EscrowAnswers where
  /-- Whether the node is catching up, and its height. -/
  syncInfo : Except String (Bool × Int)
  lease : Except String (ChainLease × EscrowState)
  deployment : Except String EscrowAccount
  /-- The prices of those leases of the deployment that are in a state. -/
  leases : LeaseState → Except String (List DecAmount)

/-- What the checker takes from the packages of the chain. -/
structure ChainPackages where
  errNodeNotSynced : String
  leaseIDText : LeaseID → String
  leaseStateText : LeaseState → String
  denomUact : String
  averageBlockTime : Duration
  /-- Of the balance, which may be missing, the height, the height of the last settlement and the
  price of the leases. -/
  leaseCalcBalanceRemain : Option DecAmount → Int → Int → DecAmount → DecAmount
  leaseCalcBlocksRemain : DecAmount → DecAmount → Int
  reasonUnspecified : LeaseClosedReason
  reasonOwner : LeaseClosedReason
  reasonInsufficientFunds : LeaseClosedReason

section

variable (pkg : ChainPackages) (cfg : BalanceCheckerConfig)

def totalLeaseAmount (answers : EscrowAnswers) : Except String DecAmount := do
  let active ← answers.leases .active
  let reclaiming ← answers.leases .reclaiming
  .ok (active.sum + reclaiming.sum)

/-- The end of a check: how long the funds last. -/
def checkFunds (height : Int) (account : EscrowAccount) (total : DecAmount)
    (resp : LeaseCheckResponse) : LeaseCheckResponse :=
  let balance := account.funds.lookup pkg.denomUact
  let balanceRemain := pkg.leaseCalcBalanceRemain balance height account.settledAt total
  let blocksRemain := pkg.leaseCalcBlocksRemain balanceRemain total
  if blocksRemain ≤ 0 then
    { resp with state := .outOfFunds, checkAfter := cfg.leaseFundsCheckInterval }
  else
    let blocksPerCheckInterval := cfg.leaseFundsCheckInterval.tdiv pkg.averageBlockTime
    { resp with checkAfter := min blocksRemain blocksPerCheckInterval * pkg.averageBlockTime }

/-- The middle of a check: the deployment and its leases. -/
def checkAccount (height : Int) (answers : EscrowAnswers) (resp : LeaseCheckResponse) :
    LeaseCheckResponse :=
  match answers.deployment with
  | .error err => { resp with err := some err }
  | .ok account =>
    match account.state with
    | .stateClosed => { resp with closed := some ⟨resp.lid, pkg.reasonOwner⟩ }
    | .stateOverdrawn => { resp with closed := some ⟨resp.lid, pkg.reasonInsufficientFunds⟩ }
    | .stateOpen | .stateInvalid =>
      match totalLeaseAmount answers with
      | .error err => { resp with err := some err }
      | .ok total => checkFunds pkg cfg height account total resp

def doEscrowCheck (answers : EscrowAnswers) (lid : LeaseID) (scheduledWithdraw : Bool) :
    LeaseCheckResponse :=
  let resp : LeaseCheckResponse :=
    ⟨lid, 0, if scheduledWithdraw then .scheduledWithdraw else .nextCheck, none, none⟩
  match answers.syncInfo with
  | .error err => { resp with err := some err }
  | .ok (true, _) => { resp with err := some pkg.errNodeNotSynced }
  | .ok (false, height) =>
    match answers.lease with
    | .error err => { resp with err := some err }
    | .ok (lease, payment) =>
      if lease.id ≠ lid then
        { resp with
          err := some ("lease query returned a different ID: " ++ pkg.leaseIDText lease.id) }
      else
        match lease.state with
        | .closed | .insufficientFunds => { resp with closed := some ⟨lid, lease.reason⟩ }
        | .invalid =>
          { resp with
            err := some ("unexpected lease state: " ++ pkg.leaseStateText lease.state) }
        | .active | .reclaiming =>
          match payment with
          | .stateClosed => { resp with closed := some ⟨lid, pkg.reasonUnspecified⟩ }
          | .stateOverdrawn =>
            { resp with closed := some ⟨lid, pkg.reasonInsufficientFunds⟩ }
          | .stateOpen | .stateInvalid => checkAccount pkg cfg height answers resp

end

/-! ## The checker -/

/-- `leaseState`. -/
structure FundsMonitor where
  lid : LeaseID
  tm : Option Nat
  /-- `none` is the zero time. -/
  scheduledWithdrawAt : Option Int
  closed : Bool
  withdrawing : Bool
  retryWithdraw : Bool

inductive CheckStage where
  | timer (after : Duration)
  | running
  | responded (res : LeaseCheckResponse)
deriving DecidableEq

def CheckStage.isTimer : CheckStage → Bool
  | .timer _ => true
  | .running | .responded _ => false

structure FundsCheck where
  id : Nat
  lid : LeaseID
  scheduledWithdraw : Bool
  monitor : Nat
  stage : CheckStage

/-- A withdrawal, and the monitor it was queued for. -/
structure WithdrawItem where
  lid : LeaseID
  state : Nat
deriving DecidableEq

/-- Which registered errors the error of a transaction is. -/
structure WithdrawErr where
  paymentClosed : Bool
  accountClosed : Bool

def isEscrowClosedErr (err : WithdrawErr) : Bool := err.paymentClosed || err.accountClosed

structure BalanceChecker where
  leases : LeaseID → Option Nat
  monitors : Nat → FundsMonitor
  nextMonitor : Nat
  withdrawals : BatchQueue WithdrawItem
  sending : Bool
  /-- The transactions that were started and whose results have not been received. -/
  inFlight : List (List WithdrawItem)
  checks : List FundsCheck
  nextCheck : Nat
  /-- The monitors whose withdrawal failed alone, not because of a closed escrow, and was not
  queued again since. -/
  owed : List Nat
  started : List (List WithdrawItem)
  published : List EventLeaseClosed

inductive BalanceEvent where
  /-- `LeaseAddFundsMonitor`.  The durations are those that are drawn at random. -/
  | add (lid : LeaseID) (isNewLease : Bool) (firstIn checkIn : Duration) (now : Int)
  | remove (lid : LeaseID)
  | timerFired (id : Nat)
  | checked (id : Nat) (answers : EscrowAnswers)
  /-- The response of a check is received.  `published` is the outcome of `Publish`. -/
  | response (id : Nat) (published : Bool) (now : Int)
  | withdrawn (items : List WithdrawItem) (err : Option WithdrawErr) (published : Bool)

namespace BalanceChecker

def start : BalanceChecker where
  leases _ := none
  monitors _ := ⟨⟨"", 0, 0, 0, ""⟩, none, none, false, false, false⟩
  nextMonitor := 0
  withdrawals := ⟨[], []⟩
  sending := false
  inFlight := []
  checks := []
  nextCheck := 0
  owed := []
  started := []
  published := []

def setMonitor (s : BalanceChecker) (r : Nat) (m : FundsMonitor) : BalanceChecker :=
  { s with monitors := Function.update s.monitors r m }

variable {r : Nat}

theorem update_proj {β : Type} {monitors : Nat → FundsMonitor} {m : FundsMonitor}
    (f : FundsMonitor → β) (hf : f m = f (monitors r)) (r' : Nat) :
    f (Function.update monitors r m r') = f (monitors r') := by
  grind

variable {leases : LeaseID → Option Nat} {lid lid' : LeaseID}

theorem leases_of_remove (h : Function.update leases lid none lid' = some r) :
    lid' ≠ lid ∧ leases lid' = some r := by
  by_cases hl : lid' = lid
  · rw [hl, Function.update_self] at h
    cases h
  · grind

theorem leases_of_add {r n : Nat} (h : Function.update leases lid (some n) lid' = some r) :
    lid' = lid ∧ r = n ∨ leases lid' = some r := by
  by_cases hl : lid' = lid
  · simp_all
  · grind

/-! ### Outstanding checks -/

def addCheck (s : BalanceChecker) (lid : LeaseID) (scheduledWithdraw : Bool) (r : Nat)
    (stage : CheckStage) : BalanceChecker :=
  { s with
    checks := s.checks ++ [⟨s.nextCheck, lid, scheduledWithdraw, r, stage⟩]
    nextCheck := s.nextCheck + 1 }

def runEscrowCheck (s : BalanceChecker) (lid : LeaseID) (scheduledWithdraw : Bool) (r : Nat) :
    BalanceChecker :=
  s.addCheck lid scheduledWithdraw r .running

def timerFunc (s : BalanceChecker) (after : Duration) (lid : LeaseID) (scheduledWithdraw : Bool)
    (r : Nat) : BalanceChecker :=
  (s.setMonitor r { s.monitors r with tm := some s.nextCheck }).addCheck lid scheduledWithdraw r
    (.timer after)

/-- `Stop`: a timer that has fired is not a timer any more. -/
def stopTimer (s : BalanceChecker) : Option Nat → BalanceChecker
  | none => s
  | some id => { s with checks := s.checks.filter fun c => ¬ (c.id = id ∧ c.stage.isTimer) }

def check (s : BalanceChecker) (id : Nat) : Option FundsCheck :=
  s.checks.find? (·.id = id)

def setStage (s : BalanceChecker) (id : Nat) (stage : CheckStage) : BalanceChecker :=
  { s with checks := s.checks.map fun c => if c.id = id then { c with stage := stage } else c }

def dropCheck (s : BalanceChecker) (id : Nat) : BalanceChecker :=
  { s with checks := s.checks.filter (·.id ≠ id) }

/-! ### Withdrawals -/

/-- The monitor of the item is that of its lease, and not closed. -/
def keep (s : BalanceChecker) (item : WithdrawItem) : Bool :=
  s.leases item.lid = some item.state && !(s.monitors item.state).closed

def sendWithdrawals (s : BalanceChecker) : BalanceChecker :=
  if s.sending then s
  else
    let (batch, withdrawals) := s.withdrawals.next s.keep maxWithdrawBatch
    if batch = [] then { s with withdrawals := withdrawals }
    else
      { s with
        withdrawals := withdrawals
        sending := true
        inFlight := s.inFlight ++ [batch]
        started := s.started ++ [batch] }

def queueWithdrawal (s : BalanceChecker) (lid : LeaseID) (r : Nat) : BalanceChecker :=
  { s.setMonitor r { s.monitors r with withdrawing := true, retryWithdraw := false } with
    withdrawals := { s.withdrawals with due := s.withdrawals.due ++ [⟨lid, r⟩] }
    owed := s.owed.filter (· ≠ r) }

def reportClosed (s : BalanceChecker) (r : Nat) (closed : EventLeaseClosed) : BalanceChecker :=
  { s.setMonitor r { s.monitors r with closed := true } with
    published := s.published ++ [closed] }

def withdrawDone (s : BalanceChecker) (item : WithdrawItem) : BalanceChecker :=
  s.setMonitor item.state { s.monitors item.state with withdrawing := false }

def retryLater (s : BalanceChecker) (r : Nat) : BalanceChecker :=
  s.setMonitor r { s.monitors r with retryWithdraw := true }

/-- A failure that is not because of a closed escrow is put on record. -/
def owe (s : BalanceChecker) (r : Nat) (err : WithdrawErr) : BalanceChecker :=
  if isEscrowClosedErr err then s else { s with owed := s.owed ++ [r] }

def withdrawFailed (pkg : ChainPackages) (s : BalanceChecker) (item : WithdrawItem)
    (err : WithdrawErr) (published : Bool) : BalanceChecker :=
  let s := (s.withdrawDone item).owe item.state err
  let current : Bool := s.leases item.lid = some item.state
  let closed := (s.monitors item.state).closed
  if !current || closed || !isEscrowClosedErr err then
    if current && !closed then s.retryLater item.state else s
  else
    let reason := if err.accountClosed then pkg.reasonOwner else pkg.reasonUnspecified
    if published then s.reportClosed item.state ⟨item.lid, reason⟩ else s

/-- The result of a transaction, before the next one is sent. -/
def settle (pkg : ChainPackages) (s : BalanceChecker) (items : List WithdrawItem)
    (err : Option WithdrawErr) (published : Bool) : BalanceChecker :=
  match err, items with
  | none, items => items.foldl withdrawDone s
  | some err, [item] => s.withdrawFailed pkg item err published
  -- A transaction has an item, so there are two or more here.
  | some _, items =>
    { s with withdrawals := { s.withdrawals with alone := s.withdrawals.alone ++ items } }

def handleResult (pkg : ChainPackages) (s : BalanceChecker) (items : List WithdrawItem)
    (err : Option WithdrawErr) (published : Bool) : BalanceChecker :=
  let s := { s with sending := false, inFlight := s.inFlight.erase items }
  (s.settle pkg items err published).sendWithdrawals

/-! ### Monitors -/

variable (cfg : BalanceCheckerConfig)

def addMonitor (s : BalanceChecker) (lid : LeaseID) (isNewLease : Bool)
    (firstIn checkIn : Duration) (now : Int) : BalanceChecker :=
  let scheduledWithdraw :=
    if 0 < cfg.withdrawalPeriod then
      some (now + if isNewLease then cfg.withdrawalPeriod else firstIn)
    else none
  let r := s.nextMonitor
  let s' :=
    { s.setMonitor r ⟨lid, none, scheduledWithdraw, false, false, false⟩ with
      leases := Function.update s.leases lid (some r)
      nextMonitor := r + 1 }
  -- The timer of a monitor that was there before is not stopped.
  if isNewLease then s'.runEscrowCheck lid false r else s'.timerFunc checkIn lid false r

def removeMonitor (s : BalanceChecker) (lid : LeaseID) : BalanceChecker :=
  match s.leases lid with
  | none => s
  | some r =>
    { s.stopTimer (s.monitors r).tm with leases := Function.update s.leases lid none }

/-! ### Responses -/

def minute : Duration := 60000000000

def withdraws (m : FundsMonitor) (state : RespState) : Bool :=
  let state := if m.retryWithdraw ∧ state = .nextCheck then .scheduledWithdraw else state
  state ≠ .nextCheck ∧ 0 < cfg.withdrawalPeriod

/-- When to check again, and whether it is for a scheduled withdrawal. -/
def timerPeriod (m : FundsMonitor) (withdraw : Bool) (checkAfter : Duration) (now : Int) :
    Duration × Bool :=
  match m.scheduledWithdrawAt with
  | none => (checkAfter, false)
  | some scheduledAt =>
    if ¬ withdraw ∧ checkAfter ≥ scheduledAt - now then (scheduledAt - now, true)
    else (checkAfter, false)

def reschedule (s : BalanceChecker) (r : Nat) (res : LeaseCheckResponse) (withdraw : Bool)
    (now : Int) : BalanceChecker :=
  let m :=
    if withdraw then
      { s.monitors r with scheduledWithdrawAt := some (now + cfg.withdrawalPeriod) }
    else s.monitors r
  let (after, scheduledWithdraw) := timerPeriod m withdraw res.checkAfter now
  (s.setMonitor r m).timerFunc after res.lid scheduledWithdraw r

def handleFunds (s : BalanceChecker) (r : Nat) (res : LeaseCheckResponse) (now : Int) :
    BalanceChecker :=
  let withdraw := withdraws cfg (s.monitors r) res.state
  let s' := s.reschedule cfg r res withdraw now
  if withdraw && !(s.monitors r).withdrawing then (s'.queueWithdrawal res.lid r).sendWithdrawals
  else s'

def handleResponse (s : BalanceChecker) (res : LeaseCheckResponse) (published : Bool)
    (now : Int) : BalanceChecker :=
  match s.leases res.lid with
  | none => s
  | some r =>
    if (s.monitors r).closed then s
    else
      let retry := s.timerFunc minute res.lid (res.state = .scheduledWithdraw) r
      match res.closed, res.err with
      | some closed, _ => if published then s.reportClosed r closed else retry
      | none, some _ => retry
      | none, none => s.handleFunds cfg r res now

/-! ### Steps -/

variable (pkg : ChainPackages)

def step (s : BalanceChecker) : BalanceEvent → Option BalanceChecker
  | .add lid isNewLease firstIn checkIn now =>
    some (s.addMonitor cfg lid isNewLease firstIn checkIn now)
  | .remove lid => some (s.removeMonitor lid)
  | .timerFired id => do
    let c ← s.check id
    if c.stage.isTimer then some (s.setStage id .running) else none
  | .checked id answers => do
    let c ← s.check id
    let res := doEscrowCheck pkg cfg answers c.lid c.scheduledWithdraw
    if c.stage = .running then some (s.setStage id (.responded res)) else none
  | .response id published now => do
    let c ← s.check id
    match c.stage with
    | .timer _ | .running => none
    | .responded res => some ((s.dropCheck id).handleResponse cfg res published now)
  | .withdrawn items err published =>
    if items ∈ s.inFlight then some (s.handleResult pkg items err published) else none

/-- The checker has been started, and has handled some events. -/
def Reachable (s : BalanceChecker) : Prop :=
  Runs (step cfg pkg) (fun _ _ => True) start s

/-! ## What a step does -/

variable {cfg : BalanceCheckerConfig} {pkg : ChainPackages} {s s' : BalanceChecker}

/-- What the events do, with what a response is known to be a response to. -/
inductive Move (cfg : BalanceCheckerConfig) (pkg : ChainPackages) (s : BalanceChecker) :
    BalanceEvent → BalanceChecker → Prop where
  | add (lid : LeaseID) (isNewLease : Bool) (firstIn checkIn : Duration) (now : Int) :
      Move cfg pkg s (.add lid isNewLease firstIn checkIn now)
        (s.addMonitor cfg lid isNewLease firstIn checkIn now)
  | remove (lid : LeaseID) : Move cfg pkg s (.remove lid) (s.removeMonitor lid)
  | timerFired {id : Nat} {c : FundsCheck} (hc : s.check id = some c) :
      Move cfg pkg s (.timerFired id) (s.setStage id .running)
  | checked {id : Nat} {c : FundsCheck} (answers : EscrowAnswers) (hc : s.check id = some c) :
      Move cfg pkg s (.checked id answers)
        (s.setStage id (.responded (doEscrowCheck pkg cfg answers c.lid c.scheduledWithdraw)))
  | response {id : Nat} {c : FundsCheck} {res : LeaseCheckResponse} (published : Bool) (now : Int)
      (hc : s.check id = some c) (hstage : c.stage = .responded res) :
      Move cfg pkg s (.response id published now)
        ((s.dropCheck id).handleResponse cfg res published now)
  | withdrawn {items : List WithdrawItem} (err : Option WithdrawErr) (published : Bool)
      (hitems : items ∈ s.inFlight) :
      Move cfg pkg s (.withdrawn items err published) (s.handleResult pkg items err published)

theorem step_move {e : BalanceEvent} (h : step cfg pkg s e = some s') : Move cfg pkg s e s' := by
  cases e with
  | add lid isNewLease firstIn checkIn now =>
    cases h
    exact .add lid isNewLease firstIn checkIn now
  | remove lid =>
    cases h
    exact .remove lid
  | timerFired id =>
    obtain ⟨c, hc, h⟩ := Option.bind_eq_some_iff.mp h
    split at h
    · cases h
      exact .timerFired hc
    · cases h
  | checked id answers =>
    obtain ⟨c, hc, h⟩ := Option.bind_eq_some_iff.mp h
    split at h
    · cases h
      exact .checked answers hc
    · cases h
  | response id published now =>
    obtain ⟨c, hc, h⟩ := Option.bind_eq_some_iff.mp h
    split at h
    · cases h
    · cases h
    · next res hstage =>
      cases h
      exact .response published now hc hstage
  | withdrawn items err published =>
    simp only [step] at h
    split at h
    · next hitems =>
      cases h
      exact .withdrawn err published hitems
    · cases h

end BalanceChecker

@[simp]
theorem doEscrowCheck_lid (pkg : ChainPackages) (cfg : BalanceCheckerConfig)
    (answers : EscrowAnswers) (lid : LeaseID) (scheduledWithdraw : Bool) :
    (doEscrowCheck pkg cfg answers lid scheduledWithdraw).lid = lid := by
  have hfunds : ∀ height account total resp,
      (checkFunds pkg cfg height account total resp).lid = resp.lid := by
    grind [checkFunds]
  have haccount : ∀ height resp, (checkAccount pkg cfg height answers resp).lid = resp.lid := by
    grind [checkAccount]
  simp only [doEscrowCheck]
  repeat' split
  all_goals first | rfl | exact haccount _ _

end AkashProvider
