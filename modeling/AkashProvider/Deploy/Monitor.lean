import AkashProvider.Lib.History
import AkashProvider.Manifest.Types
import AkashProvider.Service.Machine

/-!
# The deployment monitor

The monitor of a lease checks again and again if its services are available, publishes a status
that changes, and closes the bid after too many failures in a row.  Checks and the broadcast run
beside the loop, each with a numbered channel; the loop reads that of the last check (`runch`) and
broadcast (`closech`), and `tickch` says if a timer is set.  `attempts` counts the checks since
the last healthy one.  `log` is a record.
-/

namespace AkashProvider

/-! ## Checks -/

/-- What the monitor reads of the status of a service. -/
structure LeaseServiceStatus where
  available : Int32

abbrev LeaseStatusAnswer := Except String (List (String × LeaseServiceStatus))

structure MonitorConfig where
  services : List Mani.Service
  monitorMaxRetries : UInt64
  monitorHealthcheckPeriod : Int

def badService (status : List (String × LeaseServiceStatus)) (spec : Mani.Service) : Bool :=
  match status.lookup spec.name with
  | some service => service.available.toUInt32 < spec.count
  | none => true

/-- `doCheck`: if the lease is healthy, and the error. -/
def doCheck (services : List Mani.Service) : LeaseStatusAnswer → Bool × Option String
  | .error err => (false, some err)
  | .ok status => (services.countP (badService status) == 0, none)

/-! ## The loop -/

inductive MonitorEntry where
  | started
  /-- The loop has received the outcome of a check. -/
  | checked (healthy : Bool)
  | published (status : DeploymentStatus)
  | closeBid
deriving DecidableEq

inductive MonitorStage where
  | loop
  /-- Waiting for the calls that are in flight. -/
  | waiting
  | returned
deriving DecidableEq

structure DeploymentMonitor where
  tickch : Bool
  runch : Option Nat
  closech : Option Nat
  attempts : UInt64
  prevStatus : DeploymentStatus
  stage : MonitorStage
  /-- The checks that were started, each with its result once it has one. -/
  checks : List (Option (Bool × Option String))
  /-- The broadcasts that were started, and if they have been made. -/
  closes : List Bool
  busRunning : Bool
  log : List MonitorEntry

inductive MonitorEvent where
  | shutdownRequest
  | tick
  | checkReturns (ch : Nat) (status : LeaseStatusAnswer)
  | result
  | broadcast (ch : Nat)
  | closed
  | busStops
  | return

def statusOf (healthy : Bool) : DeploymentStatus := if healthy then .deployed else .pending

namespace DeploymentMonitor

def start : DeploymentMonitor where
  tickch := true
  runch := none
  closech := none
  attempts := 0
  prevStatus := .unknown
  stage := .loop
  checks := []
  closes := []
  busRunning := true
  log := []

variable (cfg : MonitorConfig) (m : DeploymentMonitor)

def runCheck : DeploymentMonitor :=
  { m with
    attempts := m.attempts + 1
    checks := m.checks ++ [none]
    runch := some m.checks.length
    log := .started :: m.log }

def runCloseLease : DeploymentMonitor :=
  { m with closes := m.closes ++ [false], closech := some m.closes.length }

/-- An error of the bus is logged, and that is all. -/
def publishStatus (status : DeploymentStatus) : DeploymentMonitor :=
  if m.busRunning then { m with log := .published status :: m.log } else m

def publishOutcome (healthy : Bool) : DeploymentMonitor :=
  let currStatus := statusOf healthy
  let m := { m with runch := none, log := .checked healthy :: m.log }
  if currStatus ≠ m.prevStatus then
    { m.publishStatus currStatus with prevStatus := currStatus }
  else m

/-- The case of `runch`.  The timer of a healthy lease is set only with a period. -/
def onResult (healthy : Bool) : DeploymentMonitor :=
  let m := m.publishOutcome healthy
  if healthy then
    { m with attempts := 0, tickch := decide (cfg.monitorHealthcheckPeriod > 0) }
  else if m.attempts ≤ cfg.monitorMaxRetries then { m with tickch := true }
  else m.runCloseLease

def step : MonitorEvent → Option DeploymentMonitor
  | .shutdownRequest => if m.stage = .loop then some { m with stage := .waiting } else none
  | .tick =>
    if m.stage = .loop ∧ m.tickch then some { m with tickch := false }.runCheck else none
  | .checkReturns ch status =>
    if m.checks[ch]? = some none then
      some { m with checks := m.checks.set ch (some (doCheck cfg.services status)) }
    else none
  | .result =>
    if m.stage = .loop then
      match m.runch.bind fun ch => (m.checks[ch]?).join with
      | some (healthy, _) => some (m.onResult cfg healthy)
      | none => none
    else none
  | .broadcast ch =>
    if m.closes[ch]? = some false then
      some { m with closes := m.closes.set ch true, log := .closeBid :: m.log }
    else none
  | .closed =>
    if m.stage = .loop ∧ m.closech.any (fun ch => m.closes[ch]? = some true) then
      some { m with closech := none }
    else none
  | .busStops => some { m with busRunning := false }
  | .return =>
    if m.stage = .waiting ∧ m.runch.all (fun ch => ((m.checks[ch]?).join).isSome) ∧
        m.closech.all (fun ch => m.closes[ch]? = some true) then
      some { m with stage := .returned }
    else none

def inFlight : Nat := m.checks.countP (·.isNone)

end DeploymentMonitor

/-! ## Histories of a monitor -/

def outcomes (log : List MonitorEntry) : List Bool :=
  log.filterMap fun
    | .checked healthy => some healthy
    | _ => none

def MonitorEntry.status? : MonitorEntry → Option DeploymentStatus
  | .published status => some status
  | _ => none

def publishedStatuses (log : List MonitorEntry) : List DeploymentStatus :=
  log.filterMap (·.status?)

/-- The failures since the last healthy check. -/
def failures : List Bool → Nat
  | false :: l => failures l + 1
  | _ => 0

theorem failures_split : ∀ l : List Bool, ∃ before,
    l = List.replicate (failures l) false ++ before ∧ before.head? ≠ some false
  | [] => ⟨[], rfl, by simp⟩
  | true :: l => ⟨true :: l, rfl, by simp⟩
  | false :: l => by
    obtain ⟨before, heq, hhead⟩ := failures_split l
    grind [failures]

/-- How an entry relates to the history before it. -/
def MonitorEntry.Follows (cfg : MonitorConfig) : MonitorEntry → List MonitorEntry → Prop
  | .started, past => .closeBid ∉ past
  | .checked _, _ => True
  | .published status, past =>
    (∃ healthy, past.head? = some (.checked healthy) ∧ status = statusOf healthy) ∧
      (publishedStatuses past).head? ≠ some status
  | .closeBid, past => .closeBid ∉ past ∧ past.count .started = (outcomes past).length ∧
      failures (outcomes past) = cfg.monitorMaxRetries.toNat + 1

namespace DeploymentMonitor

variable {cfg : MonitorConfig} {m m' : DeploymentMonitor}

/-- The check that the loop waits for: one or none. -/
def waits (m : DeploymentMonitor) : Nat := if m.runch.isSome then 1 else 0

/-- Every check but the one that the loop waits for has its result. -/
inductive Settled : List (Option (Bool × Option String)) → Option Nat → Prop
  | idle {checks : List (Option (Bool × Option String))} (all : ∀ c ∈ checks, c.isSome) :
      Settled checks none
  | last {checks : List (Option (Bool × Option String))} (c : Option (Bool × Option String))
      (all : ∀ c ∈ checks, c.isSome) : Settled (checks ++ [c]) (some checks.length)

@[grind cases]
structure Inv (cfg : MonitorConfig) (m : DeploymentMonitor) : Prop where
  log : History.Always (MonitorEntry.Follows cfg) m.log
  settled : Settled m.checks m.runch
  exclusive : m.tickch = true → m.runch = none
  starts : m.log.count .started = (outcomes m.log).length + m.waits
  attempts : m.attempts = UInt64.ofNat (failures (outcomes m.log) + m.waits)
  few : m.closes = [] → cfg.monitorMaxRetries.toNat + 1 < 2 ^ 64 →
    failures (outcomes m.log) ≤ cfg.monitorMaxRetries.toNat
  closing : m.closes = [] ∨ (m.closes = [false] ∨ m.closes = [true]) ∧ m.tickch = false ∧
    m.runch = none ∧ failures (outcomes m.log) = cfg.monitorMaxRetries.toNat + 1
  sent : .closeBid ∈ m.log → m.closes = [true]
  status : m.prevStatus = ((outcomes m.log).head?.map statusOf).getD .unknown
  bus : m.busRunning = true → (publishedStatuses m.log).head? = (outcomes m.log).head?.map statusOf

theorem Inv.init (cfg : MonitorConfig) : Inv cfg start := by
  exact ⟨History.always_nil, .idle fun _ hc => absurd hc List.not_mem_nil, fun _ => rfl, rfl, rfl,
    fun _ _ => Nat.zero_le _, .inl rfl, by simp [start], rfl, fun _ => rfl⟩

/-! ## Checks in flight -/

variable {ch : Nat} {checks : List (Option (Bool × Option String))} {runch : Option Nat}

theorem Settled.returns (h : Settled checks runch) (hch : checks[ch]? = some none)
    (r : Bool × Option String) : Settled (checks.set ch (some r)) runch := by
  cases h with
  | idle all => exact absurd (all none (List.mem_of_getElem? hch)) (by simp)
  | @last checks c all =>
    have hlast : ch = checks.length := by
      by_contra hne
      have hlt : ch < checks.length := by grind
      rw [List.getElem?_append_left hlt] at hch
      exact absurd (all none (List.mem_of_getElem? hch)) (by simp)
    subst hlast
    rw [List.set_append_right _ _ (Nat.le_refl _), Nat.sub_self]
    exact .last (some r) all

theorem Settled.start (h : Settled checks none) :
    Settled (checks ++ [none]) (some checks.length) := by
  cases h with
  | idle all => exact .last none all

variable {r : Bool × Option String}

theorem Settled.receive (h : Settled checks runch)
    (hr : (runch.bind fun ch => (checks[ch]?).join) = some r) : Settled checks none := by
  cases h with
  | idle all => exact .idle all
  | @last checks c all =>
    rw [Option.bind_some, List.getElem?_concat_length, Option.join_some] at hr
    refine .idle ?_
    grind

theorem Settled.count_le (h : Settled checks runch) : checks.countP (·.isNone) ≤ 1 := by
  have hzero : ∀ l : List (Option (Bool × Option String)), (∀ c ∈ l, c.isSome) →
      l.countP (·.isNone) = 0 := by
    simp [List.countP_eq_zero, Option.isSome_iff_ne_none]
  cases h with
  | idle all => rw [hzero _ all]; exact Nat.zero_le 1
  | last c all => grind

/-! ## Outcomes -/

/-- The history with an outcome, and with its status if that is new and the bus takes it. -/
def outcomeLog (m : DeploymentMonitor) (healthy : Bool) : List MonitorEntry :=
  if statusOf healthy ≠ m.prevStatus ∧ m.busRunning = true then
    .published (statusOf healthy) :: .checked healthy :: m.log
  else .checked healthy :: m.log

theorem publishOutcome_eq (m : DeploymentMonitor) (healthy : Bool) :
    m.publishOutcome healthy =
      { m with
        runch := none
        prevStatus := statusOf healthy
        log := m.outcomeLog healthy } := by
  grind [statusOf, publishOutcome, outcomeLog, publishStatus]

@[simp] theorem outcomes_outcomeLog (m : DeploymentMonitor) (healthy : Bool) :
    outcomes (m.outcomeLog healthy) = healthy :: outcomes m.log := by
  unfold outcomeLog
  split <;> rfl

@[simp] theorem count_started_outcomeLog (m : DeploymentMonitor) (healthy : Bool) :
    (m.outcomeLog healthy).count .started = m.log.count .started := by
  unfold outcomeLog
  split <;> simp

@[simp] theorem closeBid_mem_outcomeLog (m : DeploymentMonitor) (healthy : Bool) :
    .closeBid ∈ m.outcomeLog healthy ↔ .closeBid ∈ m.log := by
  unfold outcomeLog
  split <;> simp

theorem Inv.always_outcomeLog (h : Inv cfg m) (healthy : Bool) :
    History.Always (MonitorEntry.Follows cfg) (m.outcomeLog healthy) := by
  have hchecked : History.Always (MonitorEntry.Follows cfg) (.checked healthy :: m.log) :=
    History.always_cons.mpr ⟨trivial, h.log⟩
  unfold outcomeLog
  split
  next hnew =>
    refine History.always_cons.mpr ⟨⟨⟨healthy, rfl, rfl⟩, ?_⟩, hchecked⟩
    -- while the bus runs, the status published last is the previous one
    have hlast : (publishedStatuses (.checked healthy :: m.log)).head? =
        (outcomes m.log).head?.map statusOf := h.bus hnew.2
    rw [hlast]
    intro hsame
    apply hnew.1
    rw [h.status, hsame]
    rfl
  next => exact hchecked

theorem Inv.published_outcomeLog (h : Inv cfg m) (healthy : Bool) (hbus : m.busRunning = true) :
    (publishedStatuses (m.outcomeLog healthy)).head? = some (statusOf healthy) := by
  have hlast := h.bus hbus
  have hstatus := h.status
  unfold outcomeLog
  split
  next => rfl
  next hsame =>
    have hlast : (publishedStatuses (.checked healthy :: m.log)).head? =
        (outcomes m.log).head?.map statusOf := hlast
    cases hhead : (outcomes m.log).head? <;> cases healthy <;> simp_all [statusOf]

/-! ## Steps -/

theorem Inv.closes_nil (h : Inv cfg m) (hruns : m.tickch = true ∨ m.runch ≠ none) :
    m.closes = [] := by
  all_goals grind

theorem Inv.tick (h : Inv cfg m) (htick : m.tickch = true) :
    Inv cfg ({ m with tickch := false }.runCheck) := by
  have hrunch := h.exclusive htick
  have hcloses := h.closes_nil (.inl htick)
  have hwaits : m.waits = 0 := by simp [waits, hrunch]
  have hsent : .closeBid ∉ m.log := fun hmem => by simpa [hcloses] using h.sent hmem
  have hstarts := h.starts
  have hattempts := h.attempts
  rw [hwaits] at hstarts hattempts
  exact
    { log := History.always_cons.mpr ⟨hsent, h.log⟩
      settled := (hrunch ▸ h.settled).start
      exclusive := fun htick => absurd htick (by simp [runCheck])
      starts := by simpa [runCheck, waits, outcomes] using hstarts
      attempts := by simp [runCheck, waits, outcomes, hattempts]
      few := h.few
      closing := .inl hcloses
      sent := fun hmem => h.sent ((List.mem_cons.mp hmem).resolve_left (by simp))
      status := h.status
      bus := h.bus }

/-- After an outcome, whatever is done about it: the counter, the timer and the broadcasts that
are then as they should be. -/
theorem Inv.outcome (h : Inv cfg m) (hr : (m.runch.bind fun ch => (m.checks[ch]?).join) = some r)
    (healthy tickch : Bool) (attempts : UInt64) (closes : List Bool) (closech : Option Nat)
    (hattempts : attempts = UInt64.ofNat (failures (healthy :: outcomes m.log)))
    (hcloses : closes = [] ∧ (cfg.monitorMaxRetries.toNat + 1 < 2 ^ 64 →
        failures (healthy :: outcomes m.log) ≤ cfg.monitorMaxRetries.toNat) ∨
      closes = [false] ∧ tickch = false ∧
        failures (healthy :: outcomes m.log) = cfg.monitorMaxRetries.toNat + 1) :
    Inv cfg { m.publishOutcome healthy with
      tickch := tickch, attempts := attempts, closes := closes, closech := closech } := by
  obtain ⟨ch, hrunch, -⟩ := Option.bind_eq_some_iff.mp hr
  have hnil := h.closes_nil (.inr (by simp [hrunch]))
  have hsent : .closeBid ∉ m.log := fun hmem => by simpa [hnil] using h.sent hmem
  have hstarts := h.starts
  simp only [waits, hrunch, Option.isSome_some, if_true] at hstarts
  rw [publishOutcome_eq]
  exact
    { log := h.always_outcomeLog healthy
      settled := h.settled.receive hr
      exclusive := fun _ => rfl
      starts := by simp [waits, hstarts]
      attempts := by simp [waits, hattempts]
      few := by grind [outcomes_outcomeLog]
      closing := by grind [outcomes_outcomeLog]
      sent := fun hmem => absurd ((closeBid_mem_outcomeLog m healthy).mp hmem) hsent
      status := by simp
      bus := fun hbus => by rw [h.published_outcomeLog healthy hbus, outcomes_outcomeLog]; rfl }

theorem Inv.onResult (h : Inv cfg m) (hr : (m.runch.bind fun ch => (m.checks[ch]?).join) = some r)
    (healthy : Bool) :
    Inv cfg (m.onResult cfg healthy) := by
  obtain ⟨ch, hrunch, -⟩ := Option.bind_eq_some_iff.mp hr
  have hnil := h.closes_nil (.inr (by simp [hrunch]))
  have htick : m.tickch = false := by grind
  have hfields : (m.publishOutcome healthy).tickch = false ∧
      (m.publishOutcome healthy).attempts = m.attempts ∧
      (m.publishOutcome healthy).closes = [] := by
    rw [publishOutcome_eq]
    exact ⟨htick, rfl, hnil⟩
  unfold DeploymentMonitor.onResult
  cases healthy with
  | true => exact h.outcome hr true _ 0 _ _ rfl (.inl ⟨hfields.2.2, fun _ => Nat.zero_le _⟩)
  | false =>
    have hattempts : (m.publishOutcome false).attempts =
        UInt64.ofNat (failures (outcomes m.log) + 1) := by
      rw [hfields.2.1, h.attempts]
      simp [waits, hrunch]
    have hcompare : (m.publishOutcome false).attempts ≤ cfg.monitorMaxRetries ↔
        (failures (outcomes m.log) + 1) % 2 ^ 64 ≤ cfg.monitorMaxRetries.toNat := by
      rw [hattempts, UInt64.le_iff_toNat_le, UInt64.toNat_ofNat']
    have hfew := h.few hnil
    simp only [Bool.false_eq_true, if_false]
    split
    next hle =>
      rw [hcompare] at hle
      refine h.outcome hr false true _ _ _ hattempts (.inl ⟨hfields.2.2, fun hrange => ?_⟩)
      simp only [failures]
      omega
    next hgt =>
      -- the counter has not wrapped: it is above the maximum
      rw [hcompare] at hgt
      refine h.outcome hr false _ _ _ _ hattempts (.inr ⟨by rw [hfields.2.2]; rfl, hfields.1, ?_⟩)
      simp only [failures]
      omega

theorem Inv.broadcast (h : Inv cfg m) (hch : m.closes[ch]? = some false) :
    Inv cfg { m with closes := m.closes.set ch true, log := .closeBid :: m.log } := by
  have hclosing := h.closing
  have hcloses : m.closes = [false] := by grind
  have hset : m.closes.set ch true = [true] := by grind
  obtain ⟨-, htick, hrunch, hfails⟩ := hclosing.resolve_left (by simp [hcloses])
  have hstarts := h.starts
  simp only [waits, hrunch, Option.isSome_none, Bool.false_eq_true, if_false,
    Nat.add_zero] at hstarts
  exact
    { h with
      log := History.always_cons.mpr ⟨⟨by grind, hstarts, hfails⟩, h.log⟩
      starts := by simpa [waits, hrunch, outcomes] using hstarts
      few := fun hnil => absurd (hset.symm.trans hnil) (by simp)
      closing := .inr ⟨.inr hset, htick, hrunch, hfails⟩
      sent := fun _ => hset }

theorem Inv.step (h : Inv cfg m) {e : MonitorEvent} (hstep : m.step cfg e = some m') :
    Inv cfg m' := by
  cases e with
  | shutdownRequest | closed | «return» =>
    obtain ⟨-, ⟨⟩⟩ := Option.ite_none_right_eq_some.mp hstep
    exact { h with }
  | tick =>
    obtain ⟨⟨-, htick⟩, ⟨⟩⟩ := Option.ite_none_right_eq_some.mp hstep
    exact h.tick htick
  | checkReturns ch status =>
    obtain ⟨hch, ⟨⟩⟩ := Option.ite_none_right_eq_some.mp hstep
    exact { h with settled := h.settled.returns hch _ }
  | result =>
    obtain ⟨-, hstep⟩ := Option.ite_none_right_eq_some.mp hstep
    split at hstep
    next healthy err hr =>
      obtain rfl := Option.some.inj hstep
      exact h.onResult hr healthy
    next => cases hstep
  | broadcast ch =>
    obtain ⟨hch, ⟨⟩⟩ := Option.ite_none_right_eq_some.mp hstep
    exact h.broadcast hch
  | busStops =>
    obtain rfl := Option.some.inj hstep
    exact { h with bus := fun hbus => absurd hbus (by simp) }

/-! ## Runs -/

theorem inv_of_runs (hrun : Runs (step cfg) (fun _ _ => True) start m) : Inv cfg m :=
  Runs.invariant (I := Inv cfg) (fun _ _ _ _ hstep h => h.step hstep) hrun (Inv.init cfg)

/-- In every run the bid is closed at most once, with no check in flight, after one failure in a row
more than there are retries, and no check follows.  One check at most is in flight.  Every status
that is published is that of the check before it, and is new. -/
theorem lease_closed_after_failures (hrun : Runs (step cfg) (fun _ _ => True) start m) :
    m.log.count .closeBid ≤ 1 ∧
    (∀ past, .closeBid :: past <:+ m.log →
      past.count .started = (outcomes past).length ∧
      ∃ before, outcomes past = List.replicate (cfg.monitorMaxRetries.toNat + 1) false ++ before ∧
        (before = [] ∨ before.head? = some true)) ∧
    (∀ past, .started :: past <:+ m.log → .closeBid ∉ past) ∧
    m.inFlight ≤ 1 ∧
    (∀ past status, .published status :: past <:+ m.log →
      ∃ healthy, past.head? = some (.checked healthy) ∧
        status = if healthy then .deployed else .pending) ∧
    (publishedStatuses m.log).IsChain (· ≠ ·) := by
  have h := inv_of_runs hrun
  refine ⟨?_, ?_, ?_, h.settled.count_le, ?_, ?_⟩
  · exact h.log.count_le_one fun past hfollows => hfollows.1
  · intro past hpast
    obtain ⟨-, hstarts, hfails⟩ := h.log _ _ hpast
    obtain ⟨before, hsplit, hhead⟩ := failures_split (outcomes past)
    rw [hfails] at hsplit
    refine ⟨hstarts, before, hsplit, ?_⟩
    cases before with
    | nil => exact .inl rfl
    | cons healthy before => simpa using hhead
  · intro past hpast
    exact h.log _ _ hpast
  · intro past status hpast
    exact (h.log _ _ hpast).1
  · refine h.log.isChain_ne MonitorEntry.status? ?_
    intro e past status hfollows hstatus
    cases e with
    | published status' =>
      injection hstatus with hstatus
      subst hstatus
      exact hfollows.2
    | started | checked | closeBid => cases hstatus

/-- One service of one replica, and one retry. -/
def watchedLease : MonitorConfig where
  services :=
    [{ name := "web"
       image := "nginx"
       command := []
       args := []
       env := []
       resources := ⟨1, none, none, [], none, []⟩
       count := 1
       expose := []
       params := none
       credentials := none
       interconnectGroup := "" }]
  monitorMaxRetries := 1
  monitorHealthcheckPeriod := 10

/-- A lease that comes up and then fails two checks, by an error and for want of a status. -/
def failingRun : List MonitorEvent :=
  [.tick, .checkReturns 0 (.ok [("web", ⟨0⟩)]), .result,
    .tick, .checkReturns 1 (.ok [("web", ⟨1⟩)]), .result,
    .tick, .checkReturns 2 (.error "timeout"), .result,
    .tick, .checkReturns 3 (.ok []), .result, .broadcast 0, .closed]

def failingLog : List MonitorEntry :=
  [.closeBid, .checked false, .started, .published .pending, .checked false, .started,
    .published .deployed, .checked true, .started, .published .pending, .checked false, .started]

theorem lease_closed_after_failures_two :
    ∃ m, Runs (step watchedLease) (fun _ _ => True) start m ∧ m.log = failingLog ∧
      m.log.count .closeBid ≤ 1 ∧ m.inFlight ≤ 1 := by
  have hend : (failingRun.foldlM (step watchedLease) start).map (·.log) = some failingLog := by
    decide +kernel
  obtain ⟨m, hm, hlog⟩ := Option.map_eq_some_iff.mp hend
  have hrun := Runs.of_foldlM _ _ _ hm
  obtain ⟨honce, -, -, hflight, -, -⟩ := lease_closed_after_failures hrun
  exact ⟨m, hrun, hlog, honce, hflight⟩

end DeploymentMonitor

end AkashProvider
