import AkashProvider.Lib.Run
import AkashProvider.Types.Resources

/-!
# The deployment manager

One manager per lease brings the workload in line with its manifest, and takes it down when the
lease ends.  `runch` is the channel of the operation in flight, and the state says what its result
will mean; `Inv` says how they go together.  From it the panics are out of reach
(`Inv.exit_valid`).
-/

namespace AkashProvider

/-! ## State -/

inductive DeploymentState where
  | deployActive
  | deployPending
  | deployComplete
  | teardownActive
  | teardownPending
  | teardownComplete

inductive OpKind where
  | deploy
  | teardown
deriving DecidableEq

/-- A goroutine that deploys or tears down, with the channel that its result comes on. -/
structure Op where
  ch : Nat
  kind : OpKind

/-- What is received from such a channel.  `inactive` is `errors.Is(err, ErrLeaseInactive)`. -/
inductive OpResult where
  | ok
  | err (inactive : Bool) (text : String)
deriving DecidableEq

def OpResult.isLeaseInactive : OpResult → Bool
  | .ok => false
  | .err inactive _ => inactive

/-- The text of the error, for the tenant. -/
def OpResult.messages : OpResult → List String
  | .ok => []
  | .err _ text => [text]

inductive LoopExit where
  | shutdownRequest
  | teardownDone
  /-- A panic with `INVALID STATE`. -/
  | invalidState (state : DeploymentState)

structure DeploymentManager (δ : Type) where
  state : DeploymentState
  deployment : δ
  /-- The last monitor that was started, and if it runs. -/
  monitor : Option Bool
  messages : List String
  reclaimch : Option Int
  -- variables of the loop
  runch : Option Nat
  teardownErr : OpResult
  retryTeardown : Bool
  /-- The delay that the timer is armed with. -/
  reclaimC : Option Int
  reclaimDeadline : Int
  reclaiming : Bool
  exit : Option LoopExit
  returned : Bool
  -- goroutines
  inFlight : List Op
  /-- The deadlines of the attempts to close that are in flight. -/
  reclaims : List Int
  -- what has happened so far
  started : List OpKind
  reclaimsStarted : Nat
  updates : Nat
  /-- The updates that had been accepted when the last deploy was started. -/
  deployedAt : Nat

inductive ManagerEvent (δ : Type) where
  | shutdownRequest
  /-- Somebody calls `reclaim`. -/
  | reclaim (deadline : Int)
  | reclaimReceived
  | reclaimTimer
  | reclaimResult (deadline : Int) (done : Bool) (wait : Int)
  | update (deployment : δ)
  | result (r : OpResult)
  | retryTimer
  | teardown
  /-- After the loop, when nothing is left to wait for. -/
  | return
deriving DecidableEq

namespace DeploymentManager

variable {δ : Type}

/-! ## The functions that the loop calls -/

def tearingDown (dm : DeploymentManager δ) : Bool :=
  match dm.state with
  | .teardownPending | .teardownActive | .teardownComplete => true
  | .deployActive | .deployPending | .deployComplete => false

def startMonitor (dm : DeploymentManager δ) : DeploymentManager δ :=
  { dm with monitor := some true }

def stopMonitor (dm : DeploymentManager δ) : DeploymentManager δ :=
  { dm with monitor := dm.monitor.map fun _ => false }

/-- A goroutine for the operation, and its channel. -/
def launch (dm : DeploymentManager δ) (kind : OpKind) : DeploymentManager δ × Nat :=
  ({ dm with
      inFlight := dm.inFlight ++ [⟨dm.started.length, kind⟩]
      started := kind :: dm.started }, dm.started.length)

def startDeploy (dm : DeploymentManager δ) : DeploymentManager δ × Nat :=
  launch { dm.stopMonitor with state := .deployActive, deployedAt := dm.updates } .deploy

def startTeardown (dm : DeploymentManager δ) : DeploymentManager δ × Nat :=
  launch { dm.stopMonitor with state := .teardownActive } .teardown

def handleUpdate (dm : DeploymentManager δ) : DeploymentManager δ × Option Nat :=
  match dm.state with
  | .deployActive => ({ dm with state := .deployPending }, none)
  | .deployComplete =>
    let (dm, ch) := dm.startDeploy
    (dm, some ch)
  | .deployPending | .teardownActive | .teardownPending | .teardownComplete => (dm, none)

def startReclaimAttempt (dm : DeploymentManager δ) : DeploymentManager δ :=
  if dm.reclaiming || dm.tearingDown then dm
  else
    { dm with
      reclaiming := true
      reclaims := dm.reclaims ++ [dm.reclaimDeadline]
      reclaimsStarted := dm.reclaimsStarted + 1 }

def scheduleReclaim (dm : DeploymentManager δ) (done : Bool) (wait : Int) :
    DeploymentManager δ :=
  if done then { dm with reclaimC := none } else { dm with reclaimC := some wait }

def read (start : DeploymentManager δ × Nat) : DeploymentManager δ :=
  { start.1 with runch := some start.2 }

/-- The goroutine has sent its result and is gone. -/
def received (dm : DeploymentManager δ) (ch : Nat) : DeploymentManager δ :=
  { dm with inFlight := dm.inFlight.filter (·.ch ≠ ch), runch := none }

def handleResult (dm : DeploymentManager δ) (result : OpResult) : DeploymentManager δ :=
  if result.isLeaseInactive then read dm.startTeardown
  else
    match dm.state with
    | .deployActive =>
      { startMonitor { dm with state := .deployComplete } with messages := result.messages }
    | .deployPending => read dm.startDeploy
    | .deployComplete => { dm with exit := some (.invalidState dm.state) }
    | .teardownActive =>
      match result with
      | .err _ _ => { dm with teardownErr := result, retryTeardown := true }
      | .ok =>
        { dm with
          teardownErr := result
          state := .teardownComplete
          exit := some .teardownDone }
    | .teardownPending => read dm.startTeardown
    | .teardownComplete => { dm with exit := some (.invalidState dm.state) }

def handleTeardown (dm : DeploymentManager δ) : DeploymentManager δ :=
  let dm := dm.stopMonitor
  match dm.state with
  | .deployActive | .deployPending => { dm with state := .teardownPending }
  | .deployComplete => read dm.startTeardown
  | .teardownActive | .teardownPending | .teardownComplete => dm

/-! ## The loop -/

def loopStep (dm : DeploymentManager δ) : ManagerEvent δ → Option (DeploymentManager δ)
  | .shutdownRequest => some { dm with exit := some .shutdownRequest }
  | .reclaim deadline => some { dm with reclaimch := dm.reclaimch.or (some deadline) }
  | .reclaimReceived =>
    dm.reclaimch.map fun deadline =>
      startReclaimAttempt { dm with reclaimch := none, reclaimDeadline := deadline }
  | .reclaimTimer => if dm.reclaimC.isSome then some dm.startReclaimAttempt else none
  | .reclaimResult deadline done wait =>
    if deadline ∈ dm.reclaims then
      let dm := { dm with reclaims := dm.reclaims.erase deadline, reclaiming := false }
      some (if dm.tearingDown then dm else dm.scheduleReclaim done wait)
    else none
  | .update deployment =>
    match handleUpdate { dm with deployment := deployment, updates := dm.updates + 1 } with
    | (dm, none) => some dm
    | (dm, some newch) => some { dm with runch := some newch }
  | .result r =>
    -- a nil channel is never ready, and a channel is when its goroutine has sent
    dm.runch.bind fun ch =>
      if ∃ op ∈ dm.inFlight, op.ch = ch then some ((dm.received ch).handleResult r) else none
  | .retryTimer =>
    if dm.retryTeardown then some (read (startTeardown { dm with retryTeardown := false }))
    else none
  | .teardown => some dm.handleTeardown
  | .return => none

/-- After the loop: `run` waits for the operation and for the attempt to close. -/
def exitStep (dm : DeploymentManager δ) : ManagerEvent δ → Option (DeploymentManager δ)
  | .reclaim _ => some dm
  | .reclaimResult deadline _ _ =>
    if deadline ∈ dm.reclaims then
      some { dm with reclaims := dm.reclaims.erase deadline, reclaiming := false }
    else none
  | .result _ =>
    dm.runch.bind fun ch =>
      if ∃ op ∈ dm.inFlight, op.ch = ch then some (dm.received ch) else none
  | .return =>
    if dm.runch = none ∧ dm.reclaims = [] then some { dm with returned := true } else none
  | _ => none

def step (dm : DeploymentManager δ) (e : ManagerEvent δ) : Option (DeploymentManager δ) :=
  match dm.exit with
  | none => dm.loopStep e
  | some _ => dm.exitStep e

/-- `run` begins with a deploy. -/
def start (deployment : δ) : DeploymentManager δ :=
  read (startDeploy
    { state := .deployActive
      deployment := deployment
      monitor := none
      messages := []
      reclaimch := none
      runch := none
      teardownErr := .ok
      retryTeardown := false
      reclaimC := none
      reclaimDeadline := 0
      reclaiming := false
      exit := none
      returned := false
      inFlight := []
      reclaims := []
      started := []
      reclaimsStarted := 0
      updates := 0
      deployedAt := 0 })

/-! ## The moves

What an event does, in the loop and after it; the proofs below are by cases on this. -/

inductive Move (dm : DeploymentManager δ) : ManagerEvent δ → DeploymentManager δ → Prop
  | shutdown : Move dm .shutdownRequest { dm with exit := some .shutdownRequest }
  | reclaim (deadline : Int) (reclaimch : Option Int) :
      Move dm (.reclaim deadline) { dm with reclaimch := reclaimch }
  | attempt (deadline : Int) :
      Move dm .reclaimReceived
        (startReclaimAttempt { dm with reclaimch := none, reclaimDeadline := deadline })
  | attemptAgain : Move dm .reclaimTimer dm.startReclaimAttempt
  | attempted (deadline : Int) (done : Bool) (wait : Int) (reclaimC : Option Int)
      (running : deadline ∈ dm.reclaims) :
      Move dm (.reclaimResult deadline done wait)
        { dm with
          reclaims := dm.reclaims.erase deadline
          reclaiming := false
          reclaimC := reclaimC }
  /-- A deploy runs, and there will be another. -/
  | queue (deployment : δ) (active : dm.state = .deployActive) :
      Move dm (.update deployment)
        { dm with deployment := deployment, updates := dm.updates + 1, state := .deployPending }
  | redeploy (deployment : δ) (complete : dm.state = .deployComplete) :
      Move dm (.update deployment)
        (read (startDeploy { dm with deployment := deployment, updates := dm.updates + 1 }))
  | note (deployment : δ) (active : dm.state ≠ .deployActive)
      (complete : dm.state ≠ .deployComplete) :
      Move dm (.update deployment) { dm with deployment := deployment, updates := dm.updates + 1 }
  | result (r : OpResult) (ch : Nat) (reading : dm.runch = some ch) :
      Move dm (.result r) ((dm.received ch).handleResult r)
  /-- After the loop the result is only waited for. -/
  | drain (r : OpResult) (ch : Nat) (reading : dm.runch = some ch) :
      Move dm (.result r) (dm.received ch)
  | retry (armed : dm.retryTeardown = true) :
      Move dm .retryTimer (read (startTeardown { dm with retryTeardown := false }))
  | teardown : Move dm .teardown dm.handleTeardown
  | return (idle : dm.runch = none) : Move dm .return { dm with returned := true }

section Moves

variable {dm dm' : DeploymentManager δ} {e : ManagerEvent δ}

theorem update_move {deployment : δ} (hstep : dm.loopStep (.update deployment) = some dm') :
    Move dm (.update deployment) dm' := by
  simp only [loopStep, handleUpdate] at hstep
  cases hstate : dm.state <;> simp only [hstate, Option.some_inj] at hstep <;> subst hstep
  case deployActive => exact .queue deployment hstate
  case deployComplete => exact .redeploy deployment hstate
  all_goals
    rw [← hstate]
    exact .note deployment (by simp [hstate]) (by simp [hstate])

theorem reclaimResult_move {deadline : Int} {done : Bool} {wait : Int}
    (hstep : dm.loopStep (.reclaimResult deadline done wait) = some dm') :
    Move dm (.reclaimResult deadline done wait) dm' := by
  obtain ⟨hmem, ⟨⟩⟩ := Option.ite_none_right_eq_some.mp hstep
  simp only [scheduleReclaim]
  repeat' split
  all_goals exact .attempted deadline done wait _ hmem

theorem loopStep_move (hstep : dm.loopStep e = some dm') : Move dm e dm' := by
  cases e with
  | shutdownRequest => exact Option.some.inj hstep ▸ .shutdown
  | reclaim deadline => exact Option.some.inj hstep ▸ .reclaim deadline _
  | reclaimReceived =>
    obtain ⟨deadline, -, rfl⟩ := Option.map_eq_some_iff.mp hstep
    exact .attempt deadline
  | reclaimTimer =>
    obtain ⟨-, ⟨⟩⟩ := Option.ite_none_right_eq_some.mp hstep
    exact .attemptAgain
  | reclaimResult deadline done wait => exact reclaimResult_move hstep
  | update deployment => exact update_move hstep
  | result r =>
    obtain ⟨ch, hch, hstep⟩ := Option.bind_eq_some_iff.mp hstep
    obtain ⟨-, ⟨⟩⟩ := Option.ite_none_right_eq_some.mp hstep
    exact .result r ch hch
  | retryTimer =>
    obtain ⟨harmed, ⟨⟩⟩ := Option.ite_none_right_eq_some.mp hstep
    exact .retry harmed
  | teardown => exact Option.some.inj hstep ▸ .teardown
  | «return» => cases hstep

theorem exitStep_move (hstep : dm.exitStep e = some dm') : Move dm e dm' := by
  cases e with
  | reclaim deadline =>
    injection hstep with hstep
    exact hstep ▸ .reclaim deadline dm.reclaimch
  | reclaimResult deadline done wait =>
    obtain ⟨hmem, ⟨⟩⟩ := Option.ite_none_right_eq_some.mp hstep
    exact .attempted deadline done wait dm.reclaimC hmem
  | result r =>
    obtain ⟨ch, hch, hstep⟩ := Option.bind_eq_some_iff.mp hstep
    obtain ⟨-, ⟨⟩⟩ := Option.ite_none_right_eq_some.mp hstep
    exact .drain r ch hch
  | «return» =>
    obtain ⟨hidle, ⟨⟩⟩ := Option.ite_none_right_eq_some.mp hstep
    exact .return hidle.1
  | shutdownRequest | reclaimReceived | reclaimTimer | update _ | retryTimer | teardown =>
    cases hstep

theorem step_move (hstep : dm.step e = some dm') : Move dm e dm' := by
  simp only [step] at hstep
  split at hstep
  · exact loopStep_move hstep
  · exact exitStep_move hstep

end Moves

/-! ## The invariant -/

/-- How the state, the channels and the goroutines go together. -/
@[grind cases]
structure Inv (dm : DeploymentManager δ) : Prop where
  /-- The operation in flight is the one whose result the loop reads. -/
  inFlight : dm.inFlight.map (·.ch) = dm.runch.toList
  idle : dm.state = .deployComplete ∨ dm.state = .teardownComplete → dm.runch = none
  current : dm.state = .deployActive ∨ dm.state = .deployComplete → dm.deployedAt = dm.updates
  retry : dm.retryTeardown = true → dm.state = .teardownActive ∧ dm.runch = none
  reclaims : dm.reclaims.length = if dm.reclaiming then 1 else 0
  exit_valid : ∀ state, dm.exit ≠ some (.invalidState state)

namespace Inv

variable {dm : DeploymentManager δ}

theorem inFlight_eq_nil (h : dm.Inv) (hidle : dm.runch = none) : dm.inFlight = [] := by
  have hnil := h.inFlight
  simp_all

theorem one_op (h : dm.Inv) : dm.inFlight.length ≤ 1 := by
  rw [← List.length_map (f := (·.ch)), h.inFlight]
  cases dm.runch <;> simp

theorem one_reclaim (h : dm.Inv) : dm.reclaims.length ≤ 1 := by
  rw [h.reclaims]
  split <;> omega

theorem received (h : dm.Inv) {ch : Nat} (hch : dm.runch = some ch) : (dm.received ch).Inv := by
  refine ⟨?_, fun _ => rfl, h.current, fun hretry => ⟨(h.retry hretry).1, rfl⟩, h.reclaims,
    h.exit_valid⟩
  have hmap := h.inFlight
  rw [hch] at hmap
  obtain ⟨op, hop, hopch⟩ := List.map_eq_singleton_iff.mp hmap
  simp [DeploymentManager.received, hop, hopch]

theorem startDeploy (hidle : dm.inFlight = []) (hretry : dm.retryTeardown = false)
    (hreclaims : dm.reclaims.length = if dm.reclaiming then 1 else 0)
    (hexit : ∀ state, dm.exit ≠ some (.invalidState state)) : (read dm.startDeploy).Inv := by
  constructor <;> simp_all [read, DeploymentManager.startDeploy, launch, stopMonitor]

theorem startTeardown (hidle : dm.inFlight = []) (hretry : dm.retryTeardown = false)
    (hreclaims : dm.reclaims.length = if dm.reclaiming then 1 else 0)
    (hexit : ∀ state, dm.exit ≠ some (.invalidState state)) : (read dm.startTeardown).Inv := by
  constructor <;> simp_all [read, DeploymentManager.startTeardown, launch, stopMonitor]

theorem retryTeardown_eq_false (h : dm.Inv) (hstate : dm.state ≠ .teardownActive) :
    dm.retryTeardown = false :=
  Bool.eq_false_iff.mpr fun hretry => hstate (h.retry hretry).1

theorem handleResult (h : dm.Inv) (hidle : dm.runch = none) (hretry : dm.retryTeardown = false)
    (hdeploy : dm.state ≠ .deployComplete) (hteardown : dm.state ≠ .teardownComplete)
    (r : OpResult) : (dm.handleResult r).Inv := by
  have hteardown' := startTeardown (h.inFlight_eq_nil hidle) hretry h.reclaims h.exit_valid
  unfold DeploymentManager.handleResult
  split
  · exact hteardown'
  · split
    · -- deploy-active: marked complete whatever the result
      next hstate =>
      exact ⟨h.inFlight, fun _ => hidle, fun _ => h.current (.inl hstate),
        fun hr => absurd hr (Bool.eq_false_iff.mp hretry), h.reclaims, h.exit_valid⟩
    · exact startDeploy (h.inFlight_eq_nil hidle) hretry h.reclaims h.exit_valid
    · next hstate => exact absurd hstate hdeploy
    · next hstate =>
      split
      · exact ⟨h.inFlight, h.idle, h.current, fun _ => ⟨hstate, hidle⟩, h.reclaims, h.exit_valid⟩
      · refine ⟨h.inFlight, fun _ => hidle, ?_, ?_, h.reclaims, ?_⟩
        all_goals grind
    · exact hteardown'
    · next hstate => exact absurd hstate hteardown

theorem handleTeardown (h : dm.Inv) : dm.handleTeardown.Inv := by
  have hstop : dm.stopMonitor.Inv :=
    ⟨h.inFlight, h.idle, h.current, h.retry, h.reclaims, h.exit_valid⟩
  -- a deploy that runs is waited for
  have hwait : dm.state ≠ .teardownActive →
      Inv { dm.stopMonitor with state := .teardownPending } := fun hstate =>
    ⟨h.inFlight, fun hs => by simp at hs, fun hs => by simp at hs,
      fun hr => absurd (h.retry hr).1 hstate, h.reclaims, h.exit_valid⟩
  simp only [DeploymentManager.handleTeardown]
  split
  · next hstate => exact hwait fun hs => by cases hs.symm.trans hstate
  · next hstate => exact hwait fun hs => by cases hs.symm.trans hstate
  · next hstate =>
    exact startTeardown (hstop.inFlight_eq_nil (hstop.idle (.inl hstate)))
      (hstop.retryTeardown_eq_false fun hs => by cases hs.symm.trans hstate) hstop.reclaims
      hstop.exit_valid
  all_goals exact hstop

theorem startReclaimAttempt (h : dm.Inv) : dm.startReclaimAttempt.Inv := by
  simp only [DeploymentManager.startReclaimAttempt]
  split
  · exact h
  · refine ⟨h.inFlight, h.idle, h.current, h.retry, ?_, h.exit_valid⟩
    have hlength := h.reclaims
    simp_all

theorem reclaimReceived (h : dm.Inv) {deadline : Int} (hmem : deadline ∈ dm.reclaims)
    (reclaimC : Option Int) :
    Inv { dm with
      reclaims := dm.reclaims.erase deadline, reclaiming := false, reclaimC := reclaimC } := by
  refine ⟨h.inFlight, h.idle, h.current, h.retry, ?_, h.exit_valid⟩
  grind [one_reclaim]

theorem move (h : dm.Inv) {e : ManagerEvent δ} {dm' : DeploymentManager δ}
    (hmove : Move dm e dm') : dm'.Inv := by
  cases hmove with
  | shutdown =>
    exact ⟨h.inFlight, h.idle, h.current, h.retry, h.reclaims, fun _ hexit => by simp at hexit⟩
  | reclaim | «return» => exact ⟨h.inFlight, h.idle, h.current, h.retry, h.reclaims, h.exit_valid⟩
  | attempt deadline =>
    have hset : Inv { dm with reclaimch := none, reclaimDeadline := deadline } :=
      ⟨h.inFlight, h.idle, h.current, h.retry, h.reclaims, h.exit_valid⟩
    exact hset.startReclaimAttempt
  | attemptAgain => exact h.startReclaimAttempt
  | attempted deadline done wait reclaimC hmem => exact h.reclaimReceived hmem reclaimC
  | queue deployment hstate =>
    refine ⟨h.inFlight, fun hs => by simp at hs, fun hs => by simp at hs, fun hr => ?_,
      h.reclaims, h.exit_valid⟩
    cases hstate.symm.trans (h.retry hr).1
  | redeploy deployment hstate =>
    exact startDeploy (h.inFlight_eq_nil (h.idle (.inl hstate)))
      (h.retryTeardown_eq_false fun hs => by cases hs.symm.trans hstate) h.reclaims h.exit_valid
  | note deployment hactive hcomplete =>
    exact ⟨h.inFlight, h.idle, fun hs => (hs.elim hactive hcomplete).elim, h.retry, h.reclaims,
      h.exit_valid⟩
  | result r ch hch =>
    have hbusy : dm.runch ≠ none := by
      rw [hch]
      exact Option.some_ne_none ch
    exact (h.received hch).handleResult rfl
      (Bool.eq_false_iff.mpr fun hr => hbusy (h.retry hr).2)
      (fun hs => hbusy (h.idle (.inl hs))) (fun hs => hbusy (h.idle (.inr hs))) r
  | drain r ch hch => exact h.received hch
  | retry harmed =>
    exact startTeardown (h.inFlight_eq_nil (h.retry harmed).2) rfl h.reclaims h.exit_valid
  | teardown => exact h.handleTeardown

theorem start (deployment : δ) : (DeploymentManager.start deployment).Inv :=
  ⟨rfl, fun hs => (by cases hs <;> contradiction), fun _ => rfl, fun hr => (by cases hr), rfl,
    fun _ hexit => (by cases hexit)⟩

end Inv

/-! ## Tearing down -/

/-- Teardown goes on, and neither a deploy nor an attempt to close has started since. -/
@[grind cases]
structure StaysClosing (dm dm' : DeploymentManager δ) : Prop where
  tearingDown : dm'.tearingDown = true
  deploys : dm'.started.count .deploy = dm.started.count .deploy
  reclaimsStarted : dm'.reclaimsStarted = dm.reclaimsStarted

namespace StaysClosing

variable {dm dm' : DeploymentManager δ}

theorem refl (h : dm.tearingDown = true) : StaysClosing dm dm := ⟨h, rfl, rfl⟩

theorem trans {dm'' : DeploymentManager δ} (h : StaysClosing dm dm') (h' : StaysClosing dm' dm'') :
    StaysClosing dm dm'' :=
  ⟨h'.tearingDown, h'.deploys.trans h.deploys, h'.reclaimsStarted.trans h.reclaimsStarted⟩

theorem startTeardown (dm : DeploymentManager δ) : StaysClosing dm (read dm.startTeardown) :=
  ⟨rfl, List.count_cons_of_ne (by decide), rfl⟩

theorem startReclaimAttempt (h : dm.tearingDown = true) : dm.startReclaimAttempt = dm := by
  simp [DeploymentManager.startReclaimAttempt, h]

theorem handleResult (h : dm.tearingDown = true) (r : OpResult) :
    StaysClosing dm (dm.handleResult r) := by
  unfold DeploymentManager.handleResult
  repeat' split
  all_goals first
    | exact startTeardown dm
    | exact ⟨h, rfl, rfl⟩
    | exact ⟨rfl, rfl, rfl⟩
    | simp_all [DeploymentManager.tearingDown]

theorem handleTeardown (h : dm.tearingDown = true) : StaysClosing dm dm.handleTeardown := by
  simp only [DeploymentManager.handleTeardown]
  split
  · exact ⟨rfl, rfl, rfl⟩
  · exact ⟨rfl, rfl, rfl⟩
  · next hstate =>
    have hstate : dm.state = .deployComplete := hstate
    simp [DeploymentManager.tearingDown, hstate] at h
  all_goals exact ⟨h, rfl, rfl⟩

theorem not_deploying (h : dm.tearingDown = true) :
    dm.state ≠ .deployActive ∧ dm.state ≠ .deployComplete := by
  refine ⟨fun hstate => ?_, fun hstate => ?_⟩ <;>
    simp [DeploymentManager.tearingDown, hstate] at h

theorem move (h : dm.tearingDown = true) {e : ManagerEvent δ} (hmove : Move dm e dm') :
    StaysClosing dm dm' := by
  cases hmove with
  | shutdown | reclaim | attempted | note | drain | «return» => exact ⟨h, rfl, rfl⟩
  | attempt deadline =>
    have hset : DeploymentManager.tearingDown
      { dm with reclaimch := none, reclaimDeadline := deadline } = true := h
    rw [startReclaimAttempt hset]
    exact ⟨h, rfl, rfl⟩
  | attemptAgain =>
    rw [startReclaimAttempt h]
    exact refl h
  | queue deployment hstate => exact absurd hstate (not_deploying h).1
  | redeploy deployment hstate => exact absurd hstate (not_deploying h).2
  | result r ch _ =>
    have hreceived : StaysClosing dm (dm.received ch) := ⟨h, rfl, rfl⟩
    exact hreceived.trans (handleResult hreceived.tearingDown r)
  | retry _ =>
    have hoff : StaysClosing dm { dm with retryTeardown := false } := ⟨h, rfl, rfl⟩
    exact hoff.trans (startTeardown _)
  | teardown => exact handleTeardown h

end StaysClosing

/-! ## What a step changes

As far as the goroutine of a deploy can see it. -/

/-- Either an operation was started and is read now, or none was. -/
structure Moved (dm : DeploymentManager δ) (e : ManagerEvent δ) (dm' : DeploymentManager δ) :
    Prop where
  deployment : (∀ d, e ≠ .update d) → dm'.deployment = dm.deployment
  started : (∃ kind, dm'.started = kind :: dm.started ∧ dm'.runch ≠ none) ∨
    (dm'.started = dm.started ∧ ((∀ r, e ≠ .result r) → dm'.runch = dm.runch))

namespace Moved

variable {dm dm' : DeploymentManager δ} {e : ManagerEvent δ}

theorem launched {kind : OpKind} (hdeployment : dm'.deployment = dm.deployment)
    (hstarted : dm'.started = kind :: dm.started) (hrunch : dm'.runch ≠ none) :
    Moved dm e dm' :=
  ⟨fun _ => hdeployment, .inl ⟨kind, hstarted, hrunch⟩⟩

theorem quiet (hdeployment : dm'.deployment = dm.deployment) (hstarted : dm'.started = dm.started)
    (hrunch : (∀ r, e ≠ .result r) → dm'.runch = dm.runch) : Moved dm e dm' :=
  ⟨fun _ => hdeployment, .inr ⟨hstarted, hrunch⟩⟩

theorem startReclaimAttempt (dm : DeploymentManager δ) :
    Moved dm e dm.startReclaimAttempt := by
  simp only [DeploymentManager.startReclaimAttempt]
  split <;> exact quiet rfl rfl fun _ => rfl

theorem handleResult (dm : DeploymentManager δ) (ch : Nat) (r : OpResult) :
    Moved dm (.result r) ((dm.received ch).handleResult r) := by
  have hquiet : ∀ dm' : DeploymentManager δ, dm'.deployment = dm.deployment →
      dm'.started = dm.started → Moved dm (.result r) dm' :=
    fun _ hdeployment hstarted => quiet hdeployment hstarted fun hs => absurd rfl (hs r)
  unfold DeploymentManager.handleResult
  repeat' split
  all_goals first
    | exact hquiet _ rfl rfl
    | exact launched rfl rfl (Option.some_ne_none _)

theorem handleTeardown (dm : DeploymentManager δ) : Moved dm e dm.handleTeardown := by
  simp only [DeploymentManager.handleTeardown]
  split
  · exact quiet rfl rfl fun _ => rfl
  · exact quiet rfl rfl fun _ => rfl
  · exact launched rfl rfl (Option.some_ne_none _)
  all_goals exact quiet rfl rfl fun _ => rfl

theorem move (hmove : Move dm e dm') : Moved dm e dm' := by
  cases hmove with
  | shutdown | reclaim | attempted | «return» => exact quiet rfl rfl fun _ => rfl
  | attempt deadline =>
    obtain ⟨hdeployment, hstarted⟩ := startReclaimAttempt (e := .reclaimReceived)
      { dm with reclaimch := none, reclaimDeadline := deadline }
    exact ⟨hdeployment, hstarted⟩
  | attemptAgain => exact startReclaimAttempt dm
  | queue deployment | note deployment =>
    exact ⟨fun hs => absurd rfl (hs deployment), .inr ⟨rfl, fun _ => rfl⟩⟩
  | redeploy deployment =>
    exact ⟨fun hs => absurd rfl (hs deployment), .inl ⟨.deploy, rfl, Option.some_ne_none _⟩⟩
  | result r ch _ => exact handleResult dm ch r
  | drain r ch _ => exact quiet rfl rfl fun hs => absurd rfl (hs r)
  | retry _ => exact launched rfl rfl (Option.some_ne_none _)
  | teardown => exact handleTeardown dm

end Moved

variable {deployment : δ} {dm dm' : DeploymentManager δ}

theorem update_deployment (hstep : dm.step (.update deployment) = some dm') :
    dm'.deployment = deployment := by
  cases step_move hstep <;> rfl

theorem idle_of_return (hstep : dm.step .return = some dm') :
    dm.runch = none := by
  cases step_move hstep with
  | «return» hidle => exact hidle

/-! ## Every run -/

theorem inv_of_runs {dm : DeploymentManager δ}
    (hrun : Runs step (fun _ _ => True) (start deployment) dm) : dm.Inv :=
  hrun.invariant (fun _ _ _ _ hstep h => h.move (step_move hstep)) (Inv.start deployment)

theorem staysClosing_of_runs (h : dm.tearingDown = true)
    (hrun : Runs step (fun _ _ => True) dm dm') : StaysClosing dm dm' :=
  hrun.invariant (I := StaysClosing dm)
    (fun _ _ _ _ hstep hstays => hstays.trans (.move hstays.tearingDown (step_move hstep)))
    (StaysClosing.refl h)

/-- In every run: no panic, one operation and one attempt to close at most; a complete deploy is of
the last update; and from a teardown on neither is started. -/
theorem manager_run_safe {deployment : δ} {dm dm' : DeploymentManager δ}
    (hrun : Runs step (fun _ _ => True) (start deployment) dm)
    (hrest : Runs step (fun _ _ => True) dm dm') :
    (∀ state, dm.exit ≠ some (.invalidState state)) ∧
    dm.inFlight.length ≤ 1 ∧
    (dm.state = .deployComplete → dm.deployedAt = dm.updates) ∧
    dm.reclaims.length ≤ 1 ∧
    (dm.tearingDown = true → dm'.tearingDown = true ∧
      dm'.started.count .deploy = dm.started.count .deploy ∧
      dm'.reclaimsStarted = dm.reclaimsStarted) := by
  have hinv := inv_of_runs hrun
  refine ⟨hinv.exit_valid, hinv.one_op, fun hstate => hinv.current (.inr hstate),
    hinv.one_reclaim, fun htear => ?_⟩
  have hstays := staysClosing_of_runs htear hrest
  exact ⟨hstays.tearingDown, hstays.deploys, hstays.reclaimsStarted⟩

/-- The manager after some events, each of which can come. -/
def after (dm : DeploymentManager δ) (events : List (ManagerEvent δ)) : DeploymentManager δ :=
  (events.foldlM step dm).getD dm

/-- Two updates came while the first deploy ran, then a deadline and a teardown request. -/
def closingManager : DeploymentManager Nat :=
  after (start 0) [.update 1, .update 2, .result .ok, .result .ok, .reclaim 7, .reclaimReceived,
    .teardown]

/-- The teardown fails once, and another update comes meanwhile. -/
def closedManager : DeploymentManager Nat :=
  after closingManager [.update 3, .reclaimResult 7 false 5, .result (.err false "timeout"),
    .retryTimer, .result .ok]

theorem manager_run_safe_closed :
    closingManager.tearingDown = true ∧ closingManager.started.count .deploy = 2 ∧
      closedManager.exit = some .teardownDone ∧ closedManager.started.count .deploy = 2 ∧
      closedManager.reclaimsStarted = 1 := by
  have hrun : Runs step (fun _ _ => True) (start 0) closingManager :=
    Runs.of_foldlM [.update 1, .update 2, .result .ok, .result .ok, .reclaim 7, .reclaimReceived,
      .teardown] _ _ rfl
  have hrest : Runs step (fun _ _ => True) closingManager closedManager :=
    Runs.of_foldlM [.update 3, .reclaimResult 7 false 5, .result (.err false "timeout"),
      .retryTimer, .result .ok] _ _ rfl
  obtain ⟨-, -, -, -, hclosing⟩ := manager_run_safe hrun hrest
  obtain ⟨-, hdeploys, hreclaims⟩ := hclosing rfl
  exact ⟨rfl, rfl, rfl, hdeploys, hreclaims⟩

/-! ## The end of `run` -/

/-- `run` has not returned, or it has waited for what it started. -/
def Waited (dm : DeploymentManager δ) : Prop :=
  dm.returned = true → dm.exit ≠ none ∧ dm.runch = none ∧ dm.reclaims = []

theorem Move.returned {e : ManagerEvent δ} (h : Move dm e dm') (he : e ≠ .return) :
    dm'.returned = dm.returned := by
  cases h with
  | attempt | attemptAgain =>
    simp only [startReclaimAttempt]
    split <;> rfl
  | result =>
    unfold handleResult
    repeat' split
    all_goals rfl
  | teardown =>
    simp only [handleTeardown]
    split <;> rfl
  | «return» => exact absurd rfl he
  | _ => rfl

theorem Waited.step {e : ManagerEvent δ} (h : dm.Waited) (hstep : dm.step e = some dm') :
    dm'.Waited := by
  intro hret
  by_cases he : e = .return
  · subst he
    cases hexit : dm.exit with
    | none => simp [DeploymentManager.step, hexit, loopStep] at hstep
    | some reason =>
      simp only [DeploymentManager.step, hexit] at hstep
      obtain ⟨hidle, ⟨⟩⟩ := Option.ite_none_right_eq_some.mp hstep
      exact ⟨by simp [hexit], hidle⟩
  · -- after the loop, what comes in leaves a manager idle that was idle
    obtain ⟨hexit, hch, hreclaims⟩ := h ((step_move hstep).returned he ▸ hret)
    cases e <;> grind [DeploymentManager.step, exitStep]

/-- When `run` has returned, no deploy, teardown or attempt to close goes on. -/
theorem returned_nothing_in_flight {deployment : δ} {dm : DeploymentManager δ}
    (hrun : Runs step (fun _ _ => True) (start deployment) dm) (hret : dm.returned = true) :
    dm.inFlight = [] ∧ dm.reclaims = [] := by
  have hwaited : dm.Waited :=
    hrun.invariant (fun _ _ _ _ hstep h => h.step hstep) fun h => by cases h
  obtain ⟨-, hch, hreclaims⟩ := hwaited hret
  exact ⟨(inv_of_runs hrun).inFlight_eq_nil hch, hreclaims⟩

/-- The provider shuts down while an update is deployed and a deadline has come. -/
theorem returned_after_shutdown : ∃ dm : DeploymentManager Nat,
    dm.started = [.deploy, .deploy] ∧ dm.returned = true ∧ dm.inFlight = [] ∧ dm.reclaims = [] :=
  ⟨_, rfl, rfl, returned_nothing_in_flight (Runs.of_foldlM [.result .ok, .update 1, .reclaim 7,
    .reclaimReceived, .shutdownRequest, .reclaimResult 7 false 5, .result .ok, .return]
    (start 0) _ rfl) rfl⟩

end DeploymentManager

end AkashProvider
