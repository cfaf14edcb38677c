import AkashProvider.Manifest.Requests

/-!
# Timers of the manifest service

The test before the timer of an idle manager is created asks for a timer that is there already
(`idle_without_timer`).  Where a timer is stopped, its channel is read if `Stop` has kept it from
firing, and nothing comes.  Watchdogs are kept by deployment, so a second lease finds the entry of
the first and is not watched (`second_lease_unwatched`).
-/

namespace AkashProvider

namespace ManifestManager

/-! ## The stop timer -/

variable {cfg : ManifestConfig} {S : ManagerSdk} {s s' : ManifestManager} {e : ManifestEvent}

def Idle (s : ManifestManager) : Prop := s.localLeases = [] ∧ s.manifests = []

/-- With this timer the manager goes on, and it can be shut down. -/
def NeverBlocks (s : ManifestManager) (timer : Option StopTimer) : Prop :=
  { s with stoptimer := timer }.maybeScheduleStop.stage ≠ .blocked ∧
    { s with stoptimer := timer }.finish.stage ≠ .blocked

theorem Reachable.waiting (h : Reachable cfg S s) : Waiting s :=
  Runs.invariant (I := Waiting) (fun _ _ _ _ hstep hs => (step_requests hs hstep).1) h
    ⟨⟨rfl, rfl, .inl rfl, nofun, nofun⟩, fun hne => absurd rfl hne⟩

theorem neverBlocks_iff (hloop : s.stage = .looping) (timer : Option StopTimer) :
    NeverBlocks s timer ↔ timer ≠ some .armed := by
  unfold NeverBlocks maybeScheduleStop finish fillAllRequests
  cases timer with
  | none => simp [hloop]
  | some timer => cases timer <;> grind

/-- A manager that is idle is never on a timer, and an armed timer would block it. -/
theorem idle_on_timer_iff (h : Reachable cfg S s) (hstep : step cfg S s e = some s')
    (hloop : s'.stage = .looping) (timer : Option StopTimer) :
    ((s'.Idle ↔ s'.stoptimer = some .armed) ∧ NeverBlocks s' timer) ↔
      ¬ s'.Idle ∧ timer ≠ some .armed := by
  have htimer : s'.stoptimer = none := (step_requests h.waiting hstep).1.timer
  rw [neverBlocks_iff hloop, htimer]
  simp

/-- A manager that has read a lease is not idle. -/
theorem idle_on_timer_with_lease : ∃ s s', Reachable someManifestConfig someSdk s ∧
    step someManifestConfig someSdk s (.read (someAnswers [1] ["7"]) 1 someEnv) = some s' ∧
      (s'.Idle ↔ s'.stoptimer = some .armed) ∧ NeverBlocks s' (some .fired) := by
  obtain ⟨s, hrun⟩ : ∃ s, [ManifestEvent.lease 0].foldlM (step someManifestConfig someSdk) start =
    some s := ⟨_, rfl⟩
  have hreach : Reachable someManifestConfig someSdk s := Runs.of_foldlM _ _ _ hrun
  cases hrun
  refine ⟨_, _, hreach, rfl, ?_⟩
  refine (idle_on_timer_iff (e := .read (someAnswers [1] ["7"]) 1 someEnv) hreach rfl ?_ _).mpr ?_
  · rfl
  · exact ⟨fun h => absurd h.1 (by decide), by decide⟩

/-- A manager whose last lease is removed is idle with no timer, and shutting down one with an
armed timer blocks. -/
theorem idle_without_timer : ∃ s', step someManifestConfig someSdk start .removeLease = some s' ∧
    s'.stage = .looping ∧ s'.Idle ∧ s'.stoptimer = none ∧ ¬ NeverBlocks s' (some .armed) :=
  ⟨_, rfl, rfl, ⟨rfl, rfl⟩, rfl, fun h => h.2 rfl⟩

end ManifestManager

/-! ## Watchdogs -/

/-- The owner and the sequence number of a deployment. -/
abbrev WatchKey := String × UInt64

def LeaseID.deployment (id : LeaseID) : WatchKey := (id.owner, id.dseq)

structure Watchdog where
  leaseID : LeaseID
  /-- `stop` was called. -/
  stopping : Bool
  /-- The timeout has passed, and the bid is being closed. -/
  expired : Bool
  /-- It has ended, and the service has not been told. -/
  done : Bool

def Watchdog.Live (w : Watchdog) : Prop :=
  w.stopping = false ∧ w.expired = false ∧ w.done = false

structure WatchService where
  managers : List WatchKey
  watchdogs : WatchKey → Option Watchdog
  /-- A record: the leases that were won, with no manifest submitted and no manager stopped for
  their deployments since, and whose own watchdogs have not expired. -/
  unserved : List LeaseID

inductive WatchEvent where
  | leaseWon (id : LeaseID)
  | submit (did : WatchKey)
  | managerDone (did : WatchKey)
  | watchdogDone (did : WatchKey)
  /-- The timeout of a watchdog passes. -/
  | expire (did : WatchKey)
  /-- A watchdog ends: it was stopped, or the bid has been closed. -/
  | ended (did : WatchKey)

namespace WatchService

def start : WatchService := ⟨[], fun _ => none, []⟩

def maybeRemoveWatchdog (s : WatchService) (did : WatchKey) : WatchService :=
  { s with watchdogs := fun k =>
      if k = did then (s.watchdogs did).map fun w => { w with stopping := true }
      else s.watchdogs k }

def ensureManager (s : WatchService) (did : WatchKey) : WatchService :=
  if did ∈ s.managers then s else { s with managers := did :: s.managers }

def setWatchdog (s : WatchService) (did : WatchKey) (w : Option Watchdog) : WatchService :=
  { s with watchdogs := fun k => if k = did then w else s.watchdogs k }

/-- A lease of `LeaseWon` is new. -/
def handleLease (timeout : Int) (s : WatchService) (id : LeaseID) : WatchService :=
  (if 0 < timeout ∧ s.watchdogs id.deployment = none then
    s.setWatchdog id.deployment (some ⟨id, false, false, false⟩)
  else s).ensureManager id.deployment

/-- The leases of the deployment need no watchdog any more. -/
def served (s : WatchService) (did : WatchKey) : WatchService :=
  { s with unserved := s.unserved.filter (·.deployment ≠ did) }

def step (provider : String) (timeout : Int) (s : WatchService) :
    WatchEvent → Option WatchService
  | .leaseWon id =>
    if id.provider ≠ provider then some s
    else some { s.handleLease timeout id with unserved := id :: s.unserved }
  | .submit did => some (((s.maybeRemoveWatchdog did).ensureManager did).served did)
  | .managerDone did =>
    if did ∈ s.managers then
      some (({ s with managers := s.managers.erase did }.maybeRemoveWatchdog did).served did)
    else none
  | .watchdogDone did =>
    match s.watchdogs did with
    | none => none
    | some w => if w.done then some (s.setWatchdog did none) else none
  | .expire did =>
    match s.watchdogs did with
    | none => none
    | some w =>
      if w.expired || w.done then none
      else some { s.setWatchdog did (some { w with expired := true }) with
        unserved := s.unserved.filter (· ≠ w.leaseID) }
  | .ended did =>
    match s.watchdogs did with
    | none => none
    | some w =>
      if (w.expired || w.stopping) && !w.done then
        some (s.setWatchdog did (some { w with done := true }))
      else none

/-- Every lease of the record has a live watchdog of its own. -/
def Watched (s : WatchService) : Prop :=
  ∀ id ∈ s.unserved, ∃ w, s.watchdogs id.deployment = some w ∧ w.leaseID = id ∧ w.Live

/-- A lease that is won finds no entry for its deployment, or a live one of its own. -/
def OwnEntry (provider : String) (s : WatchService) : WatchEvent → Prop
  | .leaseWon id => id.provider = provider →
    ∀ w, s.watchdogs id.deployment = some w → w.leaseID = id ∧ w.Live
  | _ => True

variable {provider : String} {timeout : Int} {s s' : WatchService} {e : WatchEvent}

@[simp] theorem watchdogs_ensureManager (s : WatchService) (did : WatchKey) :
    (s.ensureManager did).watchdogs = s.watchdogs ∧
      (s.ensureManager did).unserved = s.unserved := by
  unfold ensureManager
  split <;> exact ⟨rfl, rfl⟩

theorem watchdogs_handleLease (hpos : 0 < timeout) (s : WatchService) (id : LeaseID)
    (did : WatchKey) : (s.handleLease timeout id).watchdogs did =
      if did = id.deployment then
        some ((s.watchdogs id.deployment).getD ⟨id, false, false, false⟩)
      else s.watchdogs did := by
  unfold handleLease
  cases hw : s.watchdogs id.deployment <;> grind [watchdogs_ensureManager, setWatchdog]

theorem watched_served (h : Watched s) (did : WatchKey) :
    Watched ((s.maybeRemoveWatchdog did).served did) := by
  intro id hid
  obtain ⟨hmem, hne⟩ := List.mem_filter.mp hid
  obtain ⟨w, hw, hown⟩ := h id hmem
  exact ⟨w, (if_neg (of_decide_eq_true hne)).trans hw, hown⟩

/-- An entry can change if its lease is not in the record any more. -/
theorem watched_setWatchdog {w : Option Watchdog} {did : WatchKey} (h : Watched s)
    (hsub : ∀ id ∈ s'.unserved, id ∈ s.unserved ∧ id.deployment ≠ did)
    (hs' : s'.watchdogs = (s.setWatchdog did w).watchdogs) : Watched s' := by
  intro id hid
  obtain ⟨hmem, hne⟩ := hsub id hid
  obtain ⟨w, hw, hown⟩ := h id hmem
  exact ⟨w, by rw [hs', ← hw]; exact if_neg hne, hown⟩

theorem watched_step (hpos : 0 < timeout) (h : Watched s) (hown : OwnEntry provider s e)
    (hstep : step provider timeout s e = some s') : Watched s' := by
  cases e with
  | leaseWon id' =>
    simp only [step, OwnEntry] at hstep hown
    split at hstep
    · grind
    next hp =>
    cases hstep
    intro id hid
    simp only [watchdogs_handleLease hpos]
    rcases List.mem_cons.mp hid with rfl | hid
    · refine ⟨_, if_pos rfl, ?_⟩
      cases hw : s.watchdogs id.deployment with
      | none => exact ⟨rfl, rfl, rfl, rfl⟩
      | some w => exact hown (not_not.mp hp) w hw
    · obtain ⟨w, hw, hid⟩ := h id hid
      exact ⟨w, by grind, hid⟩
  | submit did =>
    cases hstep
    unfold ensureManager
    split <;> exact watched_served h did
  | managerDone did => grind [watched_served, Watched, OwnEntry, step]
  | watchdogDone did | expire did | ended did =>
    simp only [step] at hstep
    cases hw : s.watchdogs did with
    | none => simp [hw] at hstep
    | some w =>
      have hlive : ∀ id ∈ s.unserved, id.deployment = did → w.leaseID = id ∧ w.Live := by
        grind [Watched]
      simp only [hw] at hstep
      split at hstep <;> cases hstep
      exact watched_setWatchdog h (by grind [Watchdog.Live, setWatchdog]) rfl

theorem new_leases_watched (hpos : 0 < timeout)
    (h : Runs (step provider timeout) (OwnEntry provider) start s) : Watched s :=
  h.invariant (I := Watched) (fun _ _ _ hown hstep hs => watched_step hpos hs hown hstep) nofun

def firstLease : LeaseID := ⟨"tenant", 1, 1, 1, "provider"⟩
def secondLease : LeaseID := ⟨"tenant", 1, 2, 1, "provider"⟩

theorem new_leases_watched_first : ∃ s,
    Runs (step "provider" 5) (OwnEntry "provider") start s ∧ s.unserved = [firstLease] ∧
      Watched s := by
  have hrun : Runs (step "provider" 5) (OwnEntry "provider") start _ :=
    (Runs.refl start).next (.leaseWon firstLease) (by rintro - w ⟨⟩) rfl
  exact ⟨_, hrun, rfl, new_leases_watched (by decide) hrun⟩

/-- The second lease of a deployment finds the watchdog of the first. -/
theorem second_lease_unwatched : ∃ s,
    Runs (step "provider" 5) (fun _ _ => True) start s ∧ s.unserved = [secondLease, firstLease] ∧
      (s.watchdogs secondLease.deployment).map (·.leaseID) = some firstLease ∧ ¬ Watched s := by
  refine ⟨_, Runs.of_foldlM [.leaseWon firstLease, .leaseWon secondLease] _ _ rfl, rfl, rfl, ?_⟩
  intro h
  obtain ⟨w, hw, hid, -⟩ := h secondLease (.head _)
  cases hw
  exact absurd hid (by decide)

end WatchService

end AkashProvider
