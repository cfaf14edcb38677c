import AkashProvider.Bidengine.OwnAttributes
import AkashProvider.Bidengine.Service

/-!
# The shutdown of the bid engine

When the bid engine shuts down, it waits for its monitors, the attribute service and the fetcher.
After the loop of the attribute service nobody reads `fetchCh`, `newAttr` and `errFetchAttr`: a
fetch in flight never sends its result, and `wg.Wait` never returns
(`shutdown_blocked_by_fetch`).  `shutdown_stuck_iff` says exactly when the shutdown gets stuck.
-/

namespace AkashProvider

variable {κ π : Type}

/-- Where `run` of the bid engine is, when its monitors have ended. -/
inductive EngineStage where
  | running
  /-- It waits for the fetcher of the orders. -/
  | stopping
  | completed
deriving DecidableEq

/-- The bid engine and its attribute service. -/
structure BidEngine (κ π : Type) where
  service : BidService κ π
  pass : AttrService
  stage : EngineStage

inductive BidEngineEvent (κ : Type) where
  | service (e : BidServiceEvent κ)
  | pass (e : AttrServiceEvent)
  | passDone
  | fetcherDone

namespace BidEngine

/-- The operations that a goroutine may be blocked on after a shutdown request. -/
inductive Wait where
  /-- `run` of the bid engine: a monitor, the attribute service, the fetcher of the orders. -/
  | drainch
  | passDone
  | group
  /-- `run` of the attribute service. -/
  | wg
  /-- The goroutines of the attribute service. -/
  | fetchCh (f : AuditFetch)
  | newAttr
  | errFetchAttr
  | currAttr

def StandsAt (w : Wait) (s : BidEngine κ π) : Prop :=
  match w with
  | .drainch => s.service.stage = .draining ∧ s.service.monitors.handles ≠ []
  | .passDone => s.service.stage = .draining ∧ s.service.monitors.handles = [] ∧ s.stage = .running
  | .group => s.stage = .stopping
  | .wg => s.pass.stage = .waiting
  | .fetchCh f => f ∈ s.pass.audited.fetches ∧ ∃ result, f.stage = .sending result
  | .newAttr => ∃ attributes, s.pass.own.fetchInProgress = some (.sending attributes)
  | .errFetchAttr => 0 < s.pass.own.reporting
  | .currAttr => s.pass.own.waiting ≠ []

variable [DecidableEq κ] [DecidableEq π] (orderPath : OrderID → π) (cfg : AttrServiceConfig)

/-- The process does not restart, and the bid engine is the one that asks for the shutdown of the
attribute service. -/
def step (s : BidEngine κ π) : BidEngineEvent κ → Option (BidEngine κ π)
  | .service e =>
    if e = .restart then none
    else (s.service.step orderPath e).map fun service =>
      { s with
        service := service
        pass := { s.pass with
          shutdownRequested := s.pass.shutdownRequested || e = .shutdown } }
  | .pass e =>
    if e = .shutdownRequest then none
    else (s.pass.step cfg e).map fun pass => { s with pass := pass }
  | .passDone =>
    if s.stage = .running ∧ s.service.stage = .draining ∧ s.service.monitors.handles = [] ∧
        s.pass.stage = .done then
      some { s with stage := .stopping }
    else none
  | .fetcherDone =>
    if s.stage = .stopping ∧ s.service.fetcher = .returned then
      some { s with stage := .completed }
    else none

def start (ordersNextKey : Option κ) (now : Int) : BidEngine κ π where
  service := .start ordersNextKey
  pass := .start now
  stage := .running

/-- A goroutine is at an operation, and whatever happens it stays there. -/
def Stuck (s : BidEngine κ π) (w : Wait) : Prop := Stays (step orderPath cfg) s (StandsAt w)

end BidEngine

/-! ## What is left when the loop of the attribute service ends -/

/-- How many failed fetches there are that have to report, or have reported. -/
def OwnAttrs.failures (s : OwnAttrs) : Nat :=
  s.reporting + (if s.errFetchAttr then 1 else 0) +
    if s.fetchInProgress = some (.returning true) then 1 else 0

/-- No fetch of signed attributes is in flight, no fetch of own ones is up to its result, and there
is room for what the failed ones report. -/
@[grind cases]
structure AttrService.Clean (s : AttrService) : Prop where
  fetches : s.audited.fetches = []
  querying : s.own.fetchInProgress ≠ some .querying
  sending : ∀ attributes, s.own.fetchInProgress ≠ some (.sending attributes)
  failures : s.own.failures ≤ 1

namespace OwnAttrs

variable {s s' : OwnAttrs} {e : OwnAttrEvent}

/-- When the loop has ended, and no fetch is up to its result, none gets there, and what has
failed stays. -/
theorem clean_of_left (hquerying : s.fetchInProgress ≠ some .querying)
    (hsending : ∀ attributes, s.fetchInProgress ≠ some (.sending attributes))
    (hstep : Step false s e s') :
    s'.fetchInProgress ≠ some .querying ∧
      (∀ attributes, s'.fetchInProgress ≠ some (.sending attributes)) ∧
      s'.failures = s.failures := by
  cases hstep <;> grind [failures, pushCurrAttributes, fetchAttributes]

theorem sending_of_left {attributes : Attributes}
    (h : s.fetchInProgress = some (.sending attributes)) (hstep : Step false s e s') :
    s'.fetchInProgress = some (.sending attributes) := by
  cases hstep <;> grind [pushCurrAttributes, fetchAttributes]

theorem reporting_of_left (hfull : s.errFetchAttr = true) (h : 0 < s.reporting)
    (hstep : Step false s e s') : s'.errFetchAttr = true ∧ 0 < s'.reporting := by
  cases hstep <;> grind [pushCurrAttributes, fetchAttributes]

end OwnAttrs

namespace AttrService

variable {cfg : AttrServiceConfig} {s s' : AttrService} {e : AttrServiceEvent}

theorem stage_of_step (hstep : s.step cfg e = some s') :
    s'.stage = s.stage ∨ s.stage = .looping ∧ s'.stage = .waiting ∨
      s.stage = .waiting ∧ s.audited.fetches = [] ∧ s'.stage = .done := by
  cases e with
  | bus delivery ev =>
    obtain ⟨-, ⟨⟩⟩ := Option.ite_none_right_eq_some.mp hstep
    exact .inl (handleEvent_frame cfg (s.record cfg ev) delivery ev).1
  | audited _ | own _ =>
    obtain ⟨_, -, rfl⟩ := Option.map_eq_some_iff.mp hstep
    exact .inl rfl
  | _ => grind [step, looping]

theorem requested_of_step (hstep : s.step cfg e = some s') (h : s.shutdownRequested = true) :
    s'.shutdownRequested = true := by
  cases e with
  | bus delivery ev =>
    obtain ⟨-, ⟨⟩⟩ := Option.ite_none_right_eq_some.mp hstep
    exact (handleEvent_frame cfg (s.record cfg ev) delivery ev).2.2.trans h
  | audited _ | own _ =>
    obtain ⟨_, -, rfl⟩ := Option.map_eq_some_iff.mp hstep
    exact h
  | _ => grind [step]

theorem done_of_step (hstep : s.step cfg e = some s') (h : s.stage = .done) : s'.stage = .done := by
  grind [stage_of_step hstep]

theorem not_looping_of_step (hstep : s.step cfg e = some s') (h : s.stage ≠ .looping) :
    s'.stage ≠ .looping := by
  grind [stage_of_step hstep]

theorem ownStep_of_left (h : s.stage ≠ .looping) (hstep : s.step cfg e = some s') :
    s'.own = s.own ∨ ∃ oe, OwnAttrs.Step false s.own oe s'.own := by
  cases ownStep hstep with
  | bus =>
    obtain ⟨hloop, -⟩ := Option.ite_none_right_eq_some.mp hstep
    exact absurd (of_decide_eq_true hloop) h
  | own hmove =>
    have hlooping : s.looping = false := decide_eq_false h
    exact .inr ⟨_, hlooping ▸ hmove⟩
  | other hown => exact .inl hown

theorem fetches_of_left (h : s.stage ≠ .looping) (hstep : s.step cfg e = some s') :
    s'.audited.fetches.length = s.audited.fetches.length := by
  cases auditedStep hstep with
  | bus hloop => exact absurd hloop h
  | other haudited => rw [haudited]
  | audited hmove =>
    cases hmove with
    | request hloop | fetched hloop => exact absurd (of_decide_eq_true hloop) h
    | queried => exact List.length_set

theorem clean_step (hleft : s.stage ≠ .looping) (h : s.Clean) (hstep : s.step cfg e = some s') :
    s'.Clean := by
  have hfetches : s'.audited.fetches = [] :=
    List.eq_nil_of_length_eq_zero ((fetches_of_left hleft hstep).trans (by rw [h.fetches]; rfl))
  rcases ownStep_of_left hleft hstep with hown | ⟨oe, hmove⟩
  · exact ⟨hfetches, hown ▸ h.querying, hown ▸ h.sending, hown ▸ h.failures⟩
  · obtain ⟨hquerying, hsending, hfailures⟩ := OwnAttrs.clean_of_left h.querying h.sending hmove
    exact ⟨hfetches, hquerying, hsending, hfailures ▸ h.failures⟩

theorem waiting_of_left (h : s.stage = .waiting) (hflight : s.audited.fetches ≠ [])
    (hstep : s.step cfg e = some s') : s'.stage = .waiting ∧ s'.audited.fetches ≠ [] := by
  have hlen := fetches_of_left (h ▸ nofun) hstep
  grind [stage_of_step hstep]

theorem done_step (h : s.stage = .done → s.audited.fetches = [])
    (hstep : s.step cfg e = some s') (hdone : s'.stage = .done) : s'.audited.fetches = [] := by
  have hlen := fun h => fetches_of_left h hstep
  grind [stage_of_step hstep]

end AttrService

namespace BidService

variable [DecidableEq κ] [DecidableEq π] {orderPath : OrderID → π} {s s' : BidService κ π}
  {e : BidServiceEvent κ}

theorem control_of_step (hstep : s.step orderPath e = some s') (hrestart : e ≠ .restart) :
    (s.stage = .draining → s'.stage = .draining ∧ (s.canceled = true → s'.canceled = true)) ∧
      (s'.stage = .draining → s.stage = .draining ∨ s'.canceled = true ∧ e = .shutdown) := by
  have hfetch (h : FetchMove s s') : s'.stage = s.stage ∧ s'.canceled = s.canceled := by
    obtain ⟨_, _, rfl, -⟩ := h
    exact ⟨rfl, rfl⟩
  cases e with
  | restart => exact absurd rfl hrestart
  | loaded ok => grind [hfetch (loadKey_fetchMove hstep)]
  | answered resp =>
    cases resp with
    | ok resp => grind [handleResponse_ok hstep]
    | error err => grind [hfetch (handleResponse_error_fetchMove hstep)]
  | sent => grind [hfetch (sendPage_fetchMove hstep)]
  | stopped => grind [hfetch (stopFetcher_fetchMove hstep)]
  | _ => grind [step, processOrdersPage]

end BidService

namespace BidEngine

variable [DecidableEq κ] [DecidableEq π] {orderPath : OrderID → π} {cfg : AttrServiceConfig}
  {s s' : BidEngine κ π} {e : BidEngineEvent κ}

/-! ## Steps of the two services -/

theorem pass_of_step (hstep : s.step orderPath cfg e = some s') :
    s'.pass = s.pass ∨ ∃ pe, s.pass.step cfg pe = some s'.pass := by
  cases e with
  | service se =>
    obtain ⟨-, hstep⟩ := Option.ite_none_left_eq_some.mp hstep
    obtain ⟨svc, -, rfl⟩ := Option.map_eq_some_iff.mp hstep
    by_cases hshutdown : se = .shutdown
    · exact .inr ⟨.shutdownRequest, by simp [AttrService.step, hshutdown]⟩
    · exact .inl (by simp [hshutdown])
  | _ => grind [step, Option.map_eq_some_iff]

theorem service_of_step (hstep : s.step orderPath cfg e = some s') :
    s'.service = s.service ∨
      ∃ se, se ≠ .restart ∧ s.service.step orderPath se = some s'.service := by
  cases e <;> grind [step, Option.map_eq_some_iff]

theorem stage_of_step (hstep : s.step orderPath cfg e = some s') :
    s'.stage = s.stage ∨ s.stage = .running ∧ s.pass.stage = .done ∧ s'.pass.stage = s.pass.stage ∨
      s.stage = .stopping := by
  cases e <;> grind [step, Option.map_eq_some_iff]

variable {I : AttrService → Prop}

theorem pass_keeps (hI : ∀ p pe p', AttrService.step cfg p pe = some p' → I p → I p')
    (hstep : s.step orderPath cfg e = some s') (h : I s.pass) : I s'.pass := by
  rcases pass_of_step hstep with hpass | ⟨pe, hpe⟩
  · exact hpass ▸ h
  · exact hI _ _ _ hpe h

theorem step_pass {pass : AttrService} (pe : AttrServiceEvent) (hpe : pe ≠ .shutdownRequest)
    (h : s.pass.step cfg pe = some pass) :
    s.step orderPath cfg (.pass pe) = some { s with pass := pass } := by
  rw [step, if_neg hpe, h]
  rfl

theorem step_own {oe : OwnAttrEvent} {own : OwnAttrs}
    (h : OwnAttrs.Step s.pass.looping s.pass.own oe own) :
    s.step orderPath cfg (.pass (.own oe)) = some { s with pass := { s.pass with own := own } } :=
  step_pass (.own oe) nofun (AttrService.step_own h)

theorem step_service {svc : BidService κ π} (se : BidServiceEvent κ) (hrestart : se ≠ .restart)
    (hshutdown : se ≠ .shutdown) (h : s.service.step orderPath se = some svc) :
    s.step orderPath cfg (.service se) = some { s with service := svc } := by
  rw [step, if_neg hrestart, h]
  simp [hshutdown]

@[grind cases]
structure Ending (s : BidEngine κ π) : Prop where
  draining : s.service.stage = .draining
  canceled : s.service.canceled = true

theorem Ending.step (h : Ending s) (hstep : s.step orderPath cfg e = some s') : Ending s' := by
  rcases service_of_step hstep with hservice | ⟨se, hrestart, hse⟩
  · exact ⟨hservice ▸ h.draining, hservice ▸ h.canceled⟩
  · obtain ⟨hstage, hcanceled⟩ := (BidService.control_of_step hse hrestart).1 h.draining
    exact ⟨hstage, hcanceled h.canceled⟩

@[grind cases]
structure Inv (s : BidEngine κ π) : Prop where
  canceled : s.service.stage = .draining → s.service.canceled = true
  requested : s.service.stage = .draining → s.pass.shutdownRequested = true
  done : s.pass.stage = .done → s.pass.audited.fetches = []
  past : s.stage ≠ .running → s.pass.stage = .done

theorem Inv.step (h : Inv s) (hstep : s.step orderPath cfg e = some s') : Inv s' := by
  constructor
  · rcases service_of_step hstep with hservice | ⟨se, hrestart, hse⟩
    · rw [hservice]
      exact h.canceled
    · grind [BidService.control_of_step hse hrestart, h.canceled]
  · have hkept := pass_keeps (I := fun p => p.shutdownRequested = true)
      (fun _ _ _ hpe h => AttrService.requested_of_step hpe h) hstep
    cases e with
    | service se =>
      obtain ⟨hrestart, hstep⟩ := Option.ite_none_left_eq_some.mp hstep
      obtain ⟨svc, hse, rfl⟩ := Option.map_eq_some_iff.mp hstep
      intro hdraining
      obtain hbefore | ⟨-, rfl⟩ := (BidService.control_of_step hse hrestart).2 hdraining
      · exact hkept (h.requested hbefore)
      · simp
    | _ => grind [step, Option.map_eq_some_iff, h.requested]
  · exact pass_keeps (I := fun p => p.stage = .done → p.audited.fetches = [])
      (fun _ _ _ hpe h => AttrService.done_step h hpe) hstep h.done
  · have hdone := pass_keeps (I := fun p => p.stage = .done)
      (fun _ _ _ hpe h => AttrService.done_of_step hpe h) hstep
    grind [stage_of_step hstep, h.past]

theorem inv_of_runs {ordersNextKey : Option κ} {now : Int}
    (hrun : Runs (step orderPath cfg) (fun _ _ => True) (start ordersNextKey now) s) : Inv s :=
  hrun.invariant (I := Inv) (fun _ _ _ _ hstep h => h.step hstep)
    ⟨nofun, nofun, nofun, fun h => absurd rfl h⟩

/-! ## A clean end -/

theorem reaches_drained (n : Nat) : ∀ s : BidEngine κ π, s.service.monitors.handles.length ≤ n →
    Ending s → Reaches (step orderPath cfg) s fun t =>
      t.service.monitors.handles = [] ∧ Ending t ∧ t.pass = s.pass ∧ t.stage = s.stage := by
  induction n with
  | zero =>
    intro s hlen hending
    exact Reaches.here ⟨List.eq_nil_of_length_eq_zero (Nat.le_zero.mp hlen), hending, rfl, rfl⟩
  | succ n ih =>
    intro s hlen hending
    cases hhandles : s.service.monitors.handles with
    | nil => exact Reaches.here ⟨hhandles, hending, rfl, rfl⟩
    | cons h rest =>
      rw [hhandles, List.length_cons] at hlen
      have hdone : (s.service.monitors.done h.ref).handles = { h with live := false } ::
          rest.map fun h' => if h'.ref = h.ref then { h' with live := false } else h' := by
        simp [OrderMonitors.done, hhandles]
      have hdrained : BidService.step orderPath
          { s.service with monitors := s.service.monitors.done h.ref } (.drained h.ref) =
          some { s.service with
            monitors := (s.service.monitors.done h.ref).drain orderPath
              { h with live := false } } := by
        simp [BidService.step, hending.draining, hdone]
      refine Reaches.next _ (step_service (.monitorDone h.ref) (by simp) (by simp) rfl) ?_
      refine Reaches.next _ (step_service (.drained h.ref) (by simp) (by simp) hdrained) ?_
      refine ih _ ?_ ⟨hending.draining, hending.canceled⟩
      simp only [OrderMonitors.drain, hdone, List.filter_cons, ne_eq, not_true_eq_false,
        decide_false, Bool.false_eq_true, if_false]
      exact (List.length_filter_le _ _).trans (by rw [List.length_map]; omega)

theorem reaches_passDone (hclean : s.pass.Clean) (hleft : s.pass.stage ≠ .looping) :
    Reaches (step orderPath cfg) s fun t =>
      t.pass.stage = .done ∧ t.service = s.service ∧ t.stage = s.stage := by
  cases hstage : s.pass.stage with
  | looping => exact absurd hstage hleft
  | done => exact Reaches.here ⟨hstage, rfl, rfl⟩
  | waiting =>
    have hwait : s.pass.step cfg .wait = some { s.pass with stage := .done } :=
      if_pos ⟨hstage, hclean.fetches⟩
    exact Reaches.next _ (step_pass .wait nofun hwait)
      (Reaches.here ⟨rfl, rfl, rfl⟩)

theorem reaches_fetcherReturned (hending : Ending s) :
    Reaches (step orderPath cfg) s fun t => t.service.fetcher = .returned ∧ t.stage = s.stage := by
  have hcanceled := hending.canceled
  have hstop (t : BidEngine κ π) (ht : t.service.canceled = true)
      (hstop : t.service.stopFetcher = some { t.service with fetcher := .returned }) :
      Reaches (step orderPath cfg) t fun t' =>
        t'.service.fetcher = .returned ∧ t'.stage = t.stage :=
    Reaches.next _ (step_service .stopped (by simp) (by simp) hstop) (Reaches.here ⟨rfl, rfl⟩)
  cases hfetcher : s.service.fetcher with
  | returned => exact Reaches.here ⟨hfetcher, rfl⟩
  | querying nextKey resuming =>
    exact hstop s hcanceled (by simp [BidService.stopFetcher, hcanceled, hfetcher])
  | sending page nextKey =>
    exact hstop s hcanceled (by simp [BidService.stopFetcher, hcanceled, hfetcher])
  | loading =>
    have hload : s.service.step orderPath (.loaded false) =
        some { s.service with fetcher := .querying none false } := by
      simp [BidService.step, BidService.loadKey, hfetcher]
    exact Reaches.next _ (step_service (.loaded false) (by simp) (by simp) hload)
      (hstop _ hcanceled (by simp [BidService.stopFetcher, hcanceled]))

theorem reaches_completed (hending : Ending s) (hleft : s.pass.stage ≠ .looping)
    (hclean : s.pass.Clean) : Reaches (step orderPath cfg) s fun t => t.stage = .completed := by
  have hstopping (t : BidEngine κ π) (ht : Ending t) (hstage : t.stage = .stopping) :
      Reaches (step orderPath cfg) t fun t' => t'.stage = .completed := by
    refine (reaches_fetcherReturned ht).trans fun t' ⟨hfetcher, hsame⟩ => ?_
    exact Reaches.next .fetcherDone (if_pos ⟨hsame.trans hstage, hfetcher⟩) (Reaches.here rfl)
  cases hstage : s.stage with
  | completed => exact Reaches.here hstage
  | stopping => exact hstopping s hending hstage
  | running =>
    refine (reaches_drained _ s le_rfl hending).trans fun t ⟨hnone, hending', hpass, hsame⟩ => ?_
    rw [← hpass] at hleft hclean
    refine (reaches_passDone hclean hleft).trans fun t' ⟨hdone, hservice, hsame'⟩ => ?_
    have hrunning : t'.stage = .running := hsame'.trans (hsame.trans hstage)
    rw [← hservice] at hnone
    have hending'' : Ending t' := ⟨hservice ▸ hending'.draining, hservice ▸ hending'.canceled⟩
    exact Reaches.next .passDone (if_pos ⟨hrunning, hending''.draining, hnone, hdone⟩)
      (hstopping _ ⟨hending''.draining, hending''.canceled⟩ rfl)

theorem reaches_timeouts (n : Nat) : ∀ s : BidEngine κ π, s.pass.own.waiting.length = n →
    Reaches (step orderPath cfg) s fun t => t.pass.own.waiting = [] := by
  induction n with
  | zero => exact fun s hlen => Reaches.here (List.eq_nil_of_length_eq_zero hlen)
  | succ n ih =>
    intro s hlen
    have hwaits : 0 < s.pass.own.waiting.length := hlen ▸ Nat.succ_pos n
    refine Reaches.next _ (step_own (.timeout hwaits)) (ih _ ?_)
    grind

theorem not_stuck_of_clean (hending : Ending s) (hleft : s.pass.stage ≠ .looping)
    (hclean : s.pass.Clean) (w : Wait) : ¬ Stuck orderPath cfg s w := by
  intro hstuck
  have hfree (h : Reaches (step orderPath cfg) s fun t => ¬ StandsAt w t) : False := by
    obtain ⟨t, hrun, ht⟩ := h
    exact ht (hstuck t hrun)
  cases w with
  | drainch =>
    exact hfree ((reaches_drained _ s le_rfl hending).trans fun t ht =>
      Reaches.here fun hstands => hstands.2 ht.1)
  | passDone =>
    exact hfree ((reaches_completed hending hleft hclean).trans fun t ht =>
      Reaches.here fun hstands => by cases ht.symm.trans hstands.2.2)
  | group =>
    exact hfree ((reaches_completed hending hleft hclean).trans fun t ht =>
      Reaches.here fun hstands => by cases ht.symm.trans hstands)
  | wg =>
    exact hfree ((reaches_passDone hclean hleft).trans fun t ht =>
      Reaches.here fun hstands => by cases ht.1.symm.trans hstands)
  | fetchCh f =>
    have hstands := (hstuck s (Runs.refl s)).1
    rw [hclean.fetches] at hstands
    cases hstands
  | newAttr =>
    obtain ⟨attributes, hsending⟩ := hstuck s (Runs.refl s)
    exact hclean.sending attributes hsending
  | errFetchAttr =>
    have hreports : 0 < s.pass.own.reporting := hstuck s (Runs.refl s)
    have hfailures := hclean.failures
    simp only [OwnAttrs.failures] at hfailures
    have hroom : s.pass.own.errFetchAttr = false := Bool.eq_false_iff.mpr fun hfull => by
      rw [if_pos hfull] at hfailures
      omega
    refine hfree (Reaches.next _ (step_own (.report hreports hroom))
      (Reaches.here fun hstands => ?_))
    have hleft' : 0 < s.pass.own.reporting - 1 := hstands
    omega
  | currAttr =>
    exact hfree ((reaches_timeouts _ s rfl).trans fun t ht =>
      Reaches.here fun hstands => hstands ht)

/-! ## While the loop of the attribute service runs -/

/-- The loop of the attribute service runs, and its shutdown was requested. -/
structure Closing (service : BidService κ π) (s : BidEngine κ π) : Prop where
  service : s.service = service
  looping : s.pass.stage = .looping
  requested : s.pass.shutdownRequested = true

variable {service : BidService κ π}

theorem reaches_delivered (n : Nat) : ∀ s : BidEngine κ π, s.pass.audited.fetches.length = n →
    Closing service s → Reaches (step orderPath cfg) s fun t =>
      t.pass.audited.fetches = [] ∧ Closing service t := by
  induction n with
  | zero => exact fun s hlen h => Reaches.here ⟨List.eq_nil_of_length_eq_zero hlen, h⟩
  | succ n ih =>
    intro s hlen h
    obtain ⟨⟨auditor, stage, audits⟩, rest, hfetches⟩ := List.exists_cons_of_length_eq_add_one hlen
    rw [hfetches, List.length_cons, Nat.add_right_cancel_iff] at hlen
    have htaken (t : BidEngine κ π) (result : Except String AuditedProviders)
        (ht : Closing service t)
        (hsends : t.pass.audited.fetches = ⟨auditor, .sending result, audits⟩ :: rest) :
        Reaches (step orderPath cfg) t fun t =>
          t.pass.audited.fetches = [] ∧ Closing service t := by
      refine Reaches.next _ (step_pass (.audited (.fetched 0 [])) nofun (AttrService.step_audited
        (.fetched (decide_eq_true ht.looping) (by rw [hsends]; rfl) []))) (ih _ ?_
          ⟨ht.service, ht.looping, ht.requested⟩)
      simp [AuditedAttrs.takeResult_eq, hsends, hlen]
    cases stage with
    | sending result => exact htaken s result h hfetches
    | querying =>
      refine Reaches.next _ (step_pass (.audited (.queried 0 (.ok []))) nofun
        (AttrService.step_audited (.queried (by rw [hfetches]; rfl) (.ok [])))) (htaken _
          (auditedAttrResult (.ok [])) ⟨h.service, h.looping, h.requested⟩ ?_)
      simp [hfetches]

/-- The fetch of own attributes sends its result and returns. -/
theorem reaches_released (h : Closing service s) : Reaches (step orderPath cfg) s fun t =>
    t.pass.own.fetchInProgress = none ∧ t.pass.audited = s.pass.audited ∧ Closing service t := by
  have hlooping : s.pass.looping = true := decide_eq_true h.looping
  cases hfetch : s.pass.own.fetchInProgress with
  | none => exact Reaches.here ⟨hfetch, rfl, h⟩
  | some stage =>
    cases stage with
    | returning failed =>
      exact Reaches.next _ (step_own (.release hfetch))
        (Reaches.here ⟨rfl, rfl, h.service, h.looping, h.requested⟩)
    | sending attributes =>
      exact Reaches.next _ (step_own (.newAttr hlooping hfetch)) (Reaches.next _
        (step_own (.release rfl)) (Reaches.here ⟨rfl, rfl, h.service, h.looping, h.requested⟩))
    | querying =>
      exact Reaches.next _ (step_own (.queried hfetch [])) (Reaches.next _
        (step_own (.newAttr hlooping rfl)) (Reaches.next _ (step_own (.release rfl))
          (Reaches.here ⟨rfl, rfl, h.service, h.looping, h.requested⟩)))

/-- The loop takes one error after the other. -/
theorem reaches_reported (n : Nat) : ∀ s : BidEngine κ π, s.pass.own.reporting = n →
    s.pass.own.fetchInProgress = none → s.pass.audited.fetches = [] → Closing service s →
    Reaches (step orderPath cfg) s fun t => t.pass.Clean ∧ Closing service t := by
  induction n with
  | zero =>
    intro s hreporting hnone hfetches h
    refine Reaches.here ⟨⟨hfetches, by simp [hnone], by simp [hnone], ?_⟩, h⟩
    simp only [OwnAttrs.failures, hreporting, hnone]
    split <;> simp
  | succ n ih =>
    intro s hreporting hnone hfetches h
    have hreports (t : BidEngine κ π) (htr : t.pass.own.reporting = n + 1)
        (htn : t.pass.own.fetchInProgress = none) (htf : t.pass.audited.fetches = [])
        (ht : Closing service t) (hroom : t.pass.own.errFetchAttr = false) :
        Reaches (step orderPath cfg) t fun t => t.pass.Clean ∧ Closing service t :=
      Reaches.next _ (step_own (.report (htr ▸ Nat.succ_pos n) hroom)) (ih _
        (by simp [htr]) htn htf ⟨ht.service, ht.looping, ht.requested⟩)
    cases hfull : s.pass.own.errFetchAttr with
    | false => exact hreports s hreporting hnone hfetches h hfull
    | true =>
      exact Reaches.next _ (step_own (.errSignal (decide_eq_true h.looping) hfull))
        (hreports _ hreporting hnone hfetches ⟨h.service, h.looping, h.requested⟩ rfl)

theorem not_stuck_of_looping (hending : Ending s) (hclosing : Closing s.service s) (w : Wait) :
    ¬ Stuck orderPath cfg s w := by
  intro hstuck
  have hreaches : Reaches (step orderPath cfg) s fun t => t.pass.Clean ∧ Closing s.service t := by
    refine (reaches_delivered _ s rfl hclosing).trans fun t ⟨hfetches, ht⟩ => ?_
    refine (reaches_released ht).trans fun t' ⟨hnone, hsame, ht'⟩ => ?_
    exact reaches_reported _ t' rfl hnone (hsame ▸ hfetches) ht'
  obtain ⟨t, hrun, hclean, ht⟩ := hreaches
  have hstep : t.step orderPath cfg (.pass .shutdown) =
      some { t with pass := { t.pass with stage := .waiting } } :=
    step_pass .shutdown nofun (if_pos ⟨decide_eq_true ht.looping, ht.requested⟩)
  have hfree : ¬ Stuck orderPath cfg { t with pass := { t.pass with stage := .waiting } } w := by
    refine not_stuck_of_clean ⟨?_, ?_⟩ ?_ ?_ w
    · exact ht.service ▸ hending.draining
    · exact ht.service ▸ hending.canceled
    · simp
    · exact ⟨hclean.fetches, hclean.querying, hclean.sending, hclean.failures⟩
  exact hfree fun t' hrun' => hstuck t' (.trans hrun (.head ⟨_, trivial, hstep⟩ hrun'))

/-! ## A shutdown that gets stuck -/

theorem stays_pass (hI : ∀ p pe p', AttrService.step cfg p pe = some p' → I p → I p')
    (h : I s.pass) : Stays (step orderPath cfg) s fun t => I t.pass :=
  Stays.of_step (fun _ _ _ hstep h => pass_keeps hI hstep h) h

theorem stuck_wg (h : s.pass.stage = .waiting) (hflight : s.pass.audited.fetches ≠ []) :
    Stuck orderPath cfg s .wg := fun t hrun =>
  (stays_pass (I := fun p => p.stage = .waiting ∧ p.audited.fetches ≠ [])
    (fun _ _ _ hpe h => AttrService.waiting_of_left h.1 h.2 hpe) ⟨h, hflight⟩ t hrun).1

theorem stays_own {J : OwnAttrs → Prop} (hleft : s.pass.stage ≠ .looping)
    (hJ : ∀ o oe o', OwnAttrs.Step false o oe o' → J o → J o') (h : J s.pass.own) :
    Stays (step orderPath cfg) s fun t => J t.pass.own := by
  refine fun t hrun => (stays_pass (I := fun p => p.stage ≠ .looping ∧ J p.own)
    (fun p pe p' hpe h => ⟨AttrService.not_looping_of_step hpe h.1, ?_⟩) ⟨hleft, h⟩ t hrun).2
  rcases AttrService.ownStep_of_left h.1 hpe with hown | ⟨oe, hmove⟩
  · exact hown ▸ h.2
  · exact hJ _ _ _ hmove h.2

theorem stuck_newAttr {attributes : Attributes} (hleft : s.pass.stage ≠ .looping)
    (hsending : s.pass.own.fetchInProgress = some (.sending attributes)) :
    Stuck orderPath cfg s .newAttr := by
  have hstays : Stays (step orderPath cfg) s fun t =>
      t.pass.own.fetchInProgress = some (.sending attributes) :=
    stays_own hleft (fun _ _ _ hmove h => OwnAttrs.sending_of_left h hmove) hsending
  exact fun t hrun => ⟨attributes, hstays t hrun⟩

theorem stuck_errFetchAttr (hleft : s.pass.stage ≠ .looping)
    (hfull : s.pass.own.errFetchAttr = true) (hreports : 0 < s.pass.own.reporting) :
    Stuck orderPath cfg s .errFetchAttr := by
  have hstays : Stays (step orderPath cfg) s fun t =>
      t.pass.own.errFetchAttr = true ∧ 0 < t.pass.own.reporting :=
    stays_own (J := fun o => o.errFetchAttr = true ∧ 0 < o.reporting) hleft
      (fun _ _ _ hmove h => OwnAttrs.reporting_of_left h.1 h.2 hmove) ⟨hfull, hreports⟩
  exact fun t hrun => (hstays t hrun).2

/-- Two failed fetches, and one place for their errors. -/
theorem reaches_stuck_errFetchAttr (hleft : s.pass.stage ≠ .looping)
    (hfailures : 1 < s.pass.own.failures) :
    Reaches (step orderPath cfg) s fun t => Stuck orderPath cfg t .errFetchAttr := by
  -- the one that is to return gives its token back first
  have hreleased : Reaches (step orderPath cfg) s fun t => t.pass.stage ≠ .looping ∧
      1 < t.pass.own.reporting + if t.pass.own.errFetchAttr then 1 else 0 := by
    by_cases hreturns : s.pass.own.fetchInProgress = some (.returning true)
    · refine Reaches.next _ (step_own (.release hreturns)) (Reaches.here ⟨hleft, ?_⟩)
      grind [OwnAttrs.failures]
    · exact Reaches.here ⟨hleft, by grind [OwnAttrs.failures]⟩
  refine hreleased.trans fun t ⟨hleft', hcount⟩ => ?_
  cases hfull : t.pass.own.errFetchAttr with
  | true => exact Reaches.here (stuck_errFetchAttr hleft' hfull (by grind))
  | false =>
    refine Reaches.next _ (step_own (.report (by grind) hfull)) (Reaches.here ?_)
    exact stuck_errFetchAttr hleft' rfl (Nat.sub_pos_of_lt (by grind))

theorem reaches_stuck_of_not_clean (hinv : Inv s) (hleft : s.pass.stage ≠ .looping)
    (hnot : ¬ s.pass.Clean) :
    Reaches (step orderPath cfg) s fun t => ∃ w, Stuck orderPath cfg t w := by
  by_cases hfetches : s.pass.audited.fetches = []
  · by_cases hquerying : s.pass.own.fetchInProgress = some .querying
    · refine Reaches.next _ (step_own (.queried hquerying [])) (Reaches.here ⟨.newAttr, ?_⟩)
      exact stuck_newAttr hleft rfl
    by_cases hsending : ∃ attributes, s.pass.own.fetchInProgress = some (.sending attributes)
    · obtain ⟨attributes, hsending⟩ := hsending
      exact Reaches.here ⟨.newAttr, stuck_newAttr hleft hsending⟩
    have hfailures : 1 < s.pass.own.failures := by
      by_contra hle
      exact hnot ⟨hfetches, hquerying, not_exists.mp hsending, Nat.not_lt.mp hle⟩
    exact (reaches_stuck_errFetchAttr hleft hfailures).trans
      fun t ht => Reaches.here ⟨.errFetchAttr, ht⟩
  · refine Reaches.here ⟨.wg, stuck_wg ?_ hfetches⟩
    cases hstage : s.pass.stage <;> grind [hinv.done]

theorem running_of_waiting (h : s.pass.stage = .waiting) (hflight : s.pass.audited.fetches ≠ [])
    (hrunning : s.stage = .running) :
    Stays (step orderPath cfg) s fun t => t.stage = .running := by
  have hstays : Stays (step orderPath cfg) s fun t => t.stage = .running ∧
      t.pass.stage = .waiting ∧ t.pass.audited.fetches ≠ [] := by
    refine Stays.of_step (fun t e t' hstep ht => ⟨?_, pass_keeps (I := fun p =>
      p.stage = .waiting ∧ p.audited.fetches ≠ [])
      (fun _ _ _ hpe h => AttrService.waiting_of_left h.1 h.2 hpe) hstep ht.2⟩)
      ⟨hrunning, h, hflight⟩
    grind [stage_of_step hstep]
  exact fun t hrun => (hstays t hrun).1

/-- After the request nothing is blocked for ever while the loop of the attribute service runs.
When it has ended, no goroutine gets blocked for ever exactly if the end is clean, and then the bid
engine gets to its end.  With a fetch of signed attributes in flight, `wg.Wait` is blocked for ever,
and so is the bid engine. -/
theorem shutdown_stuck_iff {ordersNextKey : Option κ} {now : Int}
    (hrun : Runs (step orderPath cfg) (fun _ _ => True) (start ordersNextKey now) s)
    (hdraining : s.service.stage = .draining) :
    (s.pass.stage = .looping → ∀ w, ¬ Stuck orderPath cfg s w) ∧
    (s.pass.stage ≠ .looping →
      (Stays (step orderPath cfg) s (fun t => ∀ w, ¬ Stuck orderPath cfg t w) ↔ s.pass.Clean) ∧
      (s.pass.Clean → Reaches (step orderPath cfg) s fun t => t.stage = .completed) ∧
      (s.pass.audited.fetches ≠ [] → Stuck orderPath cfg s .wg ∧
        Stays (step orderPath cfg) s fun t => t.stage = .running)) := by
  have hinv := inv_of_runs hrun
  have hending : Ending s := ⟨hdraining, hinv.canceled hdraining⟩
  refine ⟨fun hlooping => not_stuck_of_looping hending ⟨rfl, hlooping, hinv.requested hdraining⟩,
    fun hleft => ⟨⟨fun hfree => ?_, fun hclean t hrun' => ?_⟩, reaches_completed hending hleft,
      fun hflight => ?_⟩⟩
  · by_contra hnot
    obtain ⟨t, hrun', w, hstuck⟩ := reaches_stuck_of_not_clean hinv hleft hnot
    exact hfree t hrun' w hstuck
  · have hkept : Ending t ∧ t.pass.stage ≠ .looping ∧ t.pass.Clean :=
      hrun'.invariant (I := fun t => Ending t ∧ t.pass.stage ≠ .looping ∧ t.pass.Clean)
        (fun _ _ _ _ hstep h => ⟨h.1.step hstep,
          pass_keeps (I := fun p => p.stage ≠ .looping ∧ p.Clean) (fun _ _ _ hpe h =>
            ⟨AttrService.not_looping_of_step hpe h.1, AttrService.clean_step h.1 h.2 hpe⟩)
            hstep h.2⟩)
        ⟨hending, hleft, hclean⟩
    exact not_stuck_of_clean hkept.1 hkept.2.1 hkept.2.2
  · have hwaiting : s.pass.stage = .waiting := by
      cases hstage : s.pass.stage <;> grind [hinv.done]
    have hrunning : s.stage = .running := by grind [hinv.past]
    exact ⟨stuck_wg hwaiting hflight, running_of_waiting hwaiting hflight hrunning⟩

/-- The loops of both services end with nothing in flight. -/
theorem shutdown_clean :
    ∃ s : BidEngine Nat OrderID, [BidEngineEvent.service (.waited true), .service .shutdown,
        .pass .shutdown].foldlM (step id AttrService.plainAttrService) (start none 0) = some s ∧
      Stays (step id AttrService.plainAttrService) s
        (fun t => ∀ w, ¬ Stuck id AttrService.plainAttrService t w) ∧
      Reaches (step id AttrService.plainAttrService) s fun t => t.stage = .completed := by
  have hrun : [BidEngineEvent.service (.waited true), .service .shutdown, .pass .shutdown].foldlM
      (step id AttrService.plainAttrService) (start none 0 : BidEngine Nat OrderID) = some _ := rfl
  obtain ⟨hiff, hcompleted, -⟩ := (shutdown_stuck_iff (Runs.of_foldlM _ _ _ hrun) rfl).2 nofun
  exact ⟨_, hrun, hiff.mpr ⟨rfl, nofun, nofun, by decide⟩,
    hcompleted ⟨rfl, nofun, nofun, by decide⟩⟩

/-- A fetch has its result when the loop has ended.  It is blocked on its channel, `wg.Wait` on the
fetch, and the bid engine on `wg.Wait`. -/
theorem shutdown_blocked_by_fetch :
    ∃ s : BidEngine Nat OrderID, [BidEngineEvent.service (.waited true),
        .pass (.audited (.request "auditor")), .service .shutdown, .pass .shutdown,
        .pass (.audited (.queried 0 (.ok [])))].foldlM (step id AttrService.plainAttrService)
          (start none 0) = some s ∧
      StandsAt (.fetchCh ⟨"auditor", .sending (.ok []), 0⟩) s ∧
      Stuck id AttrService.plainAttrService s .wg ∧
      Stays (step id AttrService.plainAttrService) s fun t => t.stage = .running :=
  ⟨_, rfl, ⟨List.mem_singleton.mpr rfl, _, rfl⟩, stuck_wg rfl (List.cons_ne_nil _ _),
    running_of_waiting rfl (List.cons_ne_nil _ _) rfl⟩

end BidEngine

end AkashProvider
