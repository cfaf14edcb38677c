import AkashProvider.Inventory.Client
import Mathlib.Data.List.Nodup

/-!
# The agent that discovers a service

Clients of a service wait for the agent to discover it.  The retry timer is not running when the
first discovery fails, so that the loop waits for a value of it that never comes, and the channel
of the discovery is never set back to nil (`failure_blocks`).
-/

namespace AkashProvider

/-- The state of `run`.  Requests are numbered as they are accepted.  `answers`, `started` and
`failed` are a record that no step reads. -/
structure DiscoveryAgent (α : Type) where
  discover : Bool
  /-- `discoveryResult`, if it is not nil, and whether its value is yet to be received. -/
  discovery : Option Bool
  retryTimer : ReconnectTimer
  /-- `discoverch` has a value. -/
  discoverch : Bool
  result : Option α
  pendingRequests : List Nat
  accepted : Nat
  /-- The loop waits for the value of a timer that does not run. -/
  blocked : Bool
  stopped : Bool
  /-- The requests that were answered, each with a client factory or an error. -/
  answers : List (Nat × Option α)
  started : Nat
  failed : Bool

inductive DiscoveryEvent (α : Type) where
  | shutdown
  | discoverNow
  /-- The value of `discoverch` is received. -/
  | discover
  | timerExpires
  /-- The value of the retry timer is received. -/
  | retry
  /-- A discovery ends, with none for an error. -/
  | result (factory : Option α)
  | request

namespace DiscoveryAgent

variable {α : Type}

def start : DiscoveryAgent α :=
  ⟨true, none, .stopped, false, none, [], 0, false, false, [], 0, false⟩

/-- The end of a pass of the loop. -/
def startDiscovery (s : DiscoveryAgent α) : DiscoveryAgent α :=
  if s.discover ∧ s.discovery = none then
    { s with discovery := some true, started := s.started + 1 }
  else s

def setResult (s : DiscoveryAgent α) (factory : Option α) : DiscoveryAgent α :=
  { s with
    answers := s.answers ++ s.pendingRequests.map fun req => (req, factory)
    pendingRequests := []
    result := factory }

def handleRequest (s : DiscoveryAgent α) (req : Nat) : DiscoveryAgent α :=
  match s.result with
  | some factory => { s with answers := s.answers ++ [(req, some factory)] }
  | none => { s with pendingRequests := s.pendingRequests ++ [req] }

def step (s : DiscoveryAgent α) (e : DiscoveryEvent α) : Option (DiscoveryAgent α) :=
  if s.blocked || s.stopped then none
  else
    match e with
    | .shutdown => some { s with stopped := true }
    | .discoverNow => some { s with discoverch := true }
    | .discover =>
      if s.discoverch then some { s with discoverch := false, discover := true }.startDiscovery
      else none
    | .timerExpires =>
      if s.retryTimer = .running then some { s with retryTimer := .expired } else none
    | .retry =>
      if s.retryTimer = .expired then
        some { s with retryTimer := .stopped, discover := true }.startDiscovery
      else none
    | .result factory =>
      if s.discovery = some true then
        let s := { s.setResult factory with discovery := some false, failed := factory.isNone }
        match factory with
        | some _ => some s.startDiscovery
        | none =>
          -- `Stop` returns false unless the timer runs, and then its channel is read.
          if s.retryTimer = .stopped then some { s with blocked := true }
          else some { s with retryTimer := .running }.startDiscovery
      else none
    | .request =>
      some ({ s with accepted := s.accepted + 1 }.handleRequest s.accepted).startDiscovery

/-- The loop is not blocked, a discovery is started after one that failed, and each accepted request
was answered once, or is pending and the loop goes on. -/
structure Works (s : DiscoveryAgent α) : Prop where
  runs : s.blocked = false
  retries : s.failed = true → ∀ s', s.step .retry = some s' ∨ s.step .discover = some s' →
    s'.started = s.started + 1
  answered : ∀ req < s.accepted, (s.answers.map Prod.fst).count req = 1 ∨
    req ∈ s.pendingRequests ∧ s.stopped = false

structure Inv (s : DiscoveryAgent α) : Prop where
  timer : s.retryTimer = .stopped
  blocked : s.blocked = s.failed
  requests : (s.answers.map Prod.fst ++ s.pendingRequests).Perm (List.range s.accepted)

theorem Inv.startDiscovery {s : DiscoveryAgent α} (h : s.Inv) : s.startDiscovery.Inv := by
  unfold DiscoveryAgent.startDiscovery
  split
  · exact ⟨h.timer, h.blocked, h.requests⟩
  · exact h

/-- What the loop does on an event, before the end of the pass. -/
inductive Pass (s : DiscoveryAgent α) : DiscoveryEvent α → DiscoveryAgent α → Prop where
  | shutdown : Pass s .shutdown { s with stopped := true }
  | discoverNow : Pass s .discoverNow { s with discoverch := true }
  | discover : Pass s .discover { s with discoverch := false, discover := true }
  | timerExpires : s.retryTimer = .running → Pass s .timerExpires { s with retryTimer := .expired }
  | retry : s.retryTimer = .expired →
      Pass s .retry { s with retryTimer := .stopped, discover := true }
  | result (factory : Option α) (retryTimer : ReconnectTimer) (blocked : Bool) :
      s.discovery = some true →
      (s.retryTimer = .stopped → retryTimer = .stopped ∧ blocked = factory.isNone) →
      Pass s (.result factory) { s.setResult factory with
        discovery := some false, failed := factory.isNone, retryTimer, blocked }
  | request : Pass s .request ({ s with accepted := s.accepted + 1 }.handleRequest s.accepted)

/-- A property of the state after a step is one of what the pass has done, if the end of the pass
keeps it. -/
theorem of_step {s s' : DiscoveryAgent α} {e : DiscoveryEvent α} {P : DiscoveryAgent α → Prop}
    (hstep : s.step e = some s') (hstart : ∀ t, P t → P t.startDiscovery)
    (hpass : ∀ t, s.Pass e t → P t) : P s' := by
  obtain ⟨hgoes, hstep⟩ := Option.ite_none_left_eq_some.mp hstep
  have hblocked := (Bool.or_eq_false_iff.mp (Bool.eq_false_iff.mpr hgoes)).1
  cases e with
  | shutdown | discoverNow =>
    cases hstep
    exact hpass _ (by constructor)
  | discover =>
    obtain ⟨-, ⟨⟩⟩ := Option.ite_none_right_eq_some.mp hstep
    exact hstart _ (hpass _ .discover)
  | timerExpires =>
    obtain ⟨htimer, ⟨⟩⟩ := Option.ite_none_right_eq_some.mp hstep
    exact hpass _ (.timerExpires htimer)
  | retry =>
    obtain ⟨htimer, ⟨⟩⟩ := Option.ite_none_right_eq_some.mp hstep
    exact hstart _ (hpass _ (.retry htimer))
  | result factory =>
    obtain ⟨hdiscovery, hstep⟩ := Option.ite_none_right_eq_some.mp hstep
    cases factory with
    | some factory =>
      cases hstep
      exact hstart _ (hpass _ (.result _ _ _ hdiscovery fun htimer => ⟨htimer, hblocked⟩))
    | none =>
      simp only at hstep
      split at hstep
      next htimer =>
        cases hstep
        exact hpass _ (.result none _ _ hdiscovery fun _ => ⟨htimer, rfl⟩)
      next htimer =>
        cases hstep
        exact hstart _ (hpass _ (.result none _ _ hdiscovery fun h => absurd h htimer))
  | request =>
    cases hstep
    exact hstart _ (hpass _ .request)

theorem Inv.step {s s' : DiscoveryAgent α} {e : DiscoveryEvent α} (h : s.Inv)
    (hstep : s.step e = some s') : s'.Inv := by
  obtain ⟨htimer, hblocked, hrequests⟩ := h
  refine of_step hstep (fun _ ht => ht.startDiscovery) fun t hpass => ?_
  cases hpass with
  | shutdown | discoverNow | discover => exact ⟨htimer, hblocked, hrequests⟩
  | timerExpires hrunning | retry hrunning =>
    rw [htimer] at hrunning
    cases hrunning
  | result factory retryTimer blocked _ hnext =>
    obtain ⟨rfl, rfl⟩ := hnext htimer
    exact ⟨rfl, rfl, by simpa [setResult, Function.comp_def] using hrequests⟩
  | request =>
    have hnext : ((s.answers.map Prod.fst ++ s.pendingRequests) ++ [s.accepted]).Perm
        (List.range (s.accepted + 1)) := by
      rw [List.range_succ]
      exact hrequests.append_right _
    unfold handleRequest
    split
    · refine ⟨htimer, hblocked, .trans ?_ hnext⟩
      simp only [List.map_append, List.map_cons, List.map_nil, List.append_assoc]
      exact List.perm_append_comm.append_left _
    · exact ⟨htimer, hblocked, by rwa [List.append_assoc] at hnext⟩

/-- The agent works exactly as long as no discovery has failed, and no request is pending when it
is shut down. -/
theorem agent_works_iff {s : DiscoveryAgent α}
    (h : Runs DiscoveryAgent.step (fun _ _ => True) start s) :
    s.Works ↔ s.failed = false ∧ (s.stopped = true → s.pendingRequests = []) := by
  have hinv : s.Inv := h.invariant (fun _ _ _ _ hstep hI => hI.step hstep) ⟨rfl, rfl, .refl _⟩
  obtain ⟨-, hblocked, hrequests⟩ := hinv
  have hnodup := hrequests.nodup_iff.mpr List.nodup_range
  have hmem (req : Nat) := (hrequests.mem_iff (a := req)).trans List.mem_range
  constructor
  · rintro ⟨hruns, -, hanswered⟩
    refine ⟨hblocked.symm.trans hruns, fun hstopped => ?_⟩
    by_contra hpending
    obtain ⟨req, hreq⟩ := List.exists_mem_of_ne_nil _ hpending
    obtain hcount | ⟨-, hgoes⟩ := hanswered req ((hmem req).mp (List.mem_append_right _ hreq))
    · have hin : req ∈ s.answers.map Prod.fst := List.count_pos_iff.mp (by omega)
      exact (List.nodup_append.mp hnodup).2.2 req hin req hreq rfl
    · rw [hstopped] at hgoes
      cases hgoes
  · rintro ⟨hfailed, hpending⟩
    refine ⟨hblocked.trans hfailed, fun hf => ?_, fun req hreq => ?_⟩
    · rw [hfailed] at hf
      cases hf
    · obtain hin | hin := List.mem_append.mp ((hmem req).mpr hreq)
      · exact .inl (List.count_eq_one_of_mem hnodup.of_append_left hin)
      · cases hstopped : s.stopped with
        | false => exact .inr ⟨hin, rfl⟩
        | true => simp [hpending hstopped] at hin

/-- A client waits, the service is discovered, and the client is answered. -/
theorem works_after_discovery : ∃ s : DiscoveryAgent Nat,
    [.request, .result (some 5)].foldlM DiscoveryAgent.step start = some s ∧
      s.answers = [(0, some 5)] ∧ s.Works :=
  ⟨_, rfl, rfl, (agent_works_iff (Runs.of_foldlM [.request, .result (some 5)] _ _ rfl)).mpr
    ⟨rfl, fun h => absurd h (by decide)⟩⟩

/-- The first failed discovery blocks the loop.  When the agent is shut down, a request that is
pending is not answered. -/
theorem failure_blocks :
    (∃ s : DiscoveryAgent Nat, Runs DiscoveryAgent.step (fun _ _ => True) start s ∧
      s.blocked = true ∧ s.answers = [(0, none)] ∧ ∀ e, s.step e = none) ∧
    ∃ s : DiscoveryAgent Nat, Runs DiscoveryAgent.step (fun _ _ => True) start s ∧
      s.stopped = true ∧ s.pendingRequests = [0] :=
  ⟨⟨_, Runs.of_foldlM [.request, .result none] _ _ rfl, rfl, rfl, fun _ => rfl⟩,
    _, Runs.of_foldlM [.request, .shutdown] _ _ rfl, rfl, rfl⟩

/-- The channel of the discovery is set once, and all answers are of its one value. -/
structure Once (s : DiscoveryAgent α) : Prop where
  started : s.started = s.discovery.toList.length
  unanswered : s.discovery ≠ some false → s.answers = [] ∧ s.result = none
  answers : ∀ a ∈ s.answers, a.2 = s.result

theorem Once.startDiscovery {s : DiscoveryAgent α} (h : s.Once) : s.startDiscovery.Once := by
  unfold DiscoveryAgent.startDiscovery
  split
  · next hnone => exact ⟨by simp [h.started, hnone.2], by simp_all [h.unanswered], h.answers⟩
  · exact h

theorem Once.step {s s' : DiscoveryAgent α} {e : DiscoveryEvent α} (h : s.Once)
    (hstep : s.step e = some s') : s'.Once := by
  obtain ⟨hstarted, hunanswered, hanswers⟩ := h
  refine of_step hstep (fun _ ht => ht.startDiscovery) fun t hpass => ?_
  cases hpass with
  | shutdown | discoverNow | discover | timerExpires | retry =>
    exact ⟨hstarted, hunanswered, hanswers⟩
  | result factory retryTimer blocked hdiscovery _ =>
    obtain ⟨hnone, -⟩ := hunanswered (by simp [hdiscovery])
    exact ⟨by simp [hstarted, hdiscovery, setResult], by simp, by simp [setResult, hnone]⟩
  | request =>
    unfold handleRequest
    split
    · next factory hresult =>
      refine ⟨hstarted, fun hne => ?_, fun a ha => ?_⟩
      · obtain ⟨-, hnone⟩ := hunanswered hne
        exact absurd (hnone.symm.trans hresult) (by simp)
      · obtain ha | ha := List.mem_append.mp ha
        · exact hanswers a ha
        · rw [List.mem_singleton.mp ha]
          exact hresult.symm
    · exact ⟨hstarted, hunanswered, hanswers⟩

/-- The requests among the events. -/
def requests (es : List (DiscoveryEvent α)) : Nat :=
  es.countP fun
    | .request => true
    | _ => false

theorem startDiscovery_accepted (s : DiscoveryAgent α) :
    s.startDiscovery.accepted = s.accepted := by
  unfold DiscoveryAgent.startDiscovery
  split <;> rfl

theorem handleRequest_accepted (s : DiscoveryAgent α) (req : Nat) :
    (s.handleRequest req).accepted = s.accepted := by
  unfold handleRequest
  split <;> rfl

theorem step_accepted {s s' : DiscoveryAgent α} {e : DiscoveryEvent α}
    (hstep : s.step e = some s') : s'.accepted = s.accepted + requests [e] := by
  refine of_step hstep (fun t ht => (startDiscovery_accepted t).trans ht) fun t hpass => ?_
  cases hpass with
  | request => exact handleRequest_accepted _ _
  | shutdown | discoverNow | discover | timerExpires | retry | result => rfl

theorem accepted_eq_requests {es : List (DiscoveryEvent α)} {s : DiscoveryAgent α}
    (h : es.foldlM DiscoveryAgent.step start = some s) : s.accepted = requests es := by
  refine foldlM_invariant (I := fun es s => s.accepted = requests es) rfl ?_ es h
  intro es s e s' hI hstep
  rw [step_accepted hstep, hI, requests, requests, requests, List.countP_append]

/-- Whatever the events, one discovery is started at most, all clients are answered alike, and the
requests are those answered and those pending, each once. -/
theorem discovers_once {es : List (DiscoveryEvent α)} {s : DiscoveryAgent α}
    (h : es.foldlM DiscoveryAgent.step start = some s) :
    s.started ≤ 1 ∧ (∀ a ∈ s.answers, ∀ b ∈ s.answers, a.2 = b.2) ∧
      (s.answers.map Prod.fst ++ s.pendingRequests).Perm (List.range (requests es)) := by
  have hrun := Runs.of_foldlM es _ _ h
  have hinv : s.Inv := hrun.invariant (fun _ _ _ _ hstep hI => hI.step hstep) ⟨rfl, rfl, .refl _⟩
  have honce : s.Once := hrun.invariant (fun _ _ _ _ hstep hI => hI.step hstep)
    ⟨rfl, fun _ => ⟨rfl, rfl⟩, by simp [start]⟩
  refine ⟨?_, fun a ha b hb => ?_, accepted_eq_requests h ▸ hinv.requests⟩
  · rw [honce.started]
    cases s.discovery <;> simp
  · rw [honce.answers a ha, honce.answers b hb]

/-- Discovery is asked for again after it has succeeded. -/
theorem discovers_once_again : ∃ s : DiscoveryAgent Nat,
    [.request, .result (some 5), .discoverNow, .discover, .request].foldlM DiscoveryAgent.step start
      = some s ∧ s.answers = [(0, some 5), (1, some 5)] ∧ s.started ≤ 1 := by
  obtain ⟨s, h⟩ : ∃ s : DiscoveryAgent Nat, [.request, .result (some 5), .discoverNow, .discover,
    .request].foldlM DiscoveryAgent.step start = some s := ⟨_, rfl⟩
  refine ⟨s, h, ?_, (discovers_once h).1⟩
  cases h
  rfl

end DiscoveryAgent

end AkashProvider
