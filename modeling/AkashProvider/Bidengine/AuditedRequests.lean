import AkashProvider.Bidengine.Attributes
import AkashProvider.Lib.Reaches

/-!
# Requests for signed attributes

A request is answered from the cache or is pending, and a result for its auditor is then on its
way.  So none is answered twice and none waits for nothing.

The requests of one auditor should share a fetch, but nothing is written to `inProgress`
(`auditor_fetched_twice`).  `auditor_fetches_shared` says when the fetches are one at a time.
-/

namespace AkashProvider

namespace AuditedAttrs

variable {cfg : AttrServiceConfig} {now : Int} {s s' : AuditedAttrs}

/-! ## What the loop does -/

def nextRequest (s : AuditedAttrs) (auditor : String) : AuditedAttrRequest :=
  ⟨s.taken.length, auditor, s.audits.count auditor⟩

variable {entry : ProviderAttrEntry} {request : AuditedAttrRequest}

theorem addRequest_cached (hcached : s.cached cfg now request.auditor = some entry) :
    s.addRequest cfg now request =
      ({ s with answers := s.answers ++ [⟨request, .ok entry.providerAttr, entry.audits⟩] },
        false) := by
  simp only [addRequest, hcached]

theorem addRequest_pending (hcached : s.cached cfg now request.auditor = none) :
    s.addRequest cfg now request = ({ s with pending := s.pending ++ [request] }, true) := by
  simp only [addRequest, hcached]

variable {auditor : String}

theorem maybeStart_of_pending (hpending : s.pendingFor auditor ≠ []) (hidle : s.inProgress = []) :
    s.maybeStart auditor =
      { s with fetches := s.fetches ++ [⟨auditor, .querying, s.audits.count auditor⟩] } := by
  rw [maybeStart, if_neg hpending, if_neg (hidle ▸ List.not_mem_nil)]

theorem takeRequest_eq (s : AuditedAttrs) (auditor : String) :
    s.takeRequest cfg now auditor =
      let added := { s with taken := s.taken ++ [s.nextRequest auditor] }.addRequest cfg now
        (s.nextRequest auditor)
      if added.2 then added.1.maybeStart auditor else added.1 := rfl

theorem takeRequest_cached (hcached : s.cached cfg now auditor = some entry) :
    s.takeRequest cfg now auditor =
      { s with
        taken := s.taken ++ [s.nextRequest auditor]
        answers := s.answers ++
          [⟨s.nextRequest auditor, .ok entry.providerAttr, entry.audits⟩] } := by
  rw [takeRequest_eq, addRequest_cached hcached]
  rfl

theorem takeRequest_pending (hcached : s.cached cfg now auditor = none)
    (hidle : s.inProgress = []) :
    s.takeRequest cfg now auditor =
      { s with
        taken := s.taken ++ [s.nextRequest auditor]
        pending := s.pending ++ [s.nextRequest auditor]
        fetches := s.fetches ++ [⟨auditor, .querying, s.audits.count auditor⟩] } := by
  have hpending : pendingFor { s with
      taken := s.taken ++ [s.nextRequest auditor]
      pending := s.pending ++ [s.nextRequest auditor] } auditor ≠ [] := by
    simp [pendingFor, nextRequest]
  rw [takeRequest_eq, addRequest_pending hcached]
  exact maybeStart_of_pending hpending hidle

def dataAfter (cfg : AttrServiceConfig) (now : Int) (order : List String) (s : AuditedAttrs)
    (auditor : String) (audits : Nat) :
    Except String AuditedProviders → List (String × ProviderAttrEntry)
  | .error _ => s.data
  | .ok result =>
    trimCache cfg now order ((auditor, ⟨result, now, audits⟩) :: s.data.filter (·.1 ≠ auditor))

theorem takeResult_eq (order : List String) (s : AuditedAttrs) (auditor : String) (audits : Nat)
    (result : Except String AuditedProviders) :
    s.takeResult cfg now order auditor audits result =
      { s with
        answers := s.answers ++ (s.pendingFor auditor).map (⟨·, result, audits⟩)
        pending := s.pending.filter (·.auditor ≠ auditor)
        data := dataAfter cfg now order s auditor audits result } := by
  cases result <;>
    simp [takeResult, failAllPending, completeAllPending, answerPending, deletePending, dataAfter,
      pendingFor]

inductive Step (cfg : AttrServiceConfig) (now : Int) (looping : Bool) (s : AuditedAttrs) :
    AuditedEvent → AuditedAttrs → Prop where
  | request (loops : looping = true) (auditor : String) :
      Step cfg now looping s (.request auditor) (s.takeRequest cfg now auditor)
  | queried {i : Nat} {auditor : String} {audits : Nat}
      (asks : s.fetches[i]? = some ⟨auditor, .querying, audits⟩)
      (result : Except String AuditedProviders) :
      Step cfg now looping s (.queried i result)
        { s with
          fetches := s.fetches.set i ⟨auditor, .sending (auditedAttrResult result), audits⟩ }
  | fetched {i : Nat} {auditor : String} {result : Except String AuditedProviders} {audits : Nat}
      (loops : looping = true) (sends : s.fetches[i]? = some ⟨auditor, .sending result, audits⟩)
      (order : List String) :
      Step cfg now looping s (.fetched i order)
        ({ s with fetches := s.fetches.eraseIdx i }.takeResult cfg now order auditor audits result)

variable {e : AuditedEvent} {looping : Bool}

theorem step_iff :
    s.step cfg now looping e = some s' ↔ Step cfg now looping s e s' := by
  constructor
  · intro hstep
    cases e with
    | request auditor =>
      obtain ⟨hloop, ⟨⟩⟩ := Option.ite_none_right_eq_some.mp hstep
      exact .request hloop auditor
    | queried i result =>
      simp only [step] at hstep
      split at hstep
      · next hf =>
        injection hstep with hstep
        exact hstep ▸ .queried hf result
      · cases hstep
    | fetched i order =>
      simp only [step] at hstep
      split at hstep
      · next hf =>
        injection hstep with hstep
        exact hstep ▸ .fetched rfl hf order
      · cases hstep
  · intro hstep
    cases hstep with
    | request hloop auditor => exact if_pos hloop
    | queried hf result => simp only [step, hf]
    | fetched hloop hf order => simp only [step, hloop, hf]

/-! ## Requests and answers -/

@[grind cases]
structure Inv (s : AuditedAttrs) : Prop where
  idle : s.inProgress = []
  refs : s.taken.map (·.ref) = List.range s.taken.length
  accounted : s.taken.Perm (s.answers.map (·.request) ++ s.pending)
  fetching : ∀ r ∈ s.pending, ∃ f ∈ s.fetches, f.auditor = r.auditor

theorem Inv.start : Inv .start where
  idle := rfl
  refs := rfl
  accounted := List.Perm.refl _
  fetching _ hr := absurd hr List.not_mem_nil

theorem Inv.takeRequest (h : Inv s) (auditor : String) : Inv (s.takeRequest cfg now auditor) := by
  have hrefs : (s.taken ++ [s.nextRequest auditor]).map (·.ref) =
      List.range (s.taken ++ [s.nextRequest auditor]).length := by
    rw [List.map_append, h.refs, List.length_append, List.length_singleton, List.range_succ]
    rfl
  cases hcached : s.cached cfg now auditor with
  | some entry =>
    rw [takeRequest_cached hcached]
    refine ⟨h.idle, hrefs, ?_, h.fetching⟩
    rw [List.map_append, List.map_singleton, List.append_assoc, List.singleton_append]
    exact (h.accounted.append_right _).trans
      ((List.append_assoc .. ▸ List.perm_append_comm.append_left _))
  | none =>
    rw [takeRequest_pending hcached h.idle]
    refine ⟨h.idle, hrefs, ?_, fun r hr => ?_⟩
    · rw [← List.append_assoc]
      exact h.accounted.append_right _
    · rcases List.mem_append.mp hr with hr | hr
      · obtain ⟨f, hf, hauditor⟩ := h.fetching r hr
        exact ⟨f, List.mem_append_left _ hf, hauditor⟩
      · rw [List.mem_singleton.mp hr]
        exact ⟨_, List.mem_append_right _ (List.mem_singleton.mpr rfl), rfl⟩

variable {f : AuditFetch} {i : Nat}

theorem Inv.takeResult (h : Inv s) (hf : s.fetches[i]? = some f) (order : List String)
    (result : Except String AuditedProviders) :
    Inv ({ s with fetches := s.fetches.eraseIdx i }.takeResult cfg now order f.auditor f.audits
      result) := by
  rw [takeResult_eq]
  refine ⟨h.idle, h.refs, ?_, fun r hr => ?_⟩
  · have hsplit : s.pending.Perm
        (s.pendingFor f.auditor ++ s.pending.filter (·.auditor ≠ f.auditor)) := by
      grind [List.filter_append_perm, pendingFor]
    have hanswered : ((s.pendingFor f.auditor).map
        (fun r => (⟨r, result, f.audits⟩ : AuditAnswer))).map (·.request) =
        s.pendingFor f.auditor := by
      rw [List.map_map]
      exact List.map_id _
    rw [List.map_append, List.append_assoc]
    refine h.accounted.trans (List.Perm.append_left _ ?_)
    exact (hanswered.symm ▸ hsplit)
  · obtain ⟨hr, hother⟩ := List.mem_filter.mp hr
    -- the fetch of another auditor is still there
    grind [List.getElem?_of_mem, List.mem_eraseIdx_iff_getElem?]

theorem auditors_set (hf : s.fetches[i]? = some f) (stage : AuditFetchStage) :
    (s.fetches.set i { f with stage := stage }).map (·.auditor) = s.fetches.map (·.auditor) := by
  obtain ⟨hi, rfl⟩ := List.getElem?_eq_some_iff.mp hf
  rw [List.map_set]
  refine List.ext_getElem? fun j => ?_
  rw [List.getElem?_set]
  split
  · next hij => simp [← hij, hi]
  · rfl

theorem Inv.step (h : Inv s) (hstep : Step cfg now looping s e s') : Inv s' := by
  cases hstep with
  | request _ auditor => exact h.takeRequest auditor
  | queried hf result =>
    refine ⟨h.idle, h.refs, h.accounted, fun r hr => ?_⟩
    have hmem : r.auditor ∈ s.fetches.map (·.auditor) := List.mem_map.mpr (h.fetching r hr)
    rw [← auditors_set hf (.sending (auditedAttrResult result))] at hmem
    exact List.mem_map.mp hmem
  | fetched _ hf order => exact h.takeResult hf order _

def answersTo (s : AuditedAttrs) (r : AuditedAttrRequest) : Nat :=
  (s.answers.map (·.request)).count r

theorem Inv.nodup (h : Inv s) : s.taken.Nodup := List.Nodup.of_map _ (h.refs ▸ List.nodup_range)

theorem Inv.answersTo_add (h : Inv s) {r : AuditedAttrRequest} (hr : r ∈ s.taken) :
    s.answersTo r + s.pending.count r = 1 := by
  rw [answersTo, ← List.count_append, ← h.accounted.count_eq]
  exact List.count_eq_one_of_mem h.nodup hr

end AuditedAttrs

namespace AttrService

variable {cfg : AttrServiceConfig} {s s' : AttrService}

/-! ## Steps of the service -/

def busData (delivery : Delivery) (auditor : Option String)
    (data : List (String × ProviderAttrEntry)) : List (String × ProviderAttrEntry) :=
  match delivery, auditor with
  | .value, some auditor => data.filter (·.1 ≠ auditor)
  | _, _ => data

/-- What an event of the bus does to the signed attributes. -/
def busAudited (cfg : AttrServiceConfig) (s : AttrService) (delivery : Delivery)
    (ev : AttrBusEvent) : AuditedAttrs :=
  { s.audited with
    data := busData delivery (ev.auditorOf cfg.providerAddr) s.audited.data
    audits := s.audited.audits ++ (ev.auditorOf cfg.providerAddr).toList }

theorem handleEvent_audited (s : AttrService) (delivery : Delivery) (ev : AttrBusEvent) :
    ((s.record cfg ev).handleEvent cfg delivery ev).audited = busAudited cfg s delivery ev := by
  cases delivery with
  | pointer => cases ev <;> rfl
  | value =>
    cases ev with
    | trustedAuditorCreated owner auditor | trustedAuditorDeleted owner auditor =>
      by_cases howner : owner = cfg.providerAddr <;>
        simp [handleEvent, record, busAudited, busData, AttrBusEvent.auditorOf, howner,
          AuditedAttrs.purgeAuditor]
    | providerUpdated owner =>
      simp only [handleEvent]
      split <;> rfl
    | other => rfl

theorem handleEvent_frame (cfg : AttrServiceConfig) (s : AttrService) (delivery : Delivery)
    (ev : AttrBusEvent) :
    (s.handleEvent cfg delivery ev).stage = s.stage ∧
      (s.handleEvent cfg delivery ev).now = s.now ∧
      (s.handleEvent cfg delivery ev).shutdownRequested = s.shutdownRequested := by
  cases delivery with
  | pointer => exact ⟨rfl, rfl, rfl⟩
  | value =>
    cases ev with
    | trustedAuditorCreated owner _ | trustedAuditorDeleted owner _ | providerUpdated owner =>
      simp only [handleEvent]
      split <;> exact ⟨rfl, rfl, rfl⟩
    | other => exact ⟨rfl, rfl, rfl⟩

/-- What a step of the service is for the signed attributes. -/
inductive AuditedStep (cfg : AttrServiceConfig) (s : AttrService) :
    AttrServiceEvent → AttrService → Prop where
  | bus {s' : AttrService} {delivery : Delivery} {ev : AttrBusEvent} (looping : s.stage = .looping)
      (stage : s'.stage = s.stage) (now : s'.now = s.now)
      (audited : s'.audited = busAudited cfg s delivery ev) :
      AuditedStep cfg s (.bus delivery ev) s'
  | audited {e : AuditedEvent} {a : AuditedAttrs}
      (step : AuditedAttrs.Step cfg s.now s.looping s.audited e a) :
      AuditedStep cfg s (.audited e) { s with audited := a }
  | other {s' : AttrService} {e : AttrServiceEvent} (audited : s'.audited = s.audited)
      (now : s.now ≤ s'.now) (not_bus : ∀ delivery ev, e ≠ .bus delivery ev)
      (not_audited : ∀ ae, e ≠ .audited ae) : AuditedStep cfg s e s'

variable {e : AttrServiceEvent}

theorem auditedStep (hstep : s.step cfg e = some s') :
    AuditedStep cfg s e s' := by
  cases e with
  | bus delivery ev =>
    obtain ⟨hloop, ⟨⟩⟩ := Option.ite_none_right_eq_some.mp hstep
    obtain ⟨hstage, hnow, -⟩ := handleEvent_frame cfg (s.record cfg ev) delivery ev
    exact .bus (of_decide_eq_true hloop) hstage hnow (handleEvent_audited s delivery ev)
  | audited e =>
    obtain ⟨a, ha, rfl⟩ := Option.map_eq_some_iff.mp hstep
    exact .audited (AuditedAttrs.step_iff.mp ha)
  | own e =>
    obtain ⟨o, -, rfl⟩ := Option.map_eq_some_iff.mp hstep
    exact .other rfl le_rfl (fun _ _ h => by cases h) (fun _ h => by cases h)
  | shutdown | wait =>
    obtain ⟨-, ⟨⟩⟩ := Option.ite_none_right_eq_some.mp hstep
    exact .other rfl le_rfl (fun _ _ h => by cases h) (fun _ h => by cases h)
  | shutdownRequest =>
    cases hstep
    exact .other rfl le_rfl (fun _ _ h => by cases h) (fun _ h => by cases h)
  | tick elapsed =>
    cases hstep
    exact .other rfl (Int.le_add_of_nonneg_right (Int.natCast_nonneg elapsed))
      (fun _ _ h => by cases h) (fun _ h => by cases h)

theorem step_audited {e : AuditedEvent} {a : AuditedAttrs}
    (hstep : AuditedAttrs.Step cfg s.now s.looping s.audited e a) :
    s.step cfg (.audited e) = some { s with audited := a } := by
  rw [step, AuditedAttrs.step_iff.mpr hstep]
  rfl

theorem audited_inv_step (hstep : s.step cfg e = some s') (h : s.audited.Inv) : s'.audited.Inv := by
  cases auditedStep hstep with
  | bus _ _ _ haudited => exact haudited ▸ ⟨h.idle, h.refs, h.accounted, h.fetching⟩
  | audited hmove => exact h.step hmove
  | other haudited => exact haudited ▸ h

theorem audited_inv_of_runs {ok : AttrService → AttrServiceEvent → Prop} {now : Int}
    (hrun : Runs (step cfg) ok (start now) s) : s.audited.Inv :=
  hrun.invariant (I := fun s => s.audited.Inv) (fun _ _ _ _ hstep h => audited_inv_step hstep h)
    .start

/-! ## Each request is answered -/

variable {r : AuditedAttrRequest}

theorem reaches_answer_of_sending {i : Nat} {f : AuditFetch}
    {result : Except String AuditedProviders} (hloop : s.stage = .looping)
    (hf : s.audited.fetches[i]? = some f) (hsending : f.stage = .sending result)
    (hr : r ∈ s.audited.pendingFor f.auditor) :
    Reaches (step cfg) s fun s' => r ∈ s'.audited.answers.map (·.request) := by
  obtain ⟨auditor, stage, audits⟩ := f
  subst hsending
  have hstep : AuditedAttrs.Step cfg s.now s.looping s.audited (.fetched i []) _ :=
    .fetched (decide_eq_true hloop) hf []
  refine Reaches.next _ (step_audited hstep) (Reaches.here ?_)
  rw [AuditedAttrs.takeResult_eq, List.map_append, List.map_map]
  exact List.mem_append_right _ (List.mem_map.mpr ⟨r, hr, rfl⟩)

theorem reaches_answer (h : s.audited.Inv) (hloop : s.stage = .looping)
    (hr : r ∈ s.audited.pending) :
    Reaches (step cfg) s fun s' => r ∈ s'.audited.answers.map (·.request) := by
  obtain ⟨f, hf, hauditor⟩ := h.fetching r hr
  obtain ⟨i, hi⟩ := List.getElem?_of_mem hf
  have hpending : r ∈ s.audited.pendingFor f.auditor :=
    List.mem_filter.mpr ⟨hr, decide_eq_true hauditor.symm⟩
  cases hstage : f.stage with
  | sending result => exact reaches_answer_of_sending hloop hi hstage hpending
  | querying =>
    obtain ⟨auditor, stage, audits⟩ := f
    subst hstage
    have hstep : AuditedAttrs.Step cfg s.now s.looping s.audited (.queried i (.ok [])) _ :=
      .queried hi (.ok [])
    have hset := List.getElem?_set_self (a := AuditFetch.mk auditor (.sending (.ok [])) audits)
      (List.getElem?_eq_some_iff.mp hi).1
    exact Reaches.next _ (step_audited hstep)
      (reaches_answer_of_sending hloop hset rfl hpending)

/-- What becomes of the requests that the service has taken. -/
@[grind cases]
structure Accounted (cfg : AttrServiceConfig) (s : AttrService) : Prop where
  /-- A request has one answer, or it is pending.  Then the callers see the shutdown, or it may
  still be answered. -/
  once : ∀ r ∈ s.audited.taken, s.audited.answersTo r = 1 ∨
    s.audited.answersTo r = 0 ∧ r ∈ s.audited.pending ∧
      (s.shuttingDown = true ∨ Reaches (step cfg) s fun s' => s'.audited.answersTo r = 1)
  fetching : ∀ r ∈ s.audited.pending, ∃ f ∈ s.audited.fetches, f.auditor = r.auditor

theorem taken_subset_of_step (hstep : s.step cfg e = some s') (h : s.audited.Inv)
    (hr : r ∈ s.audited.taken) :
    r ∈ s'.audited.taken := by
  cases auditedStep hstep with
  | bus _ _ _ haudited => exact haudited ▸ hr
  | other haudited => exact haudited ▸ hr
  | audited hmove =>
    cases hmove with
    | queried => exact hr
    | fetched =>
      rw [AuditedAttrs.takeResult_eq]
      exact hr
    | request _ auditor =>
      cases hcached : s.audited.cached cfg s.now auditor with
      | some entry =>
        rw [AuditedAttrs.takeRequest_cached hcached]
        exact List.mem_append_left _ hr
      | none =>
        rw [AuditedAttrs.takeRequest_pending hcached h.idle]
        exact List.mem_append_left _ hr

theorem accounted_of_inv (h : s.audited.Inv) : Accounted cfg s where
  once r hr := by
    have hsum := h.answersTo_add hr
    by_cases hpending : r ∈ s.audited.pending
    · have hcount : 0 < s.audited.pending.count r := List.count_pos_iff.mpr hpending
      refine .inr ⟨by omega, hpending, ?_⟩
      by_cases hloop : s.stage = .looping
      · refine .inr (((reaches_answer h hloop hpending).and_invariant
          (I := fun t => t.audited.Inv ∧ r ∈ t.audited.taken) (fun t e t' hstep hI =>
            ⟨audited_inv_step hstep hI.1, taken_subset_of_step hstep hI.1 hI.2⟩) ⟨h, hr⟩).trans
          fun t ht => Reaches.here ?_)
        obtain ⟨hanswered, hinv, htaken⟩ := ht
        have hpos : 0 < t.audited.answersTo r := List.count_pos_iff.mpr hanswered
        have hsum' := hinv.answersTo_add htaken
        omega
      · exact .inl (decide_eq_true hloop)
    · grind
  fetching := h.fetching

/-! ## One fetch for an auditor -/

/-- No auditor has two fetches in flight. -/
def Alone (s : AttrService) : Prop := (s.audited.fetches.map (·.auditor)).Nodup

/-- A request is taken while a fetch for its auditor is in flight only if the cache answers it. -/
def FetchedAlone (cfg : AttrServiceConfig) (s : AttrService) : AttrServiceEvent → Prop
  | .audited (.request auditor) =>
    s.audited.cached cfg s.now auditor ≠ none ∨ auditor ∉ s.audited.fetches.map (·.auditor)
  | _ => True

instance (cfg : AttrServiceConfig) (s : AttrService) : DecidablePred (FetchedAlone cfg s) := by
  intro e
  unfold FetchedAlone
  split <;> infer_instance

theorem fetchedAlone_of_not_audited (h : ∀ ae, e ≠ .audited ae) :
    FetchedAlone cfg s e := by
  cases e with
  | audited ae => exact absurd rfl (h ae)
  | bus _ _ | shutdownRequest | shutdown | wait | tick _ | own _ => trivial

theorem alone_step_iff (hinv : s.audited.Inv) (halone : s.Alone) (hstep : s.step cfg e = some s') :
    s'.Alone ↔ FetchedAlone cfg s e := by
  cases auditedStep hstep with
  | bus _ _ _ haudited =>
    refine iff_of_true ?_ trivial
    rw [Alone, haudited]
    exact halone
  | other haudited _ _ hnot => grind [fetchedAlone_of_not_audited, Alone]
  | audited hmove =>
    cases hmove with
    | queried hf result =>
      refine iff_of_true ?_ trivial
      rw [Alone, AuditedAttrs.auditors_set hf]
      exact halone
    | fetched _ hf order =>
      refine iff_of_true ?_ trivial
      rw [Alone, AuditedAttrs.takeResult_eq]
      exact List.Nodup.sublist ((List.eraseIdx_sublist _ _).map _) halone
    | request _ auditor =>
      cases hcached : s.audited.cached cfg s.now auditor with
      | some entry =>
        rw [Alone, AuditedAttrs.takeRequest_cached hcached]
        exact iff_of_true halone (.inl (hcached ▸ Option.some_ne_none entry))
      | none =>
        rw [Alone, AuditedAttrs.takeRequest_pending hcached hinv.idle, List.map_append,
          List.map_singleton, List.nodup_append_comm, List.singleton_append, List.nodup_cons]
        exact ⟨fun h => .inr h.1, fun h => ⟨h.resolve_left (not_not.mpr hcached), halone⟩⟩

/-- In every run, each request that was taken has one answer, or is pending with a fetch in flight
until the callers see the shutdown.  An auditor has one fetch at a time, unless a request is taken
while one is in flight and the cache does not answer it, which starts a second. -/
theorem auditor_fetches_shared {now : Int} :
    (∀ s, Runs (step cfg) (fun _ _ => True) (start now) s → Accounted cfg s) ∧
    ∀ s, Runs (step cfg) (FetchedAlone cfg) (start now) s →
      s.Alone ∧ ∀ e s', s.step cfg e = some s' → (s'.Alone ↔ FetchedAlone cfg s e) := by
  refine ⟨fun s hrun => accounted_of_inv (audited_inv_of_runs hrun), fun s hrun => ?_⟩
  have halone : s.Alone := (hrun.invariant (I := fun s => s.audited.Inv ∧ s.Alone)
    (fun _ _ _ hok hstep h => ⟨audited_inv_step hstep h.1, (alone_step_iff h.1 h.2 hstep).mpr hok⟩)
    ⟨.start, List.nodup_nil⟩).2
  exact ⟨halone, fun e s' hstep => alone_step_iff (audited_inv_of_runs hrun) halone hstep⟩

/-- A service whose cache keeps entries for an hour. -/
def plainAttrService : AttrServiceConfig := ⟨"provider", 3600⟩

/-- Requests for two auditors, and one that the cache answers. -/
theorem auditor_fetches_shared_cached :
    let events : List AttrServiceEvent :=
      [.audited (.request "auditor"), .audited (.request "other"),
        .audited (.queried 0 (.ok [⟨"provider", "auditor", []⟩])), .audited (.fetched 0 []),
        .audited (.request "auditor")]
    ∃ s, events.foldlM (step plainAttrService) (start 0) = some s ∧
      s.audited.answers.length = 2 ∧ s.audited.pending.length = 1 ∧
      Accounted plainAttrService s ∧ s.Alone := by
  intro events
  have hrun : events.foldlM (step plainAttrService) (start 0) = some _ := rfl
  have hguarded : events.foldlM (fun s e =>
      if FetchedAlone plainAttrService s e then step plainAttrService s e else none) (start 0) =
      some _ := rfl
  exact ⟨_, hrun, rfl, rfl, auditor_fetches_shared.1 _ (Runs.of_foldlM _ _ _ hrun),
    (auditor_fetches_shared.2 _ (Runs.of_guarded _ _ _ hguarded)).1⟩

/-- Two requests for one auditor have two fetches in flight. -/
theorem auditor_fetched_twice :
    ∃ s, [AttrServiceEvent.audited (.request "auditor"), .audited (.request "auditor")].foldlM
        (step plainAttrService) (start 0) = some s ∧
      s.audited.fetches.map (·.auditor) = ["auditor", "auditor"] ∧ ¬ s.Alone :=
  ⟨_, rfl, by decide, by unfold Alone; decide⟩

end AttrService

end AkashProvider
