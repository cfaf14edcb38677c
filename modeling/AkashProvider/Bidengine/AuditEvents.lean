import AkashProvider.Bidengine.AuditedRequests
import AkashProvider.Lib.Assoc

/-!
# Events about audits

What was fetched before an event about an audit should not be served after it.  Events come as
pointers, which `handleEvent` does not know (`stale_entry_served`), and an entry that is purged
comes back with a fetch that was in flight.  `audit_events_invalidate` says that there is no other
way.

`audits` counts the events about an auditor, for a request and for the fetch that its answer is
from; an answer is stale if the count of the fetch is smaller.
-/

namespace AkashProvider

/-- The fetch has not failed. -/
def AuditFetch.mayDeliver (f : AuditFetch) : Bool :=
  match f.stage with
  | .sending (.error _) => false
  | _ => true

namespace AuditedAttrs

variable {cfg : AttrServiceConfig} {now : Int} {s : AuditedAttrs}

theorem trimCache_sublist (order : List String) (data : List (String × ProviderAttrEntry)) :
    (trimCache cfg now order data).Sublist data := by
  simp only [trimCache]
  split
  · exact List.filter_sublist.trans List.filter_sublist
  · exact List.filter_sublist

variable {auditor : String} {entry : ProviderAttrEntry}

theorem mem_of_cached (h : s.cached cfg now auditor = some entry) :
    (auditor, entry) ∈ s.data ∧ now - entry.storedAt < cfg.ttl := by
  obtain ⟨hlookup, hyoung⟩ := Option.filter_eq_some_iff.mp h
  exact ⟨Assoc.mem_of_lookup hlookup, of_decide_eq_true hyoung⟩

theorem cached_of_mem (hkeys : (s.data.map Prod.fst).Nodup) (hmem : (auditor, entry) ∈ s.data)
    (hyoung : now - entry.storedAt < cfg.ttl) : s.cached cfg now auditor = some entry :=
  Option.filter_eq_some_iff.mpr ⟨Assoc.lookup_of_mem hkeys hmem, decide_eq_true hyoung⟩

/-- What is cached, in flight and pending is as of the last event about its auditor, and so is each
answer as of its request. -/
@[grind cases]
structure Fresh (cfg : AttrServiceConfig) (now : Int) (s : AuditedAttrs) : Prop where
  keys : (s.data.map Prod.fst).Nodup
  cached : ∀ auditor entry, (auditor, entry) ∈ s.data → now - entry.storedAt < cfg.ttl →
    entry.audits = s.audits.count auditor
  fetched : ∀ f ∈ s.fetches, f.mayDeliver = true → f.audits = s.audits.count f.auditor
  pending : ∀ r ∈ s.pending, r.audits ≤ s.audits.count r.auditor
  answers : ∀ a ∈ s.answers, ∀ data, a.result = .ok data → a.request.audits ≤ a.audits

namespace Fresh

theorem start (cfg : AttrServiceConfig) (now : Int) : Fresh cfg now .start where
  keys := List.nodup_nil
  cached _ _ h := absurd h List.not_mem_nil
  fetched _ h := absurd h List.not_mem_nil
  pending _ h := absurd h List.not_mem_nil
  answers _ h := absurd h List.not_mem_nil

theorem later (h : Fresh cfg now s) {now' : Int} (hle : now ≤ now') : Fresh cfg now' s :=
  { h with cached := fun auditor entry hmem hyoung => h.cached auditor entry hmem (by omega) }

theorem takeRequest (h : Fresh cfg now s) (hinv : s.Inv) (auditor : String) :
    Fresh cfg now (s.takeRequest cfg now auditor) := by
  cases hcached : s.cached cfg now auditor with
  | some entry =>
    rw [takeRequest_cached hcached]
    obtain ⟨hmem, hyoung⟩ := mem_of_cached hcached
    refine ⟨h.keys, h.cached, h.fetched, h.pending, fun a ha data hok => ?_⟩
    rcases List.mem_append.mp ha with ha | ha
    · exact h.answers a ha data hok
    · rw [List.mem_singleton.mp ha]
      exact (h.cached auditor entry hmem hyoung).ge
  | none =>
    rw [takeRequest_pending hcached hinv.idle]
    refine ⟨h.keys, h.cached, fun f hf hmay => ?_, fun r hr => ?_, h.answers⟩
    · rcases List.mem_append.mp hf with hf | hf
      · exact h.fetched f hf hmay
      · rw [List.mem_singleton.mp hf]
    · rcases List.mem_append.mp hr with hr | hr
      · exact h.pending r hr
      · rw [List.mem_singleton.mp hr]
        exact le_rfl

theorem takeResult (h : Fresh cfg now s) {i : Nat} {auditor : String}
    {result : Except String AuditedProviders} {audits : Nat}
    (hf : s.fetches[i]? = some ⟨auditor, .sending result, audits⟩) (order : List String) :
    Fresh cfg now ({ s with fetches := s.fetches.eraseIdx i }.takeResult cfg now order auditor
      audits result) := by
  have hmem := List.mem_of_getElem? hf
  rw [takeResult_eq]
  have hfetched : ∀ f ∈ s.fetches.eraseIdx i, f.mayDeliver = true →
      f.audits = s.audits.count f.auditor :=
    fun f hf => h.fetched f (List.mem_of_mem_eraseIdx hf)
  have hpending : ∀ r ∈ s.pending.filter (·.auditor ≠ auditor),
      r.audits ≤ s.audits.count r.auditor :=
    fun r hr => h.pending r (List.mem_of_mem_filter hr)
  have hanswers : ∀ a ∈ s.answers ++ (s.pendingFor auditor).map (⟨·, result, audits⟩),
      ∀ data, a.result = .ok data → a.request.audits ≤ a.audits := by
    intro a ha data hok
    rcases List.mem_append.mp ha with ha | ha
    · exact h.answers a ha data hok
    · obtain ⟨r, hr, rfl⟩ := List.mem_map.mp ha
      obtain ⟨hr, hauditor⟩ := List.mem_filter.mp hr
      subst hok
      have haudits : audits = s.audits.count auditor := h.fetched _ hmem rfl
      have hle := h.pending r hr
      simp_all
  cases result with
  | error err => exact ⟨h.keys, h.cached, hfetched, hpending, hanswers⟩
  | ok data =>
    have haudits : audits = s.audits.count auditor := h.fetched _ hmem rfl
    refine ⟨?_, fun auditor' entry hentry hyoung => ?_, hfetched, hpending, hanswers⟩
    · refine List.Nodup.sublist ((trimCache_sublist order _).map _) ?_
      rw [List.map_cons, List.nodup_cons]
      refine ⟨fun hin => ?_, List.Nodup.sublist (List.filter_sublist.map _) h.keys⟩
      simp_all
    · rcases List.mem_cons.mp ((trimCache_sublist order _).subset hentry) with heq | hold
      · simp_all
      · exact h.cached auditor' entry (List.mem_of_mem_filter hold) hyoung

theorem step {looping : Bool} {e : AuditedEvent} {s' : AuditedAttrs} (h : Fresh cfg now s)
    (hinv : s.Inv) (hstep : Step cfg now looping s e s') : Fresh cfg now s' := by
  cases hstep with
  | request _ auditor => exact h.takeRequest hinv auditor
  | fetched _ hf order => exact h.takeResult hf order
  | queried hf result =>
    refine ⟨h.keys, h.cached, fun f hmem hmay => ?_, h.pending, h.answers⟩
    rcases List.mem_or_eq_of_mem_set hmem with hmem | rfl
    · exact h.fetched f hmem hmay
    · have haudits := h.fetched _ (List.mem_of_getElem? hf) rfl
      exact haudits

end Fresh

end AuditedAttrs

namespace AttrService

open AuditedAttrs (Fresh)

variable {cfg : AttrServiceConfig} {s s' : AttrService}

/-! ## Events -/

/-- No request was answered with data from before an event that was processed before it was taken.
-/
def NoStale (s : AttrService) : Prop :=
  ∀ a ∈ s.audited.answers, ∀ data, a.result = .ok data → a.request.audits ≤ a.audits

/-- An event about an auditor finds no entry that it does not purge, and no fetch that may still
deliver. -/
def Invalidates (cfg : AttrServiceConfig) (s : AttrService) : AttrServiceEvent → Prop
  | .bus delivery ev => ∀ auditor, ev.auditorOf cfg.providerAddr = some auditor →
      (delivery = .value ∨ s.audited.cached cfg s.now auditor = none) ∧
        ∀ f ∈ s.audited.fetches, f.auditor = auditor → f.mayDeliver = false
  | _ => True

instance (cfg : AttrServiceConfig) (s : AttrService) : DecidablePred (Invalidates cfg s) := by
  intro e
  unfold Invalidates
  split <;> infer_instance

variable {delivery : Delivery} {ev : AttrBusEvent}

theorem fresh_bus (h : Fresh cfg s.now s.audited) (hok : Invalidates cfg s (.bus delivery ev)) :
    Fresh cfg s.now (busAudited cfg s delivery ev) := by
  cases hev : ev.auditorOf cfg.providerAddr with
  | none => simp_all [busAudited, busData]
  | some auditor =>
    obtain ⟨hcache, hflight⟩ := hok auditor hev
    have hsub : (busData delivery (some auditor) s.audited.data).Sublist s.audited.data := by
      cases delivery with
      | value => exact List.filter_sublist
      | pointer => exact List.Sublist.refl _
    have hother {b : String} (hb : b ≠ auditor) :
        (s.audited.audits ++ [auditor]).count b = s.audited.audits.count b := by
      rw [List.count_append, List.count_singleton, if_neg (by simpa using hb.symm), Nat.add_zero]
    simp only [busAudited, hev, Option.toList_some]
    refine ⟨h.keys.sublist (hsub.map _), fun b entry hmem hyoung => ?_, fun f hf hmay => ?_,
      fun r hr => ?_, h.answers⟩
    · have hb : b ≠ auditor := by
        rintro rfl
        rcases hcache with rfl | hnone
        · exact of_decide_eq_true (List.mem_filter.mp hmem).2 rfl
        · rw [AuditedAttrs.cached_of_mem h.keys (hsub.subset hmem) hyoung] at hnone
          cases hnone
      rw [hother hb]
      exact h.cached b entry (hsub.subset hmem) hyoung
    · have hb : f.auditor ≠ auditor := fun heq => by
        rw [hflight f hf heq] at hmay
        cases hmay
      rw [hother hb]
      exact h.fetched f hf hmay
    · exact (h.pending r hr).trans
        ((List.sublist_append_left _ _).count_le _)

theorem fresh_step {e : AttrServiceEvent} (hinv : s.audited.Inv) (hok : Invalidates cfg s e)
    (hstep : s.step cfg e = some s') (h : Fresh cfg s.now s.audited) :
    Fresh cfg s'.now s'.audited := by
  cases auditedStep hstep with
  | bus _ _ hnow haudited =>
    rw [hnow, haudited]
    exact fresh_bus h hok
  | audited hmove => exact h.step hinv hmove
  | other haudited hnow =>
    rw [haudited]
    exact h.later hnow

theorem fresh_of_runs {now : Int} (hrun : Runs (step cfg) (Invalidates cfg) (start now) s) :
    Fresh cfg s.now s.audited :=
  (hrun.invariant (I := fun s => s.audited.Inv ∧ Fresh cfg s.now s.audited)
    (fun _ _ _ hok hstep h => ⟨audited_inv_step hstep h.1, fresh_step h.1 hok hstep h.2⟩)
    ⟨.start, .start cfg now⟩).2

/-! ## Stale answers -/

variable {auditor : String}

theorem stale_of_cached {entry : ProviderAttrEntry} (hloop : s.stage = .looping)
    (hcached : s.audited.cached cfg s.now auditor = some entry)
    (hold : entry.audits < s.audited.audits.count auditor) :
    ∃ s', Runs (step cfg) (Invalidates cfg) s s' ∧ ¬ s'.NoStale := by
  have hrequest : AuditedAttrs.Step cfg s.now s.looping s.audited (.request auditor) _ :=
    .request (decide_eq_true hloop) auditor
  refine ⟨_, (Runs.refl s).next (.audited (.request auditor)) trivial (step_audited hrequest),
    fun hfresh => ?_⟩
  rw [AuditedAttrs.takeRequest_cached hcached] at hfresh
  have hle := hfresh _ (List.mem_append_right _ (List.mem_singleton.mpr rfl)) _ rfl
  exact absurd hold (Nat.not_lt.mpr hle)

theorem stale_of_sending {i : Nat} {data : AuditedProviders} {audits : Nat} (hinv : s.audited.Inv)
    (hloop : s.stage = .looping) (hcached : s.audited.cached cfg s.now auditor = none)
    (hf : s.audited.fetches[i]? = some ⟨auditor, .sending (.ok data), audits⟩)
    (hold : audits < s.audited.audits.count auditor) :
    ∃ s', Runs (step cfg) (Invalidates cfg) s s' ∧ ¬ s'.NoStale := by
  have hlooping : s.looping = true := decide_eq_true hloop
  have hrequest : AuditedAttrs.Step cfg s.now s.looping s.audited (.request auditor) _ :=
    .request hlooping auditor
  rw [AuditedAttrs.takeRequest_pending hcached hinv.idle] at hrequest
  have hrun : Runs (step cfg) (Invalidates cfg) s _ :=
    (Runs.refl s).next (.audited (.request auditor)) trivial (step_audited hrequest)
  -- the fetch is where it was, with the new one after it
  have hlt := (List.getElem?_eq_some_iff.mp hf).1
  refine ⟨_, hrun.next (.audited (.fetched i [])) trivial (step_audited
    (.fetched hlooping ((List.getElem?_append_left hlt).trans hf) [])), fun hfresh => ?_⟩
  have hpending : s.audited.nextRequest auditor ∈
      (s.audited.pending ++ [s.audited.nextRequest auditor]).filter (·.auditor = auditor) :=
    List.mem_filter.mpr ⟨List.mem_append_right _ (List.mem_singleton.mpr rfl), decide_eq_true rfl⟩
  have hle := hfresh ⟨s.audited.nextRequest auditor, .ok data, audits⟩
    (List.mem_append_right _ (List.mem_map.mpr ⟨_, hpending, rfl⟩)) data rfl
  exact absurd hold (Nat.not_lt.mpr hle)

theorem stale_of_fetch {f : AuditFetch} (hinv : s.audited.Inv) (hloop : s.stage = .looping)
    (hcached : s.audited.cached cfg s.now f.auditor = none) (hf : f ∈ s.audited.fetches)
    (hmay : f.mayDeliver = true) (hold : f.audits < s.audited.audits.count f.auditor) :
    ∃ s', Runs (step cfg) (Invalidates cfg) s s' ∧ ¬ s'.NoStale := by
  obtain ⟨i, hi⟩ := List.getElem?_of_mem hf
  obtain ⟨auditor, stage, audits⟩ := f
  cases stage with
  | sending result =>
    cases result with
    | error err => cases hmay
    | ok data => exact stale_of_sending hinv hloop hcached hi hold
  | querying =>
    have hqueried : AuditedAttrs.Step cfg s.now s.looping s.audited (.queried i (.ok [])) _ :=
      .queried hi (.ok [])
    have hset := List.getElem?_set_self (a := AuditFetch.mk auditor (.sending (.ok [])) audits)
      (List.getElem?_eq_some_iff.mp hi).1
    obtain ⟨s', hrun, hstale⟩ :=
      stale_of_sending (audited_inv_step (step_audited hqueried) hinv) hloop hcached hset hold
    exact ⟨s', Relation.ReflTransGen.head
      ⟨.audited (.queried i (.ok [])), trivial, step_audited hqueried⟩ hrun, hstale⟩

/-- After an event that finds an entry that it does not purge, or a fetch in flight, a stale answer
may come. -/
theorem stale_of_not_invalidates (hinv : s.audited.Inv) (hfresh : Fresh cfg s.now s.audited)
    (hstep : s.step cfg (.bus delivery ev) = some s')
    (hnot : ¬ Invalidates cfg s (.bus delivery ev)) :
    ∃ s'', Runs (step cfg) (Invalidates cfg) s' s'' ∧ ¬ s''.NoStale := by
  have hinv' := audited_inv_step hstep hinv
  cases auditedStep hstep with
  | other _ _ hbus => exact absurd rfl (hbus delivery ev)
  | bus hloop hstage hnow haudited =>
    simp only [Invalidates, not_forall] at hnot
    obtain ⟨auditor, hev, hnot⟩ := hnot
    have hcount : s'.audited.audits.count auditor = s.audited.audits.count auditor + 1 := by
      simp [haudited, busAudited, hev]
    have hdata {entry : ProviderAttrEntry}
        (h : s'.audited.cached cfg s'.now auditor = some entry) :
        s.audited.cached cfg s.now auditor = some entry := by
      obtain ⟨hmem, hyoung⟩ := AuditedAttrs.mem_of_cached h
      rw [haudited] at hmem
      refine AuditedAttrs.cached_of_mem hfresh.keys ?_ (hnow ▸ hyoung)
      simp only [busAudited, busData, hev] at hmem
      split at hmem
      · exact List.mem_of_mem_filter hmem
      · exact hmem
    have hloop' := hstage.trans hloop
    cases hcached' : s'.audited.cached cfg s'.now auditor with
    | some entry =>
      obtain ⟨hmem, hyoung⟩ := AuditedAttrs.mem_of_cached (hdata hcached')
      refine stale_of_cached hloop' hcached' ?_
      rw [hcount, hfresh.cached auditor entry hmem hyoung]
      exact Nat.lt_succ_self _
    | none =>
      -- the cache has nothing to serve, so it is a fetch
      have hflight : ∃ f ∈ s.audited.fetches, f.auditor = auditor ∧ f.mayDeliver = true := by
        by_contra hnone
        push Not at hnone
        refine hnot ⟨?_, fun f hf hauditor => Bool.eq_false_iff.mpr (hnone f hf hauditor)⟩
        cases delivery with
        | value => exact .inl rfl
        | pointer =>
          have hsame : s'.audited.cached cfg s'.now auditor =
              s.audited.cached cfg s.now auditor := by
            rw [haudited, hnow]
            rfl
          exact .inr (hsame.symm.trans hcached')
      obtain ⟨f, hf, rfl, hmay⟩ := hflight
      refine stale_of_fetch hinv' hloop' hcached' (by rw [haudited]; exact hf) hmay ?_
      rw [hcount, hfresh.fetched f hf hmay]
      exact Nat.lt_succ_self _

/-- As long as events invalidate, no request is answered with data from before an event.  After one
that does not, such an answer may come. -/
theorem audit_events_invalidate {now : Int}
    (hrun : Runs (step cfg) (Invalidates cfg) (start now) s) :
    s.NoStale ∧ ∀ delivery ev s', s.step cfg (.bus delivery ev) = some s' →
      ((∀ s'', Runs (step cfg) (Invalidates cfg) s' s'' → s''.NoStale) ↔
        Invalidates cfg s (.bus delivery ev)) := by
  have hinv := audited_inv_of_runs hrun
  have hfresh := fresh_of_runs hrun
  refine ⟨hfresh.answers, fun delivery ev s' hstep => ⟨fun hnever => ?_, fun hok s'' hrun' => ?_⟩⟩
  · grind [stale_of_not_invalidates]
  · exact (fresh_of_runs (Relation.ReflTransGen.trans (hrun.next _ hok hstep) hrun')).answers

/-- A request for an auditor is answered, an event comes as a pointer, and a second request
follows. -/
def fetchedThen (ev : AttrBusEvent) : List AttrServiceEvent :=
  [.audited (.request "auditor"), .audited (.queried 0 (.ok [⟨"provider", "auditor", []⟩])),
    .audited (.fetched 0 []), .bus .pointer ev, .audited (.request "auditor")]

/-- An event about another auditor leaves the entry as it is. -/
theorem audit_events_invalidate_other :
    ∃ s, (fetchedThen (.trustedAuditorCreated "provider" "other")).foldlM (step plainAttrService)
        (start 0) = some s ∧
      s.audited.answers.length = 2 ∧ s.NoStale := by
  have hguarded : (fetchedThen (.trustedAuditorCreated "provider" "other")).foldlM (fun s e =>
      if Invalidates plainAttrService s e then step plainAttrService s e else none) (start 0) =
        some _ := rfl
  exact ⟨_, rfl, rfl, (audit_events_invalidate (Runs.of_guarded _ _ _ hguarded)).1⟩

/-- The auditor withdraws what it signed, and the second request gets what was fetched before. -/
theorem stale_entry_served :
    ∃ s, (fetchedThen (.trustedAuditorDeleted "provider" "auditor")).foldlM (step plainAttrService)
        (start 0) = some s ∧
      AuditAnswer.mk ⟨1, "auditor", 1⟩ (.ok [⟨"provider", "auditor", []⟩]) 0 ∈ s.audited.answers ∧
      ¬ s.NoStale := by
  refine ⟨_, rfl, by decide, fun hfresh => ?_⟩
  have hle := hfresh (.mk ⟨1, "auditor", 1⟩ (.ok [⟨"provider", "auditor", []⟩]) 0) (by decide) _ rfl
  cases hle

end AttrService

end AkashProvider
