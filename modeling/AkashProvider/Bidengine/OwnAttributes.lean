import AkashProvider.Bidengine.AuditedRequests

/-!
# The latest attributes of the provider

Requests get their list from `currAttr`, which is filled only when it is empty, so the first one
after a new list was stored gets the old list (`attributes_stale_and_update_lost`).  An event that
comes as a pointer is not seen, and a signal to fetch is dropped while a fetch is in progress.
`own_attributes_latest` says when a list is the latest, and when an update leads to a fetch.
-/

namespace AkashProvider

namespace OwnAttrs

variable {looping : Bool} {s s' : OwnAttrs} {e : OwnAttrEvent}

/-! ## Steps -/

inductive Step (looping : Bool) (s : OwnAttrs) : OwnAttrEvent → OwnAttrs → Prop where
  | call (room : s.reqAttr = none) :
      Step looping s .call { s with reqAttr := some ⟨s.attr.version⟩ }
  | serve {req : AttrRequest} (loops : looping = true) (asked : s.reqAttr = some req) :
      Step looping s .serve { s with reqAttr := none, waiting := s.waiting ++ [req] }
  | receive {i : Nat} {req : AttrRequest} {attr : StoredAttrs} (waits : s.waiting[i]? = some req)
      (full : s.currAttr = some attr) :
      Step looping s (.receive i)
        { s with
          currAttr := none
          waiting := s.waiting.eraseIdx i
          pushing := s.pushing + 1
          answers := s.answers ++ [(req, attr)] }
  | timeout {i : Nat} (waits : i < s.waiting.length) :
      Step looping s (.timeout i) { s with waiting := s.waiting.eraseIdx i }
  | push (pushes : 0 < s.pushing) :
      Step looping s .push (pushCurrAttributes { s with pushing := s.pushing - 1 })
  | fetchSignal (loops : looping = true) (signal : s.fetchAttr = true) :
      Step looping s .fetchSignal (tryFetchAttributes { s with fetchAttr := false })
  | pushSignal (loops : looping = true) (signal : s.pushAttr = true) :
      Step looping s .pushSignal
        { s with pushAttr := false, currAttr := some (s.currAttr.getD s.attr) }
  | errSignal (loops : looping = true) (signal : s.errFetchAttr = true) :
      Step looping s .errSignal { s with errFetchAttr := false, timers := s.timers + 1 }
  | queried (asks : s.fetchInProgress = some .querying) (attributes : Attributes) :
      Step looping s (.queried (.ok attributes))
        { s with fetchInProgress := some (.sending attributes) }
  | failed (asks : s.fetchInProgress = some .querying) (text : String) :
      Step looping s (.queried (.error text)) { s with fetchInProgress := some (.returning true) }
  | newAttr {attributes : Attributes} (loops : looping = true)
      (sends : s.fetchInProgress = some (.sending attributes)) :
      Step looping s .newAttr (s.storeAttributes attributes)
  | release {failed : Bool} (returns : s.fetchInProgress = some (.returning failed)) :
      Step looping s .release
        { s with fetchInProgress := none, reporting := s.reporting + if failed then 1 else 0 }
  | report (reports : 0 < s.reporting) (room : s.errFetchAttr = false) :
      Step looping s .report { s with reporting := s.reporting - 1, errFetchAttr := true }
  | retry (timer : 0 < s.timers) :
      Step looping s .retry (fetchAttributes { s with timers := s.timers - 1 })

theorem step_iff : s.step looping e = some s' ↔ Step looping s e s' := by
  constructor
  · intro hstep
    cases e with
    | call =>
      obtain ⟨hroom, ⟨⟩⟩ := Option.ite_none_right_eq_some.mp hstep
      exact .call (Option.isNone_iff_eq_none.mp hroom)
    | serve =>
      simp only [step] at hstep
      split at hstep
      · next hreq =>
        injection hstep with hstep
        exact hstep ▸ .serve rfl hreq
      · cases hstep
    | receive i =>
      simp only [step] at hstep
      split at hstep
      · next hreq hattr =>
        injection hstep with hstep
        exact hstep ▸ .receive hreq hattr
      · cases hstep
    | queried result =>
      simp only [step] at hstep
      split at hstep
      · next hasks =>
        injection hstep with hstep
        exact hstep ▸ .queried hasks _
      · next hasks =>
        injection hstep with hstep
        exact hstep ▸ .failed hasks _
      · cases hstep
    | newAttr =>
      simp only [step] at hstep
      split at hstep
      · next hsends =>
        injection hstep with hstep
        exact hstep ▸ .newAttr rfl hsends
      · cases hstep
    | release =>
      simp only [step] at hstep
      split at hstep
      · next hreturns =>
        injection hstep with hstep
        exact hstep ▸ .release hreturns
      · cases hstep
    | timeout i =>
      obtain ⟨h, ⟨⟩⟩ := Option.ite_none_right_eq_some.mp hstep
      exact .timeout h
    | push =>
      obtain ⟨h, ⟨⟩⟩ := Option.ite_none_right_eq_some.mp hstep
      exact .push h
    | retry =>
      obtain ⟨h, ⟨⟩⟩ := Option.ite_none_right_eq_some.mp hstep
      exact .retry h
    | fetchSignal =>
      obtain ⟨h, ⟨⟩⟩ := Option.ite_none_right_eq_some.mp hstep
      exact .fetchSignal h.1 h.2
    | pushSignal =>
      obtain ⟨h, ⟨⟩⟩ := Option.ite_none_right_eq_some.mp hstep
      exact .pushSignal h.1 h.2
    | errSignal =>
      obtain ⟨h, ⟨⟩⟩ := Option.ite_none_right_eq_some.mp hstep
      exact .errSignal h.1 h.2
    | report =>
      obtain ⟨h, ⟨⟩⟩ := Option.ite_none_right_eq_some.mp hstep
      exact .report h.1 h.2
  · intro hstep
    cases hstep with
    | call hroom => exact if_pos (Option.isNone_iff_eq_none.mpr hroom)
    | serve hloop hreq => simp only [step, hloop, hreq]
    | receive hreq hattr => simp only [step, hreq, hattr]
    | queried hasks _ | failed hasks _ => simp only [step, hasks]
    | newAttr hloop hsends => simp only [step, hloop, hsends]
    | release hreturns => simp only [step, hreturns]
    | timeout h | push h | retry h => exact if_pos h
    | fetchSignal hloop h | pushSignal hloop h | errSignal hloop h | report hloop h =>
      exact if_pos ⟨hloop, h⟩

/-! ## Lists -/

/-- What is in the channels is not newer than the list that is stored. -/
@[grind cases]
structure Inv (s : OwnAttrs) : Prop where
  asked : ∀ req, s.reqAttr = some req → req.stored ≤ s.attr.version
  waiting : ∀ req ∈ s.waiting, req.stored ≤ s.attr.version
  current : ∀ attr, s.currAttr = some attr → attr.version ≤ s.attr.version
  started : s.started ≤ s.updates

theorem Inv.start : Inv .start where
  asked _ h := by cases h
  waiting _ h := absurd h List.not_mem_nil
  current _ h := by cases h
  started := le_rfl

theorem tryFetchAttributes_eq (s : OwnAttrs) :
    s.tryFetchAttributes =
      { s with
        fetchInProgress := some (s.fetchInProgress.getD .querying)
        started := if s.fetchInProgress.isNone then s.updates else s.started } := by
  simp only [tryFetchAttributes]
  split
  · next h => simp [h]
  · next h =>
    obtain ⟨_, _, _, _, _, _, _⟩ := s
    cases h
    rfl

theorem Inv.step (h : Inv s) (hstep : Step looping s e s') : Inv s' := by
  cases hstep with
  | call => exact { h with asked := fun req hreq => by cases hreq; exact le_rfl }
  | serve _ hreq =>
    refine ⟨fun _ hnone => (nomatch hnone), fun r hr => ?_, h.current, h.started⟩
    rcases List.mem_append.mp hr with hr | hr
    · exact h.waiting r hr
    · rw [List.mem_singleton.mp hr]
      exact h.asked _ hreq
  | receive =>
    exact ⟨h.asked, fun r hr => h.waiting r (List.mem_of_mem_eraseIdx hr),
      fun _ hnone => (nomatch hnone), h.started⟩
  | timeout =>
    exact { h with waiting := fun r hr => h.waiting r (List.mem_of_mem_eraseIdx hr) }
  | pushSignal =>
    refine { h with current := fun attr hattr => ?_ }
    cases hcurr : s.currAttr with
    | none => simp_all
    | some old =>
      rw [hcurr] at hattr
      cases hattr
      exact h.current _ hcurr
  | newAttr =>
    exact ⟨fun r hr => (h.asked r hr).trans (Nat.le_succ _),
      fun r hr => (h.waiting r hr).trans (Nat.le_succ _),
      fun attr hattr => (h.current attr hattr).trans (Nat.le_succ _), h.started⟩
  | fetchSignal =>
    rw [tryFetchAttributes_eq]
    refine ⟨h.asked, h.waiting, h.current, ?_⟩
    split
    · exact le_rfl
    · exact h.started
  | push | errSignal | queried | failed | release | report | retry =>
    exact ⟨h.asked, h.waiting, h.current, h.started⟩

/-- The list in `currAttr` is the one that is stored. -/
def Current (s : OwnAttrs) : Prop := ∀ attr, s.currAttr = some attr → attr.version = s.attr.version

/-- No request was answered with a list that was stored before the latest one as of the request. -/
def NoStale (s : OwnAttrs) : Prop := ∀ a ∈ s.answers, a.1.stored ≤ a.2.version

theorem NoStale.step (hinv : Inv s) (hcurrent : s.Current) (h : s.NoStale)
    (hstep : Step looping s e s') : s'.NoStale := by
  cases hstep with
  | receive hreq hattr =>
    intro a ha
    rcases List.mem_append.mp ha with ha | ha
    · exact h a ha
    · rw [List.mem_singleton.mp ha]
      exact (hcurrent _ hattr).symm ▸ hinv.waiting _ (List.mem_of_getElem? hreq)
  | fetchSignal =>
    rw [tryFetchAttributes_eq]
    exact h
  | call | serve | timeout | push | pushSignal | errSignal | queried | failed | newAttr | release
  | report | retry => exact h

/-- A new list comes when `currAttr` is empty. -/
def StoresEmpty (s : OwnAttrs) : OwnAttrEvent → Prop
  | .newAttr => s.currAttr = none
  | _ => True

theorem current_step_iff (hinv : Inv s) (h : s.Current) (hstep : Step looping s e s') :
    s'.Current ↔ s.StoresEmpty e := by
  cases hstep with
  | newAttr =>
    refine ⟨fun hcurrent => ?_, fun hnone attr hattr => ?_⟩
    · refine Option.eq_none_iff_forall_ne_some.mpr fun attr hattr => ?_
      have hle := hinv.current attr hattr
      have heq : attr.version = s.attr.version + 1 := hcurrent attr hattr
      omega
    · cases hnone.symm.trans hattr
  | receive => exact iff_of_true (fun _ hnone => nomatch hnone) trivial
  | pushSignal =>
    refine iff_of_true (fun attr hattr => ?_) trivial
    cases hcurr : s.currAttr with
    | none =>
      rw [hcurr] at hattr
      cases hattr
      rfl
    | some old =>
      rw [hcurr] at hattr
      cases hattr
      exact h _ hcurr
  | fetchSignal =>
    rw [tryFetchAttributes_eq]
    exact iff_of_true h trivial
  | call | serve | timeout | push | errSignal | queried | failed | release | report | retry =>
    exact iff_of_true h trivial

/-! ## Updates -/

/-- A fetch that failed is on its way to be made again. -/
def Retrying (s : OwnAttrs) : Prop :=
  s.errFetchAttr = true ∨ 0 < s.timers ∨ 0 < s.reporting ∨
    s.fetchInProgress = some (.returning true)

/-- A fetch was started after the last update, or one is going to be asked for. -/
def Served (s : OwnAttrs) : Prop := s.started = s.updates ∨ s.fetchAttr = true ∨ s.Retrying

/-- The signal for a fetch is taken when no fetch is in progress, or it is not needed. -/
def Starts (s : OwnAttrs) : OwnAttrEvent → Prop
  | .fetchSignal => s.fetchInProgress = none ∨ s.started = s.updates ∨ s.Retrying
  | _ => True

instance (s : OwnAttrs) : Decidable s.Retrying := inferInstanceAs (Decidable (_ ∨ _))

instance (s : OwnAttrs) (e : OwnAttrEvent) : Decidable (s.StoresEmpty e) := by
  unfold StoresEmpty
  split <;> infer_instance

instance (s : OwnAttrs) (e : OwnAttrEvent) : Decidable (s.Starts e) := by
  unfold Starts
  split <;> infer_instance

theorem served_fetchSignal_iff (s : OwnAttrs) :
    (tryFetchAttributes { s with fetchAttr := false }).Served ↔ s.Starts .fetchSignal := by
  cases hfetch : s.fetchInProgress with
  | none => simp [tryFetchAttributes_eq, Served, Starts, hfetch]
  | some stage => simp [tryFetchAttributes_eq, Served, Starts, Retrying, hfetch]

theorem served_step_iff (h : s.Served) (hstep : Step looping s e s') :
    s'.Served ↔ s.Starts e := by
  cases hstep with
  | fetchSignal => exact served_fetchSignal_iff s
  | retry => exact iff_of_true (.inr (.inl rfl)) trivial
  | errSignal => exact iff_of_true (.inr (.inr (.inr (.inl (Nat.succ_pos _))))) trivial
  | report => exact iff_of_true (.inr (.inr (.inl rfl))) trivial
  | failed => exact iff_of_true (.inr (.inr (.inr (.inr (.inr rfl))))) trivial
  | queried hasks | newAttr _ hasks =>
    refine iff_of_true (h.imp_right (Or.imp_right fun hretry => ?_)) trivial
    simpa [Retrying, hasks, storeAttributes, pushCurrAttributes] using hretry
  | release hreturns =>
    refine iff_of_true (h.imp_right (Or.imp_right fun hretry => ?_)) trivial
    rcases hretry with herr | htimer | hreport | hfailed
    · exact .inl herr
    · exact .inr (.inl htimer)
    · exact .inr (.inr (.inl (Nat.add_pos_left hreport _)))
    · cases hreturns.symm.trans hfailed
      exact .inr (.inr (.inl (Nat.succ_pos _)))
  | call | serve | receive | timeout | push | pushSignal => exact iff_of_true h trivial

end OwnAttrs

namespace AttrService

variable {cfg : AttrServiceConfig} {s s' : AttrService} {e : AttrServiceEvent}

/-! ## Steps of the service -/

/-- What an event of the bus does to the own attributes. -/
def busOwn (cfg : AttrServiceConfig) (s : AttrService) (delivery : Delivery) (ev : AttrBusEvent) :
    OwnAttrs :=
  { s.own with
    updates := s.own.updates + if ev.updates cfg.providerAddr then 1 else 0
    fetchAttr := s.own.fetchAttr || (delivery = .value && ev.updates cfg.providerAddr) }

theorem handleEvent_own (s : AttrService) (delivery : Delivery) (ev : AttrBusEvent) :
    ((s.record cfg ev).handleEvent cfg delivery ev).own = busOwn cfg s delivery ev := by
  cases delivery with
  | pointer => simp [handleEvent, record, busOwn]
  | value =>
    cases ev with
    | trustedAuditorCreated owner auditor | trustedAuditorDeleted owner auditor =>
      simp only [handleEvent]
      split <;> simp [record, busOwn, AttrBusEvent.updates]
    | providerUpdated owner =>
      by_cases howner : owner = cfg.providerAddr <;>
        simp [handleEvent, record, busOwn, AttrBusEvent.updates, howner, OwnAttrs.fetchAttributes]
    | other => simp [handleEvent, record, busOwn, AttrBusEvent.updates]

/-- What a step of the service is for the own attributes. -/
inductive OwnStep (cfg : AttrServiceConfig) (s : AttrService) :
    AttrServiceEvent → AttrService → Prop where
  | bus {s' : AttrService} {delivery : Delivery} {ev : AttrBusEvent}
      (own : s'.own = busOwn cfg s delivery ev) : OwnStep cfg s (.bus delivery ev) s'
  | own {e : OwnAttrEvent} {o : OwnAttrs} (step : OwnAttrs.Step s.looping s.own e o) :
      OwnStep cfg s (.own e) { s with own := o }
  | other {s' : AttrService} {e : AttrServiceEvent} (own : s'.own = s.own)
      (not_bus : ∀ delivery ev, e ≠ .bus delivery ev) (not_own : ∀ oe, e ≠ .own oe) :
      OwnStep cfg s e s'

theorem ownStep (hstep : s.step cfg e = some s') : OwnStep cfg s e s' := by
  cases e with
  | bus delivery ev =>
    obtain ⟨-, ⟨⟩⟩ := Option.ite_none_right_eq_some.mp hstep
    exact .bus (handleEvent_own s delivery ev)
  | own e =>
    obtain ⟨o, ho, rfl⟩ := Option.map_eq_some_iff.mp hstep
    exact .own (OwnAttrs.step_iff.mp ho)
  | audited e =>
    obtain ⟨a, -, rfl⟩ := Option.map_eq_some_iff.mp hstep
    exact .other rfl (fun _ _ h => by cases h) (fun _ h => by cases h)
  | shutdown | wait =>
    obtain ⟨-, ⟨⟩⟩ := Option.ite_none_right_eq_some.mp hstep
    exact .other rfl (fun _ _ h => by cases h) (fun _ h => by cases h)
  | shutdownRequest | tick elapsed =>
    cases hstep
    exact .other rfl (fun _ _ h => by cases h) (fun _ h => by cases h)

theorem step_own {e : OwnAttrEvent} {o : OwnAttrs} (hstep : OwnAttrs.Step s.looping s.own e o) :
    s.step cfg (.own e) = some { s with own := o } := by
  rw [step, OwnAttrs.step_iff.mpr hstep]
  rfl

/-- A list comes when `currAttr` is empty, a signal when no fetch is in progress or needed, and an
update as a value or when a fetch is going to be asked for. -/
def Orderly (cfg : AttrServiceConfig) (s : AttrService) : AttrServiceEvent → Prop
  | .own e => s.own.StoresEmpty e ∧ s.own.Starts e
  | .bus delivery ev => ev.updates cfg.providerAddr = true →
      delivery = .value ∨ s.own.fetchAttr = true ∨ s.own.Retrying
  | _ => True

instance (cfg : AttrServiceConfig) (s : AttrService) :
    (e : AttrServiceEvent) → Decidable (Orderly cfg s e)
  | .own _ => inferInstanceAs (Decidable (_ ∧ _))
  | .bus _ _ => inferInstanceAs (Decidable (_ → _))
  | .audited _ | .shutdownRequest | .shutdown | .wait | .tick _ => inferInstanceAs (Decidable True)

theorem served_bus_iff {delivery : Delivery} {ev : AttrBusEvent} (hinv : s.own.Inv)
    (h : s.own.Served) : (busOwn cfg s delivery ev).Served ↔ Orderly cfg s (.bus delivery ev) := by
  have hle := hinv.started
  cases hupdates : ev.updates cfg.providerAddr with
  | false =>
    have hsame : busOwn cfg s delivery ev = s.own := by simp [busOwn, hupdates]
    rw [hsame]
    exact iff_of_true h fun htrue => by cases hupdates.symm.trans htrue
  | true =>
    have hnot : s.own.started ≠ s.own.updates + 1 := by omega
    simp [busOwn, Orderly, OwnAttrs.Served, OwnAttrs.Retrying, hupdates, hnot, or_assoc,
      or_left_comm]

@[grind cases]
structure Latest (s : AttrService) : Prop where
  inv : s.own.Inv
  current : s.own.Current
  noStale : s.own.NoStale
  served : s.own.Served

theorem latest_start (now : Int) : Latest (start now) where
  inv := .start
  current _ h := by cases h
  noStale _ h := absurd h List.not_mem_nil
  served := .inl rfl

theorem latest_step_iff (h : Latest s) (hstep : s.step cfg e = some s') :
    s'.own.Inv ∧ s'.own.NoStale ∧ (s'.own.Current ∧ s'.own.Served ↔ Orderly cfg s e) := by
  cases ownStep hstep with
  | bus hown =>
    rw [hown]
    refine ⟨⟨h.inv.asked, h.inv.waiting, h.inv.current,
      h.inv.started.trans (Nat.le_add_right ..)⟩, h.noStale, ?_⟩
    rw [served_bus_iff h.inv h.served]
    exact and_iff_right h.current
  | own hmove =>
    refine ⟨h.inv.step hmove, h.noStale.step h.inv h.current hmove, ?_⟩
    rw [OwnAttrs.current_step_iff h.inv h.current hmove, OwnAttrs.served_step_iff h.served hmove]
    rfl
  | other hown hbus hnot =>
    rw [hown]
    refine ⟨h.inv, h.noStale, iff_of_true ⟨h.current, h.served⟩ ?_⟩
    cases e with
    | bus delivery ev => exact absurd rfl (hbus delivery ev)
    | own oe => exact absurd rfl (hnot oe)
    | audited _ | shutdownRequest | shutdown | wait | tick _ => trivial

theorem latest_of_runs {now : Int} (hrun : Runs (step cfg) (Orderly cfg) (start now) s) :
    Latest s := by
  refine hrun.invariant (I := Latest) (fun s e s' hok hstep h => ?_) (latest_start now)
  obtain ⟨hinv, hstale, hiff⟩ := latest_step_iff h hstep
  obtain ⟨hcurrent, hserved⟩ := hiff.mpr hok
  exact ⟨hinv, hcurrent, hstale, hserved⟩

/-! ## Stale lists -/

/-- With an older list in `currAttr`, a call that is made now may be answered with it. -/
theorem stale_of_not_current (hinv : s.own.Inv) (hloop : s.stage = .looping)
    (hnot : ¬ s.own.Current) : Reaches (step cfg) s fun t => ¬ t.own.NoStale := by
  simp only [OwnAttrs.Current, not_forall] at hnot
  obtain ⟨attr, hattr, hne⟩ := hnot
  have hold : attr.version < s.own.attr.version := lt_of_le_of_ne (hinv.current attr hattr) hne
  have hlooping : s.looping = true := decide_eq_true hloop
  -- a request that is in the channel is taken first
  have hroom : Reaches (step cfg) s fun t => t.looping = true ∧ t.own.reqAttr = none ∧
      t.own.currAttr = some attr ∧ t.own.attr = s.own.attr := by
    cases hreq : s.own.reqAttr with
    | none => exact Reaches.here ⟨hlooping, hreq, hattr, rfl⟩
    | some req =>
      exact Reaches.next _ (step_own (.serve hlooping hreq))
        (Reaches.here ⟨hlooping, rfl, hattr, rfl⟩)
  refine hroom.trans fun t ⟨htloop, htreq, htattr, htsame⟩ => ?_
  refine Reaches.next _ (step_own (.call htreq)) ?_
  refine Reaches.next _ (step_own (.serve htloop rfl)) ?_
  refine Reaches.next _ (step_own (.receive (i := t.own.waiting.length)
    List.getElem?_concat_length htattr)) (Reaches.here fun hfresh => ?_)
  have hle := hfresh _ (List.mem_append_right _ (List.mem_singleton.mpr rfl))
  rw [htsame] at hle
  exact absurd hold (Nat.not_lt.mpr hle)

/-- As long as events are orderly, each call is answered with a list not older than the latest one
at the call, and each update is followed by a fetch.  Another event leaves an old list in
`currAttr`, which a later call can get, or an update that no fetch follows. -/
theorem own_attributes_latest {now : Int}
    (hrun : Runs (step cfg) (Orderly cfg) (start now) s) :
    s.own.NoStale ∧ s.own.Served ∧ ∀ e s', s.step cfg e = some s' →
      (s'.own.Current ∧ s'.own.Served ↔ Orderly cfg s e) ∧
      (¬ s'.own.Current → Reaches (step cfg) s' fun t => ¬ t.own.NoStale) := by
  have h := latest_of_runs hrun
  refine ⟨h.noStale, h.served, fun e s' hstep => ?_⟩
  obtain ⟨hinv, -, hiff⟩ := latest_step_iff h hstep
  refine ⟨hiff, fun hnot => stale_of_not_current hinv ?_ hnot⟩
  cases ownStep hstep with
  | bus hown =>
    rw [hown] at hnot
    exact absurd h.current hnot
  | other hown =>
    rw [hown] at hnot
    exact absurd h.current hnot
  | own hmove =>
    have hempty := mt (OwnAttrs.current_step_iff h.inv h.current hmove).mpr hnot
    cases hmove with
    | newAttr hloop => exact of_decide_eq_true hloop
    | call | serve | receive | timeout | push | fetchSignal | pushSignal | errSignal | queried
    | failed | release | report | retry => exact absurd trivial hempty

def fetchedAttrs (region : String) : List AttrServiceEvent :=
  [.own .fetchSignal, .own (.queried (.ok [⟨"region", region⟩])), .own .newAttr, .own .release,
    .own .pushSignal]

def calledAttrs : List AttrServiceEvent := [.own .call, .own .serve, .own (.receive 0)]

def updatedByValue : AttrServiceEvent := .bus .value (.providerUpdated "provider")

/-- The provider is updated when the list in `currAttr` has been taken. -/
theorem own_attributes_latest_taken :
    ∃ s, (fetchedAttrs "west" ++ calledAttrs ++ updatedByValue :: fetchedAttrs "east" ++
        calledAttrs).foldlM (step plainAttrService) (start 0) = some s ∧
      s.own.answers.map (·.2.version) = [1, 2] ∧ s.own.NoStale ∧ s.own.Served := by
  have hguarded : (fetchedAttrs "west" ++ calledAttrs ++ updatedByValue :: fetchedAttrs "east" ++
      calledAttrs).foldlM (fun s e =>
        if Orderly plainAttrService s e then step plainAttrService s e else none) (start 0) =
      some _ := rfl
  obtain ⟨hnoStale, hserved, -⟩ := own_attributes_latest (Runs.of_guarded _ _ _ hguarded)
  exact ⟨_, rfl, rfl, hnoStale, hserved⟩

/-- With the old list in `currAttr`, a call gets it after the new one has been stored.  And an
update during a fetch that was answered before it is dropped. -/
theorem attributes_stale_and_update_lost :
    (∃ s, (fetchedAttrs "west" ++ updatedByValue :: fetchedAttrs "east" ++ calledAttrs).foldlM
        (step plainAttrService) (start 0) = some s ∧
      s.own.answers = [(⟨2⟩, ⟨[⟨"region", "west"⟩], 1⟩)] ∧ ¬ s.own.NoStale) ∧
    ∃ s, [AttrServiceEvent.own .fetchSignal, .own (.queried (.ok [⟨"region", "west"⟩])),
        updatedByValue, .own .fetchSignal, .own .newAttr, .own .release].foldlM
          (step plainAttrService) (start 0) = some s ∧
      s.own.updates = 1 ∧ s.own.started = 0 ∧ s.own.fetchInProgress = none ∧
      ¬ s.own.Served := by
  refine ⟨⟨_, rfl, rfl, fun hfresh => ?_⟩, _, rfl, rfl, rfl, rfl, ?_⟩
  · have hle := hfresh (⟨2⟩, ⟨[⟨"region", "west"⟩], 1⟩) (List.mem_singleton.mpr rfl)
    exact absurd hle (by decide)
  · unfold OwnAttrs.Served
    decide

end AttrService

end AkashProvider
