import AkashProvider.Manifest.Requests

/-!
# The age of the chain data

A manager drops what it has read when a lease is won or lost and when the deployment is updated,
but a read that is running then is used as if it were new (`stale_data_used`).  Reads are
numbered, and `invalidatedAt` is the first one after the latest of these events.  `fresh_data_iff`
says that nothing else is used too late.
-/

namespace AkashProvider

namespace ManifestManager

variable {cfg : ManifestConfig} {S : ManagerSdk} {s s' s₁ : ManifestManager} {e : ManifestEvent}

/-! ## What a step uses -/

/-- The state in which a step validates requests and publishes, if it does. -/
def servedAt (cfg : ManifestConfig) (S : ManagerSdk) (s : ManifestManager) :
    ManifestEvent → Option ManifestManager
  | .manifest id m now _ =>
    let s := (s.received id m).maybeScheduleStop.andThen (maybeFetchData cfg · now)
    if s.stage = .looping ∧ s.runch = none then some s else none
  | .read answers now _ =>
    match s.runch, doFetchData S answers with
    | some n, .ok result => some (s.stored n result now)
    | _, _ => none
  | .shutdown | .timerFired | .stop | .lease _ | .removeLease | .update _ => none

def Validates (s : ManifestManager) (env : ValidateEnv) : Prop :=
  s.fetched = true ∧ ∃ req ∈ s.requests, env.ctxDone req.id = false

def Uses (cfg : ManifestConfig) (S : ManagerSdk) (s : ManifestManager) (env : ValidateEnv) : Prop :=
  Validates s env ∨ (s.serve cfg S env).published ≠ s.published

/-- The data is from a read that was started after the latest event. -/
def FreshData (s : ManifestManager) : Prop := ∃ n, s.dataFrom = some n ∧ s.invalidatedAt ≤ n

/-- A step validates and publishes with fresh data only. -/
def UsesFresh (cfg : ManifestConfig) (S : ManagerSdk) (s : ManifestManager) (e : ManifestEvent) :
    Prop :=
  ∀ s₁ ∈ servedAt cfg S s e, ∀ env ∈ envOf e, Uses cfg S s₁ env → FreshData s₁

def UsesNothing (cfg : ManifestConfig) (S : ManagerSdk) (s : ManifestManager) (e : ManifestEvent) :
    Prop :=
  ∀ s₁ ∈ servedAt cfg S s e, ∀ env ∈ envOf e, ¬ Uses cfg S s₁ env

/-- A read that returns was started after the latest event. -/
def FreshRead (S : ManagerSdk) (s : ManifestManager) : ManifestEvent → Prop
  | .read answers _ _ => ∀ n ∈ s.runch, (doFetchData S answers).isOk → s.invalidatedAt ≤ n
  | .shutdown | .timerFired | .stop | .lease _ | .removeLease | .update _ | .manifest _ _ _ _ =>
    True

instance (S : ManagerSdk) (s : ManifestManager) : DecidablePred (FreshRead S s)
  | .read answers _ _ => inferInstanceAs
      (Decidable (∀ n ∈ s.runch, (doFetchData S answers).isOk → s.invalidatedAt ≤ n))
  | .shutdown | .timerFired | .stop | .lease _ | .removeLease | .update _ | .manifest _ _ _ _ =>
    inferInstanceAs (Decidable True)

theorem servedAt_cases (htimer : s.stoptimer = none) (hlooping : s.stage = .looping)
    (h : servedAt cfg S s e = some s₁) :
    (∃ id m now env, e = .manifest id m now env ∧ s₁ = s.received id m ∧ s.fetched = true) ∨
      ∃ answers now env n result, e = .read answers now env ∧ s.runch = some n ∧
        doFetchData S answers = .ok result ∧ s₁ = s.stored n result now := by
  cases e with
  | manifest id m now env =>
    have htimer' : (s.received id m).stoptimer = none := htimer
    have hlooping' : (s.received id m).stage = .looping := hlooping
    simp only [servedAt, maybeScheduleStop_of_none htimer', andThen_of_looping hlooping'] at h
    split at h
    · next hidle =>
      cases h
      rcases maybeFetchData_cases cfg now (s.received id m) with ⟨heq, huse⟩ | ⟨heq, -⟩
      · rw [heq] at hidle ⊢
        have hfetched := huse.resolve_left (not_not.mpr hidle.2)
        exact .inl ⟨id, m, now, env, rfl, rfl, hfetched⟩
      · rw [heq] at hidle
        cases hidle.2
    · cases h
  | read answers now env =>
    simp only [servedAt] at h
    grind
  | _ => cases h

/-- What a step publishes, it publishes in serving requests. -/
@[grind cases]
structure ServedStep (cfg : ManifestConfig) (S : ManagerSdk) (s : ManifestManager)
    (e : ManifestEvent) (s' : ManifestManager) : Prop where
  none : servedAt cfg S s e = none → s'.manifests = s.manifests ∧ s'.published = s.published
  some : ∀ s₁ ∈ servedAt cfg S s e, ∀ env ∈ envOf e,
    s'.manifests = (s₁.serve cfg S env).manifests ∧ s'.published = (s₁.serve cfg S env).published

theorem servedStep_of_none (hnone : servedAt cfg S s e = none) (h : Kept s s') :
    ServedStep cfg S s e s' where
  none _ := ⟨h.manifests, h.published⟩
  some s₁ hs₁ := by
    rw [hnone] at hs₁
    cases hs₁

theorem servedStep_of_some {env : ValidateEnv} (hsome : servedAt cfg S s e = some s₁)
    (henv : envOf e = some env) (h : Kept (s₁.serve cfg S env) s') : ServedStep cfg S s e s' where
  none hnone := by cases hsome.symm.trans hnone
  some s₂ hs₂ env' henv' := by grind

theorem step_served (htimer : s.stoptimer = none) (hstep : step cfg S s e = some s') :
    ServedStep cfg S s e s' := by
  have hlooping := step_looping hstep
  cases step_move htimer hstep with
  | shutdown => exact servedStep_of_none rfl ⟨rfl, rfl, rfl, rfl⟩
  | lease now =>
    have hkept : Kept s s.invalidate := ⟨rfl, rfl, rfl, rfl⟩
    exact servedStep_of_none rfl (hkept.trans (kept_maybeFetchData cfg now s.invalidate))
  | removeLease => exact servedStep_of_none rfl ⟨rfl, rfl, rfl, rfl⟩
  | update version => exact servedStep_of_none rfl ⟨rfl, rfl, rfl, rfl⟩
  | @waits id m now env hrunning =>
    have htimer' : (s.received id m).stoptimer = none := htimer
    have hlooping' : (s.received id m).stage = .looping := hlooping
    have hkept : Kept s (s.received id m) := ⟨rfl, rfl, rfl, rfl⟩
    refine servedStep_of_none ?_ (hkept.trans (kept_maybeFetchData cfg now (s.received id m)))
    simp [servedAt, maybeScheduleStop_of_none htimer', andThen_of_looping hlooping', hrunning]
  | @serves id m now env hidle hfetched hdata =>
    have htimer' : (s.received id m).stoptimer = none := htimer
    have hlooping' : (s.received id m).stage = .looping := hlooping
    have hidle' : (s.received id m).runch = none := hidle
    refine servedStep_of_some ?_ rfl (kept_maybeRereadData ((s.received id m).serve cfg S env))
    grind [servedAt, maybeScheduleStop_of_none, andThen_of_looping]
  | @readFailed answers now env n err hrunch hresult =>
    refine servedStep_of_none ?_ ⟨rfl, rfl, rfl, rfl⟩
    simp only [servedAt, hrunch, hresult]
  | @read answers now env n result hrunch hresult =>
    refine servedStep_of_some ?_ rfl
      (kept_maybeRereadData ((s.stored n result now).serve cfg S env))
    simp only [servedAt, hrunch, hresult]

/-! ## Runs -/

/-- The data is the same, or there is none. -/
def DataKept (s s' : ManifestManager) : Prop :=
  (s'.fetched = s.fetched ∧ s'.dataFrom = s.dataFrom ∧ s'.invalidatedAt = s.invalidatedAt) ∨
    s'.fetched = false

theorem DataKept.trans {s'' : ManifestManager} (h : DataKept s s') (h' : DataKept s' s'') :
    DataKept s s'' := by
  grind [DataKept]

theorem dataKept_maybeFetchData (cfg : ManifestConfig) (now : Int) (s : ManifestManager) :
    DataKept s (s.maybeFetchData cfg now) := by
  rcases maybeFetchData_cases cfg now s with ⟨heq, -⟩ | ⟨heq, -⟩
  · rw [heq]
    exact .inl ⟨rfl, rfl, rfl⟩
  · rw [heq]
    exact .inr rfl

theorem dataKept_maybeRereadData (s : ManifestManager) : DataKept s s.maybeRereadData := by
  rw [maybeRereadData]
  split
  · exact .inl ⟨rfl, rfl, rfl⟩
  · exact .inr rfl

theorem dataKept_serve (cfg : ManifestConfig) (S : ManagerSdk) (s : ManifestManager)
    (env : ValidateEnv) : DataKept s (s.serve cfg S env) := by
  simp only [serve, maybeEmitReceivedEvents, emitReceivedEvents, validateRequests]
  repeat' split
  all_goals exact .inl ⟨rfl, rfl, rfl⟩

/-- Data that can be used is fresh. -/
@[grind cases]
structure Dated (s : ManifestManager) : Prop where
  waiting : Waiting s
  fresh : s.fetched = true → FreshData s

theorem fresh_of_dataKept (h : DataKept s s') (hs : s.fetched = true → FreshData s)
    (hfetched : s'.fetched = true) : FreshData s' := by
  rcases h with ⟨hsame, hfrom, hat⟩ | hnone
  · simp_all [FreshData]
  · cases hnone.symm.trans hfetched

theorem step_dated (hs : Dated s) (hread : FreshRead S s e) (hstep : step cfg S s e = some s') :
    Dated s' := by
  refine ⟨(step_requests hs.waiting hstep).1, ?_⟩
  cases step_move hs.waiting.timer hstep with
  | shutdown => exact hs.fresh
  | lease now =>
    refine fresh_of_dataKept (dataKept_maybeFetchData cfg now s.invalidate) fun hfetched => ?_
    cases hfetched
  | removeLease =>
    intro hfetched
    cases hfetched
  | update version =>
    intro hfetched
    cases hfetched
  | @waits id m now env hrunning =>
    exact fresh_of_dataKept (dataKept_maybeFetchData cfg now (s.received id m)) hs.fresh
  | @serves id m now env hidle hfetched hdata =>
    have hkept := (dataKept_serve cfg S (s.received id m) env).trans (dataKept_maybeRereadData _)
    exact fresh_of_dataKept hkept hs.fresh
  | readFailed now env hrunch hresult => exact hs.fresh
  | @read answers now env n result hrunch hresult =>
    have hkept := (dataKept_serve cfg S (s.stored n result now) env).trans
      (dataKept_maybeRereadData _)
    refine fresh_of_dataKept hkept fun _ => ⟨n, rfl, ?_⟩
    have hok : (doFetchData S answers).isOk = true := by
      rw [hresult]
      rfl
    exact hread n hrunch hok

theorem start_dated : Dated start := ⟨RequestLog.start_inv.waiting, nofun⟩

/-- As long as no read returns that was running at an event, all data that is used was read after
it.  A step that breaks this uses stale data exactly if it uses any. -/
theorem fresh_data_iff (h : Runs (step cfg S) (FreshRead S) start s)
    (hstep : step cfg S s e = some s') :
    (UsesFresh cfg S s e ↔ FreshRead S s e ∨ UsesNothing cfg S s e) ∧ ServedStep cfg S s e s' := by
  have hdated : Dated s := h.invariant (I := Dated)
    (fun _ _ _ hread hstep hs => step_dated hs hread hstep) start_dated
  have hlooping := step_looping hstep
  refine ⟨⟨fun huses => ?_, ?_⟩, step_served hdated.waiting.timer hstep⟩
  · by_cases hread : FreshRead S s e
    · exact .inl hread
    · refine .inr fun s₁ hs₁ env henv hused => ?_
      obtain ⟨n, hn, hle⟩ := huses s₁ hs₁ env henv hused
      obtain ⟨id, m, now, env', rfl, -, -⟩ | ⟨answers, now, env', n', result, rfl, hrunch, hresult,
        rfl⟩ := servedAt_cases hdated.waiting.timer hlooping hs₁
      · exact hread trivial
      · refine hread fun n'' hn'' _ => ?_
        cases hrunch.symm.trans hn''
        cases hn
        exact hle
  · rintro (hread | hnothing) s₁ hs₁ env henv hused
    · obtain ⟨id, m, now, env', rfl, rfl, hfetched⟩ | ⟨answers, now, env', n, result, rfl, hrunch,
        hresult, rfl⟩ := servedAt_cases hdated.waiting.timer hlooping hs₁
      · exact hdated.fresh hfetched
      · refine ⟨n, rfl, hread n hrunch ?_⟩
        rw [hresult]
        rfl
    · exact absurd hused (hnothing s₁ hs₁ env henv)

/-- A manifest is validated with data that was read after the lease was won. -/
theorem fresh_data_of_first_manifest :
    ∃ s s', Runs (step someManifestConfig someSdk) (FreshRead someSdk) start s ∧
      step someManifestConfig someSdk s (.manifest 0 firstManifest 2 someEnv) = some s' ∧
      UsesFresh someManifestConfig someSdk s (.manifest 0 firstManifest 2 someEnv) ∧
      s'.published.length = 1 := by
  obtain ⟨s, hrun⟩ : ∃ s, [ManifestEvent.lease 0, .read (someAnswers [1] ["7"]) 1 someEnv].foldlM
      (fun s e => if FreshRead someSdk s e then step someManifestConfig someSdk s e else none)
      start = some s := ⟨_, rfl⟩
  have hruns := Runs.of_guarded _ _ _ hrun
  obtain ⟨s', hstep⟩ : ∃ s', step someManifestConfig someSdk s
      (.manifest 0 firstManifest 2 someEnv) = some s' := by
    cases hrun
    exact ⟨_, rfl⟩
  refine ⟨s, s', hruns, hstep, (fresh_data_iff hruns hstep).1.mpr (.inl trivial), ?_⟩
  cases hrun
  cases hstep
  rfl

/-- A lease is won, and the deployment is updated before the read for it returns. -/
def updatedRun : List ManifestEvent :=
  [.lease 0, .update [2], .manifest 0 firstManifest 1 someEnv]

/-- The manifest is validated and published with the data of the read that was started before the
update. -/
theorem stale_data_used :
    ∃ s s' s₁, updatedRun.foldlM (step someManifestConfig someSdk) start = some s ∧
      step someManifestConfig someSdk s (.read (someAnswers [1] ["7"]) 2 someEnv) = some s' ∧
      servedAt someManifestConfig someSdk s (.read (someAnswers [1] ["7"]) 2 someEnv) = some s₁ ∧
      Validates s₁ someEnv ∧ s₁.dataFrom = some 0 ∧ s₁.invalidatedAt = 1 ∧
      s'.published.map (·.event.manifest) = [firstManifest] :=
  ⟨_, _, _, rfl, rfl, rfl, ⟨rfl, _, List.mem_singleton.mpr rfl, rfl⟩, rfl, rfl, rfl⟩

end ManifestManager

end AkashProvider
