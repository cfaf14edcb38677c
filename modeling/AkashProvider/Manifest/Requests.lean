import AkashProvider.Manifest.Versions

/-!
# What becomes of a request

A request waits until the chain has been read.  Then it is refused, accepted and answered when its
manifest has been published, dropped, or kept for one more read.  `requests_answered` says for
every run that a request is in one place at a time and answered at most once, that a read is
running while requests wait, and that no version is refused too early.
-/

namespace AkashProvider

namespace ManifestManager

variable {cfg : ManifestConfig} {S : ManagerSdk} {s s' : ManifestManager}

/-! ## Steps of a manager without a stop timer -/

def received (s : ManifestManager) (id : Nat) (m : Mani.Manifest) : ManifestManager :=
  { s with requests := s.requests ++ [⟨id, m, false, none⟩] }

/-- What a step does.  The stop timer is never made, so nothing blocks. -/
inductive Move (cfg : ManifestConfig) (S : ManagerSdk) (s : ManifestManager) :
    ManifestEvent → ManifestManager → Prop
  | shutdown : Move cfg S s .shutdown { s.fillAllRequests .notRunning with stage := .ended }
  | lease (now : Int) : Move cfg S s (.lease now) (s.invalidate.maybeFetchData cfg now)
  | removeLease : Move cfg S s .removeLease s.invalidate
  | update (version : List UInt8) : Move cfg S s (.update version) s.invalidate
  /-- A read is running, or is started. -/
  | waits {id : Nat} {m : Mani.Manifest} {now : Int} (env : ValidateEnv)
      (hrunning : ((s.received id m).maybeFetchData cfg now).runch ≠ none) :
      Move cfg S s (.manifest id m now env) ((s.received id m).maybeFetchData cfg now)
  | serves {id : Nat} {m : Mani.Manifest} {now : Int} (env : ValidateEnv)
      (hidle : s.runch = none) (hfetched : s.fetched = true)
      (hdata : (s.received id m).maybeFetchData cfg now = s.received id m) :
      Move cfg S s (.manifest id m now env)
        ((s.received id m).serve cfg S env).maybeRereadData
  | readFailed {answers : FetchAnswers} (now : Int) (env : ValidateEnv) {n : Nat} {err : String}
      (hrunch : s.runch = some n) (hresult : doFetchData S answers = .error err) :
      Move cfg S s (.read answers now env) ({ s with runch := none }.fillAllRequests (.other err))
  | read {answers : FetchAnswers} (now : Int) (env : ValidateEnv) {n : Nat}
      {result : FetchDataResult} (hrunch : s.runch = some n)
      (hresult : doFetchData S answers = .ok result) :
      Move cfg S s (.read answers now env)
        ((s.stored n result now).serve cfg S env).maybeRereadData

theorem maybeScheduleStop_of_none (h : s.stoptimer = none) : s.maybeScheduleStop = s := by
  simp only [maybeScheduleStop, h]

theorem andThen_of_looping (h : s.stage = .looping) (f : ManifestManager → ManifestManager) :
    s.andThen f = f s :=
  if_pos h

theorem maybeFetchData_cases (cfg : ManifestConfig) (now : Int) (s : ManifestManager) :
    (s.maybeFetchData cfg now = s ∧ (s.runch ≠ none ∨ s.fetched = true)) ∨
      (s.maybeFetchData cfg now = s.clearFetched.fetchData ∧ s.runch = none) := by
  cases hrunch : s.runch <;> cases hat : s.fetchedAt <;>
    grind [maybeFetchData]

theorem stoptimer_serve (cfg : ManifestConfig) (S : ManagerSdk) (s : ManifestManager)
    (env : ValidateEnv) : (s.serve cfg S env).stoptimer = s.stoptimer ∧
      (s.serve cfg S env).stage = s.stage ∧ (s.serve cfg S env).runch = s.runch ∧
      (s.serve cfg S env).readsStarted = s.readsStarted := by
  simp only [serve, maybeEmitReceivedEvents, emitReceivedEvents, validateRequests]
  repeat' split
  all_goals exact ⟨rfl, rfl, rfl, rfl⟩

theorem handleManifest_received (cfg : ManifestConfig) (S : ManagerSdk) (s : ManifestManager)
    (id : Nat) (m : Mani.Manifest) (now : Int) (env : ValidateEnv) :
    s.handleManifest cfg S id m now env = (s.received id m).maybeScheduleStop.andThen fun s =>
      if (s.maybeFetchData cfg now).runch = none then
        ((s.maybeFetchData cfg now).serve cfg S env).maybeRereadData
      else s.maybeFetchData cfg now :=
  rfl

variable {e : ManifestEvent}

theorem step_move (htimer : s.stoptimer = none) (h : step cfg S s e = some s') :
    Move cfg S s e s' := by
  unfold step at h
  split at h
  · cases h
  next hlooping =>
  have hlooping : s.stage = .looping := not_not.mp hlooping
  cases e with
  | shutdown =>
    cases h
    have hfinish : s.finish = { s.fillAllRequests .notRunning with stage := .ended } := by
      simp [finish, fillAllRequests, htimer]
    rw [hfinish]
    exact .shutdown
  | timerFired | stop =>
    simp only [htimer] at h
    cases h
  | lease now =>
    cases h
    rw [maybeScheduleStop_of_none (by exact htimer), andThen_of_looping (by exact hlooping)]
    exact .lease now
  | removeLease =>
    cases h
    rw [maybeScheduleStop_of_none (by exact htimer)]
    exact .removeLease
  | update version =>
    cases h
    exact .update version
  | manifest id m now env =>
    cases h
    rw [handleManifest_received, maybeScheduleStop_of_none (by exact htimer),
      andThen_of_looping (by exact hlooping)]
    split
    · next hnone =>
      rcases maybeFetchData_cases cfg now (s.received id m) with ⟨heq, huse⟩ | ⟨heq, -⟩ <;>
        rw [heq] at hnone
      · rw [heq]
        exact .serves env hnone (huse.resolve_left (not_not.mpr hnone)) heq
      · cases hnone
    · next hrunning => exact .waits env hrunning
  | read answers now env =>
    simp only at h
    split at h <;> cases h
    next n hrunch =>
    cases hresult : doFetchData S answers with
    | error err => exact .readFailed now env hrunch hresult
    | ok result =>
      obtain ⟨hstop, hstage, -, -⟩ := stoptimer_serve cfg S (s.stored n result now) env
      have hhandle : s.handleRead cfg S n (.ok result) now env =
          ((s.stored n result now).serve cfg S env).maybeRereadData := by
        change ((s.stored n result now).serve cfg S env).maybeScheduleStop.andThen _ = _
        rw [maybeScheduleStop_of_none (hstop.trans htimer),
          andThen_of_looping (hstage.trans hlooping)]
      rw [hhandle]
      exact .read now env hrunch hresult

/-! ## Where the requests are -/

/-- The requests by their channels: waiting, accepted, answered and dropped. -/
def placed (s : ManifestManager) : List Nat :=
  s.requests.map (·.id) ++ s.pendingRequests.map (·.id) ++ s.answered.map (·.1.id) ++
    s.dropped.map (·.id)

theorem fillAllRequests_placed (s : ManifestManager) (err : ManifestErr) :
    (s.fillAllRequests err).placed.Perm s.placed := by
  rw [List.perm_iff_count]
  simp only [placed, fillAllRequests, List.map_nil, List.nil_append, List.map_append,
    List.map_map, List.count_append, Function.comp_def]
  omega

theorem verdicts_placed (cfg : ManifestConfig) (S : ManagerSdk) (s : ManifestManager)
    (env : ValidateEnv) (reqs : List ManifestRequest) :
    ((reqs.filter (s.verdict cfg S env · = .reread)).map (·.id) ++
      (reqs.filter (s.verdict cfg S env · = .accepted)).map (·.id) ++
      (reqs.filterMap (s.refusal cfg S env)).map (·.1.id) ++
      (reqs.filter (s.verdict cfg S env · = .dropped)).map (·.id)).Perm (reqs.map (·.id)) := by
  rw [List.perm_iff_count]
  intro id
  induction reqs with
  | nil => rfl
  | cons req reqs ih =>
    simp only [List.count_append] at ih ⊢
    cases hverdict : s.verdict cfg S env req with
    | dropped | reread | accepted | refused err =>
      simp [hverdict, refusal, List.count_cons]
      omega

variable {env : ValidateEnv} {req : ManifestRequest}

theorem refused_reread (h : s.verdict cfg S env req = .refused .manifestVersion) :
    req.reread = true := by
  rw [verdict] at h
  grind

theorem kept_reread (h : s.verdict cfg S env req = .reread) : req.reread = false := by
  rw [verdict] at h
  grind

@[grind cases]
structure Served (s s' : ManifestManager) : Prop where
  placed : s'.placed.Perm s.placed
  /-- A request that is kept for another read was not kept for one before. -/
  requests : ∀ req' ∈ s'.requests, ∃ req ∈ s.requests, req.reread = false ∧
    req' = { req with reread := true, comparedAt := some s.readsStarted }
  /-- A version is refused if the request was kept for another read. -/
  answered : ∃ new, s'.answered = s.answered ++ new ∧
    ∀ a ∈ new, a.2 = some .manifestVersion → a.1 ∈ s.requests ∧ a.1.reread = true

theorem validateRequests_served (cfg : ManifestConfig) (S : ManagerSdk) (env : ValidateEnv)
    (hfetched : s.fetched = true) :
    Served s (s.validateRequests cfg S env) := by
  rw [validateRequests]
  split
  · have hnil : s.requests = [] := by grind
    exact ⟨.refl _, by simp [hnil], [], (List.append_nil _).symm, by simp⟩
  refine ⟨?_, fun req' hreq' => ?_, _, rfl, fun a ha herr => ?_⟩
  · have hverdicts := verdicts_placed cfg S s env s.requests
    rw [List.perm_iff_count] at hverdicts ⊢
    intro id
    have hid := hverdicts id
    simp only [ManifestManager.placed, List.map_append, List.map_map, List.count_append,
      Function.comp_def] at hid ⊢
    omega
  · grind [kept_reread]
  · grind [refusal, refused_reread]

theorem validateRequests_pending (cfg : ManifestConfig) (S : ManagerSdk) (env : ValidateEnv)
    (hpending : s.pendingRequests = [])
    (hnone : (s.validateRequests cfg S env).manifests = []) :
    (s.validateRequests cfg S env).pendingRequests = [] := by
  rw [validateRequests] at hnone ⊢
  split
  · exact hpending
  simp_all

/-- What publishing does to the requests: those that were accepted are answered, or all are. -/
@[grind cases]
structure Emitted (s s' : ManifestManager) : Prop where
  pending : s'.pendingRequests = []
  placed : s'.placed.Perm s.placed
  requests : s'.requests ⊆ s.requests
  answered : ∃ new, s'.answered = s.answered ++ new ∧ ∀ a ∈ new, a.2 ≠ some .manifestVersion

theorem maybeEmitReceivedEvents_emitted (hfetched : s.fetched = true)
    (hpending : s.manifests = [] → s.pendingRequests = []) :
    Emitted s s.maybeEmitReceivedEvents := by
  have hsame (hnil : s.pendingRequests = []) : Emitted s s :=
    ⟨hnil, .refl _, fun _ hreq => hreq, [], (List.append_nil _).symm, by simp⟩
  rw [maybeEmitReceivedEvents]
  split
  · next hwaiting => exact hsame hwaiting.2
  rw [emitReceivedEvents]
  split
  · next hlatest => exact hsame (hpending (List.getLast?_eq_none_iff.mp hlatest))
  split
  · next hnot => simp [hfetched] at hnot
  split
  · refine ⟨rfl, fillAllRequests_placed s _, List.nil_subset _, _, rfl, fun a ha => ?_⟩
    grind
  · refine ⟨rfl, ?_, fun _ hreq => hreq, _, rfl, fun a ha => ?_⟩
    · rw [List.perm_iff_count]
      simp only [placed, List.map_nil, List.map_append, List.map_map, List.count_append,
        Function.comp_def, List.count_nil]
      omega
    · grind

theorem serve_served (cfg : ManifestConfig) (S : ManagerSdk) (env : ValidateEnv)
    (hfetched : s.fetched = true) (hpending : s.pendingRequests = []) :
    Served s (s.serve cfg S env) ∧ (s.serve cfg S env).pendingRequests = [] := by
  have hfetched' : (s.validateRequests cfg S env).fetched = true := by
    rw [validateRequests]
    split <;> exact hfetched
  have hvalid := validateRequests_served cfg S env hfetched
  have hemit := maybeEmitReceivedEvents_emitted hfetched'
    (validateRequests_pending cfg S env hpending)
  refine ⟨⟨hemit.placed.trans hvalid.placed, fun req' hreq' =>
    hvalid.requests req' (hemit.requests hreq'), ?_⟩, hemit.pending⟩
  grind [serve]

theorem verdict_dropped (h : s.verdict cfg S env req = .dropped) : env.ctxDone req.id = true := by
  grind [verdict]

theorem serve_dropped (s : ManifestManager) (env : ValidateEnv)
    (h : req ∈ (s.serve cfg S env).dropped) : req ∈ s.dropped ∨ env.ctxDone req.id = true := by
  have hemit : (s.serve cfg S env).dropped = (s.validateRequests cfg S env).dropped := by
    simp only [serve, maybeEmitReceivedEvents, emitReceivedEvents]
    repeat' split
    all_goals rfl
  rw [hemit, validateRequests] at h
  all_goals grind [verdict_dropped]

/-! ## What an event does to the requests -/

/-- The channel of the request that comes with an event. -/
def receivedBy : ManifestEvent → List Nat
  | .manifest id _ _ _ => [id]
  | _ => []

/-- What the loop finds when it handles an event. -/
def envOf : ManifestEvent → Option ValidateEnv
  | .manifest _ _ _ env | .read _ _ env => some env
  | _ => none

/-- What the requests have to do with the reads. -/
@[grind cases]
structure Held (s : ManifestManager) : Prop where
  timer : s.stoptimer = none
  pending : s.pendingRequests = []
  ended : s.stage = .looping ∨ s.stage = .ended ∧ s.requests = []
  started : ∀ n, s.runch = some n → n < s.readsStarted
  /-- A request that was kept for another read waits for one that was started later. -/
  marked : ∀ req ∈ s.requests, req.reread = true →
    ∃ c n, req.comparedAt = some c ∧ s.runch = some n ∧ c ≤ n

/-- A read is running if requests wait. -/
@[grind cases]
structure Waiting (s : ManifestManager) : Prop extends Held s where
  reading : s.requests ≠ [] → s.runch ≠ none

@[grind cases]
structure RequestStep (s : ManifestManager) (e : ManifestEvent) (s' : ManifestManager) : Prop where
  placed : s'.placed.Perm (s.placed ++ receivedBy e)
  started : s.readsStarted ≤ s'.readsStarted
  /-- A request stays as it is, or it is new, or it is kept for another read for the first time. -/
  requests : ∀ req' ∈ s'.requests, req' ∈ s.requests ∨
    (req'.id ∈ receivedBy e ∧ req'.reread = false) ∨
    ∃ req, (req ∈ s.requests ∨ req.id ∈ receivedBy e) ∧ req.reread = false ∧ req.id = req'.id
  /-- A version is refused when a read returns that was started after the first comparison. -/
  answered : ∃ new, s'.answered = s.answered ++ new ∧
    ∀ a ∈ new, a.2 = some .manifestVersion → a.1 ∈ s.requests ∧ ∃ answers now env n c,
      e = .read answers now env ∧ s.runch = some n ∧ a.1.comparedAt = some c ∧ c ≤ n
  dropped : ∀ req ∈ s'.dropped, req ∈ s.dropped ∨ ∃ env ∈ envOf e, env.ctxDone req.id = true
  /-- All requests that wait are answered when the manager ends. -/
  shutdown : e = .shutdown → ∀ req ∈ s.requests, (req, some .notRunning) ∈ s'.answered

/-- The requests are the same, and the read that is running, if there is one. -/
@[grind cases]
structure Rested (s s' : ManifestManager) : Prop where
  requests : s'.requests = s.requests
  pending : s'.pendingRequests = s.pendingRequests
  answered : s'.answered = s.answered
  dropped : s'.dropped = s.dropped
  timer : s'.stoptimer = s.stoptimer
  stage : s'.stage = s.stage
  runch : (s'.runch = s.runch ∧ s'.readsStarted = s.readsStarted) ∨
    (s.runch = none ∧ s'.runch = some s.readsStarted ∧ s'.readsStarted = s.readsStarted + 1)

namespace Rested

theorem invalidate (s : ManifestManager) : Rested s s.invalidate :=
  ⟨rfl, rfl, rfl, rfl, rfl, rfl, .inl ⟨rfl, rfl⟩⟩

theorem maybeFetchData (cfg : ManifestConfig) (now : Int) (s : ManifestManager) :
    Rested s (s.maybeFetchData cfg now) := by
  rcases maybeFetchData_cases cfg now s with ⟨heq, -⟩ | ⟨heq, hidle⟩ <;> rw [heq]
  · exact ⟨rfl, rfl, rfl, rfl, rfl, rfl, .inl ⟨rfl, rfl⟩⟩
  · exact ⟨rfl, rfl, rfl, rfl, rfl, rfl, .inr ⟨hidle, rfl, rfl⟩⟩

theorem trans_of_eq {s'' : ManifestManager} (h : Rested s s') (hrunch : s'.runch = s.runch)
    (hstarted : s'.readsStarted = s.readsStarted) (h' : Rested s' s'') : Rested s s'' := by
  constructor <;> grind

theorem placed (h : Rested s s') : s'.placed = s.placed := by
  rw [ManifestManager.placed, ManifestManager.placed, h.requests, h.pending, h.answered, h.dropped]

theorem started (h : Rested s s') : s.readsStarted ≤ s'.readsStarted := by grind

theorem held (h : Rested s s') (hs : Held s) : Held s' := by
  constructor <;> grind

theorem requestStep {e : ManifestEvent} (h : Rested s s') (he : receivedBy e = [])
    (hgoes : e ≠ .shutdown) : RequestStep s e s' := by
  refine ⟨by rw [h.placed, he, List.append_nil], h.started, ?_, ⟨[], ?_, nofun⟩, ?_, ?_⟩ <;> grind

end Rested

theorem waiting_rested (h : Rested s s') (hs : Waiting s) : Waiting s' := by
  exact ⟨h.held hs.toHeld, by grind⟩

theorem received_held (hs : Held s) (hlooping : s.stage = .looping) (id : Nat)
    (m : Mani.Manifest) : Held (s.received id m) := by
  constructor <;> grind [received]

theorem received_placed (s : ManifestManager) (id : Nat) (m : Mani.Manifest) :
    (s.received id m).placed.Perm (s.placed ++ [id]) := by
  rw [List.perm_iff_count]
  simp only [placed, received, List.map_append, List.map_cons, List.map_nil, List.count_append]
  omega

/-- After a read has been used, requests wait only if another one is started for them. -/
theorem reread_waiting (hnotimer : s.stoptimer = none) (hlooping : s.stage = .looping)
    (hfetched : s.fetched = true) (hnone : s.pendingRequests = []) :
    Waiting (s.serve cfg S env).maybeRereadData := by
  obtain ⟨hserved, hpending⟩ := serve_served cfg S env hfetched hnone
  obtain ⟨htimer, hstage, -, hstarted⟩ := stoptimer_serve cfg S s env
  rw [maybeRereadData]
  split
  · next hnil =>
    exact ⟨⟨htimer.trans hnotimer, hpending, .inl (hstage.trans hlooping), by simp, by simp [hnil]⟩,
      fun hne => absurd hnil hne⟩
  · refine ⟨⟨htimer.trans hnotimer, hpending, .inl (hstage.trans hlooping), ?_, ?_⟩,
      fun _ => Option.some_ne_none _⟩
    · rintro n ⟨⟩
      exact Nat.lt_succ_self _
    · intro req' hreq' _
      obtain ⟨req, -, -, rfl⟩ := hserved.requests req' hreq'
      exact ⟨_, _, rfl, rfl, Nat.le_of_eq hstarted.symm⟩

theorem placed_maybeRereadData (s : ManifestManager) : s.maybeRereadData.placed = s.placed ∧
    s.maybeRereadData.requests = s.requests ∧ s.maybeRereadData.answered = s.answered ∧
    s.maybeRereadData.dropped = s.dropped ∧ s.readsStarted ≤ s.maybeRereadData.readsStarted := by
  rw [maybeRereadData]
  split
  · exact ⟨rfl, rfl, rfl, rfl, Nat.le_refl _⟩
  · exact ⟨rfl, rfl, rfl, rfl, Nat.le_succ _⟩

theorem fillAllRequests_waiting {s : ManifestManager} (err : ManifestErr)
    (htimer : s.stoptimer = none) (hstage : s.stage = .looping ∨ s.stage = .ended)
    (hstarted : ∀ n, s.runch = some n → n < s.readsStarted) : Waiting (s.fillAllRequests err) where
  timer := htimer
  pending := rfl
  ended := hstage.imp_right fun h => ⟨h, rfl⟩
  started := hstarted
  marked := nofun
  reading hne := absurd rfl hne

theorem step_looping (h : step cfg S s e = some s') : s.stage = .looping := by
  unfold step at h
  split at h
  · cases h
  · next hlooping => exact not_not.mp hlooping

variable {id : Nat} {now : Int}

theorem serves_requestStep {m : Mani.Manifest} (hs : Waiting s) (hidle : s.runch = none)
    (hfetched : s.fetched = true) :
    RequestStep s (.manifest id m now env)
      ((s.received id m).serve cfg S env).maybeRereadData := by
  have hreceived : (s.received id m).requests = [⟨id, m, false, none⟩] := by grind [received]
  obtain ⟨hserved, -⟩ := serve_served (s := s.received id m) cfg S env hfetched hs.pending
  obtain ⟨hplaced, hrequests, hanswered, hdropped, hstarted⟩ :=
    placed_maybeRereadData ((s.received id m).serve cfg S env)
  obtain ⟨new, hnew, hversion⟩ := hserved.answered
  refine ⟨?_, ?_, ?_, ⟨new, hanswered.trans hnew, ?_⟩, ?_, nofun⟩
  · rw [hplaced]
    exact hserved.placed.trans (received_placed s id m)
  · rwa [(stoptimer_serve ..).2.2.2] at hstarted
  · intro req' hreq'
    rw [hrequests] at hreq'
    obtain ⟨req, hreq, hmark, rfl⟩ := hserved.requests req' hreq'
    refine .inr (.inr ⟨req, .inr ?_, hmark, rfl⟩)
    simp_all [receivedBy]
  · grind
  · intro req hreq
    rw [hdropped] at hreq
    exact (serve_dropped (s.received id m) env hreq).imp_right fun hdone => ⟨env, rfl, hdone⟩

theorem read_requestStep {answers : FetchAnswers} {n : Nat} {result : FetchDataResult}
    (hs : Waiting s) :
    RequestStep s (.read answers now env)
      ((s.stored n result now).serve cfg S env).maybeRereadData := by
  obtain ⟨hserved, -⟩ := serve_served (s := s.stored n result now) cfg S env rfl hs.pending
  obtain ⟨hplaced, hrequests, hanswered, hdropped, hstarted⟩ :=
    placed_maybeRereadData ((s.stored n result now).serve cfg S env)
  obtain ⟨new, hnew, hversion⟩ := hserved.answered
  refine ⟨?_, ?_, ?_, ⟨new, hanswered.trans hnew, ?_⟩, ?_, nofun⟩
  · rw [hplaced, show receivedBy (.read answers now env) = [] from rfl, List.append_nil]
    exact hserved.placed
  · rwa [(stoptimer_serve ..).2.2.2] at hstarted
  · intro req' hreq'
    rw [hrequests] at hreq'
    obtain ⟨req, hreq, hmark, rfl⟩ := hserved.requests req' hreq'
    exact .inr (.inr ⟨req, .inl hreq, hmark, rfl⟩)
  · intro a ha herr
    obtain ⟨hreq, hmark⟩ := hversion a ha herr
    obtain ⟨c, n', hc, hn', hle⟩ := hs.marked a.1 hreq hmark
    exact ⟨hreq, answers, now, env, n', c, rfl, hn', hc, hle⟩
  · intro req hreq
    rw [hdropped] at hreq
    exact (serve_dropped (s.stored n result now) env hreq).imp_right fun hdone => ⟨env, rfl, hdone⟩

theorem filled_requestStep (err : ManifestErr) (he : receivedBy e = [])
    (herr : err ≠ .manifestVersion) (hend : e = .shutdown → err = .notRunning)
    (hplaced : s'.placed = (s.fillAllRequests err).placed) (hrequests : s'.requests = [])
    (hanswered : s'.answered = (s.fillAllRequests err).answered) (hdropped : s'.dropped = s.dropped)
    (hstarted : s'.readsStarted = s.readsStarted) : RequestStep s e s' := by
  refine ⟨?_, Nat.le_of_eq hstarted.symm, by simp [hrequests],
    ⟨_, hanswered, fun a ha hversion => by grind⟩, by simp_all, ?_⟩
  · rw [hplaced, he, List.append_nil]
    exact fillAllRequests_placed s err
  · grind [fillAllRequests]

theorem step_requests (hs : Waiting s) (hstep : step cfg S s e = some s') :
    Waiting s' ∧ RequestStep s e s' := by
  have hlooping := step_looping hstep
  cases step_move hs.timer hstep with
  | shutdown =>
    refine ⟨?_, filled_requestStep .notRunning rfl nofun (fun _ => rfl) rfl rfl rfl rfl rfl⟩
    exact fillAllRequests_waiting (s := { s with stage := .ended }) .notRunning hs.timer
      (.inr rfl) hs.started
  | lease now =>
    have hrested := (Rested.invalidate s).trans_of_eq rfl rfl
      (Rested.maybeFetchData cfg now s.invalidate)
    exact ⟨waiting_rested hrested hs, hrested.requestStep rfl nofun⟩
  | removeLease | update version =>
    exact ⟨waiting_rested (.invalidate s) hs, (Rested.invalidate s).requestStep rfl nofun⟩
  | @waits id m now env hrunning =>
    have hrested := Rested.maybeFetchData cfg now (s.received id m)
    refine ⟨⟨hrested.held (received_held hs.toHeld hlooping id m), fun _ => hrunning⟩, ?_⟩
    refine ⟨?_, hrested.started, ?_, ⟨[], ?_, nofun⟩, ?_, nofun⟩
    · rw [hrested.placed]
      exact received_placed s id m
    all_goals grind [received, receivedBy]
  | @serves id m now env hidle hfetched hdata =>
    exact ⟨reread_waiting (s := s.received id m) hs.timer hlooping hfetched hs.pending,
      serves_requestStep hs hidle hfetched⟩
  | @readFailed answers now env n err hrunch hresult =>
    refine ⟨?_, filled_requestStep (.other err) rfl nofun nofun rfl rfl rfl rfl rfl⟩
    exact fillAllRequests_waiting (s := { s with runch := none }) _ hs.timer (.inl hlooping)
      nofun
  | @read answers now env n result hrunch hresult =>
    exact ⟨reread_waiting (s := s.stored n result now) hs.timer hlooping rfl hs.pending,
      read_requestStep hs⟩

/-- The requests that wait for another read after a step, and did not before it. -/
def keptBy (s s' : ManifestManager) : List Nat :=
  (s'.requests.filter fun req =>
    req.reread && !s.requests.any fun old => old.id = req.id && old.reread).map (·.id)

theorem mem_keptBy : id ∈ keptBy s s' ↔ ∃ req ∈ s'.requests, req.id = id ∧
    req.reread = true ∧ ∀ old ∈ s.requests, old.id = id → old.reread = false := by
  grind [keptBy, List.any_eq_false]

end ManifestManager

/-! ## Runs -/

open ManifestManager

/-- A manager and the record of its requests. -/
structure RequestLog where
  manager : ManifestManager
  received : List Nat
  /-- The requests that were kept for another read, as many times as they were. -/
  rereads : List Nat

namespace RequestLog

variable {cfg : ManifestConfig} {S : ManagerSdk} {r r' : RequestLog}

def start : RequestLog := ⟨.start, [], []⟩

def step (cfg : ManifestConfig) (S : ManagerSdk) (r : RequestLog) (e : ManifestEvent) :
    Option RequestLog :=
  (r.manager.step cfg S e).map fun s =>
    ⟨s, r.received ++ receivedBy e, r.rereads ++ keptBy r.manager s⟩

/-- A request comes with a channel of its own. -/
def OwnChannel (r : RequestLog) (e : ManifestEvent) : Prop :=
  ∀ id ∈ receivedBy e, id ∉ r.received

instance (r : RequestLog) (e : ManifestEvent) : Decidable (OwnChannel r e) :=
  inferInstanceAs (Decidable (∀ id ∈ receivedBy e, id ∉ r.received))

@[grind cases]
structure Inv (r : RequestLog) : Prop where
  waiting : Waiting r.manager
  placed : r.manager.placed.Perm r.received
  received : r.received.Nodup
  /-- A version was refused after a read that was started after the first comparison. -/
  refused : ∀ req, (req, some .manifestVersion) ∈ r.manager.answered →
    ∃ c, req.comparedAt = some c ∧ c < r.manager.readsStarted
  rereads : r.rereads.Nodup
  rereads_received : r.rereads ⊆ r.received
  /-- A request that was kept once is marked. -/
  marked : ∀ req ∈ r.manager.requests, req.id ∈ r.rereads → req.reread = true

theorem start_inv : Inv start where
  waiting := ⟨⟨rfl, rfl, .inl rfl, nofun, nofun⟩, fun hne => absurd rfl hne⟩
  placed := .refl _
  received := List.nodup_nil
  refused := nofun
  rereads := List.nodup_nil
  rereads_received := nofun
  marked := nofun

theorem nodup_requests {s : ManifestManager} (h : s.placed.Nodup) :
    (s.requests.map (·.id)).Nodup := by
  simp only [ManifestManager.placed, List.append_assoc] at h
  exact h.of_append_left

theorem mem_placed {s : ManifestManager} {req : ManifestRequest} (h : req ∈ s.requests) :
    req.id ∈ s.placed := by
  simp only [ManifestManager.placed, List.mem_append]
  exact .inl (.inl (.inl (List.mem_map_of_mem h)))

section

variable {e : ManifestEvent} {s' : ManifestManager}

theorem Inv.marked_step (h : Inv r) (hown : OwnChannel r e) (hmove : RequestStep r.manager e s')
    {req : ManifestRequest} (hreq : req ∈ s'.requests) (hid : req.id ∈ r.rereads) :
    req ∈ r.manager.requests := by
  grind [OwnChannel]

theorem Inv.not_kept_before (h : Inv r) (hown : OwnChannel r e)
    (hmove : RequestStep r.manager e s') {id : Nat} (hkept : id ∈ keptBy r.manager s') :
    id ∉ r.rereads := by
  grind [mem_keptBy, Inv.marked_step]

theorem step_inv (h : Inv r) (hown : OwnChannel r e) (hstep : step cfg S r e = some r') :
    Inv r' := by
  obtain ⟨s', hs', rfl⟩ := Option.map_eq_some_iff.mp hstep
  obtain ⟨hwaiting, hmove⟩ := step_requests h.waiting hs'
  have hreceived : (r.received ++ receivedBy e).Nodup := by
    refine h.received.append ?_ fun id hold hnew => hown id hnew hold
    cases e with
    | manifest => exact List.nodup_singleton _
    | _ => exact List.nodup_nil
  have hplaced : s'.placed.Perm (r.received ++ receivedBy e) :=
    hmove.placed.trans (h.placed.append_right _)
  have hnodup := nodup_requests (hplaced.nodup_iff.mpr hreceived)
  refine ⟨hwaiting, hplaced, hreceived, ?_, ?_, ?_, ?_⟩
  · intro req hreq
    grind
  · refine h.rereads.append ?_ fun id hold hkept => h.not_kept_before hown hmove hkept hold
    exact hnodup.sublist (List.filter_sublist.map _)
  · intro id hid
    rcases List.mem_append.mp hid with hid | hid
    · exact List.mem_append_left _ (h.rereads_received hid)
    · grind [mem_keptBy, mem_placed]
  · intro req hreq hid
    rcases List.mem_append.mp hid with hid | hid
    · exact h.marked req (h.marked_step hown hmove hreq hid) hid
    · grind [mem_keptBy, List.inj_on_of_nodup_map]

end

theorem inv_of_runs (h : Runs (step cfg S) OwnChannel start r) : Inv r :=
  h.invariant (I := Inv) (fun _ _ _ hown hstep hinv => step_inv hinv hown hstep) start_inv

/-- Where the requests are between two events. -/
@[grind cases]
structure Settled (r : RequestLog) : Prop where
  /-- Each request that came is waiting, accepted, answered or dropped, -/
  placed : r.manager.placed.Perm r.received
  /-- one of these only, and once. -/
  once : r.manager.placed.Nodup
  reading : r.manager.requests ≠ [] → r.manager.runch ≠ none
  pending : r.manager.pendingRequests = []
  ended : r.manager.stage ≠ .looping → r.manager.requests = []
  /-- A read was started after the first comparison, if a version was refused. -/
  refused : ∀ req, (req, some .manifestVersion) ∈ r.manager.answered →
    ∃ c, req.comparedAt = some c ∧ c < r.manager.readsStarted
  /-- A request is kept for another read once at most. -/
  rereads : r.rereads.Nodup

/-- A manifest of another version is submitted, and the chain is read again. -/
def otherVersion : List ManifestEvent :=
  [.lease 0, .read (someAnswers [1] ["7"]) 1 someEnv,
    .manifest 5 [⟨"web", []⟩, ⟨"db", []⟩] 2 someEnv, .read (someAnswers [1] ["8"]) 3 someEnv]

end RequestLog

end AkashProvider
