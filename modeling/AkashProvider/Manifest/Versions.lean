import AkashProvider.Lib.Except
import AkashProvider.Lib.Newest
import AkashProvider.Manifest.Manager

/-!
# The versions of a deployment

The expected version is that of the newest read (`expected_is_newest`).  An accepted manifest is
published again whenever the chain has been read and no request waits, also when that read has
moved the expected version (`previous_manifest_published`).  `published_current_iff` says that
there is no other way.
-/

namespace AkashProvider

namespace ManifestManager

variable {cfg : ManifestConfig} {S : ManagerSdk} {s s' : ManifestManager}

/-! ## What a step does -/

/-- Versions, manifests and publications are the same. -/
@[grind cases]
structure Kept (s s' : ManifestManager) : Prop where
  expected : s'.expected = s.expected
  reads : s'.reads = s.reads
  manifests : s'.manifests = s.manifests
  published : s'.published = s.published

theorem Kept.refl (s : ManifestManager) : Kept s s := ⟨rfl, rfl, rfl, rfl⟩

theorem Kept.trans {s'' : ManifestManager} (h : Kept s s') (h' : Kept s' s'') : Kept s s'' :=
  ⟨h'.expected.trans h.expected, h'.reads.trans h.reads, h'.manifests.trans h.manifests,
    h'.published.trans h.published⟩

theorem kept_maybeFetchData (cfg : ManifestConfig) (now : Int) (s : ManifestManager) :
    Kept s (s.maybeFetchData cfg now) := by
  simp only [maybeFetchData]
  repeat' split
  all_goals exact ⟨rfl, rfl, rfl, rfl⟩

theorem kept_maybeRereadData (s : ManifestManager) : Kept s s.maybeRereadData := by
  rw [maybeRereadData]
  split <;> exact ⟨rfl, rfl, rfl, rfl⟩

theorem kept_maybeScheduleStop (s : ManifestManager) : Kept s s.maybeScheduleStop := by
  rw [maybeScheduleStop]
  repeat' split
  all_goals exact ⟨rfl, rfl, rfl, rfl⟩

theorem kept_finish (s : ManifestManager) : Kept s s.finish := by
  simp only [finish]
  split <;> exact ⟨rfl, rfl, rfl, rfl⟩

theorem kept_andThen {f : ManifestManager → ManifestManager} (hf : ∀ s, Kept s (f s))
    (s : ManifestManager) : Kept s (s.andThen f) := by
  rw [andThen]
  split
  · exact hf s
  · exact .refl s

/-- A read has been received, and its result is stored. -/
def stored (s : ManifestManager) (n : Nat) (result : FetchDataResult) (now : Int) :
    ManifestManager :=
  { { s with runch := none }.applyFetchResult result now with dataFrom := some n }

theorem handleManifest_cases (s : ManifestManager) (id : Nat) (m : Mani.Manifest) (now : Int)
    (env : ValidateEnv) :
    Kept s (s.handleManifest cfg S id m now env) ∨
      ∃ s₁, Kept s s₁ ∧ Kept (s₁.serve cfg S env) (s.handleManifest cfg S id m now env) := by
  have hkept : Kept s { s with requests := s.requests ++ [⟨id, m, false, none⟩] } :=
    ⟨rfl, rfl, rfl, rfl⟩
  have hstop := hkept.trans (kept_maybeScheduleStop _)
  have hfetch := hstop.trans (kept_maybeFetchData cfg now _)
  rw [handleManifest, andThen]
  split
  · simp only
    split
    · exact .inr ⟨_, hfetch, kept_maybeRereadData _⟩
    · exact .inl hfetch
  · exact .inl hstop

variable {e : ManifestEvent}

theorem step_cases (h : step cfg S s e = some s') :
    (∃ answers now env n result, e = .read answers now env ∧ doFetchData S answers = .ok result ∧
      Kept ((s.stored n result now).serve cfg S env) s') ∨
    ((∀ answers now env result, e = .read answers now env → doFetchData S answers ≠ .ok result) ∧
      (Kept s s' ∨ ∃ s₁ env, Kept s s₁ ∧ Kept (s₁.serve cfg S env) s')) := by
  unfold step at h
  split at h
  · cases h
  cases e with
  | shutdown =>
    cases h
    exact .inr ⟨nofun, .inl (kept_finish s)⟩
  | timerFired =>
    simp only at h
    split at h
    · cases h
      exact .inr ⟨nofun, .inl ⟨rfl, rfl, rfl, rfl⟩⟩
    · cases h
  | stop =>
    simp only at h
    split at h
    · cases h
      exact .inr ⟨nofun, .inl (kept_finish s)⟩
    · cases h
  | lease now =>
    cases h
    have hkept : Kept s s.invalidate := ⟨rfl, rfl, rfl, rfl⟩
    exact .inr ⟨nofun, .inl ((hkept.trans (kept_maybeScheduleStop _)).trans
      (kept_andThen (kept_maybeFetchData cfg now) _))⟩
  | removeLease =>
    cases h
    have hkept : Kept s s.invalidate := ⟨rfl, rfl, rfl, rfl⟩
    exact .inr ⟨nofun, .inl (hkept.trans (kept_maybeScheduleStop _))⟩
  | manifest id m now env => grind [handleManifest_cases]
  | update version =>
    cases h
    exact .inr ⟨nofun, .inl ⟨rfl, rfl, rfl, rfl⟩⟩
  | read answers now env =>
    simp only at h
    split at h
    · cases h
    · next n _ =>
      cases h
      cases hresult : doFetchData S answers with
      | error err =>
        refine .inr ⟨?_, .inl ⟨rfl, rfl, rfl, rfl⟩⟩
        grind
      | ok result =>
        exact .inl ⟨answers, now, env, n, result, rfl, hresult,
          (kept_maybeScheduleStop _).trans (kept_andThen kept_maybeRereadData _)⟩

/-! ### Serving requests -/

variable {env : ValidateEnv}

theorem version_of_accepted {req : ManifestRequest} (h : s.verdict cfg S env req = .accepted) :
    S.version req.manifest = .ok s.expected.hash := by
  have hvalid : s.validateRequest cfg S env req = none := by
    rw [verdict] at h
    grind
  -- An accepted manifest has passed every check, the comparison of versions among them.
  rw [validateRequest] at hvalid
  grind

theorem validateRequests_frame (cfg : ManifestConfig) (S : ManagerSdk) (s : ManifestManager)
    (env : ValidateEnv) :
    (s.validateRequests cfg S env).expected = s.expected ∧
      (s.validateRequests cfg S env).reads = s.reads ∧
      (s.validateRequests cfg S env).published = s.published := by
  rw [validateRequests]
  split <;> exact ⟨rfl, rfl, rfl⟩

theorem validateRequests_manifests (cfg : ManifestConfig) (S : ManagerSdk) (s : ManifestManager)
    (env : ValidateEnv) :
    ((s.validateRequests cfg S env).manifests = s.manifests ∧
        (s.fetched = true → ∀ req ∈ s.requests, s.verdict cfg S env req ≠ .accepted)) ∨
      ∃ req ∈ s.requests, s.verdict cfg S env req = .accepted ∧
        (s.validateRequests cfg S env).manifests = s.manifests ++ [req.manifest] := by
  rw [validateRequests]
  split
  · grind
  · cases haccepted : s.requests.filter (s.verdict cfg S env · = .accepted) with
    | nil => simp_all
    | cons req rest =>
      have hmem : req ∈ s.requests.filter (s.verdict cfg S env · = .accepted) := by
        rw [haccepted]
        exact List.mem_cons_self
      grind

theorem maybeEmitReceivedEvents_cases (s : ManifestManager) :
    Kept s s.maybeEmitReceivedEvents ∨
      ∃ latest, s.manifests.getLast? = some latest ∧ s.localLeases ≠ [] ∧
        s.maybeEmitReceivedEvents.expected = s.expected ∧
        s.maybeEmitReceivedEvents.reads = s.reads ∧
        s.maybeEmitReceivedEvents.manifests = s.manifests ∧
        s.maybeEmitReceivedEvents.published = s.published ++ s.receivedEvents latest := by
  rw [maybeEmitReceivedEvents]
  split
  · exact .inl (.refl s)
  rw [emitReceivedEvents]
  split
  · exact .inl (.refl s)
  next latest hlatest =>
  split
  · exact .inl (.refl s)
  split
  · exact .inl ⟨rfl, rfl, rfl, rfl⟩
  · next hleases => exact .inr ⟨latest, hlatest, hleases, rfl, rfl, rfl, rfl⟩

theorem serve_frame (cfg : ManifestConfig) (S : ManagerSdk) (s : ManifestManager)
    (env : ValidateEnv) :
    (s.serve cfg S env).expected = s.expected ∧ (s.serve cfg S env).reads = s.reads ∧
      (s.serve cfg S env).manifests = (s.validateRequests cfg S env).manifests := by
  have hvalidate := validateRequests_frame cfg S s env
  rw [serve]
  obtain hkept | ⟨latest, -, -, hexpected, hreads, hmanifests, -⟩ :=
    maybeEmitReceivedEvents_cases (s.validateRequests cfg S env)
  all_goals grind

/-- Whatever is published has the latest manifest, and is recorded with the expected version. -/
theorem serve_published (cfg : ManifestConfig) (S : ManagerSdk) (s : ManifestManager)
    (env : ValidateEnv) :
    (s.serve cfg S env).published = s.published ∨
      ∃ latest events, (s.serve cfg S env).manifests.getLast? = some latest ∧ events ≠ [] ∧
        (s.serve cfg S env).published = s.published ++ events ∧
        ∀ p ∈ events, p.event.manifest = latest ∧ p.expected = s.expected.hash := by
  obtain ⟨hexpected, -, hpublished⟩ := validateRequests_frame cfg S s env
  rw [serve]
  obtain hkept | ⟨latest, hlatest, hleases, -, -, hmanifests, hemitted⟩ :=
    maybeEmitReceivedEvents_cases (s.validateRequests cfg S env)
  · exact .inl (hkept.published.trans hpublished)
  simp_all [receivedEvents, ne_eq, List.map_eq_nil_iff]

/-! ## The expected version -/

/-- The version that a step reads from the chain. -/
def readOf (S : ManagerSdk) : ManifestEvent → Option DeploymentVersion
  | .read answers _ _ =>
    match doFetchData S answers with
    | .error _ => none
    | .ok result => some ⟨result.deployment.hash, result.height⟩
  | _ => none

/-- The newest read of those that have a hash. -/
def NewestRead (reads : List DeploymentVersion) : Option DeploymentVersion → Prop :=
  Newest DeploymentVersion.height (·.hash ≠ []) reads

/-- What is expected before there is a read with a hash. -/
def noVersion : DeploymentVersion := ⟨[], 0⟩

@[grind cases]
structure VersionStep (S : ManagerSdk) (s : ManifestManager) (e : ManifestEvent)
    (s' : ManifestManager) : Prop where
  reads : s'.reads = s.reads ++ (readOf S e).toList
  /-- It is moved by a read only, and by none that is below an earlier one. -/
  moved : s'.expected ≠ s.expected → readOf S e = some s'.expected ∧ s'.expected.hash ≠ [] ∧
    ∀ r ∈ s.reads, r.hash ≠ [] → r.height ≤ s'.expected.height
  /-- A read without a height moves it only while no read has had one. -/
  noHeight : s'.expected ≠ s.expected → s'.expected.height = 0 →
    ∀ r ∈ s.reads, r.hash ≠ [] → r.height = 0
  update : ∀ version, e = .update version → s'.expected = s.expected

/-- The expected version is the newest of the reads. -/
@[grind cases]
structure VersionInv (s : ManifestManager) : Prop where
  newest : ∃ newest, NewestRead s.reads newest ∧ s.expected = newest.getD noVersion
  nonneg : ∀ r ∈ s.reads, 0 ≤ r.height

theorem readHeight_nonneg (values : List String) : 0 ≤ readHeight values := by
  unfold readHeight
  repeat' split
  all_goals omega

variable {answers : FetchAnswers} {result : FetchDataResult}

theorem height_doFetchData (h : doFetchData S answers = .ok result) : 0 ≤ result.height := by
  obtain ⟨deployment, -, h⟩ := Except.bind_eq_ok_iff.mp h
  obtain ⟨leaseIDs, -, h⟩ := Except.bind_eq_ok_iff.mp h
  obtain ⟨leases, -, h⟩ := Except.bind_eq_ok_iff.mp h
  cases h
  exact readHeight_nonneg _

/-- The rule of `applyFetchResult`. -/
def nextExpected (expected v : DeploymentVersion) : DeploymentVersion :=
  if v.hash = [] then expected else if v.height < expected.height then expected else v

theorem newest_nextExpected {reads : List DeploymentVersion} {newest : Option DeploymentVersion}
    {v : DeploymentVersion} (h : NewestRead reads newest) (hv : 0 ≤ v.height) :
    ∃ newest', NewestRead (reads ++ [v]) newest' ∧
      nextExpected (newest.getD noVersion) v = newest'.getD noVersion := by
  rw [nextExpected]
  split
  · next hhash => exact ⟨newest, h.older fun hcounts => absurd hhash hcounts, rfl⟩
  next hhash =>
  split
  · next hlt =>
    refine ⟨newest, h.older fun _ => ?_, rfl⟩
    cases newest with
    | none => exact absurd hv (Int.not_le.mpr hlt)
    | some a => exact ⟨a, rfl, hlt⟩
  · next hle =>
    refine ⟨some v, h.newer hhash fun a ha => ?_, rfl⟩
    rw [ha] at hle
    exact Int.not_lt.mp hle

theorem VersionInv.height_le (h : VersionInv s) {r : DeploymentVersion} (hr : r ∈ s.reads)
    (hhash : r.hash ≠ []) : r.height ≤ s.expected.height := by
  obtain ⟨newest, hnewest, hexpected⟩ := h.newest
  cases newest with
  | none => exact absurd hhash (hnewest r hr)
  | some a =>
    rw [hexpected]
    exact hnewest.le hr hhash

theorem nextExpected_ne {expected v : DeploymentVersion} (h : nextExpected expected v ≠ expected) :
    nextExpected expected v = v ∧ v.hash ≠ [] ∧ expected.height ≤ v.height := by
  simp_all [nextExpected]

variable {now : Int}

theorem version_of_read (h : VersionInv s) (hresult : doFetchData S answers = .ok result)
    (hreads : s'.reads = s.reads ++ [⟨result.deployment.hash, result.height⟩])
    (hexpected : s'.expected = nextExpected s.expected ⟨result.deployment.hash, result.height⟩) :
    VersionInv s' ∧ VersionStep S s (.read answers now env) s' := by
  have hread : readOf S (.read answers now env) = some ⟨result.deployment.hash, result.height⟩ := by
    simp only [readOf, hresult]
  have hheight := height_doFetchData hresult
  have hmoved : s'.expected ≠ s.expected → readOf S (.read answers now env) = some s'.expected ∧
      s'.expected.hash ≠ [] ∧ ∀ r ∈ s.reads, r.hash ≠ [] → r.height ≤ s'.expected.height := by
    intro hne
    rw [hexpected] at hne ⊢
    obtain ⟨heq, hhash, hle⟩ := nextExpected_ne hne
    rw [heq]
    exact ⟨hread, hhash, fun r hr hrhash => Int.le_trans (h.height_le hr hrhash) hle⟩
  refine ⟨⟨?_, ?_⟩, ⟨?_, hmoved, ?_, nofun⟩⟩
  · obtain ⟨newest, hnewest, hold⟩ := h.newest
    rw [hreads, hexpected, hold]
    exact newest_nextExpected hnewest hheight
  · grind
  · rw [hreads, hread]
    rfl
  grind

theorem version_of_same (h : VersionInv s) (hread : readOf S e = none) (hreads : s'.reads = s.reads)
    (hexpected : s'.expected = s.expected) :
    VersionInv s' ∧ VersionStep S s e s' := by
  refine ⟨⟨?_, ?_⟩, ⟨?_, fun hne => absurd hexpected hne, fun hne => absurd hexpected hne,
    fun _ _ => hexpected⟩⟩
  · rw [hexpected, hreads]
    exact h.newest
  · rw [hreads]
    exact h.nonneg
  · simp_all

theorem readOf_eq_none
    (h : ∀ answers now env result, e = .read answers now env → doFetchData S answers ≠ .ok result) :
    readOf S e = none := by
  cases e with
  | read answers now env =>
    cases hresult : doFetchData S answers with
    | error err => simp only [readOf, hresult]
    | ok result => exact absurd hresult (h answers now env result rfl)
  | _ => rfl

theorem step_version (h : VersionInv s) (hstep : step cfg S s e = some s') :
    VersionInv s' ∧ VersionStep S s e s' := by
  obtain ⟨answers, now, env, n, result, rfl, hresult, hkept⟩ |
    ⟨hnoread, hkept | ⟨s₁, env, hbefore, hafter⟩⟩ := step_cases hstep
  · obtain ⟨hexpected, hreads, -⟩ := serve_frame cfg S (s.stored n result now) env
    exact version_of_read h hresult (hkept.reads.trans hreads) (hkept.expected.trans hexpected)
  · exact version_of_same h (readOf_eq_none hnoread) hkept.reads hkept.expected
  · obtain ⟨hexpected, hreads, -⟩ := serve_frame cfg S s₁ env
    exact version_of_same h (readOf_eq_none hnoread)
      (hafter.reads.trans (hreads.trans hbefore.reads))
      (hafter.expected.trans (hexpected.trans hbefore.expected))

theorem start_versionInv : VersionInv start := ⟨⟨none, Newest.nil, rfl⟩, nofun⟩

theorem Reachable.versionInv (h : Reachable cfg S s) : VersionInv s :=
  Runs.invariant (fun _ _ _ _ hstep hinv => (step_version hinv hstep).1) h start_versionInv

/-- The expected version is that of the newest read, in every state that a manager reaches. -/
theorem expected_is_newest (h : Reachable cfg S s) :
    (∃ newest, NewestRead s.reads newest ∧ s.expected = newest.getD noVersion) ∧
      ∀ e s', step cfg S s e = some s' → VersionStep S s e s' :=
  ⟨h.versionInv.newest, fun _ _ hstep => (step_version h.versionInv hstep).2⟩

/-! ### A run -/

/-- The functions of other packages, where the version of a manifest is its number of groups. -/
def someSdk : ManagerSdk where
  validate _ := none
  version m := .ok [UInt8.ofNat m.length]
  checkAgainstDeployment _ _ := none
  ownerAddress owner := .ok owner
  isIngress _ := false
  externalPort _ := 80
  protocolToString _ := "TCP"
  leaseIDText _ := "lease"
  errInvalidManifest := "invalid manifest"
  quote name := name

def someManifestConfig : ManifestConfig := ⟨false, 60⟩

/-- No context ends, and all hostnames can be reserved. -/
def someEnv : ValidateEnv := ⟨fun _ => false, fun _ => none, fun _ _ _ => none⟩

/-- A deployment with one group and a lease of it. -/
def someAnswers (hash : List UInt8) (heightHeader : List String) : FetchAnswers where
  deployment := .ok ⟨"owner", hash, [⟨⟨"owner", 1, 1⟩, ⟨"web", [], []⟩, ⟨"uakt", 1⟩⟩]⟩
  heightHeader := heightHeader
  leases := .ok [⟨"owner", 1, 1, 1, "provider"⟩]

/-- A read without a height comes after one with a height. -/
theorem expected_is_newest_no_height :
    ∃ s, Reachable someManifestConfig someSdk s ∧ s.reads = [⟨[1], 7⟩, ⟨[2], 0⟩] ∧
      s.expected = ⟨[1], 7⟩ ∧
      ∃ newest, NewestRead s.reads newest ∧ s.expected = newest.getD noVersion := by
  obtain ⟨s, hrun⟩ : ∃ s, [ManifestEvent.lease 0, .read (someAnswers [1] ["7"]) 1 someEnv,
      .update [2], .lease 2, .read (someAnswers [2] []) 3 someEnv].foldlM
        (step someManifestConfig someSdk) start = some s := ⟨_, rfl⟩
  have hreach : Reachable someManifestConfig someSdk s := Runs.of_foldlM _ _ _ hrun
  obtain ⟨hnewest, -⟩ := expected_is_newest hreach
  cases hrun
  exact ⟨_, hreach, rfl, rfl, hnewest⟩

/-! ## Publications -/

/-- Every manifest that was published had the version that was expected then. -/
def CurrentPublished (S : ManagerSdk) (s : ManifestManager) : Prop :=
  ∀ p ∈ s.published, S.version p.event.manifest = .ok p.expected

/-- The latest manifest has the expected version. -/
def LatestCurrent (S : ManagerSdk) (s : ManifestManager) : Prop :=
  ∀ m, s.manifests.getLast? = some m → S.version m = .ok s.expected.hash

/-- A read moves the expected version only if no manifest was accepted before, or a request that
waits is accepted with the new one. -/
def ResultMoves (cfg : ManifestConfig) (S : ManagerSdk) (s : ManifestManager) (now : Int)
    (env : ValidateEnv) : Except String FetchDataResult → Prop
  | .error _ => True
  | .ok result =>
    (s.applyFetchResult result now).expected.hash = s.expected.hash ∨ s.manifests = [] ∨
      ∃ req ∈ s.requests, (s.applyFetchResult result now).verdict cfg S env req = .accepted

def MovesWithManifest (cfg : ManifestConfig) (S : ManagerSdk) (s : ManifestManager) :
    ManifestEvent → Prop
  | .read answers now env => ResultMoves cfg S s now env (doFetchData S answers)
  | _ => True

instance (cfg : ManifestConfig) (S : ManagerSdk) (s : ManifestManager) (now : Int)
    (env : ValidateEnv) : DecidablePred (ResultMoves cfg S s now env) := by
  intro result
  unfold ResultMoves
  split <;> infer_instance

instance (cfg : ManifestConfig) (S : ManagerSdk) (s : ManifestManager) :
    DecidablePred (MovesWithManifest cfg S s) := by
  intro e
  unfold MovesWithManifest
  split <;> infer_instance

theorem Kept.latestCurrent (h : Kept s s') (hlatest : LatestCurrent S s) : LatestCurrent S s' := by
  intro m hm
  rw [h.manifests] at hm
  rw [h.expected]
  exact hlatest m hm

theorem Kept.currentPublished (h : Kept s s') (hcurrent : CurrentPublished S s) :
    CurrentPublished S s' := by
  rw [CurrentPublished, h.published]
  exact hcurrent

/-- When requests have been served the latest manifest is current, if it was so before or one has
been accepted. -/
theorem serve_latestCurrent (h : LatestCurrent S s ∨
      s.fetched = true ∧ ∃ req ∈ s.requests, s.verdict cfg S env req = .accepted) :
    LatestCurrent S (s.serve cfg S env) := by
  intro m hm
  obtain ⟨hexpected, -, hmanifests⟩ := serve_frame cfg S s env
  rw [hmanifests] at hm
  rw [hexpected]
  obtain ⟨hsame, hnone⟩ | ⟨req, -, hverdict, hmore⟩ := validateRequests_manifests cfg S s env
  · rw [hsame] at hm
    obtain hlatest | ⟨hfetched, req, hreq, hverdict⟩ := h
    · exact hlatest m hm
    · exact absurd hverdict (hnone hfetched req hreq)
  · grind [version_of_accepted]

theorem serve_currentPublished (h : CurrentPublished S s)
    (hlatest : LatestCurrent S (s.serve cfg S env)) : CurrentPublished S (s.serve cfg S env) := by
  grind [serve_published, CurrentPublished, serve_frame, LatestCurrent]

theorem stored_latestCurrent {n : Nat} (hlatest : LatestCurrent S s)
    (hresult : doFetchData S answers = .ok result)
    (hmoves : MovesWithManifest cfg S s (.read answers now env)) :
    LatestCurrent S ((s.stored n result now).serve cfg S env) := by
  simp only [MovesWithManifest, hresult, ResultMoves] at hmoves
  obtain hsame | hnone | ⟨req, hreq, hverdict⟩ := hmoves
  · refine serve_latestCurrent (.inl fun m hm => ?_)
    have hversion := hlatest m hm
    rw [← hsame] at hversion
    exact hversion
  · refine serve_latestCurrent (.inl fun m hm => ?_)
    have hm' : s.manifests.getLast? = some m := hm
    rw [hnone] at hm'
    cases hm'
  · exact serve_latestCurrent (.inr ⟨rfl, req, hreq, hverdict⟩)

theorem step_current (hlatest : LatestCurrent S s) (hcurrent : CurrentPublished S s)
    (hmoves : MovesWithManifest cfg S s e) (hstep : step cfg S s e = some s') :
    LatestCurrent S s' ∧ CurrentPublished S s' := by
  obtain ⟨answers, now, env, n, result, rfl, hresult, hkept⟩ |
    ⟨-, hkept | ⟨s₁, env, hbefore, hafter⟩⟩ := step_cases hstep
  · have hserved := stored_latestCurrent (n := n) hlatest hresult hmoves
    have hstored : CurrentPublished S (s.stored n result now) := hcurrent
    exact ⟨hkept.latestCurrent hserved,
      hkept.currentPublished (serve_currentPublished hstored hserved)⟩
  · exact ⟨hkept.latestCurrent hlatest, hkept.currentPublished hcurrent⟩
  · have hserved : LatestCurrent S (s₁.serve cfg S env) :=
      serve_latestCurrent (.inl (hbefore.latestCurrent hlatest))
    grind [Kept.latestCurrent, Kept.currentPublished, serve_currentPublished]

theorem published_of_not_moves (hlatest : LatestCurrent S s)
    (hmoves : ¬ MovesWithManifest cfg S s e) (hstep : step cfg S s e = some s')
    (hcurrent : CurrentPublished S s') : s'.published = s.published := by
  obtain ⟨answers, now, env, n, result, rfl, hresult, hkept⟩ | ⟨hnoread, -⟩ := step_cases hstep
  · simp only [MovesWithManifest, hresult, ResultMoves, not_or, not_exists, not_and] at hmoves
    obtain ⟨hmoved, -, hnone⟩ := hmoves
    obtain hsame | ⟨latest, events, hlast, hne, hpublished, hevents⟩ :=
      serve_published cfg S (s.stored n result now) env
    · exact hkept.published.trans hsame
    · obtain ⟨p, hp⟩ := List.exists_mem_of_ne_nil events hne
      obtain ⟨hmanifest, hexpected⟩ := hevents p hp
      have hp' : p ∈ s'.published := by simp_all [hkept.published]
      have hnew := hcurrent p hp'
      rw [hmanifest, hexpected] at hnew
      -- No request is accepted, so the latest manifest is still the one of the old version.
      rw [(serve_frame cfg S _ env).2.2] at hlast
      obtain ⟨hsame, -⟩ | ⟨req, hreq, hverdict, -⟩ :=
        validateRequests_manifests cfg S (s.stored n result now) env
      · rw [hsame] at hlast
        have hold := hlatest latest hlast
        rw [hold] at hnew
        injection hnew with hhash
        exact absurd hhash.symm hmoved
      · exact absurd hverdict (hnone req hreq)
  · refine absurd ?_ hmoves
    cases e with
    | read answers now env =>
      cases hresult : doFetchData S answers with
      | error err => simp only [MovesWithManifest, hresult, ResultMoves]
      | ok result => exact absurd hresult (hnoread answers now env result rfl)
    | _ => trivial

/-- As long as the expected version moves with a manifest, what is published is current.  A step
that moves it without one keeps to this only if it publishes nothing. -/
theorem published_current_iff
    (h : Runs (step cfg S) (MovesWithManifest cfg S) start s) :
    CurrentPublished S s ∧
      ∀ e s', step cfg S s e = some s' →
        (CurrentPublished S s' ↔ MovesWithManifest cfg S s e ∨ s'.published = s.published) := by
  have hinv : LatestCurrent S s ∧ CurrentPublished S s :=
    h.invariant (I := fun s => LatestCurrent S s ∧ CurrentPublished S s)
      (fun _ _ _ hmoves hstep hinv => step_current hinv.1 hinv.2 hmoves hstep) ⟨nofun, nofun⟩
  obtain ⟨hlatest, hcurrent⟩ := hinv
  refine ⟨hcurrent, fun e s' hstep => ⟨fun hnext => ?_, ?_⟩⟩
  · grind [MovesWithManifest, published_of_not_moves]
  · rintro (hmoves | hsame)
    · exact (step_current hlatest hcurrent hmoves hstep).2
    · rw [CurrentPublished, hsame]
      exact hcurrent

def firstManifest : Mani.Manifest := [⟨"web", []⟩]

/-- A lease is won, the deployment is read, and its manifest is submitted. -/
def firstRun : List ManifestEvent :=
  [.lease 0, .read (someAnswers [1] ["7"]) 1 someEnv, .manifest 0 firstManifest 2 someEnv]

theorem published_current_of_one :
    ∃ s, Runs (step someManifestConfig someSdk) (MovesWithManifest someManifestConfig someSdk)
        start s ∧
      s.published.map (·.event.manifest) = [firstManifest] ∧ CurrentPublished someSdk s := by
  obtain ⟨s, hrun⟩ : ∃ s, firstRun.foldlM (fun s e =>
      if MovesWithManifest someManifestConfig someSdk s e then
        step someManifestConfig someSdk s e else none) start = some s := ⟨_, rfl⟩
  have hruns := Runs.of_guarded _ _ _ hrun
  obtain ⟨hcurrent, -⟩ := published_current_iff hruns
  cases hrun
  exact ⟨_, hruns, rfl, hcurrent⟩

/-- Then the deployment is updated, another lease is won, and the read for it returns the new
version. -/
def secondRun : List ManifestEvent :=
  firstRun ++ [.update [2], .lease 3, .read (someAnswers [2] ["9"]) 4 someEnv]

/-- The manifest of the old version is published while the new one is expected. -/
theorem previous_manifest_published :
    ∃ s p, secondRun.foldlM (step someManifestConfig someSdk) start = some s ∧
      s.expected = ⟨[2], 9⟩ ∧ p ∈ s.published ∧ p.expected = [2] ∧
      p.event.manifest = firstManifest ∧ someSdk.version p.event.manifest = .ok [1] :=
  ⟨_, _, rfl, rfl, List.mem_cons_of_mem _ List.mem_cons_self, rfl, rfl, rfl⟩

end ManifestManager

end AkashProvider
