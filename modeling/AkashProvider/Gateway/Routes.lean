import AkashProvider.Gateway.Handlers

/-!
# What the gateway lets through

`newRouter_steps` writes out the steps before every handler.  A handler should act on a lease only
if the claims authorize the lease and grant the scope of the endpoint (`acts_authorized_iff`).
The status of a service is given without its scope, and hostnames and IPs are moved to a lease
that nothing asks the claims about.
-/

namespace AkashProvider.Gateway

/-! ## Routes -/

inductive Handler where
  | version
  | address
  | status
  | migrate
  | migrateEndpoint
  | createManifest
  | attestationQuote
  | getManifest
  | leaseStatus
  | leaseKubeEvents
  | leaseLogs
  | leaseServiceStatus
  | leaseShell
deriving DecidableEq

variable {κ : Type} (S : AuthSdk κ) (C : ClusterClient) (K : HandlerSdk)

def Handler.run (req : Request) (ctx : Context κ) : Handler → Handling
  | .version => createVersionHandler C
  | .address => createAddressHandler
  | .status => createStatusHandler C
  | .migrate => migrateHandler C K req ctx
  | .migrateEndpoint => migrateEndpointHandler C K req ctx
  | .createManifest => createManifestHandler C K req ctx
  | .attestationQuote => createAttestationQuoteHandler C K req ctx
  | .getManifest => getManifestHandler C ctx
  | .leaseStatus => leaseStatusHandler C ctx
  | .leaseKubeEvents => leaseKubeEventsHandler C req ctx
  | .leaseLogs => leaseLogsHandler C req ctx
  | .leaseServiceStatus => leaseServiceStatusHandler C ctx
  | .leaseShell => leaseShellHandler C K req ctx

def leaseRoutes : Router (Middleware κ) Handler :=
  .sub [] [requireEndpointScopeForLeaseID S .attestation]
    (.handle [.lit "attestation", .lit "quote"] ["POST"] .attestationQuote .empty) <|
  .sub [] [requireEndpointScopeForLeaseID S .getManifest]
    (.handle [.lit "manifest"] ["GET"] .getManifest .empty) <|
  .sub [] [requireEndpointScopeForLeaseID S .status]
    (.handle [.lit "status"] ["GET"] .leaseStatus .empty) <|
  .sub [] [requestStreamParams S]
    (.sub [] [requireEndpointScopeForLeaseID S .events]
      (.handle [.lit "kubeevents"] ["GET"] .leaseKubeEvents .empty) .empty) <|
  .sub [] [requestStreamParams S, requireEndpointScopeForLeaseID S .logs]
    (.handle [.lit "logs"] ["GET"] .leaseLogs .empty) <|
  .sub [.lit "service", .var "serviceName"] [requireService]
    (.handle [.lit "status"] ["GET"] .leaseServiceStatus .empty) <|
  .sub [] [requireEndpointScopeForLeaseID S .shell]
    -- any method
    (.handle [.lit "shell"] [] .leaseShell .empty) .empty

def authedRoutes : Router (Middleware κ) Handler :=
  .sub [.lit "hostname"] [] (.handle [.lit "migrate"] ["POST"] .migrate .empty) <|
  .sub [.lit "endpoint"] [] (.handle [.lit "migrate"] ["POST"] .migrateEndpoint .empty) <|
  .sub [.lit "deployment", .var "dseq"] [requireDeploymentID S]
    (.sub [] [requireEndpointScopeForDeploymentID S .sendManifest]
      (.handle [.lit "manifest"] ["PUT"] .createManifest .empty) .empty) <|
  .sub [.lit "lease", .var "dseq", .var "gseq", .var "oseq"] [requireLeaseID S]
    (leaseRoutes S) .empty

def newRouter (addr : String) (middlewares : List (Middleware κ)) :
    Router (Middleware κ) Handler :=
  .sub [] ([setProvider addr, prepareAuthMiddleware S] ++ middlewares)
    (.handle [.lit "version"] ["GET"] .version <|
      .handle [.lit "address"] ["GET"] .address <|
      .handle [.lit "status"] ["GET"] .status <|
      .sub [] [authorizeProviderMiddleware S, requireOwner S] (authedRoutes S) .empty)
    .empty

/-! ## A request -/

def pass (req : Request) (vars : Vars) (steps : List (Middleware κ)) (ctx : Context κ) :
    Except Reply (Context κ) :=
  steps.foldlM (fun ctx step => step req vars ctx) ctx

/-- The handler that a request was routed to, the calls it made and the reply. -/
structure Served where
  handler : Option Handler
  calls : List Call
  reply : Reply

def replyOf : Except Reply Reply → Reply
  | .ok reply | .error reply => reply

def serve (addr : String) (middlewares : List (Middleware κ)) (req : Request) : Served :=
  match (newRouter S addr middlewares).route req.method req.path with
  | .notFound => ⟨none, [], .error 404 "404 page not found"⟩
  | .methodNotAllowed => ⟨none, [], .status 405⟩
  | .found steps handler vars =>
    match pass req vars steps {} with
    | .error reply => ⟨some handler, [], reply⟩
    | .ok ctx =>
      let handled := handler.run C K req ctx
      ⟨some handler, handled.log, replyOf handled.result⟩

/-! ## What should hold -/

def Handler.scope : Handler → Option PermissionScope
  | .attestationQuote => some .attestation
  | .getManifest => some .getManifest
  | .leaseStatus | .leaseServiceStatus => some .status
  | .leaseKubeEvents => some .events
  | .leaseLogs => some .logs
  | .leaseShell => some .shell
  | .version | .address | .status | .migrate | .migrateEndpoint | .createManifest => none

/-- The claims authorize a call: its lease with the scope of the endpoint, and for a manifest
that is sent, the deployment. -/
@[grind cases]
structure Authorizes (addr : String) (claims : κ) (handler : Handler) (c : Call) : Prop where
  lease : ∀ lid, c.lease = some lid → S.authorizeForLeaseID claims lid = true
  scope : ∀ lid, c.lease = some lid → ∀ scope, handler.scope = some scope →
    S.authorizeLeaseIDForPermissionScope claims lid scope = true
  deployment : ∀ did mani, c = .submit did mani →
    S.authorizeForDeploymentID claims did addr = true ∧
      S.authorizeDeploymentIDForPermissionScope claims did addr .sendManifest = true

/-- All that the gateway does for a request is authorized. -/
def ActsAuthorized (addr : String) (middlewares : List (Middleware κ)) (req : Request) : Prop :=
  ∀ handler, (serve S C K addr middlewares req).handler = some handler →
    ∀ c ∈ (serve S C K addr middlewares req).calls,
      ∃ claims, authenticate S req = .ok claims ∧ Authorizes S addr claims handler c

/-- For the status of a service the claims grant the scope, and where things are moved they
authorize the lease that gets them. -/
def ScopesSettled (addr : String) (middlewares : List (Middleware κ)) (req : Request) : Prop :=
  ∀ steps handler vars,
    (newRouter S addr middlewares).route req.method req.path = .found steps handler vars →
    ∀ claims, authenticate S req = .ok claims → S.authorizeForProvider claims addr = true →
      S.issuerAddress claims ≠ "" →
      match handler with
      | .leaseServiceStatus => ∀ lid,
          S.parseLeasePath (leasePath (S.issuerAddress claims) addr vars) = .ok lid →
          S.authorizeForLeaseID claims lid = true → pathVar vars "serviceName" ≠ "" →
            S.authorizeLeaseIDForPermissionScope claims lid .status = true
      | .migrate => ∀ lid, MigratesTo C K req (S.issuerAddress claims) lid →
          S.authorizeForLeaseID claims lid = true
      | .migrateEndpoint => ∀ lid, MigratesEndpointsTo C K req (S.issuerAddress claims) lid →
          S.authorizeForLeaseID claims lid = true
      | _ => True

/-! ## The steps of every handler -/

/-- A step that touches nothing of the context. -/
def Middleware.Passes (m : Middleware κ) : Prop := ∀ req vars ctx, m req vars ctx = .ok ctx

theorem restMiddleware_passes : Middleware.Passes (restMiddleware : Middleware κ) :=
  fun _ _ _ => rfl

/-- The steps behind those that make out the client. -/
def Handler.ownSteps : Handler → List (Middleware κ)
  | .version | .address | .status | .migrate | .migrateEndpoint => []
  | .createManifest => [requireDeploymentID S, requireEndpointScopeForDeploymentID S .sendManifest]
  | .attestationQuote => [requireLeaseID S, requireEndpointScopeForLeaseID S .attestation]
  | .getManifest => [requireLeaseID S, requireEndpointScopeForLeaseID S .getManifest]
  | .leaseStatus => [requireLeaseID S, requireEndpointScopeForLeaseID S .status]
  | .leaseKubeEvents =>
    [requireLeaseID S, requestStreamParams S, requireEndpointScopeForLeaseID S .events]
  | .leaseLogs => [requireLeaseID S, requestStreamParams S, requireEndpointScopeForLeaseID S .logs]
  | .leaseServiceStatus => [requireLeaseID S, requireService]
  | .leaseShell => [requireLeaseID S, requireEndpointScopeForLeaseID S .shell]

/-- The handler asks for a client that is known. -/
def Handler.authed : Handler → Bool
  | .version | .address | .status => false
  | _ => true

def Handler.steps (addr : String) (middlewares : List (Middleware κ)) (handler : Handler) :
    List (Middleware κ) :=
  ([setProvider addr, prepareAuthMiddleware S] ++ middlewares) ++
    if handler.authed then
      [authorizeProviderMiddleware S, requireOwner S] ++ handler.ownSteps S
    else []

variable {S C K}

theorem newRouter_steps (addr : String) (middlewares : List (Middleware κ)) :
    (newRouter S addr middlewares).All fun steps handler =>
      steps = handler.steps S addr middlewares := by
  simp only [newRouter, authedRoutes, leaseRoutes, Router.All, Handler.steps, Handler.authed,
    Handler.ownSteps, if_true, Bool.false_eq_true, if_false, List.append_nil, List.cons_append,
    List.nil_append, and_self]

/-! ## Passing the steps -/

variable {addr : String} {middlewares : List (Middleware κ)} {req : Request} {vars : Vars}
  {claims : κ} {ctx : Context κ}

variable {ctx' : Context κ} {steps : List (Middleware κ)}

theorem pass_cons_eq_ok_iff {step : Middleware κ} : pass req vars (step :: steps) ctx = .ok ctx' ↔
      ∃ mid, step req vars ctx = .ok mid ∧ pass req vars steps mid = .ok ctx' := by
  rw [pass, List.foldlM_cons, Except.bind_eq_ok_iff]
  rfl

theorem pass_nil_eq_ok_iff : pass req vars [] ctx = .ok ctx' ↔ ctx = ctx' :=
  ⟨Except.ok.inj, congrArg Except.ok⟩

theorem pass_append {steps steps' : List (Middleware κ)}
    (hpass : ∀ m ∈ steps, Middleware.Passes m) :
    pass req vars (steps ++ steps') ctx = pass req vars steps' ctx := by
  induction steps with
  | nil => rfl
  | cons step steps ih =>
    obtain ⟨hstep, hsteps⟩ := List.forall_mem_cons.mp hpass
    rw [List.cons_append, pass, List.foldlM_cons, hstep req vars ctx]
    exact ih hsteps

variable (S addr claims) in
/-- The context of a client with its claims. -/
def clientContext : Context κ := { provider := some addr, claims := some claims }

variable (S addr claims) in
def ownerContext : Context κ :=
  { clientContext addr claims with owner := some (S.issuerAddress claims) }

theorem pass_client_eq_ok_iff (hpass : ∀ m ∈ middlewares, Middleware.Passes m) :
    pass req vars (([setProvider addr, prepareAuthMiddleware S] ++ middlewares) ++ steps) {} =
        .ok ctx ↔
      ∃ claims, authenticate S req = .ok claims ∧
        pass req vars steps (clientContext addr claims) = .ok ctx := by
  rw [List.append_assoc, List.cons_append, List.cons_append, List.nil_append, pass_cons_eq_ok_iff]
  simp only [pass_cons_eq_ok_iff, pass_append hpass, prepareAuthMiddleware_eq_ok_iff]
  constructor
  · rintro ⟨_, ⟨⟩, _, ⟨claims, hauth, rfl⟩, h⟩
    exact ⟨claims, hauth, h⟩
  · rintro ⟨claims, hauth, h⟩
    exact ⟨_, rfl, _, ⟨claims, hauth, rfl⟩, h⟩

theorem pass_authed_eq_ok_iff :
    pass req vars ([authorizeProviderMiddleware S, requireOwner S] ++ steps)
        (clientContext addr claims) = .ok ctx ↔
      S.authorizeForProvider claims addr = true ∧ S.issuerAddress claims ≠ "" ∧
        pass req vars steps (ownerContext S addr claims) = .ok ctx := by
  simp only [List.cons_append, List.nil_append, pass_cons_eq_ok_iff,
    authorizeProviderMiddleware_eq_ok_iff, requireOwner_eq_ok_iff]
  constructor
  · rintro ⟨_, ⟨_, _, ⟨⟩, ⟨⟩, hprovider, rfl⟩, _, ⟨_, ⟨⟩, howner, rfl⟩, h⟩
    exact ⟨hprovider, howner, h⟩
  · rintro ⟨hprovider, howner, h⟩
    exact ⟨_, ⟨_, _, rfl, rfl, hprovider, rfl⟩, _, ⟨_, rfl, howner, rfl⟩, h⟩

theorem pass_lease_eq_ok_iff :
    pass req vars (requireLeaseID S :: steps) (ownerContext S addr claims) = .ok ctx ↔
      ∃ lid, S.parseLeasePath (leasePath (S.issuerAddress claims) addr vars) = .ok lid ∧
        S.authorizeForLeaseID claims lid = true ∧
        pass req vars steps { ownerContext S addr claims with lease := some lid } = .ok ctx := by
  simp only [pass_cons_eq_ok_iff, requireLeaseID_eq_ok_iff, parseLeaseID_eq_ok_iff]
  constructor
  · rintro ⟨_, ⟨lid, _, ⟨_, _, ⟨⟩, ⟨⟩, hparse⟩, ⟨⟩, hlease, rfl⟩, h⟩
    exact ⟨lid, hparse, hlease, h⟩
  · rintro ⟨lid, hparse, hlease, h⟩
    exact ⟨_, ⟨lid, _, ⟨_, _, rfl, rfl, hparse⟩, rfl, hlease, rfl⟩, h⟩

variable {lid : LeaseID} {scope : PermissionScope}

theorem pass_scope_eq_ok (h : pass req vars [requireEndpointScopeForLeaseID S scope] ctx = .ok ctx')
    (hclaims : ctx.claims = some claims) (hlid : ctx.lease = some lid) :
    S.authorizeLeaseIDForPermissionScope claims lid scope = true ∧ ctx' = ctx := by
  simp_all [pass_cons_eq_ok_iff, pass_nil_eq_ok_iff, requireEndpointScopeForLeaseID_eq_ok_iff]

/-- The scope is asked for next to the lease, or after the parameters of a stream. -/
theorem pass_lease_scope {stream : List (Middleware κ)}
    (hstream : stream = [] ∨ stream = [requestStreamParams S])
    (h : pass req vars (requireLeaseID S :: (stream ++ [requireEndpointScopeForLeaseID S scope]))
      (ownerContext S addr claims) = .ok ctx) :
    ∃ lid, S.parseLeasePath (leasePath (S.issuerAddress claims) addr vars) = .ok lid ∧
      S.authorizeForLeaseID claims lid = true ∧ ctx.lease = some lid ∧
      S.authorizeLeaseIDForPermissionScope claims lid scope = true := by
  obtain ⟨lid, hparse, hlease, h⟩ := pass_lease_eq_ok_iff.mp h
  obtain rfl | rfl := hstream
  · obtain ⟨hscope, rfl⟩ := pass_scope_eq_ok h rfl rfl
    exact ⟨lid, hparse, hlease, rfl, hscope⟩
  · obtain ⟨mid, hparams, h⟩ := pass_cons_eq_ok_iff.mp h
    obtain ⟨follow, tailLines, services, rfl⟩ := requestStreamParams_eq_ok hparams
    obtain ⟨hscope, rfl⟩ := pass_scope_eq_ok h rfl rfl
    exact ⟨lid, hparse, hlease, rfl, hscope⟩

theorem pass_lease_service
    (h : pass req vars [requireLeaseID S, requireService] (ownerContext S addr claims) = .ok ctx) :
    ∃ lid, S.parseLeasePath (leasePath (S.issuerAddress claims) addr vars) = .ok lid ∧
      S.authorizeForLeaseID claims lid = true ∧ ctx.lease = some lid ∧
      pathVar vars "serviceName" ≠ "" := by
  grind [pass_lease_eq_ok_iff, pass_cons_eq_ok_iff, requireService_eq_ok_iff, pass_nil_eq_ok_iff]

variable {handler : Handler}

/-- The steps of an endpoint of a lease let through what the claims authorize, and all but one ask
for the scope. -/
theorem lease_of_pass (hscope : handler.scope = some scope)
    (hservice : handler ≠ .leaseServiceStatus)
    (h : pass req vars (handler.ownSteps S) (ownerContext S addr claims) = .ok ctx) :
    ∃ lid, S.parseLeasePath (leasePath (S.issuerAddress claims) addr vars) = .ok lid ∧
      S.authorizeForLeaseID claims lid = true ∧ ctx.lease = some lid ∧
      S.authorizeLeaseIDForPermissionScope claims lid scope = true := by
  cases handler with
  | version | address | status | migrate | migrateEndpoint | createManifest => cases hscope
  | leaseServiceStatus => exact absurd rfl hservice
  | attestationQuote | getManifest | leaseStatus | leaseShell =>
    cases hscope
    exact pass_lease_scope (.inl rfl) h
  | leaseKubeEvents | leaseLogs =>
    cases hscope
    exact pass_lease_scope (.inr rfl) h

theorem Handler.run_calls (hscope : handler.scope = some scope) :
    (handler.run C K req ctx).Calls (OfContext ctx) := by
  cases handler with
  | version | address | status | migrate | migrateEndpoint | createManifest => cases hscope
  | attestationQuote => exact createAttestationQuoteHandler_calls req ctx
  | getManifest => exact getManifestHandler_calls ctx
  | leaseStatus => exact leaseStatusHandler_calls ctx
  | leaseKubeEvents => exact leaseKubeEventsHandler_calls req ctx
  | leaseLogs => exact leaseLogsHandler_calls req ctx
  | leaseServiceStatus => exact leaseServiceStatusHandler_calls ctx
  | leaseShell => exact leaseShellHandler_calls req ctx

/-! ## What is done -/

theorem serve_of_pass (hroute : (newRouter S addr middlewares).route req.method req.path =
      .found steps handler vars) (hsteps : pass req vars steps {} = .ok ctx) :
    (serve S C K addr middlewares req).handler = some handler ∧
      (serve S C K addr middlewares req).calls = (handler.run C K req ctx).log := by
  simp only [serve, hroute, hsteps, and_self]

variable {c : Call}

theorem exists_of_mem_calls (hhandler : (serve S C K addr middlewares req).handler = some handler)
    (hc : c ∈ (serve S C K addr middlewares req).calls) :
    ∃ vars ctx, (newRouter S addr middlewares).route req.method req.path =
        .found (handler.steps S addr middlewares) handler vars ∧
      pass req vars (handler.steps S addr middlewares) {} = .ok ctx ∧
      c ∈ (handler.run C K req ctx).log := by
  cases hroute : (newRouter S addr middlewares).route req.method req.path with
  | notFound => simp [serve, hroute] at hhandler
  | methodNotAllowed => simp [serve, hroute] at hhandler
  | found steps handler' vars =>
    obtain rfl : steps = _ := (newRouter_steps addr middlewares).route hroute
    cases hpass : pass req vars (handler'.steps S addr middlewares) {} with
    | error reply => simp [serve, hroute, hpass] at hc
    | ok ctx =>
      obtain ⟨hsame, hcalls⟩ := serve_of_pass (C := C) (K := K) hroute hpass
      simp_all

theorem authorizes_of_provider (hc : OfProvider c) :
    Authorizes S addr claims handler c := by
  constructor <;> rcases hc with rfl | rfl | rfl <;> simp [Call.lease]

theorem authorizes_of_context (hc : OfContext ctx c) (hlid : ctx.lease = some lid)
    (hlease : S.authorizeForLeaseID claims lid = true)
    (hscope : ∀ scope, handler.scope = some scope →
      S.authorizeLeaseIDForPermissionScope claims lid scope = true) :
    Authorizes S addr claims handler c := by
  obtain ⟨lid', hlid', hc⟩ := hc
  obtain rfl : lid = lid' := Option.some_inj.mp (hlid.symm.trans hlid')
  have hsame : ∀ lid', c.lease = some lid' → lid = lid' :=
    fun lid' h => Option.some_inj.mp (hc.symm.trans h)
  refine ⟨fun lid' h => hsame lid' h ▸ hlease, fun lid' h => hsame lid' h ▸ hscope, ?_⟩
  rintro did mani rfl
  cases hc

theorem authorizes_of_destination {owner : String} {To : String → LeaseID → Prop}
    (hc : OfDestination To ctx c) (howner : ctx.owner = some owner) (hscope : handler.scope = none)
    (hlease : ∀ lid, To owner lid → S.authorizeForLeaseID claims lid = true) :
    Authorizes S addr claims handler c := by
  have hnone : ∀ scope, handler.scope ≠ some scope := fun scope h => by
    cases hscope.symm.trans h
  rcases hc with ⟨_, dseq, gseq, rfl⟩ | ⟨owner', lid, howner', hc, hto⟩
  · exact ⟨fun _ h => by (cases h), fun _ h => by (cases h), fun _ _ h => by (cases h)⟩
  · obtain rfl : owner = owner' := Option.some_inj.mp (howner.symm.trans howner')
    refine ⟨fun lid' h => ?_, fun _ _ scope h => absurd h (hnone scope), ?_⟩
    · exact Option.some_inj.mp (hc.symm.trans h) ▸ hlease lid hto
    · rintro did mani rfl
      cases hc

theorem deployment_of_pass
    (h : pass req vars (Handler.createManifest.ownSteps S) (ownerContext S addr claims) = .ok ctx) :
    ∃ did, ctx.deployment = some did ∧ S.authorizeForDeploymentID claims did addr = true ∧
      S.authorizeDeploymentIDForPermissionScope claims did addr .sendManifest = true := by
  obtain ⟨_, hid, h⟩ := pass_cons_eq_ok_iff.mp h
  obtain ⟨did, _, _, -, ⟨⟩, ⟨⟩, hauth, rfl⟩ := requireDeploymentID_eq_ok_iff.mp hid
  obtain ⟨_, hscope, h⟩ := pass_cons_eq_ok_iff.mp h
  obtain ⟨_, _, _, ⟨⟩, ⟨⟩, ⟨⟩, hgranted, rfl⟩ :=
    requireEndpointScopeForDeploymentID_eq_ok_iff.mp hscope
  cases pass_nil_eq_ok_iff.mp h
  exact ⟨did, rfl, hauth, hgranted⟩

theorem authorizes_of_pass (hpass : ∀ m ∈ middlewares, Middleware.Passes m)
    (hsettled : ScopesSettled S C K addr middlewares req)
    (hroute : (newRouter S addr middlewares).route req.method req.path =
      .found (handler.steps S addr middlewares) handler vars)
    (hsteps : pass req vars (handler.steps S addr middlewares) {} = .ok ctx)
    (hc : c ∈ (handler.run C K req ctx).log) :
    ∃ claims, authenticate S req = .ok claims ∧ Authorizes S addr claims handler c := by
  obtain ⟨claims, hauth, hsteps⟩ := (pass_client_eq_ok_iff hpass).mp hsteps
  refine ⟨claims, hauth, ?_⟩
  cases handler with
  | version => exact authorizes_of_provider (createVersionHandler_calls c hc)
  | address => cases hc
  | status => exact authorizes_of_provider (createStatusHandler_calls c hc)
  | migrate =>
    obtain ⟨hprovider, howner, hsteps⟩ := pass_authed_eq_ok_iff.mp hsteps
    cases pass_nil_eq_ok_iff.mp hsteps
    exact authorizes_of_destination (migrateHandler_calls req _ c hc) rfl rfl
      (hsettled _ _ _ hroute claims hauth hprovider howner)
  | migrateEndpoint =>
    obtain ⟨hprovider, howner, hsteps⟩ := pass_authed_eq_ok_iff.mp hsteps
    cases pass_nil_eq_ok_iff.mp hsteps
    exact authorizes_of_destination (migrateEndpointHandler_calls req _ c hc) rfl rfl
      (hsettled _ _ _ hroute claims hauth hprovider howner)
  | createManifest =>
    obtain ⟨-, -, hsteps⟩ := pass_authed_eq_ok_iff.mp hsteps
    obtain ⟨did, hdid, hauth, hgranted⟩ := deployment_of_pass hsteps
    obtain ⟨did', mani, hdid', rfl⟩ := createManifestHandler_calls req ctx c hc
    obtain rfl : did = did' := Option.some_inj.mp (hdid.symm.trans hdid')
    refine ⟨fun _ h => by (cases h), fun _ h => by (cases h), ?_⟩
    rintro _ _ ⟨⟩
    exact ⟨hauth, hgranted⟩
  | leaseServiceStatus =>
    obtain ⟨hprovider, howner, hsteps⟩ := pass_authed_eq_ok_iff.mp hsteps
    obtain ⟨lid, hparse, hlease, hlid, hname⟩ := pass_lease_service hsteps
    refine authorizes_of_context (Handler.run_calls rfl c hc) hlid hlease ?_
    rintro _ ⟨⟩
    exact hsettled _ _ _ hroute claims hauth hprovider howner lid hparse hlease hname
  | attestationQuote | getManifest | leaseStatus | leaseKubeEvents | leaseLogs | leaseShell =>
    obtain ⟨-, -, hsteps⟩ := pass_authed_eq_ok_iff.mp hsteps
    obtain ⟨lid, -, hlease, hlid, hgranted⟩ := lease_of_pass rfl (by decide) hsteps
    refine authorizes_of_context (Handler.run_calls rfl c hc) hlid hlease ?_
    rintro _ ⟨⟩
    exact hgranted

/-! ## The three handlers -/

theorem service_status_granted (hpass : ∀ m ∈ middlewares, Middleware.Passes m)
    (hacts : ActsAuthorized S C K addr middlewares req)
    (hroute : (newRouter S addr middlewares).route req.method req.path =
      .found (Handler.leaseServiceStatus.steps S addr middlewares) .leaseServiceStatus vars)
    (hauth : authenticate S req = .ok claims)
    (hprovider : S.authorizeForProvider claims addr = true) (howner : S.issuerAddress claims ≠ "")
    (hparse : S.parseLeasePath (leasePath (S.issuerAddress claims) addr vars) = .ok lid)
    (hlease : S.authorizeForLeaseID claims lid = true) (hname : pathVar vars "serviceName" ≠ "") :
    S.authorizeLeaseIDForPermissionScope claims lid .status = true := by
  have hsteps : pass req vars (Handler.leaseServiceStatus.steps S addr middlewares) {} = .ok
      { ownerContext S addr claims with
        lease := some lid
        service := some (pathVar vars "serviceName") } := by
    refine (pass_client_eq_ok_iff hpass).mpr ⟨claims, hauth, ?_⟩
    refine pass_authed_eq_ok_iff.mpr ⟨hprovider, howner, ?_⟩
    refine pass_lease_eq_ok_iff.mpr ⟨lid, hparse, hlease, ?_⟩
    exact pass_cons_eq_ok_iff.mpr ⟨_, requireService_eq_ok_iff.mpr ⟨hname, rfl⟩, rfl⟩
  obtain ⟨hhandler, hcalls⟩ := serve_of_pass (C := C) (K := K) hroute hsteps
  have hc : Call.serviceStatus lid (pathVar vars "serviceName") ∈
      (serve S C K addr middlewares req).calls := by
    rw [hcalls]
    exact leaseServiceStatusHandler_mem rfl rfl
  obtain ⟨claims', hauth', hall⟩ := hacts _ hhandler _ hc
  cases hauth.symm.trans hauth'
  exact hall.scope lid rfl .status rfl

theorem destination_authorized (hpass : ∀ m ∈ middlewares, Middleware.Passes m)
    (hacts : ActsAuthorized S C K addr middlewares req)
    (hroute : (newRouter S addr middlewares).route req.method req.path =
      .found (handler.steps S addr middlewares) handler vars)
    (hsteps : handler.steps S addr middlewares = Handler.migrate.steps S addr middlewares)
    (hauth : authenticate S req = .ok claims)
    (hprovider : S.authorizeForProvider claims addr = true) (howner : S.issuerAddress claims ≠ "")
    (hmem : ∃ c ∈ (handler.run C K req (ownerContext S addr claims)).log, c.lease = some lid) :
    S.authorizeForLeaseID claims lid = true := by
  have hpassed : pass req vars (handler.steps S addr middlewares) {} =
      .ok (ownerContext S addr claims) := by
    rw [hsteps]
    refine (pass_client_eq_ok_iff hpass).mpr ⟨claims, hauth, ?_⟩
    exact pass_authed_eq_ok_iff.mpr ⟨hprovider, howner, rfl⟩
  obtain ⟨hhandler, hcalls⟩ := serve_of_pass (C := C) (K := K) hroute hpassed
  obtain ⟨c, hc, hclease⟩ := hmem
  rw [← hcalls] at hc
  obtain ⟨claims', hauth', hall⟩ := hacts _ hhandler _ hc
  cases hauth.symm.trans hauth'
  exact hall.lease lid hclease

/-- All that the gateway does for a request is authorized, exactly if the claims grant the scope of
a service status, and authorize the lease that things are moved to. -/
theorem acts_authorized_iff (hpass : ∀ m ∈ middlewares, Middleware.Passes m) (req : Request) :
    ActsAuthorized S C K addr middlewares req ↔ ScopesSettled S C K addr middlewares req := by
  constructor
  · intro hacts steps handler vars hroute claims hauth hprovider howner
    obtain rfl : steps = _ := (newRouter_steps addr middlewares).route hroute
    cases handler with
    | leaseServiceStatus =>
      intro lid
      exact service_status_granted hpass hacts hroute hauth hprovider howner
    | migrate =>
      intro lid hto
      exact destination_authorized hpass hacts hroute rfl hauth hprovider howner
        (migrateHandler_mem rfl hto)
    | migrateEndpoint =>
      intro lid hto
      exact destination_authorized hpass hacts hroute rfl hauth hprovider howner
        (migrateEndpointHandler_mem rfl hto)
    | _ => trivial
  · intro hsettled handler hhandler c hc
    obtain ⟨vars, ctx, hroute, hsteps, hc⟩ := exists_of_mem_calls hhandler hc
    exact authorizes_of_pass hpass hsettled hroute hsteps hc

/-! ## Some requests -/

structure PlainClaims where
  issuer : String
  leases : List LeaseID
  scopes : List PermissionScope

/-- A client with given claims, which authorize some leases with some scopes. -/
def plainAuth (claims : PlainClaims) : AuthSdk PlainClaims where
  issuerAddress := (·.issuer)
  authorizeForProvider _ _ := true
  authorizeForDeploymentID _ _ _ := false
  authorizeForLeaseID claims lid := lid ∈ claims.leases
  authorizeDeploymentIDForPermissionScope _ _ _ _ := false
  authorizeLeaseIDForPermissionScope claims lid scope := lid ∈ claims.leases ∧ scope ∈ claims.scopes
  authProcess _ _ := .ok claims
  parseDeploymentPath _ := .error "unused"
  parseLeasePath
    | [owner, _, _, _, provider] => .ok ⟨owner, 42, 1, 1, provider⟩
    | _ => .error "invalid path"
  fields s := [s]
  toLower s := s
  parseBool _ := .ok false
  parseInt32 _ := .ok 0

def tenantLease : LeaseID := ⟨"owner", 42, 1, 1, "provider"⟩

/-- A stored group with one service, at port 80 of some hosts and IPs. -/
def storedGroup (exposes : List (List String × String)) : Crd.ManifestGroup where
  name := "group"
  services :=
    [{ name := "web", image := "nginx", command := [], args := [], env := []
       resources := ⟨1, ⟨0, []⟩, ⟨0, []⟩, ⟨"0", []⟩, []⟩, count := 1
       expose := exposes.map fun (hosts, ip) =>
        ⟨8080, 80, "TCP", "", true, hosts, ⟨0, 0, 0, 0, 0, [], false, 0, 0, 0, 0, 0⟩, ip, 0⟩
       params := none, schedulerParams := none, credentials := none, interconnectGroup := "" }]

def tenantGroup : Crd.ManifestGroup := storedGroup [(["a.com"], "ip1")]

/-- A cluster with one lease, where all goes well. -/
def plainCluster : ClusterClient where
  kubeVersion := .ok ()
  status := .ok ()
  submit _ _ := .ok ()
  attestationQuote _ := .ok 200
  getManifestGroup _ := .ok (some tenantGroup)
  fromCRD _ := .ok ()
  hasIPClient := true
  getIPAddressStatus _ := .ok ()
  forwardedPortStatus _ := .ok ()
  leaseStatus _ := .ok ()
  serviceStatus _ _ := .ok 1
  findActiveLease _ _ _ := .ok (some (tenantLease, tenantGroup))
  prepareHostnamesForTransfer _ _ := .ok ()
  transferHostname _ _ := .ok ()
  declareIP _ _ _ := .ok ()
  upgrade _ := true

/-- Every body asks to move the host and the IP. -/
def plainHandlers : HandlerSdk where
  decodeMigrate _ := some ⟨["a.com"], 42, 1⟩
  decodeEndpointMigrate _ := some ⟨["ip1"], 42, 1⟩
  decodeManifest _ := .ok []
  parseUint31 _ _ := some 0
  parseServiceProtocol _ := some .tcp
  nameHash s := s
  quote s := s

def plainRequest (method : String) (path : List String) : Request :=
  ⟨method, path, [], "", [], ""⟩

/-- The claims authorize the lease, and the host is moved to it. -/
theorem acts_authorized_migrate :
    ActsAuthorized (plainAuth ⟨"owner", [tenantLease], []⟩) plainCluster plainHandlers "provider"
        [restMiddleware] (plainRequest "POST" ["hostname", "migrate"]) ∧
      (serve (plainAuth ⟨"owner", [tenantLease], []⟩) plainCluster plainHandlers "provider"
        [restMiddleware] (plainRequest "POST" ["hostname", "migrate"])).calls =
          [.findActiveLease "owner" 42 1, .prepareHostnamesForTransfer ["a.com"] tenantLease,
            .transferHostname tenantLease "a.com" "web" 80] := by
  constructor
  · refine (acts_authorized_iff ?_ _).mpr ?_
    · exact fun m hm => List.mem_singleton.mp hm ▸ restMiddleware_passes
    · rintro steps handler vars ⟨⟩ claims ⟨⟩ - - lid ⟨body, mgroup, -, -, ⟨⟩, -⟩
      decide
  · decide +kernel

/-- The claims are for the logs, and the status of a service is given.  The claims are for no
lease, and a host and an IP are moved. -/
theorem acts_unauthorized :
    ¬ ActsAuthorized (plainAuth ⟨"owner", [tenantLease], [.logs]⟩) plainCluster plainHandlers
        "provider" [] (plainRequest "GET" ["lease", "42", "1", "1", "service", "web", "status"]) ∧
    ¬ ActsAuthorized (plainAuth ⟨"owner", [], []⟩) plainCluster plainHandlers "provider" []
        (plainRequest "POST" ["hostname", "migrate"]) ∧
    ¬ ActsAuthorized (plainAuth ⟨"owner", [], []⟩) plainCluster plainHandlers "provider" []
        (plainRequest "POST" ["endpoint", "migrate"]) := by
  refine ⟨fun h => ?_, fun h => ?_, fun h => ?_⟩
  · obtain ⟨claims, ⟨⟩, hall⟩ := h .leaseServiceStatus (by decide +kernel)
      (.serviceStatus tenantLease "web") (by decide +kernel)
    exact absurd (hall.scope tenantLease rfl .status rfl) (by decide)
  · obtain ⟨claims, ⟨⟩, hall⟩ := h .migrate (by decide +kernel)
      (.prepareHostnamesForTransfer ["a.com"] tenantLease) (by decide +kernel)
    exact absurd (hall.lease tenantLease rfl) (by decide)
  · obtain ⟨claims, ⟨⟩, hall⟩ := h .migrateEndpoint (by decide +kernel)
      (.declareIP tenantLease "web" 8080 80 .tcp "owner-ip-ip1" true) (by decide +kernel)
    exact absurd (hall.lease tenantLease rfl) (by decide)

end AkashProvider.Gateway
