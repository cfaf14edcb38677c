import AkashProvider.Lib.Except
import AkashProvider.Lib.Router
import AkashProvider.Types.Resources

/-!
# The middleware of the gateway

A request passes a chain of steps.  Each one answers it, or writes what it found into the context
and passes it on; reading what nobody has written is a panic.  For each step there is a lemma that
says when it passes a request on and with what.
-/

namespace AkashProvider.Gateway

/-! ## Requests and replies -/

structure DeploymentID where
  owner : String
  dseq : UInt64
deriving DecidableEq

inductive PermissionScope where
  | sendManifest | getManifest | logs | shell | events | status | attestation
deriving DecidableEq

/-- A certificate of the client, by the common name of its subject. -/
structure Certificate where
  commonName : String

structure Request where
  method : String
  /-- The parts of the path, which the router has cleaned. -/
  path : List String
  query : List (String × String)
  authorization : String
  peerCertificates : List Certificate
  body : String

/-- The first value of a parameter, or nothing. -/
def Request.get (req : Request) (key : String) : String := (req.query.lookup key).getD ""

inductive Reply where
  | error (status : Nat) (text : String)
  | status (status : Nat)
  /-- What was asked for. -/
  | json
  /-- The connection went over to a web socket, or could not. -/
  | socket
  | panic

structure HttpError where
  statusCode : Nat
  text : String

def errUnauthorized : HttpError := ⟨401, "unauthorized access"⟩
def errInvalidAuthHeader : HttpError := ⟨400, "invalid authorization header"⟩

/-- The error as a JSON object with its message. -/
def defaultErrorHandler (err : HttpError) : Reply := .error err.statusCode err.text

/-- The functions of other packages, for claims in `κ`.  Addresses are as their `String`
writes them, and the empty one is empty. -/
structure AuthSdk (κ : Type) where
  issuerAddress : κ → String
  authorizeForProvider : κ → String → Bool
  authorizeForDeploymentID : κ → DeploymentID → String → Bool
  authorizeForLeaseID : κ → LeaseID → Bool
  authorizeDeploymentIDForPermissionScope : κ → DeploymentID → String → PermissionScope → Bool
  authorizeLeaseIDForPermissionScope : κ → LeaseID → PermissionScope → Bool
  authProcess : List Certificate → String → Except HttpError κ
  parseDeploymentPath : List String → Except String DeploymentID
  parseLeasePath : List String → Except String LeaseID
  fields : String → List String
  toLower : String → String
  parseBool : String → Except String Bool
  /-- `strconv.ParseInt(s, 10, 32)`. -/
  parseInt32 : String → Except String Int

/-- What the steps have found out. -/
structure Context (κ : Type) where
  provider : Option String := none
  claims : Option κ := none
  owner : Option String := none
  deployment : Option DeploymentID := none
  lease : Option LeaseID := none
  service : Option String := none
  logFollow : Option Bool := none
  tailLines : Option (Option Int) := none
  services : Option String := none

/-- Reading a key of the context. -/
def orPanic {α : Type} : Option α → Except Reply α
  | some a => .ok a
  | none => .error .panic

theorem orPanic_eq_ok_iff {α : Type} {x : Option α} {a : α} : orPanic x = .ok a ↔ x = some a := by
  cases x <;> simp [orPanic]

variable {κ : Type}

def Context.requestLeaseID (ctx : Context κ) : Except Reply LeaseID := orPanic ctx.lease
def Context.requestLogFollow (ctx : Context κ) : Except Reply Bool := orPanic ctx.logFollow
def Context.requestLogTailLines (ctx : Context κ) : Except Reply (Option Int) :=
  orPanic ctx.tailLines
def Context.requestService (ctx : Context κ) : Except Reply String := orPanic ctx.service
def Context.requestServices (ctx : Context κ) : Except Reply String := orPanic ctx.services
def Context.requestProvider (ctx : Context κ) : Except Reply String := orPanic ctx.provider
def Context.requestOwner (ctx : Context κ) : Except Reply String := orPanic ctx.owner
def Context.requestClaims (ctx : Context κ) : Except Reply κ := orPanic ctx.claims
def Context.requestDeploymentID (ctx : Context κ) : Except Reply DeploymentID :=
  orPanic ctx.deployment

/-! ## The steps -/

/-- A step answers, or passes the request on with a context. -/
abbrev Middleware (κ : Type) := Request → Vars → Context κ → Except Reply (Context κ)

def pathVar (vars : Vars) (name : String) : String := (vars.lookup name).getD ""

variable (S : AuthSdk κ)

def setProvider (addr : String) : Middleware κ := fun _ _ ctx =>
  .ok { ctx with provider := some addr }

def authHeaderTokenExtractor (req : Request) : Except HttpError String :=
  if req.authorization = "" then .ok ""
  else match S.fields req.authorization with
    | [scheme, token] =>
      if S.toLower scheme ≠ "bearer" then .error errInvalidAuthHeader else .ok token
    | _ => .error errInvalidAuthHeader

/-- Who the client is, by its certificate or its token. -/
def authenticate (req : Request) : Except HttpError κ := do
  let tokString ← authHeaderTokenExtractor S req
  S.authProcess req.peerCertificates tokString

def prepareAuthMiddleware : Middleware κ := fun req _ ctx =>
  match authenticate S req with
  | .error err => .error (defaultErrorHandler err)
  | .ok claims => .ok { ctx with claims := some claims }

def authorizeProviderMiddleware : Middleware κ := fun _ _ ctx => do
  let provider ← ctx.requestProvider
  let claims ← ctx.requestClaims
  if S.authorizeForProvider claims provider then .ok ctx
  else .error (defaultErrorHandler errUnauthorized)

def requireOwner : Middleware κ := fun _ _ ctx => do
  let claims ← ctx.requestClaims
  if S.issuerAddress claims = "" then .error (defaultErrorHandler errUnauthorized)
  else .ok { ctx with owner := some (S.issuerAddress claims) }

def parseDeploymentID (vars : Vars) (ctx : Context κ) : Except Reply DeploymentID := do
  let owner ← ctx.requestOwner
  match S.parseDeploymentPath [owner, pathVar vars "dseq"] with
  | .ok id => .ok id
  | .error text => .error (.error 400 text)

def requireDeploymentID : Middleware κ := fun _ vars ctx => do
  let id ← parseDeploymentID S vars ctx
  let claims ← ctx.requestClaims
  let provider ← ctx.requestProvider
  if S.authorizeForDeploymentID claims id provider then .ok { ctx with deployment := some id }
  else .error (defaultErrorHandler errUnauthorized)

def leasePath (owner provider : String) (vars : Vars) : List String :=
  [owner, pathVar vars "dseq", pathVar vars "gseq", pathVar vars "oseq", provider]

def parseLeaseID (vars : Vars) (ctx : Context κ) : Except Reply LeaseID := do
  let owner ← ctx.requestOwner
  let provider ← ctx.requestProvider
  match S.parseLeasePath (leasePath owner provider vars) with
  | .ok id => .ok id
  | .error text => .error (.error 400 text)

def requireLeaseID : Middleware κ := fun _ vars ctx => do
  let id ← parseLeaseID S vars ctx
  let claims ← ctx.requestClaims
  if S.authorizeForLeaseID claims id then .ok { ctx with lease := some id }
  else .error (defaultErrorHandler errUnauthorized)

def requireEndpointScopeForDeploymentID (scope : PermissionScope) : Middleware κ :=
  fun _ _ ctx => do
    let claims ← ctx.requestClaims
    let did ← ctx.requestDeploymentID
    let provider ← ctx.requestProvider
    if S.authorizeDeploymentIDForPermissionScope claims did provider scope then .ok ctx
    else .error (defaultErrorHandler errUnauthorized)

def requireEndpointScopeForLeaseID (scope : PermissionScope) : Middleware κ :=
  fun _ _ ctx => do
    let claims ← ctx.requestClaims
    let lid ← ctx.requestLeaseID
    if S.authorizeLeaseIDForPermissionScope claims lid scope then .ok ctx
    else .error (defaultErrorHandler errUnauthorized)

def requireService : Middleware κ := fun _ vars ctx =>
  let svc := pathVar vars "serviceName"
  if svc = "" then .error (.error 400 "empty service name")
  else .ok { ctx with service := some svc }

/-- The number of lines, of which all are written as `-1`. -/
def parseTail (req : Request) : Except Reply (Option Int) :=
  if req.get "tail" = "" then .ok none
  else match S.parseInt32 (req.get "tail") with
    | .error text => .error (.error 400 text)
    | .ok vl =>
      if vl < -1 then .error (.error 400 "parameter \"tail\" contains invalid value")
      else .ok (if vl > -1 then some vl else none)

def parseFollow (req : Request) : Except Reply Bool :=
  if req.get "follow" = "" then .ok false
  else match S.parseBool (req.get "follow") with
    | .error text => .error (.error 400 text)
    | .ok follow => .ok follow

def requestStreamParams : Middleware κ := fun req _ ctx => do
  let services := req.get "service"
  if services.toList.getLast? = some ',' then
    .error (.error 400 "parameter \"service\" must not contain trailing comma")
  else do
    let follow ← parseFollow S req
    let tailLines ← parseTail S req
    .ok { ctx with
      logFollow := some follow
      tailLines := some tailLines
      services := some services }

/-- The step that the server adds.  It sets keys that are read elsewhere. -/
def restMiddleware : Middleware κ := fun _ _ ctx => .ok ctx

/-! ## When a step passes a request on -/

variable {S} {req : Request} {vars : Vars} {ctx ctx' : Context κ}

theorem prepareAuthMiddleware_eq_ok_iff :
    prepareAuthMiddleware S req vars ctx = .ok ctx' ↔
      ∃ claims, authenticate S req = .ok claims ∧ { ctx with claims := some claims } = ctx' := by
  simp only [prepareAuthMiddleware]
  split <;> simp [*]

theorem authorizeProviderMiddleware_eq_ok_iff :
    authorizeProviderMiddleware S req vars ctx = .ok ctx' ↔
      ∃ provider claims, ctx.provider = some provider ∧ ctx.claims = some claims ∧
        S.authorizeForProvider claims provider = true ∧ ctx = ctx' := by
  simp only [authorizeProviderMiddleware, Context.requestProvider, Context.requestClaims,
    Except.bind_eq_ok_iff, orPanic_eq_ok_iff, Except.ite_error_eq_ok_iff, exists_and_left]

theorem requireOwner_eq_ok_iff :
    requireOwner S req vars ctx = .ok ctx' ↔
      ∃ claims, ctx.claims = some claims ∧ S.issuerAddress claims ≠ "" ∧
        { ctx with owner := some (S.issuerAddress claims) } = ctx' := by
  simp only [requireOwner, Context.requestClaims, Except.bind_eq_ok_iff, orPanic_eq_ok_iff,
    Except.ite_ok_eq_ok_iff]

theorem parseDeploymentID_eq_ok_iff {did : DeploymentID} :
    parseDeploymentID S vars ctx = .ok did ↔
      ∃ owner, ctx.owner = some owner ∧
        S.parseDeploymentPath [owner, pathVar vars "dseq"] = .ok did := by
  simp only [parseDeploymentID, Context.requestOwner, Except.bind_eq_ok_iff, orPanic_eq_ok_iff]
  grind

theorem requireDeploymentID_eq_ok_iff :
    requireDeploymentID S req vars ctx = .ok ctx' ↔
      ∃ did claims provider, parseDeploymentID S vars ctx = .ok did ∧
        ctx.claims = some claims ∧ ctx.provider = some provider ∧
        S.authorizeForDeploymentID claims did provider = true ∧
        { ctx with deployment := some did } = ctx' := by
  simp only [requireDeploymentID, Context.requestProvider, Context.requestClaims,
    Except.bind_eq_ok_iff, orPanic_eq_ok_iff, Except.ite_error_eq_ok_iff, exists_and_left]

theorem parseLeaseID_eq_ok_iff {lid : LeaseID} :
    parseLeaseID S vars ctx = .ok lid ↔
      ∃ owner provider, ctx.owner = some owner ∧ ctx.provider = some provider ∧
        S.parseLeasePath (leasePath owner provider vars) = .ok lid := by
  simp only [parseLeaseID, Context.requestOwner, Context.requestProvider, Except.bind_eq_ok_iff,
    orPanic_eq_ok_iff, exists_and_left]
  grind

theorem requireLeaseID_eq_ok_iff :
    requireLeaseID S req vars ctx = .ok ctx' ↔
      ∃ lid claims, parseLeaseID S vars ctx = .ok lid ∧ ctx.claims = some claims ∧
        S.authorizeForLeaseID claims lid = true ∧ { ctx with lease := some lid } = ctx' := by
  simp only [requireLeaseID, Context.requestClaims, Except.bind_eq_ok_iff, orPanic_eq_ok_iff,
    Except.ite_error_eq_ok_iff, exists_and_left]

theorem requireEndpointScopeForDeploymentID_eq_ok_iff {scope : PermissionScope} :
    requireEndpointScopeForDeploymentID S scope req vars ctx = .ok ctx' ↔
      ∃ claims did provider, ctx.claims = some claims ∧ ctx.deployment = some did ∧
        ctx.provider = some provider ∧
        S.authorizeDeploymentIDForPermissionScope claims did provider scope = true ∧
        ctx = ctx' := by
  simp only [requireEndpointScopeForDeploymentID, Context.requestProvider,
    Context.requestDeploymentID, Context.requestClaims, Except.bind_eq_ok_iff, orPanic_eq_ok_iff,
    Except.ite_error_eq_ok_iff, exists_and_left]

theorem requireEndpointScopeForLeaseID_eq_ok_iff {scope : PermissionScope} :
    requireEndpointScopeForLeaseID S scope req vars ctx = .ok ctx' ↔
      ∃ claims lid, ctx.claims = some claims ∧ ctx.lease = some lid ∧
        S.authorizeLeaseIDForPermissionScope claims lid scope = true ∧ ctx = ctx' := by
  simp only [requireEndpointScopeForLeaseID, Context.requestLeaseID, Context.requestClaims,
    Except.bind_eq_ok_iff, orPanic_eq_ok_iff, Except.ite_error_eq_ok_iff, exists_and_left]

theorem requireService_eq_ok_iff :
    requireService req vars ctx = .ok ctx' ↔
      pathVar vars "serviceName" ≠ "" ∧
        { ctx with service := some (pathVar vars "serviceName") } = ctx' := by
  simp only [requireService, Except.ite_ok_eq_ok_iff, ne_eq]

theorem requestStreamParams_eq_ok (h : requestStreamParams S req vars ctx = .ok ctx') :
    ∃ follow tailLines services, { ctx with
      logFollow := some follow
      tailLines := some tailLines
      services := some services } = ctx' := by
  simp only [requestStreamParams] at h
  split at h
  · cases h
  · grind [Except.bind_eq_ok_iff]

end AkashProvider.Gateway
