import AkashProvider.Lib.Run
import AkashProvider.Manifest.Types

/-!
# The manifest manager

For each deployment with a lease there is a manager.  It reads the deployment and its leases from
the chain, checks the manifests that tenants submit, and publishes the latest one that it has
accepted for every lease.  What was read is kept for some time; a manifest must match the hash
read at the greatest height (`applyFetchResult`), and one that does not is kept for one more read
(`validateRequests`).

Reads run beside the loop, one at a time, and are numbered.  `comparedAt` of a request and the
fields after `stage` are a record, but that `readsStarted` numbers the reads.
-/

namespace AkashProvider

/-! ## Deployments and requests -/

structure DeploymentResponse where
  owner : String
  hash : List UInt8
  groups : List ChainGroup

def DeploymentResponse.zero : DeploymentResponse := ⟨"", [], []⟩

/-- A `LeaseWon` of the chain read.  Its price is not used. -/
structure LocalLease where
  leaseID : LeaseID
  group : ChainGroup

structure ManifestReceived where
  leaseID : LeaseID
  group : ChainGroup
  manifest : Mani.Manifest
  deployment : DeploymentResponse

/-- A hash of the deployment, and the height of the chain read that returned it. -/
structure DeploymentVersion where
  hash : List UInt8
  height : Int

/-- What a request is refused with. -/
inductive ManifestErr where
  | notRunning
  | manifestVersion
  | noLeaseForDeployment
  /-- An error that is `ErrInvalidManifest`. -/
  | invalidManifest (text : String)
  /-- An error that is `errManifestRejected`. -/
  | rejected (text : String)
  | other (text : String)
deriving DecidableEq

structure ManifestRequest where
  /-- The channel of the request. -/
  id : Nat
  manifest : Mani.Manifest
  reread : Bool
  /-- How many reads had been started when the version was first compared. -/
  comparedAt : Option Nat

structure ManifestConfig where
  httpServicesRequireAtLeastOneHost : Bool
  cachedResultMaxAge : Int

/-- The functions of other packages. -/
structure ManagerSdk where
  /-- `Validate`, with whether the error is `ErrInvalidManifest`. -/
  validate : Mani.Manifest → Option (String × Bool)
  version : Mani.Manifest → Except String (List UInt8)
  checkAgainstDeployment : Mani.Manifest → List ChainGroup → Option String
  ownerAddress : String → Except String String
  isIngress : Mani.ServiceExpose → Bool
  externalPort : Mani.ServiceExpose → UInt32
  protocolToString : Mani.ServiceProtocol → String
  leaseIDText : LeaseID → String
  errInvalidManifest : String
  quote : String → String

/-- What the loop finds when it validates requests. -/
structure ValidateEnv where
  /-- The context of a request has ended. -/
  ctxDone : Nat → Bool
  /-- It has ended when it is looked at again. -/
  ctxErr : Nat → Option String
  /-- `CanReserveHostnames`, for a request. -/
  canReserveHostnames : Nat → List String → String → Option String

/-! ## Chain reads -/

/-- What the chain answers to a read. -/
structure FetchAnswers where
  deployment : Except String DeploymentResponse
  /-- The values of the header with the block height. -/
  heightHeader : List String
  leases : Except String (List LeaseID)

structure FetchDataResult where
  deployment : DeploymentResponse
  leases : List LocalLease
  height : Int

def readHeight (values : List String) : Int :=
  match values with
  | [] => 0
  | value :: _ =>
    match Go.parseInt value with
    | none => 0
    | some height => if height < 0 then 0 else height

section

variable (cfg : ManifestConfig) (S : ManagerSdk)

/-- A later group replaces an earlier one of the same number. -/
def groupForLease (groups : List ChainGroup) (leaseID : LeaseID) :
    Except String LocalLease :=
  match groups.reverse.find? (·.id.gseq = leaseID.gseq) with
  | some group => .ok ⟨leaseID, group⟩
  | none =>
    .error ("group not found: could not locate group " ++ S.leaseIDText leaseID ++ " ")

def doFetchData (answers : FetchAnswers) : Except String FetchDataResult := do
  let deployment ← answers.deployment
  let leaseIDs ← answers.leases
  let leases ← leaseIDs.mapM (groupForLease S deployment.groups)
  .ok ⟨deployment, leases, readHeight answers.heightHeader⟩

/-! ## Validation -/

def maxProxyBufferSize : UInt32 := 128 * 1024
def maxProxyBuffersNumber : UInt32 := 16
def maxProxyBuffersSize : UInt32 := 128 * 1024
def maxProxyBusyBuffersSize : UInt32 := 256 * 1024

/-- The first option that is over its limit: its field, its value and the limit. -/
def proxyOverLimit (p : Mani.ProxyOptions) : Option (String × UInt32 × UInt32) :=
  if p.bufferSize > maxProxyBufferSize then
    some ("buffer_size", p.bufferSize, maxProxyBufferSize)
  else if p.buffersNumber > maxProxyBuffersNumber then
    some ("buffers_number", p.buffersNumber, maxProxyBuffersNumber)
  else if p.buffersSize > maxProxyBuffersSize then
    some ("buffers_size", p.buffersSize, maxProxyBuffersSize)
  else if p.busyBuffersSize > maxProxyBusyBuffersSize then
    some ("busy_buffers_size", p.busyBuffersSize, maxProxyBusyBuffersSize)
  else none

def overLimit (svc field : String) (got max : UInt32) : ManifestErr :=
  .invalidManifest (S.errInvalidManifest ++ ": service " ++ S.quote svc ++ " proxy." ++ field ++
    " " ++ toString got.toNat ++ " exceeds max " ++ toString max.toNat)

def validateProxyBufferLimits (m : Mani.Manifest) : Option ManifestErr :=
  m.findSome? fun group =>
    group.services.findSome? fun service =>
      service.expose.findSome? fun expose =>
        expose.httpOptions.proxy.bind fun p =>
          (proxyOverLimit p).map fun (field, got, max) => overLimit S service.name field got max

/-- A service with an ingress and no hostname. -/
def missingHostname (mgroup : Mani.Group) : Option ManifestErr :=
  mgroup.services.findSome? fun service =>
    service.expose.findSome? fun expose =>
      if S.isIngress expose && expose.hosts = [] then
        some (.rejected ("manifest rejected: service " ++ S.quote service.name ++
          " exposed on " ++ toString (S.externalPort expose).toNat ++ ":" ++
          S.protocolToString expose.proto ++ " must have a hostname"))
      else none

/-- The groups of the manifest, once for each lease of their name. -/
def groupsOfLeases (m : Mani.Manifest) (groupNames : List String) : List Mani.Group :=
  m.flatMap fun mgroup => (groupNames.filter (· = mgroup.name)).map fun _ => mgroup

def checkHostnamesForManifest (owner : String) (m : Mani.Manifest) (groupNames : List String)
    (canReserveHostnames : List String → String → Option String) : Option ManifestErr :=
  match S.ownerAddress owner with
  | .error err => some (.other err)
  | .ok ownerAddr =>
    let groups := groupsOfLeases m groupNames
    let missing :=
      if cfg.httpServicesRequireAtLeastOneHost then groups.findSome? (missingHostname S)
      else none
    match missing with
    | some err => some err
    | none =>
      (canReserveHostnames (groups.flatMap allHostnamesOfManifestGroup) ownerAddr).map .other

/-! ## The manager -/

inductive StopTimer where
  | armed
  /-- Its channel has a value. -/
  | fired
  | stopped
deriving DecidableEq

inductive ManagerStage where
  | looping
  /-- It waits for a value from the channel of a timer that has been stopped. -/
  | blocked
  | ended
deriving DecidableEq

/-- An event that was published, and the version that was expected then. -/
structure Publication where
  event : ManifestReceived
  expected : List UInt8

structure ManifestManager where
  data : DeploymentResponse
  requests : List ManifestRequest
  pendingRequests : List ManifestRequest
  manifests : List Mani.Manifest
  expected : DeploymentVersion
  localLeases : List LocalLease
  fetched : Bool
  /-- `none` is the zero time. -/
  fetchedAt : Option Int
  stoptimer : Option StopTimer
  /-- The read that is running. -/
  runch : Option Nat
  stage : ManagerStage
  readsStarted : Nat
  /-- The read that the data is from. -/
  dataFrom : Option Nat
  /-- How many reads had been started when the data was last dropped for an event. -/
  invalidatedAt : Nat
  /-- What the reads have returned. -/
  reads : List DeploymentVersion
  /-- The answers to requests, `none` for a manifest that was published. -/
  answered : List (ManifestRequest × Option ManifestErr)
  /-- The requests that were skipped because their contexts had ended. -/
  dropped : List ManifestRequest
  published : List Publication

inductive ManifestEvent where
  | shutdown
  | timerFired
  /-- The value of the stop timer is received. -/
  | stop
  | lease (now : Int)
  | removeLease
  | manifest (id : Nat) (m : Mani.Manifest) (now : Int) (env : ValidateEnv)
  | update (version : List UInt8)
  | read (answers : FetchAnswers) (now : Int) (env : ValidateEnv)

namespace ManifestManager

def start : ManifestManager where
  data := .zero
  requests := []
  pendingRequests := []
  manifests := []
  expected := ⟨[], 0⟩
  localLeases := []
  fetched := false
  fetchedAt := none
  stoptimer := none
  runch := none
  stage := .looping
  readsStarted := 0
  dataFrom := none
  invalidatedAt := 0
  reads := []
  answered := []
  dropped := []
  published := []

def clearFetched (s : ManifestManager) : ManifestManager :=
  { s with fetchedAt := none, fetched := false, data := .zero, localLeases := [], dataFrom := none }

/-- The data is dropped because of an event. -/
def invalidate (s : ManifestManager) : ManifestManager :=
  { s.clearFetched with invalidatedAt := s.readsStarted }

def fetchData (s : ManifestManager) : ManifestManager :=
  { s with runch := some s.readsStarted, readsStarted := s.readsStarted + 1 }

def maybeFetchData (s : ManifestManager) (now : Int) : ManifestManager :=
  if s.runch.isSome then s
  else
    let expired := match s.fetchedAt with
      | none => true
      | some fetchedAt => decide (now - fetchedAt > cfg.cachedResultMaxAge)
    if !s.fetched || expired then s.clearFetched.fetchData else s

def maybeRereadData (s : ManifestManager) : ManifestManager :=
  if s.requests = [] then { s with runch := none } else s.clearFetched.fetchData

def applyFetchResult (s : ManifestManager) (result : FetchDataResult) (now : Int) :
    ManifestManager :=
  let hash := result.deployment.hash
  { s with
    fetched := true
    fetchedAt := some now
    data := result.deployment
    localLeases := result.leases
    expected :=
      if hash = [] then s.expected
      else if result.height < s.expected.height then s.expected
      else ⟨hash, result.height⟩
    reads := s.reads ++ [⟨hash, result.height⟩] }

def maybeScheduleStop (s : ManifestManager) : ManifestManager :=
  match s.stoptimer with
  | none => s
  | some timer =>
    if s.localLeases ≠ [] ∨ s.manifests ≠ [] then
      -- `Stop` returns true for an armed timer, whose channel then gets no value.
      if timer = .armed then { s with stoptimer := some .stopped, stage := .blocked }
      else { s with stoptimer := none }
    else { s with stoptimer := some .armed }

/-- What comes after a step that may have blocked. -/
def andThen (s : ManifestManager) (f : ManifestManager → ManifestManager) : ManifestManager :=
  if s.stage = .looping then f s else s

def fillAllRequests (s : ManifestManager) (response : ManifestErr) : ManifestManager :=
  { s with
    answered := s.answered ++ (s.pendingRequests ++ s.requests).map (·, some response)
    pendingRequests := []
    requests := [] }

/-! ### Requests -/

def validateRequest (s : ManifestManager) (env : ValidateEnv) (req : ManifestRequest) :
    Option ManifestErr :=
  match env.ctxErr req.id with
  | some err => some (.other err)
  | none =>
    match S.validate req.manifest with
    | some (err, true) => some (.invalidManifest err)
    | some (err, false) => some (.invalidManifest (S.errInvalidManifest ++ ": " ++ err))
    | none =>
      match validateProxyBufferLimits S req.manifest with
      | some err => some err
      | none =>
        match S.version req.manifest with
        | .error err => some (.other err)
        | .ok version =>
          if version ≠ s.expected.hash then some .manifestVersion
          else
            match S.checkAgainstDeployment req.manifest s.data.groups with
            | some err => some (.other err)
            | none =>
              checkHostnamesForManifest cfg S s.data.owner req.manifest
                (s.localLeases.map (·.group.groupSpec.name))
                (env.canReserveHostnames req.id)

inductive Verdict where
  | dropped
  | reread
  | refused (err : ManifestErr)
  | accepted
deriving DecidableEq

/-- What the loop of `validateRequests` does with a request. -/
def verdict (s : ManifestManager) (env : ValidateEnv) (req : ManifestRequest) : Verdict :=
  if env.ctxDone req.id then .dropped
  else
    match s.validateRequest cfg S env req with
    | none => .accepted
    | some err => if err = .manifestVersion ∧ ¬ req.reread then .reread else .refused err

def refusal (s : ManifestManager) (env : ValidateEnv) (req : ManifestRequest) :
    Option (ManifestRequest × Option ManifestErr) :=
  match s.verdict cfg S env req with
  | .refused err => some (req, some err)
  | .dropped | .reread | .accepted => none

/-- The verdicts do not depend on what the loop changes. -/
def validateRequests (s : ManifestManager) (env : ValidateEnv) : ManifestManager :=
  if !s.fetched || s.requests = [] then s
  else
    let accepted := s.requests.filter (s.verdict cfg S env · = .accepted)
    let reread := s.requests.filter (s.verdict cfg S env · = .reread)
    { s with
      requests := reread.map fun req =>
        { req with reread := true, comparedAt := some s.readsStarted }
      pendingRequests := s.pendingRequests ++ accepted
      manifests := s.manifests ++ (accepted.map (·.manifest)).take 1
      answered := s.answered ++ s.requests.filterMap (s.refusal cfg S env)
      dropped := s.dropped ++ s.requests.filter (s.verdict cfg S env · = .dropped) }

/-- The events for the leases, with the latest manifest. -/
def receivedEvents (s : ManifestManager) (latestManifest : Mani.Manifest) : List Publication :=
  s.localLeases.map fun lease =>
    ⟨⟨lease.leaseID, lease.group, latestManifest, s.data⟩, s.expected.hash⟩

def emitReceivedEvents (s : ManifestManager) : ManifestManager :=
  match s.manifests.getLast? with
  | none => s
  | some latestManifest =>
    if !s.fetched then s
    else if s.localLeases = [] then s.fillAllRequests .noLeaseForDeployment
    else
      { s with
        published := s.published ++ s.receivedEvents latestManifest
        answered := s.answered ++ s.pendingRequests.map (·, none)
        pendingRequests := [] }

def maybeEmitReceivedEvents (s : ManifestManager) : ManifestManager :=
  if s.requests ≠ [] ∧ s.pendingRequests = [] then s else s.emitReceivedEvents

/-- Requests are validated, and the latest manifest is published. -/
def serve (s : ManifestManager) (env : ValidateEnv) : ManifestManager :=
  (s.validateRequests cfg S env).maybeEmitReceivedEvents

/-! ### Steps -/

def finish (s : ManifestManager) : ManifestManager :=
  let s := s.fillAllRequests .notRunning
  if s.stoptimer = some .armed then { s with stoptimer := some .stopped, stage := .blocked }
  else { s with stage := .ended }

def handleManifest (s : ManifestManager) (id : Nat) (m : Mani.Manifest) (now : Int)
    (env : ValidateEnv) : ManifestManager :=
  let s : ManifestManager := { s with requests := s.requests ++ [⟨id, m, false, none⟩] }
  s.maybeScheduleStop.andThen fun s =>
    let s := s.maybeFetchData cfg now
    if s.runch = none then (s.serve cfg S env).maybeRereadData else s

def handleRead (s : ManifestManager) (n : Nat) (result : Except String FetchDataResult)
    (now : Int) (env : ValidateEnv) : ManifestManager :=
  let s := { s with runch := none }
  match result with
  | .error err => s.fillAllRequests (.other err)
  | .ok result =>
    let s := { s.applyFetchResult result now with dataFrom := some n }
    (s.serve cfg S env).maybeScheduleStop.andThen maybeRereadData

def step (s : ManifestManager) (e : ManifestEvent) : Option ManifestManager :=
  if s.stage ≠ .looping then none
  else
    match e with
    | .shutdown => some s.finish
    | .timerFired =>
      if s.stoptimer = some .armed then some { s with stoptimer := some .fired } else none
    | .stop => if s.stoptimer = some .fired then some s.finish else none
    | .lease now => some (s.invalidate.maybeScheduleStop.andThen (maybeFetchData cfg · now))
    | .removeLease => some s.invalidate.maybeScheduleStop
    | .manifest id m now env => some (s.handleManifest cfg S id m now env)
    | .update _ => some s.invalidate
    | .read answers now env =>
      match s.runch with
      | none => none
      | some n => some (s.handleRead cfg S n (doFetchData S answers) now env)

/-- The manager has been started, and has handled some events. -/
def Reachable (s : ManifestManager) : Prop :=
  Runs (step cfg S) (fun _ _ => True) start s

end ManifestManager

end

end AkashProvider
