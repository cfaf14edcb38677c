import AkashProvider.Gateway.Middleware
import AkashProvider.Kube.DeclaredIPs
import AkashProvider.Lib.Logged

/-!
# The handlers of the gateway

What a handler does to a lease, it does by calls of the cluster, the manifest service or the
hostname service.  A handler is modelled with its calls in order, where the answers are given
(`ClusterClient`).  Two handlers move hostnames and IPs to a lease that they find themselves.
-/

namespace AkashProvider.Gateway

/-! ## Calls and answers -/

inductive Call where
  | kubeVersion
  | status
  | statusV1
  | submit (did : DeploymentID) (mani : List Mani.Group)
  | attestationQuote (lid : LeaseID) (service : String) (podIndex : Nat) (body : String)
  | getManifestGroup (lid : LeaseID)
  | getIPAddressStatus (lid : LeaseID)
  | forwardedPortStatus (lid : LeaseID)
  | leaseStatus (lid : LeaseID)
  | serviceStatus (lid : LeaseID) (service : String)
  | leaseEvents (lid : LeaseID) (services : String) (follow : Bool)
  | leaseLogs (lid : LeaseID) (services : String) (follow : Bool) (tailLines : Option Int)
  | exec (lid : LeaseID) (service : String) (podIndex : Nat) (cmd : List String)
      (stdin tty : Bool)
  | findActiveLease (owner : String) (dseq : UInt64) (gseq : UInt32)
  | prepareHostnamesForTransfer (hostnames : List String) (lid : LeaseID)
  | transferHostname (lid : LeaseID) (hostname serviceName : String) (externalPort : UInt32)
  | declareIP (lid : LeaseID) (serviceName : String) (port externalPort : UInt32)
      (proto : Mani.ServiceProtocol) (sharingKey : String) (overwrite : Bool)
deriving DecidableEq

def Call.lease : Call → Option LeaseID
  | .kubeVersion | .status | .statusV1 | .submit _ _ | .findActiveLease _ _ _ => none
  | .attestationQuote lid _ _ _ | .getManifestGroup lid | .getIPAddressStatus lid
  | .forwardedPortStatus lid | .leaseStatus lid | .serviceStatus lid _ | .leaseEvents lid _ _
  | .leaseLogs lid _ _ _ | .exec lid _ _ _ _ _ | .prepareHostnamesForTransfer _ lid
  | .transferHostname lid _ _ _ | .declareIP lid _ _ _ _ _ _ => some lid

inductive ClusterErrKind where
  | kubeAPIUnreachable
  | noDeploymentForLease
  | leaseNotFound
  | noManifestForLease
  | noServiceForLease
  | notFound
  | other

structure ClusterErr where
  kind : ClusterErrKind
  text : String

def clusterErrorToHTTP (err : ClusterErr) : HttpError :=
  match err.kind with
  | .kubeAPIUnreachable => ⟨503, err.text⟩
  | .noDeploymentForLease | .leaseNotFound | .noManifestForLease | .noServiceForLease
  | .notFound => ⟨404, err.text⟩
  | .other => ⟨500, err.text⟩

def writeClusterError (err : ClusterErr) : Reply :=
  .error (clusterErrorToHTTP err).statusCode (clusterErrorToHTTP err).text

inductive TransferErr where
  | hostnameNotAllowed (text : String)
  | other

structure MigrateRequestBody where
  hostnamesToMigrate : List String
  destinationDSeq : UInt64
  destinationGSeq : UInt32

structure EndpointMigrateRequestBody where
  endpointsToMigrate : List String
  destinationDSeq : UInt64
  destinationGSeq : UInt32

/-- How the calls end, with what the handlers read of their answers. -/
structure ClusterClient where
  kubeVersion : Except ClusterErr Unit
  status : Except HttpError Unit
  submit : DeploymentID → List Mani.Group → Except HttpError Unit
  /-- With the status that goes with an error. -/
  attestationQuote : LeaseID → Except HttpError Nat
  getManifestGroup : LeaseID → Except ClusterErr (Option Crd.ManifestGroup)
  /-- The text if the group cannot be read. -/
  fromCRD : Crd.ManifestGroup → Except String Unit
  hasIPClient : Bool
  getIPAddressStatus : LeaseID → Except ClusterErr Unit
  forwardedPortStatus : LeaseID → Except ClusterErr Unit
  leaseStatus : LeaseID → Except ClusterErr Unit
  /-- The number of ready replicas. -/
  serviceStatus : LeaseID → String → Except ClusterErr Nat
  findActiveLease : String → UInt64 → UInt32 → Except String (Option (LeaseID × Crd.ManifestGroup))
  prepareHostnamesForTransfer : List String → LeaseID → Except TransferErr Unit
  transferHostname : LeaseID → String → Except String Unit
  declareIP : LeaseID → String → UInt32 → Except ClusterErr Unit
  /-- The client takes up a web socket. -/
  upgrade : Request → Bool

/-- The functions of other packages that only handlers use. -/
structure HandlerSdk where
  decodeMigrate : String → Option MigrateRequestBody
  decodeEndpointMigrate : String → Option EndpointMigrateRequestBody
  decodeManifest : String → Except String (List Mani.Group)
  /-- `strconv.ParseUint` of a base, for 31 bits. -/
  parseUint31 : String → Nat → Option Nat
  parseServiceProtocol : String → Option Mani.ServiceProtocol
  nameHash : String → String
  quote : String → String

abbrev Handling := Logged Call Reply Reply

variable {κ : Type} (C : ClusterClient) (K : HandlerSdk)

/-! ## The provider -/

def createVersionHandler : Handling := do
  Logged.call .kubeVersion (C.kubeVersion.mapError writeClusterError)
  return .json

def createAddressHandler : Handling := return .json

def createStatusHandler : Handling := do
  Logged.call .status (C.status.mapError fun err => .error err.statusCode err.text)
  -- an error here is logged
  Logged.call .statusV1 (.ok ())
  return .json

/-! ## Manifests -/

def createManifestHandler (req : Request) (ctx : Context κ) : Handling := do
  let mani ← Logged.lift ((K.decodeManifest req.body).mapError (.error 422))
  let did ← Logged.lift ctx.requestDeploymentID
  Logged.call (.submit did mani)
    ((C.submit did mani).mapError fun err => .error err.statusCode err.text)
  return .status 200

def getManifestHandler (ctx : Context κ) : Handling := do
  let lid ← Logged.lift ctx.requestLeaseID
  let grp ← Logged.call (.getManifestGroup lid)
    ((C.getManifestGroup lid).mapError writeClusterError)
  match grp with
  | none => return .error 404 "lease not found"
  | some grp =>
    Logged.lift ((C.fromCRD grp).mapError (.error 500))
    return .json

/-! ## A lease -/

def createAttestationQuoteHandler (req : Request) (ctx : Context κ) : Handling := do
  let leaseID ← Logged.lift ctx.requestLeaseID
  let service := req.get "service"
  let pidx := req.get "podIndex"
  Logged.require (pidx = "" ∨ service ≠ "") (.error 400 "podIndex requires service parameter")
  let podIndex ← Logged.lift <|
    if pidx = "" then .ok 0
    else match K.parseUint31 pidx 10 with
      | some idx => .ok idx
      | none => .error (.error 400 "invalid podIndex parameter")
  -- at most 4096 bytes are read
  let body := String.ofList (req.body.toList.take 4096)
  let statusCode ← Logged.call (.attestationQuote leaseID service podIndex body)
    ((C.attestationQuote leaseID).mapError fun err =>
      .error err.statusCode ("attestation quote failed: " ++ err.text))
  return .status statusCode

def leaseStatusHandler (ctx : Context κ) : Handling := do
  let leaseID ← Logged.lift ctx.requestLeaseID
  let grp ← Logged.call (.getManifestGroup leaseID)
    ((C.getManifestGroup leaseID).mapError writeClusterError)
  match grp with
  | none => return .status 404
  | some manifestGroup =>
    let exposes := manifestGroup.services.flatMap (·.expose)
    Logged.when (C.hasIPClient ∧ ∃ expose ∈ exposes, expose.ip ≠ "") <|
      Logged.call (.getIPAddressStatus leaseID)
        ((C.getIPAddressStatus leaseID).mapError writeClusterError)
    Logged.when (∃ expose ∈ exposes, expose.global ∧ expose.externalPort ≠ 80) <|
      Logged.call (.forwardedPortStatus leaseID)
        ((C.forwardedPortStatus leaseID).mapError writeClusterError)
    Logged.call (.leaseStatus leaseID) ((C.leaseStatus leaseID).mapError writeClusterError)
    return .json

def leaseServiceStatusHandler (ctx : Context κ) : Handling := do
  let leaseID ← Logged.lift ctx.requestLeaseID
  let service ← Logged.lift ctx.requestService
  let _ ← Logged.call (.serviceStatus leaseID service)
    ((C.serviceStatus leaseID service).mapError writeClusterError)
  return .json

def leaseKubeEventsHandler (req : Request) (ctx : Context κ) : Handling := do
  Logged.require (C.upgrade req = true) .socket
  let lid ← Logged.lift ctx.requestLeaseID
  let follow ← Logged.lift ctx.requestLogFollow
  let services ← Logged.lift ctx.requestServices
  Logged.call (.leaseEvents lid services follow) (.ok ())
  return .socket

def leaseLogsHandler (req : Request) (ctx : Context κ) : Handling := do
  Logged.require (C.upgrade req = true) .socket
  let lid ← Logged.lift ctx.requestLeaseID
  let services ← Logged.lift ctx.requestServices
  let follow ← Logged.lift ctx.requestLogFollow
  let tailLines ← Logged.lift ctx.requestLogTailLines
  Logged.call (.leaseLogs lid services follow tailLines) (.ok ())
  return .socket

/-- `cmd0`, `cmd1`, and so on, up to the first that is not there. -/
def shellCommand (req : Request) : List String :=
  ((List.range req.query.length).map fun i => req.get ("cmd" ++ toString i)).takeWhile (· ≠ "")

def leaseShellHandler (req : Request) (ctx : Context κ) : Handling := do
  let leaseID ← Logged.lift ctx.requestLeaseID
  let cmd := shellCommand req
  Logged.require (cmd ≠ []) (.status 400)
  let tty := req.get "tty"
  Logged.require (tty ≠ "") (.status 400)
  let service := req.get "service"
  Logged.require (service ≠ "") (.status 400)
  let stdin := req.get "stdin"
  Logged.require (stdin ≠ "") (.status 400)
  Logged.require (req.get "podIndex" ≠ "") (.status 400)
  let podIndex ← Logged.lift <| match K.parseUint31 (req.get "podIndex") 0 with
    | some idx => .ok idx
    | none => .error (.status 400)
  Logged.require (C.upgrade req = true) .socket
  let readyReplicas ← Logged.call (.serviceStatus leaseID service)
    ((C.serviceStatus leaseID service).mapError fun _ => .socket)
  Logged.require (readyReplicas ≠ 0) .socket
  Logged.call (.exec leaseID service podIndex cmd (stdin = "1") (tty = "1")) (.ok ())
  return .socket

/-! ## Moving hostnames -/

/-- Where a host of the manifest points to. -/
structure HostTarget where
  host : String
  serviceName : String
  externalPort : UInt32

/-- The maps `hostnameToServiceName` and `hostnameToExternalPort`, with the later entries
behind. -/
def hostTargets (mgroup : Crd.ManifestGroup) : List HostTarget :=
  mgroup.services.flatMap fun service => service.expose.flatMap fun expose =>
    expose.hosts.map fun host =>
      ⟨host, service.name,
        if expose.externalPort = 0 then expose.port.toUInt32 else expose.externalPort.toUInt32⟩

/-- The entry of a host, where later ones replace earlier ones. -/
def targetOf (targets : List HostTarget) (hostname : String) : HostTarget :=
  (targets.reverse.find? (·.host = hostname)).getD ⟨hostname, "", 0⟩

/-- Every name is known.  The first that is not is answered with a message. -/
def checkKnown (known names : List String) (message : String → String) : Except Reply Unit :=
  match names.find? (· ∉ known) with
  | some name => .error (.error 400 (message name))
  | none => .ok ()

def checkHostnames (targets : List HostTarget) (hostnames : List String) : Except Reply Unit :=
  checkKnown (targets.map (·.host)) hostnames fun hostname =>
    "the hostname " ++ K.quote hostname ++ " is not used by this deployment"

/-- The body of a request that can be read. -/
def decoded {β : Type} : Option β → Except Reply β
  | some body => .ok body
  | none => .error (.status 422)

def transferErrReply : TransferErr → Reply
  | .hostnameNotAllowed text => .error 400 text
  | .other => .status 500

def migrateHandler (req : Request) (ctx : Context κ) : Handling := do
  let body ← Logged.lift (decoded (K.decodeMigrate req.body))
  Logged.require (body.hostnamesToMigrate ≠ []) (.status 400)
  let owner ← Logged.lift ctx.requestOwner
  let found ← Logged.call (.findActiveLease owner body.destinationDSeq body.destinationGSeq)
    ((C.findActiveLease owner body.destinationDSeq body.destinationGSeq).mapError
      fun _ => .status 500)
  match found with
  | none => return .error 400 "destination deployment does not exist"
  | some (leaseID, mgroup) =>
    let targets := hostTargets mgroup
    Logged.lift (checkHostnames K targets body.hostnamesToMigrate)
    Logged.call (.prepareHostnamesForTransfer body.hostnamesToMigrate leaseID)
      ((C.prepareHostnamesForTransfer body.hostnamesToMigrate leaseID).mapError transferErrReply)
    Logged.each body.hostnamesToMigrate fun hostname =>
      let target := targetOf targets hostname
      Logged.call (.transferHostname leaseID hostname target.serviceName target.externalPort)
        ((C.transferHostname leaseID hostname).mapError fun text =>
          .error 500 ("failed transferring " ++ K.quote hostname ++ ": " ++ text))
    return .json

/-! ## Moving IPs -/

structure ServiceExposeWithName where
  expose : Crd.ManifestServiceExpose
  serviceName : String
  proto : Mani.ServiceProtocol

def exposesOf (mgroup : Crd.ManifestGroup) : List (String × Crd.ManifestServiceExpose) :=
  mgroup.services.flatMap fun service => service.expose.map fun expose => (service.name, expose)

/-- One round of the loop, on `endpointsInDestination` and `servicesToMigrate`. -/
def collectEndpoint (s : List String × List ServiceExposeWithName)
    (v : String × Crd.ManifestServiceExpose) :
    Except Reply (List String × List ServiceExposeWithName) :=
  if v.2.global = false ∨ v.2.ip = "" then .ok s
  else
    let endpointsInDestination := s.1 ++ [v.2.ip]
    -- asked of the endpoints of the destination, not of those that are needed
    if v.2.ip ∉ endpointsInDestination then .ok (endpointsInDestination, s.2)
    else match K.parseServiceProtocol v.2.proto with
      | none => .error (.status 500)
      | some proto => .ok (endpointsInDestination, s.2 ++ [⟨v.2, v.1, proto⟩])

def checkEndpoints (endpointsInDestination endpoints : List String) : Except Reply Unit :=
  checkKnown endpointsInDestination endpoints fun endpoint =>
    "the endpoint " ++ K.quote endpoint ++ " does not exist in the destination deployment"

def determineExposedExternalPort (expose : Crd.ManifestServiceExpose) : UInt16 :=
  if expose.externalPort = 0 then expose.port else expose.externalPort

def redeclareIP (leaseID : LeaseID) (v : ServiceExposeWithName) : Call :=
  .declareIP leaseID v.serviceName v.expose.port.toUInt32
    (determineExposedExternalPort v.expose).toUInt32 v.proto
    (makeIPSharingKey K.nameHash leaseID v.expose.ip) true

def migrateEndpointHandler (req : Request) (ctx : Context κ) : Handling := do
  let body ← Logged.lift (decoded (K.decodeEndpointMigrate req.body))
  Logged.require (body.endpointsToMigrate ≠ []) (.status 400)
  let owner ← Logged.lift ctx.requestOwner
  let found ← Logged.call (.findActiveLease owner body.destinationDSeq body.destinationGSeq)
    ((C.findActiveLease owner body.destinationDSeq body.destinationGSeq).mapError
      fun _ => .status 500)
  match found with
  | none => return .error 400 "destination deployment does not exist"
  | some (leaseID, mgroup) =>
    let (endpointsInDestination, servicesToMigrate) ←
      Logged.lift ((exposesOf mgroup).foldlM (collectEndpoint K) ([], []))
    Logged.lift (checkEndpoints K endpointsInDestination body.endpointsToMigrate)
    Logged.each servicesToMigrate fun v =>
      Logged.call (redeclareIP K leaseID v)
        ((C.declareIP leaseID v.serviceName
          (determineExposedExternalPort v.expose).toUInt32).mapError writeClusterError)
    return .json

/-! ## What the handlers call

A handler of a lease calls for the lease of the context. -/

variable {C K}

open Logged

/-- The call is for the lease of the context. -/
def OfContext (ctx : Context κ) (c : Call) : Prop :=
  ∃ lid, ctx.lease = some lid ∧ c.lease = some lid

variable {c : Call} {ctx : Context κ} {lid : LeaseID}

theorem ofContext_of_requestLeaseID
    (h : (lift ctx.requestLeaseID : Logged Call Reply LeaseID).result = .ok lid)
    (hc : c.lease = some lid) : OfContext ctx c :=
  ⟨lid, orPanic_eq_ok_iff.mp h, hc⟩

def OfProvider (c : Call) : Prop := c = .kubeVersion ∨ c = .status ∨ c = .statusV1

theorem createVersionHandler_calls : (createVersionHandler C).Calls OfProvider :=
  calls_bind (calls_call (.inl rfl) _) fun _ _ => calls_pure _

theorem createStatusHandler_calls : (createStatusHandler C).Calls OfProvider := by
  refine calls_bind (calls_call (.inr (.inl rfl)) _) fun _ _ => ?_
  exact calls_bind (calls_call (.inr (.inr rfl)) _) fun _ _ => calls_pure _

theorem createManifestHandler_calls (req : Request) (ctx : Context κ) :
    (createManifestHandler C K req ctx).Calls fun c =>
      ∃ did mani, ctx.deployment = some did ∧ c = .submit did mani := by
  refine calls_bind (calls_lift _) fun mani _ => calls_bind (calls_lift _) fun did hdid => ?_
  refine calls_bind (calls_call ?_ _) fun _ _ => calls_pure _
  exact ⟨did, mani, orPanic_eq_ok_iff.mp hdid, rfl⟩

theorem getManifestHandler_calls (ctx : Context κ) :
    (getManifestHandler C ctx).Calls (OfContext ctx) := by
  refine calls_bind (calls_lift _) fun lid hlid => ?_
  refine calls_bind (calls_call (ofContext_of_requestLeaseID hlid rfl) _) fun grp _ => ?_
  cases grp with
  | none => exact calls_pure _
  | some grp => exact calls_bind (calls_lift _) fun _ _ => calls_pure _

theorem createAttestationQuoteHandler_calls (req : Request) (ctx : Context κ) :
    (createAttestationQuoteHandler C K req ctx).Calls (OfContext ctx) := by
  refine calls_bind (calls_lift _) fun lid hlid => ?_
  refine calls_bind (calls_require _ _) fun _ _ => calls_bind (calls_lift _) fun _ _ => ?_
  exact calls_bind (calls_call (ofContext_of_requestLeaseID hlid rfl) _) fun _ _ => calls_pure _

theorem leaseStatusHandler_calls (ctx : Context κ) :
    (leaseStatusHandler C ctx).Calls (OfContext ctx) := by
  refine calls_bind (calls_lift _) fun lid hlid => ?_
  have hcall {c : Call} (hc : c.lease = some lid) : OfContext ctx c :=
    ofContext_of_requestLeaseID hlid hc
  refine calls_bind (calls_call (hcall rfl) _) fun grp _ => ?_
  cases grp with
  | none => exact calls_pure _
  | some grp =>
    refine calls_bind (calls_when (calls_call (hcall rfl) _)) fun _ _ => ?_
    refine calls_bind (calls_when (calls_call (hcall rfl) _)) fun _ _ => ?_
    exact calls_bind (calls_call (hcall rfl) _) fun _ _ => calls_pure _

theorem leaseServiceStatusHandler_calls (ctx : Context κ) :
    (leaseServiceStatusHandler C ctx).Calls (OfContext ctx) := by
  refine calls_bind (calls_lift _) fun lid hlid => calls_bind (calls_lift _) fun _ _ => ?_
  exact calls_bind (calls_call (ofContext_of_requestLeaseID hlid rfl) _) fun _ _ => calls_pure _

theorem leaseServiceStatusHandler_mem {service : String} (hlid : ctx.lease = some lid)
    (hservice : ctx.service = some service) :
    Call.serviceStatus lid service ∈ (leaseServiceStatusHandler C ctx).log := by
  refine mem_log_bind.mpr (.inr ⟨lid, orPanic_eq_ok_iff.mpr hlid, ?_⟩)
  refine mem_log_bind.mpr (.inr ⟨service, orPanic_eq_ok_iff.mpr hservice, ?_⟩)
  exact mem_log_bind.mpr (.inl (List.mem_singleton.mpr rfl))

theorem leaseKubeEventsHandler_calls (req : Request) (ctx : Context κ) :
    (leaseKubeEventsHandler C req ctx).Calls (OfContext ctx) := by
  refine calls_bind (calls_require _ _) fun _ _ => calls_bind (calls_lift _) fun lid hlid => ?_
  refine calls_bind (calls_lift _) fun _ _ => calls_bind (calls_lift _) fun _ _ => ?_
  exact calls_bind (calls_call (ofContext_of_requestLeaseID hlid rfl) _) fun _ _ => calls_pure _

theorem leaseLogsHandler_calls (req : Request) (ctx : Context κ) :
    (leaseLogsHandler C req ctx).Calls (OfContext ctx) := by
  refine calls_bind (calls_require _ _) fun _ _ => calls_bind (calls_lift _) fun lid hlid => ?_
  refine calls_bind (calls_lift _) fun _ _ => calls_bind (calls_lift _) fun _ _ => ?_
  refine calls_bind (calls_lift _) fun _ _ => ?_
  exact calls_bind (calls_call (ofContext_of_requestLeaseID hlid rfl) _) fun _ _ => calls_pure _

theorem leaseShellHandler_calls (req : Request) (ctx : Context κ) :
    (leaseShellHandler C K req ctx).Calls (OfContext ctx) := by
  refine calls_bind (calls_lift _) fun lid hlid => ?_
  have hcall {c : Call} (hc : c.lease = some lid) : OfContext ctx c :=
    ofContext_of_requestLeaseID hlid hc
  -- the parameters
  refine calls_bind (calls_require _ _) fun _ _ => calls_bind (calls_require _ _) fun _ _ => ?_
  refine calls_bind (calls_require _ _) fun _ _ => calls_bind (calls_require _ _) fun _ _ => ?_
  refine calls_bind (calls_require _ _) fun _ _ => calls_bind (calls_lift _) fun _ _ => ?_
  refine calls_bind (calls_require _ _) fun _ _ => ?_
  refine calls_bind (calls_call (hcall rfl) _) fun _ _ => ?_
  refine calls_bind (calls_require _ _) fun _ _ => ?_
  exact calls_bind (calls_call (hcall rfl) _) fun _ _ => calls_pure _

/-! The handlers that move things call for the lease that they find, if the request asks for
something that the lease has. -/

section

variable (C K)

/-- A request of the owner moves hostnames to a lease: it asks for some, and the manifest of
the lease has them all. -/
def MigratesTo (req : Request) (owner : String) (lid : LeaseID) : Prop :=
  ∃ body mgroup, K.decodeMigrate req.body = some body ∧ body.hostnamesToMigrate ≠ [] ∧
    C.findActiveLease owner body.destinationDSeq body.destinationGSeq = .ok (some (lid, mgroup)) ∧
    ∀ hostname ∈ body.hostnamesToMigrate, hostname ∈ (hostTargets mgroup).map (·.host)

def AtIP (v : String × Crd.ManifestServiceExpose) : Prop := v.2.global = true ∧ v.2.ip ≠ ""

instance : DecidablePred AtIP :=
  fun v => inferInstanceAs (Decidable (v.2.global = true ∧ v.2.ip ≠ ""))

/-- A request of the owner moves IPs to a lease: it asks for some, the manifest of the lease
has them all, and the protocols in it are known. -/
def MigratesEndpointsTo (req : Request) (owner : String) (lid : LeaseID) : Prop :=
  ∃ body mgroup, K.decodeEndpointMigrate req.body = some body ∧ body.endpointsToMigrate ≠ [] ∧
    C.findActiveLease owner body.destinationDSeq body.destinationGSeq = .ok (some (lid, mgroup)) ∧
    (∀ v ∈ (exposesOf mgroup).filter AtIP, (K.parseServiceProtocol v.2.proto).isSome) ∧
    ∀ endpoint ∈ body.endpointsToMigrate, endpoint ∈ ((exposesOf mgroup).filter AtIP).map (·.2.ip)

/-- The call looks for a lease, or is for one that the request moves things to. -/
def OfDestination (To : String → LeaseID → Prop) (ctx : Context κ) (c : Call) : Prop :=
  (∃ owner dseq gseq, c = .findActiveLease owner dseq gseq) ∨
    ∃ owner lid, ctx.owner = some owner ∧ c.lease = some lid ∧ To owner lid

end

theorem decoded_eq_ok_iff {β : Type} {x : Option β} {body : β} :
    decoded x = .ok body ↔ x = some body := by
  cases x <;> simp [decoded]

theorem checkKnown_eq_ok_iff {known names : List String} {message : String → String} {u : Unit} :
    checkKnown known names message = .ok u ↔ ∀ name ∈ names, name ∈ known := by
  simp only [checkKnown]
  grind

theorem migrateHandler_calls (req : Request) (ctx : Context κ) :
    (migrateHandler C K req ctx).Calls (OfDestination (MigratesTo C K req) ctx) := by
  refine calls_bind (calls_lift _) fun body hbody => ?_
  refine calls_bind (calls_require _ _) fun _ hsome => ?_
  refine calls_bind (calls_lift _) fun owner howner => ?_
  refine calls_bind (calls_call (.inl ⟨_, _, _, rfl⟩) _) fun found hfound => ?_
  cases found with
  | none => exact calls_pure _
  | some found =>
    obtain ⟨lid, mgroup⟩ := found
    refine calls_bind (calls_lift _) fun _ hhosts => ?_
    have hcall {c : Call} (hc : c.lease = some lid) :
        OfDestination (MigratesTo C K req) ctx c :=
      .inr ⟨owner, lid, orPanic_eq_ok_iff.mp howner, hc, body, mgroup,
        decoded_eq_ok_iff.mp hbody, result_require.mp hsome, Except.mapError_eq_ok_iff.mp hfound,
        checkKnown_eq_ok_iff.mp hhosts⟩
    refine calls_bind (calls_call (hcall rfl) _) fun _ _ => ?_
    exact calls_bind (calls_each fun _ _ => calls_call (hcall rfl) _) fun _ _ => calls_pure _

variable {owner : String} {req : Request}

theorem migrateHandler_mem (howner : ctx.owner = some owner) (hto : MigratesTo C K req owner lid) :
    ∃ c ∈ (migrateHandler C K req ctx).log, c.lease = some lid := by
  obtain ⟨body, mgroup, hbody, hsome, hfound, hhosts⟩ := hto
  refine ⟨.prepareHostnamesForTransfer body.hostnamesToMigrate lid, ?_, rfl⟩
  refine mem_log_bind.mpr (.inr ⟨body, decoded_eq_ok_iff.mpr hbody, ?_⟩)
  refine mem_log_bind.mpr (.inr ⟨⟨⟩, result_require.mpr hsome, ?_⟩)
  refine mem_log_bind.mpr (.inr ⟨owner, orPanic_eq_ok_iff.mpr howner, ?_⟩)
  refine mem_log_bind.mpr (.inr ⟨some (lid, mgroup), Except.mapError_eq_ok_iff.mpr hfound, ?_⟩)
  refine mem_log_bind.mpr (.inr ⟨⟨⟩, checkKnown_eq_ok_iff.mpr hhosts, ?_⟩)
  exact mem_log_bind.mpr (.inl (List.mem_singleton.mpr rfl))

variable {v : String × Crd.ManifestServiceExpose}

theorem collectEndpoint_of_not_atIP (h : ¬ AtIP v) (s : List String × List ServiceExposeWithName) :
    collectEndpoint K s v = .ok s := by
  refine if_pos ?_
  grind [AtIP]

theorem collectEndpoint_of_atIP (h : AtIP v) (s : List String × List ServiceExposeWithName) :
    collectEndpoint K s v = match K.parseServiceProtocol v.2.proto with
      | none => .error (.status 500)
      | some proto => .ok (s.1 ++ [v.2.ip], s.2 ++ [⟨v.2, v.1, proto⟩]) := by
  have hcond : ¬ (v.2.global = false ∨ v.2.ip = "") := by simp [h.1, h.2]
  grind [collectEndpoint]

theorem filter_atIP_of_pos (h : AtIP v) (vs : List (String × Crd.ManifestServiceExpose)) :
    (v :: vs).filter AtIP = v :: vs.filter AtIP :=
  List.filter_cons_of_pos (p := fun v => decide (AtIP v)) (decide_eq_true h)

theorem filter_atIP_of_neg (h : ¬ AtIP v) (vs : List (String × Crd.ManifestServiceExpose)) :
    (v :: vs).filter AtIP = vs.filter AtIP :=
  List.filter_cons_of_neg (p := fun v => decide (AtIP v)) (by simpa using h)

/-- The loop collects all exposes at IPs, whatever was asked for, if their protocols are
known. -/
theorem collectEndpoint_foldlM (vs : List (String × Crd.ManifestServiceExpose)) :
    ∀ {s s' : List String × List ServiceExposeWithName},
      vs.foldlM (collectEndpoint K) s = .ok s' →
        (∀ v ∈ vs.filter AtIP, (K.parseServiceProtocol v.2.proto).isSome) ∧
          s'.1 = s.1 ++ (vs.filter AtIP).map (·.2.ip) ∧
          s'.2.map (fun e => (e.serviceName, e.expose)) =
            s.2.map (fun e => (e.serviceName, e.expose)) ++ vs.filter AtIP := by
  induction vs with
  | nil =>
    intro s s' h
    cases h
    simp
  | cons v vs ih =>
    intro s s' h
    obtain ⟨t, ht, h⟩ := Except.bind_eq_ok_iff.mp h
    by_cases hv : AtIP v
    · rw [collectEndpoint_of_atIP hv] at ht
      grind
    · grind [collectEndpoint_of_not_atIP]

theorem exists_collectEndpoint_foldlM (vs : List (String × Crd.ManifestServiceExpose)) :
    ∀ s : List String × List ServiceExposeWithName,
      (∀ v ∈ vs.filter AtIP, (K.parseServiceProtocol v.2.proto).isSome) →
        ∃ s', vs.foldlM (collectEndpoint K) s = .ok s' := by
  induction vs with
  | nil => exact fun s _ => ⟨s, rfl⟩
  | cons v vs ih =>
    intro s hparse
    simp only [List.foldlM_cons, Except.bind_eq_ok_iff]
    by_cases hv : AtIP v
    · rw [filter_atIP_of_pos hv, List.forall_mem_cons] at hparse
      obtain ⟨proto, hproto⟩ := Option.isSome_iff_exists.mp hparse.1
      obtain ⟨s', hs'⟩ := ih (s.1 ++ [v.2.ip], s.2 ++ [⟨v.2, v.1, proto⟩]) hparse.2
      refine ⟨s', _, ?_, hs'⟩
      rw [collectEndpoint_of_atIP hv, hproto]
    · rw [filter_atIP_of_neg hv] at hparse
      obtain ⟨s', hs'⟩ := ih s hparse
      exact ⟨s', s, collectEndpoint_of_not_atIP hv s, hs'⟩

theorem migrateEndpointHandler_calls (req : Request) (ctx : Context κ) :
    (migrateEndpointHandler C K req ctx).Calls
      (OfDestination (MigratesEndpointsTo C K req) ctx) := by
  refine calls_bind (calls_lift _) fun body hbody => ?_
  refine calls_bind (calls_require _ _) fun _ hsome => ?_
  refine calls_bind (calls_lift _) fun owner howner => ?_
  refine calls_bind (calls_call (.inl ⟨_, _, _, rfl⟩) _) fun found hfound => ?_
  cases found with
  | none => exact calls_pure _
  | some found =>
    obtain ⟨lid, mgroup⟩ := found
    refine calls_bind (calls_lift _) fun collected hcollected => ?_
    obtain ⟨hparse, hknown, -⟩ := collectEndpoint_foldlM (exposesOf mgroup) hcollected
    refine calls_bind (calls_lift _) fun _ hendpoints => ?_
    refine calls_bind (calls_each fun _ _ => calls_call ?_ _) fun _ _ => calls_pure _
    refine .inr ⟨owner, lid, orPanic_eq_ok_iff.mp howner, rfl, body, mgroup,
      decoded_eq_ok_iff.mp hbody, result_require.mp hsome, Except.mapError_eq_ok_iff.mp hfound,
      hparse, ?_⟩
    have hmem := checkKnown_eq_ok_iff.mp hendpoints
    rw [hknown] at hmem
    exact hmem

theorem migrateEndpointHandler_mem_each {body : EndpointMigrateRequestBody}
    {mgroup : Crd.ManifestGroup} {known : List String} {entries : List ServiceExposeWithName}
    (howner : ctx.owner = some owner) (hbody : K.decodeEndpointMigrate req.body = some body)
    (hsome : body.endpointsToMigrate ≠ [])
    (hfound : C.findActiveLease owner body.destinationDSeq body.destinationGSeq =
      .ok (some (lid, mgroup)))
    (hcollected : (exposesOf mgroup).foldlM (collectEndpoint K) ([], []) = .ok (known, entries))
    (hknown : ∀ endpoint ∈ body.endpointsToMigrate, endpoint ∈ known)
    (hc : c ∈ (each entries fun v => call (redeclareIP K lid v)
      ((C.declareIP lid v.serviceName
        (determineExposedExternalPort v.expose).toUInt32).mapError writeClusterError)).log) :
    c ∈ (migrateEndpointHandler C K req ctx).log := by
  refine mem_log_bind.mpr (.inr ⟨body, decoded_eq_ok_iff.mpr hbody, ?_⟩)
  refine mem_log_bind.mpr (.inr ⟨⟨⟩, result_require.mpr hsome, ?_⟩)
  refine mem_log_bind.mpr (.inr ⟨owner, orPanic_eq_ok_iff.mpr howner, ?_⟩)
  refine mem_log_bind.mpr (.inr ⟨some (lid, mgroup), Except.mapError_eq_ok_iff.mpr hfound, ?_⟩)
  refine mem_log_bind.mpr (.inr ⟨(known, entries), hcollected, ?_⟩)
  refine mem_log_bind.mpr (.inr ⟨⟨⟩, checkKnown_eq_ok_iff.mpr hknown, ?_⟩)
  exact mem_log_bind.mpr (.inl hc)

theorem migrateEndpointHandler_mem (howner : ctx.owner = some owner)
    (hto : MigratesEndpointsTo C K req owner lid) :
    ∃ c ∈ (migrateEndpointHandler C K req ctx).log, c.lease = some lid := by
  obtain ⟨body, mgroup, hbody, hsome, hfound, hparse, hendpoints⟩ := hto
  obtain ⟨⟨known, entries⟩, hcollected⟩ :=
    exists_collectEndpoint_foldlM (exposesOf mgroup) ([], []) hparse
  obtain ⟨-, hknown, hentries⟩ := collectEndpoint_foldlM (exposesOf mgroup) hcollected
  have hin : ∀ endpoint ∈ body.endpointsToMigrate, endpoint ∈ known := by grind
  -- an endpoint is asked for, so there is an expose at an IP
  obtain ⟨endpoint, hendpoint⟩ := List.exists_mem_of_ne_nil _ hsome
  cases entries with
  | nil => grind
  | cons entry entries =>
    exact ⟨redeclareIP K lid entry, migrateEndpointHandler_mem_each howner hbody hsome hfound
      hcollected hin (mem_log_each_cons (List.mem_singleton.mpr rfl)), rfl⟩

end AkashProvider.Gateway
