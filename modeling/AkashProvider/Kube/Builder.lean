import AkashProvider.Kube.DeclaredIPs
import AkashProvider.Types.Kube

/-!
# Builders of the objects of a lease

A builder makes an object of a lease anew, or changes the one that is there.  This module has what
all builders share, and those of the manifest, the namespace and the network policies.
-/

namespace AkashProvider.Kube

/-! ## Other packages -/

/-- The functions of other packages that the builders call. -/
structure KubeSdk extends ManifestSdk where
  isIngress : Mani.ServiceExpose → Bool
  getExternalPort : Mani.ServiceExpose → UInt32
  /-- `sdlutil.ComputeCommittedResources`, for a commit level and an amount. -/
  computeCommittedResources : Rat → UInt64 → UInt64
  /-- `attrs.Find(sdl.StorageAttributePersistent).AsBool()`; `none` if it is not valid. -/
  findPersistent : Attributes → Option Bool
  /-- `attrs.Find(sdl.StorageAttributeClass).AsString()`; `none` if it is not valid. -/
  findClass : Attributes → Option String
  isValidLabelValue : String → Bool
  isDomainName : String → Bool
  trimSpace : String → String
  base64 : String → String

/-- What the builders rely on. -/
@[grind cases]
structure KubeSdk.Lawful (K : KubeSdk) : Prop where
  /-- There is no undercommitment. -/
  computeCommittedResources_one : ∀ v, K.computeCommittedResources 1 v = v

def KubeSdk.reference : KubeSdk where
  toManifestSdk := ManifestSdk.reference
  isIngress expose := expose.proto = .tcp ∧ expose.global ∧
    (if expose.externalPort = 0 then expose.port else expose.externalPort) = 80
  getExternalPort expose := if expose.externalPort = 0 then expose.port else expose.externalPort
  computeCommittedResources level v :=
    if level ≤ 1 then v else UInt64.ofNat (max 1 ((v.toNat : Rat) / level + 1 / 2).floor.toNat)
  findPersistent attrs :=
    match (attrs.find? (·.key = "persistent")).map (·.value) with
    | some "true" => some true
    | some "false" => some false
    | _ => none
  findClass attrs := ((attrs.find? (·.key = "class")).map (·.value)).filter (· ≠ "")
  isValidLabelValue value := value.length ≤ 63
  isDomainName name := name ≠ ""
  trimSpace s := s
  base64 s := s

theorem KubeSdk.reference_lawful : KubeSdk.reference.Lawful where
  computeCommittedResources_one v := by simp [KubeSdk.reference]

/-! ## Settings and deployments -/

inductive IngressMode where
  | ingress
  | gateway
deriving DecidableEq

structure TCPAddr where
  ip : String
  isV4 : Bool
  port : UInt32

structure Settings where
  deploymentIngressStaticHosts : Bool
  deploymentIngressDomain : String
  clusterPublicHostname : String
  networkPoliciesEnabled : Bool
  apiServerEndpoints : List TCPAddr
  cpuCommitLevel : Rat
  gpuCommitLevel : Rat
  memoryCommitLevel : Rat
  storageCommitLevel : Rat
  dockerImagePullSecretsName : String
  ingressMode : IngressMode
  gatewayNamespace : String
  interconnectRoCENetworksNamespace : String
  interconnectRoCENetworks : String

/-- What `ClusterParams` of a deployment returns. -/
inductive ClusterParams where
  | cluster (settings : Crd.ClusterSettings)
  | reservation (settings : Crd.ReservationClusterSettings)

structure Deployment where
  leaseID : LeaseID
  manifestGroup : Mani.Group
  clusterParams : ClusterParams
  resourceVersion : String

structure ClusterDeployment where
  lid : LeaseID
  group : Mani.Group
  sparams : Crd.ClusterSettings
  resourceVersion : String
  updateManifest : Bool

inductive BuildErr where
  | noSchedulerParams (resourcesID : UInt32)
  | paramsCount (services params : Nat)
  | cpuNil (service : String)
  | gpuNil (service : String)
  | memoryNil (service : String)
  | gpuParamsNil (service : String)
  | encode (err : Crd.EncodeErr)
  | decode (err : Crd.DecodeErr)
  | invalidServiceBuilder
  /-- The source panics, and `Deploy` recovers. -/
  | panics
deriving DecidableEq

def buildClusterSettings (mgroup : Mani.Group) (reservation : Crd.ReservationClusterSettings) :
    Except BuildErr Crd.ClusterSettings := do
  let sparams ← mgroup.services.mapM fun svc =>
    match reservation.lookup svc.resources.id with
    | none => .error (.noSchedulerParams svc.resources.id)
    | some params => .ok params
  .ok ⟨sparams⟩

def validateService (svc : Mani.Service) (sParams : Option Crd.SchedulerParams) :
    Except BuildErr Unit :=
  if svc.resources.cpu = none then .error (.cpuNil svc.name)
  else
    match svc.resources.gpu with
    | none => .error (.gpuNil svc.name)
    | some gpu =>
      if svc.resources.memory = none then .error (.memoryNil svc.name)
      else if gpu.units > 0 ∧ ((sParams.bind (·.resources)).bind (·.gpu)) = none then
        .error (.gpuParamsNil svc.name)
      else .ok ()

def ClusterDeployment.validate (d : ClusterDeployment) : Except BuildErr Unit :=
  if d.group.services.length ≠ d.sparams.schedulerParams.length then
    .error (.paramsCount d.group.services.length d.sparams.schedulerParams.length)
  else (d.group.services.zip d.sparams.schedulerParams).forM fun e => validateService e.1 e.2

def clusterDeploymentFromDeployment (d : Deployment) : Except BuildErr ClusterDeployment := do
  let (cparams, updateManifest) ← match d.clusterParams with
    | .cluster sparams => .ok (sparams, false)
    | .reservation sparams => do
      let cparams ← buildClusterSettings d.manifestGroup sparams
      .ok (cparams, true)
  let cd : ClusterDeployment :=
    { lid := d.leaseID
      group := d.manifestGroup
      sparams := cparams
      resourceVersion := d.resourceVersion
      updateManifest := updateManifest }
  cd.validate
  .ok cd

/-! ## Labels -/

def akashManifestServiceLabelName : String := "akash.network/manifest-service"
def akashServiceTarget : String := "akash.network/service-target"
def akashServiceCapabilityGPU : String := "akash.network/capabilities.gpu"
def akashServiceCapabilityStorage : String := "akash.network/capabilities.storage"
def akashMetalLB : String := "metal-lb"
def akashNetworkNamespace : String := "akash.network/namespace"
def akashManifestResourceVersion : String := "akash.network/manifest.resource.version"
def akashInterconnectGroupLabelName : String := "akash.network/interconnect-group"

def setLabel (labels : Labels) (key value : String) : Labels :=
  (key, value) :: labels.filter (·.1 ≠ key)

def deleteLabel (labels : Labels) (key : String) : Labels := labels.filter (·.1 ≠ key)

/-- Labels of others are kept. -/
def updateAkashLabels (currLabels newLabels : Labels) : Labels :=
  newLabels ++
    currLabels.filter fun e => ¬ akashManagedLabelName.toList.isPrefixOf e.1.toList

variable (K : KubeSdk)

def lidNS (lid : LeaseID) : String := K.leaseIDToNamespace lid

namespace ClusterDeployment

variable (d : ClusterDeployment)

def ns : String := lidNS K d.lid

def labels : Labels :=
  [(akashManagedLabelName, "true"), (akashNetworkNamespace, d.ns K),
    (akashManifestResourceVersion, d.resourceVersion)]

def selectorLabels : Labels :=
  [(akashManagedLabelName, "true"), (akashNetworkNamespace, d.ns K)]

def isObjectRevisionLatest (labels : Labels) : Bool :=
  labels.lookup akashManifestResourceVersion = some d.resourceVersion

end ClusterDeployment

structure Builder (k : Kind) where
  name : String
  create : Except BuildErr (Object k)
  update : Object k → Except BuildErr (Object k)

def newObject {k : Kind} (name : String) (labels : Labels) (spec : k.Spec) : Object k where
  name := name
  labels := labels
  annotations := []
  resourceVersion := 0
  spec := spec

variable (d : ClusterDeployment)

/-! ## Manifest and namespace -/

def manifestLabels : Labels :=
  appendLeaseLabels d.lid (deleteLabel (d.labels K) akashManifestResourceVersion)

/-- `mns` is the namespace of the provider. -/
def buildManifest (mns : String) : Builder .manifest where
  name := d.ns K
  create := do
    let m ← (newManifest K.toManifestSdk mns d.lid d.group d.sparams).mapError .encode
    .ok (newObject m.name (manifestLabels K d) m.spec)
  -- the stored labels stay, also those of a version
  update obj := do
    let m ← (newManifest K.toManifestSdk mns d.lid d.group d.sparams).mapError .encode
    .ok { obj with spec := m.spec }

def namespaceLabels : Labels := appendLeaseLabels d.lid (d.labels K)

def buildNS : Builder .namespace where
  name := d.ns K
  create := .ok (newObject (d.ns K) (namespaceLabels K d) ())
  update obj := .ok { obj with
    name := d.ns K
    labels := updateAkashLabels obj.labels (namespaceLabels K d) }

/-! ## Network policies -/

def akashDeploymentPolicyName : String := "akash-deployment-restrictions"

def hostCIDR (addr : TCPAddr) : String := addr.ip ++ if addr.isV4 then "/32" else "/128"

def serviceHasReadPermissions (service : Mani.Service) : Bool :=
  ((service.params.bind (·.permissions)).map (·.read)).any (· ≠ [])

/-- Namespaces with a label. -/
def namespacePeer (key value : String) : NetworkPolicyPeer :=
  ⟨none, some [(key, value)], none⟩

def cidrPeer (cidr : String) (except : List String) : NetworkPolicyPeer :=
  ⟨none, none, some ⟨cidr, except⟩⟩

/-- What may reach the pods of a lease. -/
def ingressRules (settings : Settings) : List NetworkPolicyRule :=
  [ -- from the same namespace
    ⟨[namespacePeer akashNetworkNamespace (d.ns K)], []⟩,
    -- from the ingress controller
    ⟨[⟨some [("app.kubernetes.io/name", "ingress-nginx")],
      some [("app.kubernetes.io/name", "ingress-nginx")], none⟩], []⟩,
    -- from everywhere to the attestation sidecar
    ⟨[], [⟨.tcp, 8790⟩]⟩] ++
  if settings.ingressMode = .gateway ∧ settings.gatewayNamespace ≠ "" then
    [⟨[namespacePeer "kubernetes.io/metadata.name" settings.gatewayNamespace], []⟩]
  else []

/-- What the pods of a lease may reach: their namespace, the DNS and public addresses. -/
def egressRules : List NetworkPolicyRule :=
  [⟨[namespacePeer akashNetworkNamespace (d.ns K)], []⟩,
    ⟨[⟨some [("k8s-app", "kube-dns")], some [("kubernetes.io/metadata.name", "kube-system")],
      none⟩], [⟨.udp, 53⟩, ⟨.tcp, 53⟩]⟩,
    ⟨[cidrPeer "0.0.0.0/0" ["10.0.0.0/8", "192.168.0.0/16", "172.16.0.0/12"]], []⟩]

def newPolicy (name : String) (spec : NetworkPolicySpec) : Object .networkPolicy :=
  newObject (k := .networkPolicy) name (d.labels K) spec

def servicePolicy (name serviceName : String) (types : List PolicyType)
    (ingress egress : List NetworkPolicyRule) : Object .networkPolicy :=
  newPolicy K d name ⟨[(akashManifestServiceLabelName, serviceName)], types, ingress, egress⟩

def exposePort (expose : Mani.ServiceExpose) : NetworkPolicyPort :=
  ⟨expose.proto, Go.int32 expose.port⟩

/-- A global expose that is no ingress, which opens a port of the nodes. -/
def opensPort (expose : Mani.ServiceExpose) : Bool := expose.global && !K.isIngress expose

def openPorts (service : Mani.Service) : List NetworkPolicyPort :=
  (service.expose.filter (opensPort K)).map exposePort

def portsWithIP (service : Mani.Service) : List NetworkPolicyPort :=
  (service.expose.filter (·.ip ≠ "")).map exposePort

def nodePortPolicyName (serviceName : String) : String := "akash-" ++ serviceName ++ "-np"
def ipPolicyName (serviceName : String) : String := "akash-" ++ serviceName ++ "-ip"
def apiServerPolicyName (serviceName : String) : String := "akash-apiserver-" ++ serviceName

def netPolService (settings : Settings) (service : Mani.Service) : List (Object .networkPolicy) :=
  let ports := openPorts K service
  let ipPorts := portsWithIP service
  let endpoints := settings.apiServerEndpoints
  (if ports ≠ [] then
    [servicePolicy K d (nodePortPolicyName service.name) service.name [.ingress] [⟨[], ports⟩] []]
  else []) ++
  (if ipPorts ≠ [] then
    [servicePolicy K d (ipPolicyName service.name) service.name [.ingress]
      [⟨[cidrPeer "0.0.0.0/0" []], ipPorts⟩] []]
  else []) ++
  -- each backend of the API server is let through, and each of their ports once
  if endpoints ≠ [] ∧ serviceHasReadPermissions service then
    [servicePolicy K d (apiServerPolicyName service.name) service.name [.egress] []
      [⟨endpoints.map fun ep => cidrPeer (hostCIDR ep) [],
        (endpoints.map fun ep => Go.int32 ep.port).eraseDups.map (⟨.tcp, ·⟩)⟩]]
  else []

def netPolCreate (settings : Settings) : List (Object .networkPolicy) :=
  if !settings.networkPoliciesEnabled then []
  else
    newPolicy K d akashDeploymentPolicyName
      ⟨[], [.ingress, .egress], ingressRules K d settings, egressRules K d⟩ ::
    d.group.services.flatMap (netPolService K d settings)

def netPolUpdate (obj : Object .networkPolicy) : Object .networkPolicy :=
  { obj with labels := updateAkashLabels obj.labels (d.labels K) }

end AkashProvider.Kube
