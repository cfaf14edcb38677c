import AkashProvider.Kube.Builder

/-!
# Workloads

The objects of one service: a Deployment or, with a persistent volume, a StatefulSet, and the
services, account, role and image credentials.  Names, labels, exposes and the replica count come
from the deployment; containers, volumes and scheduler parameters from the stored manifest.
-/

namespace AkashProvider.Kube

open Crd (SchedulerParams SchedulerResources SchedulerResourceInterconnect)
open InventoryV1 (Quantity)

structure Workload where
  settings : Settings
  deployment : ClusterDeployment
  /-- The service of the deployment. -/
  service : Mani.Service
  /-- The service of the stored manifest, `b.group.Services[b.serviceIdx]`. -/
  stored : Mani.Service
  sparams : Option SchedulerParams

variable (K : KubeSdk)

/-- A `ram` volume that says that it is not persistent. -/
def isRAMVolume (vol : Rtypes.Storage) : Bool :=
  K.findClass vol.attributes = some "ram" ∧ K.findPersistent vol.attributes = some false

/-- Reading the stored manifest at an index that it does not have is a panic, and so is a `ram`
volume whose size is no `int64`. -/
def newWorkloadBuilder (settings : Settings) (d : ClusterDeployment) (mani : Crd.ManifestSpec)
    (serviceIdx : Nat) : Except BuildErr Workload := do
  let (group, sparams) ← (mani.group.fromCRD K.toManifestSdk).mapError .decode
  match d.group.services[serviceIdx]?, group.services[serviceIdx]?, sparams[serviceIdx]? with
  | some service, some stored, some params =>
    if stored.resources.storage.any fun vol =>
        isRAMVolume K vol && 9223372036854775808 ≤ vol.quantity then .error .panics
    else .ok ⟨settings, d, service, stored, params⟩
  | _, _, _ => .error .panics

def resourceCPU : String := "cpu"
def resourceMemory : String := "memory"
def resourceEphemeralStorage : String := "ephemeral-storage"
def resourceStorage : String := "storage"
def resourceGPUNvidia : String := "nvidia.com/gpu"
def resourceGPUNvidiaPGPU : String := "nvidia.com/pgpu"
def resourceGPUAMD : String := "amd.com/gpu"

def sidecarCPURequestMillicores : Int := 10
def sidecarCPULimitMillicores : Int := 100
def sidecarMemoryRequestBytes : Int := 32 * 1024 * 1024
def sidecarMemoryLimitBytes : Int := 64 * 1024 * 1024
def sidecarGPUMemoryRequestBytes : Int := 64 * 1024 * 1024
def sidecarGPUMemoryLimitBytes : Int := 128 * 1024 * 1024
def minPrimaryCPUMillicores : Int := 10
def minPrimaryMemoryBytes : Int := 16 * 1024 * 1024

def sparamsInterconnect (sparams : Option SchedulerParams) :
    Option SchedulerResourceInterconnect :=
  (sparams.bind (·.resources)).bind (·.interconnect)

/-- The request and the limit of the container once the sidecar has its share: neither below
the minimum, and the request not above the limit. -/
def besideSidecar (minimum sidecarRequest sidecarLimit request limit : Int) : Int × Int :=
  let limit := max (limit - sidecarLimit) minimum
  (min (max (request - sidecarRequest) minimum) limit, limit)

/-- Environment variables that name a service, its parts cut at the first `=`. -/
def envVar (env : String) : EnvVar :=
  ⟨String.ofList (env.toList.takeWhile (· ≠ '=')),
    String.ofList ((env.toList.dropWhile (· ≠ '=')).drop 1)⟩

def addIfNotPresent (added : List String) (env : List EnvVar) (key value : String) :
    List EnvVar :=
  if key ∈ added then env else env ++ [⟨key, value⟩]

namespace Workload

variable (w : Workload)

def name : String := w.service.name

/-! ## Labels -/

def labels : Labels :=
  w.deployment.labels K ++ [(akashManifestServiceLabelName, w.service.name)] ++
    if w.service.interconnectGroup ≠ "" then
      [(akashInterconnectGroupLabelName, w.service.interconnectGroup)]
    else []

def selectorLabels : Labels :=
  w.deployment.selectorLabels K ++ [(akashManifestServiceLabelName, w.service.name)]

/-- The labels of a pod.  A version on the present pods stays, so that they are not replaced. -/
def podLabels (current : Labels) : Labels :=
  let labels := deleteLabel (w.labels K) akashManifestResourceVersion
  match current.lookup akashManifestResourceVersion with
  | some version => setLabel labels akashManifestResourceVersion version
  | none => labels

def interconnectFabricRoCE : String := "roce"

def podAnnotations : Labels :=
  (if w.sparams.any (·.attestationDisabled) then
    [("akash.network/attestation-disabled", "true")] else []) ++
  match sparamsInterconnect w.sparams with
  | some ic =>
    let networks := K.trimSpace w.settings.interconnectRoCENetworks
    if ic.enabled ∧ ic.fabric = interconnectFabricRoCE ∧ networks ≠ "" then
      [("k8s.v1.cni.cncf.io/networks", networks)]
    else []
  | none => []

/-! ## Container -/

def sidecarEnabled : Bool :=
  w.sparams.any fun p => p.runtimeClass.isWithCC && !p.attestationDisabled

def cpuAmounts (cpu : Rtypes.CPU) : Int × Int :=
  let request := Go.int64 (K.computeCommittedResources w.settings.cpuCommitLevel cpu.units)
  let limit := Go.int64 cpu.units
  if w.sidecarEnabled then
    besideSidecar minPrimaryCPUMillicores sidecarCPURequestMillicores sidecarCPULimitMillicores
      request limit
  else (request, limit)

/-- The name of the GPUs of the vendor that the reservation has recorded.  Without a record,
or with another vendor, the source panics. -/
def gpuResourceName : Except BuildErr String :=
  match (w.sparams.bind (·.resources)).bind (·.gpu) with
  | none => .error .panics
  | some gpu =>
    if gpu.vendor = "nvidia" then
      if w.sparams.any (·.runtimeClass.isWithCC) then .ok resourceGPUNvidiaPGPU
      else .ok resourceGPUNvidia
    else if gpu.vendor = "amd" then .ok resourceGPUAMD
    else .error .panics

/-- `ram` volumes count for the memory limit. -/
def requestedMem : UInt64 :=
  (w.stored.resources.storage.filter fun vol =>
    (K.findPersistent vol.attributes).getD false = false ∧
      (K.findClass vol.attributes).getD "" = "ram").foldl (· + ·.quantity) 0

/-- A volume that is neither persistent nor of a class is ephemeral storage. -/
def isEphemeral (vol : Rtypes.Storage) : Bool :=
  (K.findPersistent vol.attributes).getD false = false ∧
    (K.findClass vol.attributes).getD "" = ""

def memoryAmounts (mem : Rtypes.Memory) : Int × Int :=
  let request := Go.int64 (K.computeCommittedResources w.settings.memoryCommitLevel mem.quantity)
  let limit := Go.int64 (mem.quantity + w.requestedMem K)
  if w.sidecarEnabled then
    if w.sparams.any (·.runtimeClass.isWithGPU) then
      besideSidecar minPrimaryMemoryBytes sidecarGPUMemoryRequestBytes sidecarGPUMemoryLimitBytes
        request limit
    else
      besideSidecar minPrimaryMemoryBytes sidecarMemoryRequestBytes sidecarMemoryLimitBytes
        request limit
  else (request, limit)

abbrev Amounts := ResourceList × ResourceList

def setAmount (amounts : Amounts) (name : String) (request limit : Quantity) : Amounts :=
  (ResourceList.set amounts.1 name request, ResourceList.set amounts.2 name limit)

/-- Each volume replaces the amount of the one before. -/
def addEphemeral (amounts : Amounts) (vol : Rtypes.Storage) : Amounts :=
  setAmount amounts resourceEphemeralStorage
    (1000 * Go.int64 (K.computeCommittedResources w.settings.storageCommitLevel vol.quantity))
    (1000 * Go.int64 vol.quantity)

def addCPU (amounts : Amounts) : Amounts :=
  match w.stored.resources.cpu with
  | none => amounts
  | some cpu => setAmount amounts resourceCPU (w.cpuAmounts K cpu).1 (w.cpuAmounts K cpu).2

def addGPU (amounts : Amounts) : Except BuildErr Amounts :=
  match w.stored.resources.gpu with
  | none => .ok amounts
  | some gpu =>
    if gpu.units > 0 then do
      let resourceName ← w.gpuResourceName
      .ok (setAmount amounts resourceName
        (1000 * Go.int64 (K.computeCommittedResources w.settings.gpuCommitLevel gpu.units))
        (1000 * Go.int64 gpu.units))
    else .ok amounts

def addInterconnect (amounts : Amounts) : Amounts :=
  match sparamsInterconnect w.sparams with
  | none => amounts
  | some ic =>
    if ic.enabled ∧ ic.resourceName ≠ "" then
      setAmount amounts ic.resourceName (1000 * Go.int64 ic.units) (1000 * Go.int64 ic.units)
    else amounts

def addMemory (amounts : Amounts) : Amounts :=
  match w.stored.resources.memory with
  | none => amounts
  | some mem =>
    setAmount amounts resourceMemory (1000 * (w.memoryAmounts K mem).1)
      (1000 * (w.memoryAmounts K mem).2)

def resourceAmounts : Except BuildErr Amounts := do
  let amounts ← w.addGPU K (w.addCPU K ([], []))
  let amounts := w.addInterconnect amounts
  let amounts :=
    (w.stored.resources.storage.filter (isEphemeral K)).foldl (w.addEphemeral K) amounts
  .ok (w.addMemory K amounts)

def addEnvVarsForDeployment (added : List String) (env : List EnvVar) : List EnvVar :=
  let lid := w.deployment.lid
  let env := addIfNotPresent added env "AKASH_GROUP_SEQUENCE" (formatUint32 lid.gseq)
  let env := addIfNotPresent added env "AKASH_DEPLOYMENT_SEQUENCE" (Go.formatUint lid.dseq)
  let env := addIfNotPresent added env "AKASH_ORDER_SEQUENCE" (formatUint32 lid.oseq)
  let env := addIfNotPresent added env "AKASH_OWNER" lid.owner
  let env := addIfNotPresent added env "AKASH_PROVIDER" lid.provider
  let env := addIfNotPresent added env "AKASH_CLUSTER_PUBLIC_HOSTNAME"
    w.settings.clusterPublicHostname
  match sparamsInterconnect w.sparams with
  | none => env
  | some ic =>
    if ic.enabled then
      let env := addIfNotPresent added env "NCCL_IB_DISABLE" "0"
      let hca := String.intercalate "," ic.ncclHCAPrefixes
      if hca ≠ "" then addIfNotPresent added env "NCCL_IB_HCA" hca else env
    else env

def volumeName (name : String) : String := w.stored.name ++ "-" ++ name

def container : Except BuildErr Container := do
  let (requests, limits) ← w.resourceAmounts K
  let env := w.stored.env.map envVar
  .ok
    { name := w.stored.name
      image := w.stored.image
      command := w.stored.command
      args := w.stored.args
      requests := requests
      limits := limits
      volumeMounts := (w.stored.params.elim [] (·.storage)).map fun p =>
        ⟨w.volumeName p.name, p.readOnly, p.mount⟩
      env := w.addEnvVarsForDeployment (env.map (·.name)) env
      ports := w.stored.expose.map fun expose => Go.int32 expose.port }

/-! ## Volumes -/

def storageMediumMemory : String := "Memory"

def volumes : List Volume :=
  (w.stored.resources.storage.filter (isRAMVolume K)).map fun vol =>
    ⟨w.volumeName vol.name, some ⟨storageMediumMemory, some (1000 * Go.int64 vol.quantity)⟩⟩

def isPersistent (vol : Rtypes.Storage) : Bool := K.findPersistent vol.attributes = some true

def persistentVolumeClaims : List PersistentVolumeClaim :=
  (w.stored.resources.storage.filter (isPersistent K)).map fun vol =>
    { name := w.volumeName vol.name
      requests := [(resourceStorage, 1000 * Go.int64 vol.quantity)]
      storageClassName := (K.findClass vol.attributes).filter (· ≠ "default") }

/-! ## Scheduling -/

def runtimeClass : Option String :=
  (w.sparams.map (·.runtimeClass)).filter fun rc => rc ≠ "" ∧ rc ≠ "none"

def replicas : Int := Go.int32 w.service.count

/-- A label that counts more than zero. -/
def labelGt (key : String) : NodeSelectorRequirement := ⟨key, .opGt, ["0"]⟩

def labelTrue (key : String) : NodeSelectorRequirement := ⟨key, .opIn, ["true"]⟩

def gpuModelKey (vendor model : String) : String :=
  akashServiceCapabilityGPU ++ ".vendor." ++ vendor ++ ".model." ++ model

def nodeSelectorsFromResources (res : SchedulerResources) : List NodeSelectorRequirement :=
  match res.gpu with
  | none => []
  | some gpu =>
    let key := gpuModelKey gpu.vendor gpu.model
    labelGt key ::
      (if gpu.memorySize ≠ "" then [labelGt (key ++ ".ram." ++ gpu.memorySize)] else []) ++
      if gpu.interface ≠ "" then [labelGt (key ++ ".interface." ++ gpu.interface)] else []

def runtimeSelectors (rc : RuntimeClass) : List NodeSelectorRequirement :=
  if rc.isWithCC then
    labelTrue "katacontainers.io/kata-runtime" ::
      (if (runtimeClassAttrs rc).any (·.snp) then
        [labelTrue "amd.feature.node.kubernetes.io/snp"] else []) ++
      (if (runtimeClassAttrs rc).any (·.tdx) then
        [labelTrue "intel.feature.node.kubernetes.io/tdx"] else []) ++
      if rc.isWithGPU then [labelTrue "nvidia.com/cc.ready.state"] else []
  else []

def storageClassKey (storageClass : String) : String :=
  akashServiceCapabilityStorage ++ ".class." ++ storageClass

def storageSelectors : List NodeSelectorRequirement :=
  (w.stored.resources.storage.filter (isPersistent K)).filterMap fun vol =>
    (K.findClass vol.attributes).map fun storageClass => labelGt (storageClassKey storageClass)

def affinity : Affinity where
  nodeAffinity :=
    labelTrue akashManagedLabelName ::
      ((w.sparams.bind (·.resources)).elim [] nodeSelectorsFromResources ++
        w.sparams.elim [] (fun p => runtimeSelectors p.runtimeClass) ++
        w.storageSelectors K)
  podAntiAffinity :=
    if w.stored.interconnectGroup ≠ "" then
      some ⟨[(akashInterconnectGroupLabelName, w.stored.interconnectGroup)],
        "kubernetes.io/hostname"⟩
    else none

/-! ## Permissions and credentials -/

def permissionsRead : List String :=
  ((w.stored.params.bind (·.permissions)).map (·.read)).getD []

def hasPermissions : Bool := w.permissionsRead ≠ []

/-- The rules of a resource that may be read; an unknown resource has none. -/
def readRules (resource : String) : List PolicyRule :=
  if resource = "logs" then
    [⟨[""], ["pods"], ["get", "list", "watch"]⟩, ⟨[""], ["pods/log"], ["get"]⟩,
      ⟨["apps"], ["deployments"], ["get", "list", "watch"]⟩]
  else if resource = "events" then [⟨[""], ["events"], ["get", "list", "watch"]⟩]
  else []

def buildPolicyRules : List PolicyRule := w.permissionsRead.eraseDups.flatMap readRules

def credentialsName : String := "docker-creds-" ++ w.service.name

def imagePullSecrets : List String :=
  let sname := if w.stored.credentials = none then w.settings.dockerImagePullSecretsName
    else w.credentialsName
  if sname = "" then [] else [sname]

/-- The labels of service accounts, roles and role bindings. -/
def accessLabels : Labels := appendLeaseLabels w.deployment.lid (w.labels K)

/-! ## Pods -/

/-- The pods of the service, next to pods with the labels `current`. -/
def podTemplate (current : Labels) : Except BuildErr PodTemplate := do
  let container ← w.container K
  .ok
    { labels := w.podLabels K current
      annotations := w.podAnnotations K
      affinity := w.affinity K
      runtimeClassName := w.runtimeClass
      automountServiceAccountToken := w.hasPermissions
      serviceAccountName := if w.hasPermissions then w.name else ""
      containers := [container]
      imagePullSecrets := w.imagePullSecrets
      volumes := w.volumes K }

end Workload

/-! ## Objects of a service -/

variable (w : Workload)

/-- One pod more may be missing during an update, none is added. -/
def rollingUpdate : DeploymentStrategy := ⟨1, 0⟩

def newDeployment : Builder .deployment where
  name := w.name
  create := do
    let template ← w.podTemplate K []
    .ok (newObject (k := .deployment) w.name (w.labels K)
      { selector := w.selectorLabels K
        strategy := rollingUpdate
        revisionHistoryLimit := some 10
        replicas := w.replicas
        template := template })
  update obj := do
    let spec : DeploymentSpec := obj.spec
    let template ← w.podTemplate K spec.template.labels
    .ok { obj with
      labels := updateAkashLabels obj.labels (w.labels K)
      spec := { spec with
        selector := w.selectorLabels K
        replicas := w.replicas
        template := template } }

def buildStatefulSet : Builder .statefulSet where
  name := w.name
  create := do
    let template ← w.podTemplate K []
    .ok (newObject (k := .statefulSet) w.name (w.labels K)
      { selector := w.selectorLabels K
        partition := 0
        maxUnavailable := 1
        revisionHistoryLimit := some 1
        replicas := w.replicas
        template := template
        volumeClaimTemplates := w.persistentVolumeClaims K })
  update obj := do
    let spec : StatefulSetSpec := obj.spec
    let template ← w.podTemplate K spec.template.labels
    .ok { obj with
      labels := updateAkashLabels obj.labels (w.labels K)
      spec := { spec with
        selector := w.selectorLabels K
        replicas := w.replicas
        template := template
        volumeClaimTemplates := w.persistentVolumeClaims K } }

def makeGlobalServiceNameFromBasename (basename : String) : String := basename ++ "-np"

namespace Workload

def serviceObjectName (requireNodePort : Bool) : String :=
  if requireNodePort then makeGlobalServiceNameFromBasename w.name else w.name

/-- Whether an expose belongs to the service with node ports, or to the other one. -/
def belongs (requireNodePort : Bool) (expose : Mani.ServiceExpose) : Bool :=
  if K.isIngress expose then !requireNodePort else expose.global = requireNodePort

def serviceAny (requireNodePort : Bool) : Bool :=
  w.service.expose.any (belongs K requireNodePort)

/-- One round over the exposes with their indices: an external port is taken once. -/
def addPort (requireNodePort : Bool) (ports : List (UInt32 × ServicePort))
    (e : Mani.ServiceExpose × Nat) : List (UInt32 × ServicePort) :=
  let externalPort := K.getExternalPort e.1
  if belongs K requireNodePort e.1 ∧ externalPort ∉ ports.map (·.1) then
    ports ++ [(externalPort,
      { name := toString e.2 ++ "-" ++ formatUint32 externalPort
        port := Go.int32 externalPort
        targetPort := Go.int32 e.1.port
        protocol := e.1.proto
        nodePort := 0 })]
  else ports

def servicePorts (requireNodePort : Bool) : Except BuildErr (List ServicePort) :=
  let ports := (w.service.expose.zipIdx.foldl (addPort K requireNodePort) []).map (·.2)
  if ports = [] then .error .invalidServiceBuilder else .ok ports

/-- The present port with the same values, the last one if there are several. -/
def retainPort (current : List ServicePort) (port : ServicePort) : ServicePort :=
  ((current.filter fun cur => cur.name = port.name ∧ cur.port = port.port ∧
    cur.targetPort = port.targetPort ∧ cur.protocol = port.protocol).getLast?).getD port

end Workload

def buildService (requireNodePort : Bool) : Builder .service where
  name := w.serviceObjectName requireNodePort
  create := do
    let ports ← w.servicePorts K requireNodePort
    .ok (newObject (k := .service) (w.serviceObjectName requireNodePort) (w.labels K)
      { type := if requireNodePort then .nodePort else .clusterIP
        selector := w.selectorLabels K
        ports := ports })
  update obj := do
    let spec : ServiceSpec := obj.spec
    let ports ← w.servicePorts K requireNodePort
    .ok { obj with
      labels := updateAkashLabels obj.labels (w.labels K)
      spec := { spec with
        selector := w.selectorLabels K
        -- node ports that were assigned are kept
        ports := if requireNodePort then ports.map (Workload.retainPort spec.ports) else ports } }

def encodeSecret (credentials : Mani.ImageCredentials) : DockerCredentials :=
  let username := K.trimSpace credentials.username
  let password := K.trimSpace credentials.password
  { host := credentials.host
    username := username
    password := password
    email := K.trimSpace credentials.email
    auth := K.base64 (username ++ ":" ++ password) }

def newServiceCredentials (credentials : Mani.ImageCredentials) : Builder .secret where
  name := w.credentialsName
  create := .ok (newObject (k := .secret) w.credentialsName (w.labels K)
    (encodeSecret K credentials))
  update obj := .ok { obj with
    labels := updateAkashLabels obj.labels (w.labels K)
    spec := encodeSecret K credentials }

def buildServiceAccount : Builder .serviceAccount where
  name := w.name
  create := .ok (newObject (k := .serviceAccount) w.name (w.accessLabels K) ())
  update obj := .ok { obj with
    name := w.name
    labels := updateAkashLabels obj.labels (w.accessLabels K) }

def buildRole : Builder .role where
  name := w.name
  create := .ok (newObject (k := .role) w.name (w.accessLabels K) w.buildPolicyRules)
  update obj := .ok { obj with
    name := w.name
    labels := updateAkashLabels obj.labels (w.accessLabels K)
    spec := w.buildPolicyRules }

/-- The role and the account of the service, which have its name. -/
def roleBindingSpec : RoleBindingSpec := ⟨w.name, w.name, w.deployment.ns K⟩

def buildRoleBinding : Builder .roleBinding where
  name := w.name
  create := .ok (newObject (k := .roleBinding) w.name (w.accessLabels K) (roleBindingSpec K w))
  update obj := .ok { obj with
    name := w.name
    labels := updateAkashLabels obj.labels (w.accessLabels K)
    spec := roleBindingSpec K w }

end AkashProvider.Kube
