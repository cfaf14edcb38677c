import AkashProvider.Lib.Strconv
import AkashProvider.Types.Cluster

/-!
# Manifests, received and stored

`Mani` has the manifest a tenant sends, as far as the provider keeps it.  `Crd` has
the form it is stored in: sizes are decimal text, ports have 16 bits, CPU and GPU
units have 32, and proxy options are flat.

`ManifestSdk` has the functions of other packages that encoding and decoding call.
-/

namespace AkashProvider

/-! ## The manifest of a tenant -/

namespace Mani

inductive ServiceProtocol where
  | tcp
  | udp
deriving DecidableEq

structure ProxyOptions where
  bufferingDisable : Bool
  bufferSize : UInt32
  buffersNumber : UInt32
  buffersSize : UInt32
  busyBuffersSize : UInt32
  connectTimeout : UInt32
deriving DecidableEq

def ProxyOptions.zero : ProxyOptions := ⟨false, 0, 0, 0, 0, 0⟩

structure ServiceExposeHTTPOptions where
  maxBodySize : UInt32
  readTimeout : UInt32
  sendTimeout : UInt32
  nextTries : UInt32
  nextTimeout : UInt32
  nextCases : List String
  proxy : Option ProxyOptions
deriving DecidableEq

structure ServiceExpose where
  port : UInt32
  externalPort : UInt32
  proto : ServiceProtocol
  service : String
  global : Bool
  hosts : List String
  httpOptions : ServiceExposeHTTPOptions
  ip : String
  endpointSequenceNumber : UInt32
deriving DecidableEq

structure StorageParams where
  name : String
  mount : String
  readOnly : Bool
deriving DecidableEq

structure ServicePermissions where
  read : List String
deriving DecidableEq

structure TEEParams where
  type : String
  attestation : Bool
deriving DecidableEq

structure ServiceParams where
  storage : List StorageParams
  permissions : Option ServicePermissions
  tee : Option TEEParams
deriving DecidableEq

structure ImageCredentials where
  host : String
  email : String
  username : String
  password : String
deriving DecidableEq

structure Service where
  name : String
  image : String
  command : List String
  args : List String
  env : List String
  resources : Rtypes.Resources
  count : UInt32
  expose : List ServiceExpose
  params : Option ServiceParams
  credentials : Option ImageCredentials
  interconnectGroup : String
deriving DecidableEq

structure Group where
  name : String
  services : List Service
deriving DecidableEq

abbrev Manifest := List Group

end Mani

def allHostnamesOfManifestGroup (mgroup : Mani.Group) : List String :=
  mgroup.services.flatMap fun service => service.expose.flatMap (·.hosts)

/-! ## The stored manifest -/

namespace Crd

structure LeaseID where
  owner : String
  dseq : String
  gseq : UInt32
  oseq : UInt32
  provider : String
deriving DecidableEq

structure ResourceCPU where
  units : UInt32
  attributes : Attributes
deriving DecidableEq

structure ResourceGPU where
  units : UInt32
  attributes : Attributes
deriving DecidableEq

structure ResourceMemory where
  size : String
  attributes : Attributes
deriving DecidableEq

structure ResourceVolume where
  name : String
  size : String
  attributes : Attributes
deriving DecidableEq

structure Resources where
  id : UInt32
  cpu : ResourceCPU
  gpu : ResourceGPU
  memory : ResourceMemory
  storage : List ResourceVolume
deriving DecidableEq

structure ManifestServiceExposeHTTPOptions where
  maxBodySize : UInt32
  readTimeout : UInt32
  sendTimeout : UInt32
  nextTries : UInt32
  nextTimeout : UInt32
  nextCases : List String
  proxyBufferingDisable : Bool
  proxyBufferSize : UInt32
  proxyBuffersNumber : UInt32
  proxyBuffersSize : UInt32
  proxyBusyBuffersSize : UInt32
  proxyConnectTimeout : UInt32
deriving DecidableEq

structure ManifestServiceExpose where
  port : UInt16
  externalPort : UInt16
  proto : String
  service : String
  global : Bool
  hosts : List String
  httpOptions : ManifestServiceExposeHTTPOptions
  ip : String
  endpointSequenceNumber : UInt32
deriving DecidableEq

structure ManifestStorageParams where
  name : String
  mount : String
  readOnly : Bool
deriving DecidableEq

structure ManifestServicePermissions where
  read : List String
  write : List String
  delete : List String
deriving DecidableEq

structure ManifestServiceParams where
  storage : List ManifestStorageParams
  permissions : Option ManifestServicePermissions
deriving DecidableEq

structure ManifestServiceCredentials where
  host : String
  email : String
  username : String
  password : String
deriving DecidableEq

structure ManifestService where
  name : String
  image : String
  command : List String
  args : List String
  env : List String
  resources : Resources
  count : UInt32
  expose : List ManifestServiceExpose
  params : Option ManifestServiceParams
  schedulerParams : Option SchedulerParams
  credentials : Option ManifestServiceCredentials
  interconnectGroup : String
deriving DecidableEq

structure ManifestGroup where
  name : String
  services : List ManifestService
deriving DecidableEq

structure ManifestSpec where
  leaseID : LeaseID
  group : ManifestGroup
deriving DecidableEq

/-- `Manifest`, with the metadata that is set or read. -/
structure Manifest where
  kind : String
  apiVersion : String
  name : String
  ns : String
  resourceVersion : String
  spec : ManifestSpec

/-- What `Manifest.Deployment` returns. -/
structure Deployment where
  lid : AkashProvider.LeaseID
  group : Mani.Group
  cparams : ReservationClusterSettings
  resourceVersion : String

/-! ## Errors -/

inductive EncodeErr where
  | servicesCount (services scheduled : Nat)
  | cpuOverflow
  | gpuOverflow
deriving DecidableEq

/-- The errors of decoding, each from a parser of another package. -/
inductive DecodeErr where
  | address (text : String)
  | number (err : Go.NumError)
  | protocol (text : String)
deriving DecidableEq

end Crd

/-! ## Other packages -/

structure ManifestSdk where
  /-- `sdk.AccAddressFromBech32`, with the address written back by `String`. -/
  accAddressFromBech32 : String → Option String
  protocolToString : Mani.ServiceProtocol → String
  parseServiceProtocol : String → Option Mani.ServiceProtocol
  /-- `GetResourceUnits` of the services of a group. -/
  resourceUnits : List Mani.Service → ResourceUnits
  leaseIDToNamespace : LeaseID → String

def Mani.Service.unit (svc : Mani.Service) : ResourceUnit := ⟨svc.resources, svc.count.toNat⟩

/-- What the other packages document. -/
@[grind cases]
structure ManifestSdk.Lawful (S : ManifestSdk) : Prop where
  parse_toString : ∀ p, S.parseServiceProtocol (S.protocolToString p) = some p
  /-- Services with distinct resource IDs are units of their own. -/
  resourceUnits_perm : ∀ services : List Mani.Service,
    (services.map (·.resources.id)).Nodup → (S.resourceUnits services).Perm (services.map (·.unit))

def ManifestSdk.reference : ManifestSdk where
  accAddressFromBech32 s := if s = "" then none else some s
  protocolToString
    | .tcp => "TCP"
    | .udp => "UDP"
  parseServiceProtocol s :=
    if s = "TCP" ∨ s = "tcp" then some .tcp
    else if s = "UDP" ∨ s = "udp" then some .udp
    else none
  resourceUnits services := services.map (·.unit)
  leaseIDToNamespace lid := lid.owner ++ "/" ++ Go.formatUint lid.dseq

theorem ManifestSdk.reference_lawful : ManifestSdk.reference.Lawful where
  parse_toString p := by cases p <;> rfl
  resourceUnits_perm _ _ := List.Perm.refl _

/-- A service without parameters. -/
def plainService (name image : String) (expose : List Mani.ServiceExpose) : Mani.Service where
  name := name
  image := image
  command := []
  args := []
  env := []
  resources := ⟨1, some ⟨100, []⟩, some ⟨1000, []⟩, [], some ⟨0, []⟩, []⟩
  count := 1
  expose := expose
  params := none
  credentials := none
  interconnectGroup := ""

end AkashProvider
