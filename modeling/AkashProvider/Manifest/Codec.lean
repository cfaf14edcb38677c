import AkashProvider.Lib.Except
import AkashProvider.Manifest.Types

/-!
# Storing a manifest and reading it back

`newManifest` encodes the group of a lease with the scheduler parameters of its
services.  `Manifest.deployment` decodes it when the provider starts.
-/

namespace AkashProvider

open Crd (ClusterSettings SchedulerParams ReservationClusterSettings EncodeErr DecodeErr)

variable (S : ManifestSdk)

/-! ## Lease IDs -/

def Crd.leaseIDFromAkash (id : AkashProvider.LeaseID) : Crd.LeaseID where
  owner := id.owner
  dseq := Go.formatUint id.dseq
  gseq := id.gseq
  oseq := id.oseq
  provider := id.provider

def ManifestSdk.address (text : String) : Except DecodeErr String :=
  match S.accAddressFromBech32 text with
  | none => .error (.address text)
  | some a => .ok a

def Crd.LeaseID.fromCRD (id : Crd.LeaseID) : Except DecodeErr AkashProvider.LeaseID := do
  let owner ← S.address id.owner
  let provider ← S.address id.provider
  match Go.parseUint id.dseq with
  | (_, some err) => .error (.number err)
  | (dseq, none) => .ok ⟨owner, dseq, id.gseq, id.oseq, provider⟩

/-! ## Resources -/

def maxUint32 : UInt64 := 4294967295

/-- Units that have to fit 32 bits. -/
def units32 (err : EncodeErr) (units : Rtypes.ResourceValue) : Except EncodeErr UInt32 :=
  if units > maxUint32 then .error err else .ok units.toUInt32

def cpuFromAkash : Option Rtypes.CPU → Except EncodeErr Crd.ResourceCPU
  | none => .ok ⟨0, []⟩
  | some cpu => (units32 .cpuOverflow cpu.units).map fun units => ⟨units, cpu.attributes⟩

def gpuFromAkash : Option Rtypes.GPU → Except EncodeErr Crd.ResourceGPU
  | none => .ok ⟨0, []⟩
  | some gpu => (units32 .gpuOverflow gpu.units).map fun units => ⟨units, gpu.attributes⟩

def memoryFromAkash : Option Rtypes.Memory → Crd.ResourceMemory
  | none => ⟨"", []⟩
  | some memory => ⟨Go.formatUint memory.quantity, memory.attributes⟩

/-- `resourcesFromAkash`.  What is nil leaves the zero value. -/
def resourcesFromAkash (aru : Rtypes.Resources) : Except EncodeErr Crd.Resources := do
  let cpu ← cpuFromAkash aru.cpu
  let gpu ← gpuFromAkash aru.gpu
  .ok
    { id := aru.id
      cpu := cpu
      gpu := gpu
      memory := memoryFromAkash aru.memory
      storage := aru.storage.map fun vol => ⟨vol.name, Go.formatUint vol.quantity, vol.attributes⟩ }

def Crd.ResourceVolume.toAkash (ru : Crd.ResourceVolume) : Rtypes.Storage :=
  -- the error of the parser is dropped
  ⟨ru.name, (Go.parseUint ru.size).1, ru.attributes⟩

/-- `Resources.ToAkash`.  No endpoints are stored. -/
def Crd.Resources.toAkash (ru : Crd.Resources) : Rtypes.Resources where
  id := ru.id
  cpu := some ⟨ru.cpu.units.toUInt64, ru.cpu.attributes⟩
  gpu := some ⟨ru.gpu.units.toUInt64, ru.gpu.attributes⟩
  memory := some ⟨(Go.parseUint ru.memory.size).1, ru.memory.attributes⟩
  storage := ru.storage.map (·.toAkash)
  endpoints := []

/-! ## Exposes -/

/-- `manifestServiceExposeFromAkash`: ports are cut to 16 bits, and no proxy options are
stored as zeros. -/
def manifestServiceExposeFromAkash (amse : Mani.ServiceExpose) : Crd.ManifestServiceExpose :=
  let p := amse.httpOptions.proxy.getD .zero
  { port := amse.port.toUInt16
    externalPort := amse.externalPort.toUInt16
    proto := S.protocolToString amse.proto
    service := amse.service
    global := amse.global
    hosts := amse.hosts
    ip := amse.ip
    endpointSequenceNumber := amse.endpointSequenceNumber
    httpOptions :=
      { maxBodySize := amse.httpOptions.maxBodySize
        readTimeout := amse.httpOptions.readTimeout
        sendTimeout := amse.httpOptions.sendTimeout
        nextTries := amse.httpOptions.nextTries
        nextTimeout := amse.httpOptions.nextTimeout
        nextCases := amse.httpOptions.nextCases
        proxyBufferingDisable := p.bufferingDisable
        proxyBufferSize := p.bufferSize
        proxyBuffersNumber := p.buffersNumber
        proxyBuffersSize := p.buffersSize
        proxyBusyBuffersSize := p.busyBuffersSize
        proxyConnectTimeout := p.connectTimeout } }

/-- `proxyToAkash`: no options if nothing is set. -/
def Crd.ManifestServiceExposeHTTPOptions.proxyToAkash
    (o : Crd.ManifestServiceExposeHTTPOptions) : Option Mani.ProxyOptions :=
  if !o.proxyBufferingDisable ∧ o.proxyBufferSize = 0 ∧ o.proxyBuffersNumber = 0 ∧
      o.proxyBuffersSize = 0 ∧ o.proxyBusyBuffersSize = 0 ∧ o.proxyConnectTimeout = 0 then none
  else
    some
      { bufferingDisable := o.proxyBufferingDisable
        bufferSize := o.proxyBufferSize
        buffersNumber := o.proxyBuffersNumber
        buffersSize := o.proxyBuffersSize
        busyBuffersSize := o.proxyBusyBuffersSize
        connectTimeout := o.proxyConnectTimeout }

def Crd.ManifestServiceExpose.toAkash (mse : Crd.ManifestServiceExpose) :
    Except DecodeErr Mani.ServiceExpose :=
  match S.parseServiceProtocol mse.proto with
  | none => .error (.protocol mse.proto)
  | some proto =>
    .ok
      { port := mse.port.toUInt32
        externalPort := mse.externalPort.toUInt32
        proto := proto
        service := mse.service
        global := mse.global
        hosts := mse.hosts
        endpointSequenceNumber := mse.endpointSequenceNumber
        ip := mse.ip
        httpOptions :=
          { maxBodySize := mse.httpOptions.maxBodySize
            readTimeout := mse.httpOptions.readTimeout
            sendTimeout := mse.httpOptions.sendTimeout
            nextTries := mse.httpOptions.nextTries
            nextTimeout := mse.httpOptions.nextTimeout
            nextCases := mse.httpOptions.nextCases
            proxy := mse.httpOptions.proxyToAkash } }

/-! ## Services -/

/-- The scheduler parameters that are stored: those of the reservation, with the TEE
parameters of the service on top. -/
def withTEEParams (params : Option Mani.ServiceParams) (sp : Option SchedulerParams) :
    Option SchedulerParams :=
  match params.bind (·.tee) with
  | none => sp
  | some tee =>
    let sp := sp.getD .zero
    some { sp with
      teeType := tee.type
      attestationDisabled := if tee.attestation then sp.attestationDisabled else true }

def manifestParamsFromProvider (params : Mani.ServiceParams) : Crd.ManifestServiceParams where
  storage := params.storage.map fun s => ⟨s.name, s.mount, s.readOnly⟩
  permissions := params.permissions.map fun p => ⟨p.read, [], []⟩

def manifestServiceFromProvider (ams : Mani.Service) (schedulerParams : Option SchedulerParams) :
    Except EncodeErr Crd.ManifestService := do
  let resources ← resourcesFromAkash ams.resources
  .ok
    { name := ams.name
      image := ams.image
      command := ams.command
      args := ams.args
      env := ams.env
      resources := resources
      count := ams.count
      expose := ams.expose.map (manifestServiceExposeFromAkash S)
      params := ams.params.map manifestParamsFromProvider
      schedulerParams := withTEEParams ams.params schedulerParams
      credentials := ams.credentials.map fun c => ⟨c.host, c.email, c.username, c.password⟩
      interconnectGroup := ams.interconnectGroup }

/-- One round of the loop over exposes: the expose is decoded, and its endpoint is appended to
`res` if it has an IP. -/
def exposeFromCRD (acc : List Mani.ServiceExpose × Rtypes.Resources)
    (mse : Crd.ManifestServiceExpose) :
    Except DecodeErr (List Mani.ServiceExpose × Rtypes.Resources) := do
  let value ← mse.toAkash S
  let res := acc.2
  .ok (acc.1 ++ [value],
    if value.ip ≠ "" then
      { res with endpoints := res.endpoints ++ [⟨.leasedIP, value.endpointSequenceNumber⟩] }
    else res)

def paramsFromCRD (params : Crd.ManifestServiceParams) : Mani.ServiceParams where
  storage := params.storage.map fun s => ⟨s.name, s.mount, s.readOnly⟩
  permissions := params.permissions.map fun p => ⟨p.read⟩
  tee := none

def Crd.ManifestService.fromCRD (ms : Crd.ManifestService) : Except DecodeErr Mani.Service := do
  let res := ms.resources.toAkash
  -- `ams.Resources` is a copy of `res`, and the loop below appends to `res`
  let resources := res
  let (expose, _) ← ms.expose.foldlM (exposeFromCRD S) ([], res)
  .ok
    { name := ms.name
      image := ms.image
      command := ms.command
      args := ms.args
      env := ms.env
      resources := resources
      count := ms.count
      expose := expose
      params := ms.params.map paramsFromCRD
      credentials := ms.credentials.map fun c => ⟨c.host, c.email, c.username, c.password⟩
      interconnectGroup := ms.interconnectGroup }

/-! ## Groups and manifests -/

/-- `manifestGroupToCRD`, for as many scheduler parameters as services. -/
def manifestGroupToCRD (m : Mani.Group) (settings : ClusterSettings) :
    Except EncodeErr Crd.ManifestGroup := do
  let services ← (m.services.zip settings.schedulerParams).mapM fun e =>
    manifestServiceFromProvider S e.1 e.2
  .ok ⟨m.name, services⟩

def newManifest (ns : String) (lid : LeaseID) (mgroup : Mani.Group) (settings : ClusterSettings) :
    Except EncodeErr Crd.Manifest :=
  if mgroup.services.length ≠ settings.schedulerParams.length then
    .error (.servicesCount mgroup.services.length settings.schedulerParams.length)
  else do
    let group ← manifestGroupToCRD S mgroup settings
    .ok
      { kind := "Manifest"
        apiVersion := "akash.network/v2beta2"
        name := S.leaseIDToNamespace lid
        ns := ns
        resourceVersion := ""
        spec := ⟨Crd.leaseIDFromAkash lid, group⟩ }

def Crd.ManifestGroup.fromCRD (m : Crd.ManifestGroup) :
    Except DecodeErr (Mani.Group × List (Option SchedulerParams)) := do
  let services ← m.services.mapM (·.fromCRD S)
  .ok (⟨m.name, services⟩, m.services.map (·.schedulerParams))

/-- The map of `Deployment`: a later service with the same resource ID replaces an earlier one. -/
def reservationParams (services : List Mani.Service)
    (schedulerParams : List (Option SchedulerParams)) : ReservationClusterSettings :=
  (services.zip schedulerParams).foldl (fun m e => (e.1.resources.id, e.2) :: m) []

def Crd.Manifest.deployment (m : Crd.Manifest) : Except DecodeErr Crd.Deployment := do
  let lid ← m.spec.leaseID.fromCRD S
  let (group, schedulerParams) ← m.spec.group.fromCRD S
  .ok
    { lid := lid
      group := group
      cparams := reservationParams group.services schedulerParams
      resourceVersion := m.resourceVersion }

end AkashProvider
