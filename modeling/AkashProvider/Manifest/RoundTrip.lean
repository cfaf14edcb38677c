import AkashProvider.Manifest.Codec
import AkashProvider.Lib.Assoc
import AkashProvider.Service.Reservation

/-!
# What is read back is what was stored

Decoding an encoded manifest gives each service back up to three things (`Mani.Service.stored`):
the TEE parameters, proxy options with nothing set, and the endpoints, of which those for leased
IPs are appended to a copy that is not returned.  So a lease with a leased IP is recovered as a
reservation that needs none (`manifest_round_trip_iff`).
-/

namespace AkashProvider

open Crd (ClusterSettings SchedulerParams)

variable {S : ManifestSdk}

/-! ## The round trip -/

/-- The LEASED_IP endpoints that exposes ask for. -/
def leasedEndpoints (exposes : List Mani.ServiceExpose) : List Rtypes.Endpoint :=
  exposes.filterMap fun e =>
    if e.ip ≠ "" then some ⟨.leasedIP, e.endpointSequenceNumber⟩ else none

/-- `svc'` has everything of `svc` that the provider needs again. -/
@[grind cases]
structure Mani.Service.SameAs (svc svc' : Mani.Service) : Prop where
  name : svc'.name = svc.name
  image : svc'.image = svc.image
  command : svc'.command = svc.command
  args : svc'.args = svc.args
  env : svc'.env = svc.env
  count : svc'.count = svc.count
  id : svc'.resources.id = svc.resources.id
  cpu : svc'.resources.cpu = svc.resources.cpu
  gpu : svc'.resources.gpu = svc.resources.gpu
  memory : svc'.resources.memory = svc.resources.memory
  storage : svc'.resources.storage = svc.resources.storage
  endpoints : svc'.resources.endpoints.filter (·.kind = .leasedIP) = leasedEndpoints svc.expose
  expose : svc'.expose = svc.expose
  storageParams : svc'.params.map (·.storage) = svc.params.map (·.storage)
  permissions : svc'.params.bind (·.permissions) = svc.params.bind (·.permissions)
  credentials : svc'.credentials = svc.credentials
  interconnectGroup : svc'.interconnectGroup = svc.interconnectGroup

/-- The distinct leased IPs that the exposes of a group ask for. -/
def exposedIPs (services : List Mani.Service) : Nat :=
  getEndpointQuantityOfResourceGroup (services.map fun svc =>
    ⟨{ svc.resources with endpoints := leasedEndpoints svc.expose }, svc.count.toNat⟩) .leasedIP

/-- The deployment as `newInventoryService` sees it. -/
def Crd.Deployment.toIDeployment (S : ManifestSdk) (d : Crd.Deployment) :
    AkashProvider.Deployment where
  leaseID := d.lid
  manifestGroup := .other d.group.name (S.resourceUnits d.group.services)
  clusterParams := .reservationSettings d.cparams

/-- The stored manifest of a lease is read back as that lease. -/
def RoundTrip (S : ManifestSdk) (lid : LeaseID) (g : Mani.Group) (m : Crd.Manifest) : Prop :=
  ∃ d, m.deployment S = .ok d ∧ d.lid = lid ∧ d.group.name = g.name ∧
    List.Forall₂ Mani.Service.SameAs g.services d.group.services ∧
    (∀ (i : Nat) (svc : Mani.Service) (ms : Crd.ManifestService), g.services[i]? = some svc →
      m.spec.group.services[i]? = some ms →
        d.cparams.lookup svc.resources.id = some ms.schedulerParams) ∧
    (recoveredReservation (d.toIDeployment S)).endpointQuantity = exposedIPs g.services

/-- The addresses of a lease are written the way the SDK writes them. -/
def ManifestSdk.CanonicalLease (S : ManifestSdk) (lid : LeaseID) : Prop :=
  S.accAddressFromBech32 lid.owner = some lid.owner ∧
    S.accAddressFromBech32 lid.provider = some lid.provider

/-- What the encoder relies on without checking it. -/
@[grind cases]
structure Mani.Service.Storable (svc : Mani.Service) : Prop where
  cpu : svc.resources.cpu.isSome
  gpu : svc.resources.gpu.isSome
  memory : svc.resources.memory.isSome
  ports : ∀ e ∈ svc.expose, e.port.toNat < 65536 ∧ e.externalPort.toNat < 65536

/-! ## What is stored -/

def Mani.ServiceExpose.stored (e : Mani.ServiceExpose) : Mani.ServiceExpose :=
  { e with httpOptions.proxy :=
      if e.httpOptions.proxy = some .zero then none else e.httpOptions.proxy }

def Mani.Service.stored (svc : Mani.Service) : Mani.Service :=
  { svc with
    resources := { svc.resources with endpoints := [] }
    expose := svc.expose.map (·.stored)
    params := svc.params.map fun p => { p with tee := none } }

theorem proxyToAkash_fromAkash (S : ManifestSdk) (e : Mani.ServiceExpose) :
    (manifestServiceExposeFromAkash S e).httpOptions.proxyToAkash = e.stored.httpOptions.proxy := by
  cases hp : e.httpOptions.proxy with
  | none =>
    simp [manifestServiceExposeFromAkash, Crd.ManifestServiceExposeHTTPOptions.proxyToAkash,
      Mani.ServiceExpose.stored, hp, Mani.ProxyOptions.zero]
  | some p =>
    obtain ⟨disable, size, number, sizes, busy, timeout⟩ := p
    simp only [manifestServiceExposeFromAkash,
      Crd.ManifestServiceExposeHTTPOptions.proxyToAkash, Mani.ServiceExpose.stored, hp,
      Option.getD_some, Option.some.injEq, Bool.not_eq_true', Mani.ProxyOptions.zero,
      Mani.ProxyOptions.mk.injEq]

theorem toUInt32_toUInt16 {n : UInt32} (h : n.toNat < 65536) : n.toUInt16.toUInt32 = n := by
  apply UInt32.toNat_inj.mp
  simp_all

theorem units32_eq_ok {err : Crd.EncodeErr} {n : Rtypes.ResourceValue} {units : UInt32}
    (h : units32 err n = .ok units) : units.toUInt64 = n := by
  simp only [units32] at h
  split at h
  next => cases h
  next hle =>
    injection h with h
    subst h
    have hlt : n.toNat ≤ 4294967295 := UInt64.le_iff_toNat_le.mp (UInt64.not_lt.mp hle)
    apply UInt64.toNat_inj.mp
    rw [UInt32.toNat_toUInt64, UInt64.toNat_toUInt32, Nat.mod_eq_of_lt (by omega)]

variable {e : Mani.ServiceExpose}

theorem expose_toAkash (hS : S.Lawful)
    (hport : e.port.toNat < 65536 ∧ e.externalPort.toNat < 65536) :
    (manifestServiceExposeFromAkash S e).toAkash S = .ok e.stored := by
  have hproto : S.parseServiceProtocol (manifestServiceExposeFromAkash S e).proto =
    some e.proto := hS.parse_toString e.proto
  simp only [Crd.ManifestServiceExpose.toAkash, hproto, proxyToAkash_fromAkash]
  simp only [manifestServiceExposeFromAkash, toUInt32_toUInt16 hport.1, toUInt32_toUInt16 hport.2]
  rfl

variable {exposes : List Mani.ServiceExpose}

theorem exposes_fromCRD (hS : S.Lawful)
    (hports : ∀ e ∈ exposes, e.port.toNat < 65536 ∧ e.externalPort.toNat < 65536) :
    ∀ acc : List Mani.ServiceExpose × Rtypes.Resources, ∃ res,
      (exposes.map (manifestServiceExposeFromAkash S)).foldlM (exposeFromCRD S) acc =
        .ok (acc.1 ++ exposes.map (·.stored), res) := by
  induction exposes with
  | nil =>
    intro acc
    refine ⟨acc.2, ?_⟩
    rw [List.map_nil, List.map_nil, List.append_nil]
    rfl
  | cons e rest ih =>
    intro acc
    obtain ⟨he, hrest⟩ := List.forall_mem_cons.mp hports
    obtain ⟨res₁, hround⟩ : ∃ res₁, exposeFromCRD S acc (manifestServiceExposeFromAkash S e) =
        .ok (acc.1 ++ [e.stored], res₁) := by
      rw [exposeFromCRD, expose_toAkash hS he]
      exact ⟨_, rfl⟩
    obtain ⟨res, hres⟩ := ih hrest (acc.1 ++ [e.stored], res₁)
    refine ⟨res, ?_⟩
    rw [List.map_cons, List.foldlM_cons, hround]
    refine hres.trans ?_
    rw [List.map_cons, List.append_assoc, List.singleton_append]

theorem resources_toAkash {aru : Rtypes.Resources} {ru : Crd.Resources}
    (h : resourcesFromAkash aru = .ok ru) (hcpu : aru.cpu.isSome) (hgpu : aru.gpu.isSome)
    (hmemory : aru.memory.isSome) : ru.toAkash = { aru with endpoints := [] } := by
  obtain ⟨cpu, hcpu⟩ := Option.isSome_iff_exists.mp hcpu
  obtain ⟨gpu, hgpu⟩ := Option.isSome_iff_exists.mp hgpu
  obtain ⟨memory, hmemory⟩ := Option.isSome_iff_exists.mp hmemory
  have hvolumes : (aru.storage.map fun vol => (⟨vol.name, Go.formatUint vol.quantity,
      vol.attributes⟩ : Crd.ResourceVolume)).map (·.toAkash) = aru.storage := by
    rw [List.map_map]
    refine (List.map_congr_left fun vol _ => ?_).trans (List.map_id _)
    simp [Crd.ResourceVolume.toAkash, Go.parseUint_formatUint]
  obtain ⟨c, hc, h⟩ := Except.exists_of_bind_eq_ok h
  obtain ⟨g, hg, h⟩ := Except.exists_of_bind_eq_ok h
  injection h with h
  subst h
  rw [hcpu] at hc
  rw [hgpu] at hg
  obtain ⟨cunits, hcunits, rfl⟩ := Except.exists_of_map_eq_ok hc
  obtain ⟨gunits, hgunits, rfl⟩ := Except.exists_of_map_eq_ok hg
  simp only [Crd.Resources.toAkash, hvolumes, units32_eq_ok hcunits, units32_eq_ok hgunits,
    hmemory, memoryFromAkash, Go.parseUint_formatUint, hcpu, hgpu]

theorem paramsFromCRD_fromProvider (p : Mani.ServiceParams) :
    paramsFromCRD (manifestParamsFromProvider p) = { p with tee := none } := by
  obtain ⟨storage, permissions, tee⟩ := p
  have hpermissions : (permissions.map fun p => (⟨p.read, [], []⟩ :
      Crd.ManifestServicePermissions)).map (fun p => (⟨p.read⟩ : Mani.ServicePermissions)) =
        permissions := by
    cases permissions <;> rfl
  simp only [paramsFromCRD, manifestParamsFromProvider, hpermissions, List.map_map]
  congr 1
  exact List.map_id _

variable {sp : Option SchedulerParams} {svc : Mani.Service}

theorem service_fromCRD (hS : S.Lawful) {ms : Crd.ManifestService}
    (h : manifestServiceFromProvider S svc sp = .ok ms) (hsvc : svc.Storable) :
    ms.fromCRD S = .ok svc.stored := by
  obtain ⟨ru, hru, hms⟩ := Except.exists_of_bind_eq_ok h
  injection hms with hms
  subst hms
  have hres := resources_toAkash hru hsvc.cpu hsvc.gpu hsvc.memory
  have hparams : (svc.params.map manifestParamsFromProvider).map paramsFromCRD =
      svc.params.map fun p => { p with tee := none } := by
    rw [Option.map_map]
    exact congrArg (svc.params.map ·) (funext paramsFromCRD_fromProvider)
  have hcredentials : (svc.credentials.map fun c => (⟨c.host, c.email, c.username, c.password⟩ :
      Crd.ManifestServiceCredentials)).map (fun c => (⟨c.host, c.email, c.username, c.password⟩ :
        Mani.ImageCredentials)) = svc.credentials := by
    cases svc.credentials <;> rfl
  -- the resources that collect the endpoints are not the ones the service gets
  obtain ⟨res, hexposes⟩ := exposes_fromCRD hS hsvc.ports ([], ru.toAkash)
  rw [hres] at hexposes
  simp only [Crd.ManifestService.fromCRD, hparams, hcredentials, hres, hexposes]
  rfl

/-! ## Leases and groups -/

theorem address_eq_ok_iff {text a : String} :
    S.address text = .ok a ↔ S.accAddressFromBech32 text = some a := by
  grind [ManifestSdk.address]

variable {lid : LeaseID}

theorem leaseID_fromCRD_iff :
    (Crd.leaseIDFromAkash lid).fromCRD S = .ok lid ↔ S.CanonicalLease lid := by
  obtain ⟨owner, dseq, gseq, oseq, provider⟩ := lid
  constructor
  · intro h
    obtain ⟨owner', howner, h⟩ := Except.exists_of_bind_eq_ok h
    obtain ⟨provider', hprovider, h⟩ := Except.exists_of_bind_eq_ok h
    simp only [Crd.leaseIDFromAkash, Go.parseUint_formatUint, Except.ok.injEq,
      LeaseID.mk.injEq, true_and] at h
    obtain ⟨rfl, rfl⟩ := h
    exact ⟨address_eq_ok_iff.mp howner, address_eq_ok_iff.mp hprovider⟩
  · rintro ⟨howner, hprovider⟩
    simp only [Crd.LeaseID.fromCRD, Crd.leaseIDFromAkash, address_eq_ok_iff.mpr howner,
      address_eq_ok_iff.mpr hprovider, Go.parseUint_formatUint]
    rfl

variable {g : Mani.Group} {m : Crd.Manifest} {ns : String} {settings : ClusterSettings}

theorem newManifest_services (h : newManifest S ns lid g settings = .ok m) :
    m.spec.leaseID = Crd.leaseIDFromAkash lid ∧ m.spec.group.name = g.name ∧
      g.services.length = settings.schedulerParams.length ∧
      List.Forall₂ (fun e ms => manifestServiceFromProvider S e.1 e.2 = .ok ms)
        (g.services.zip settings.schedulerParams) m.spec.group.services := by
  simp only [newManifest] at h
  split at h
  next => cases h
  next hlen =>
    obtain ⟨group, hgroup, h⟩ := Except.exists_of_bind_eq_ok h
    injection h with h
    obtain ⟨services, hservices, hgroup⟩ := Except.exists_of_bind_eq_ok hgroup
    grind [Except.mapM_eq_ok_iff]

theorem newManifest_eq_ok (h : newManifest S ns lid g settings = .ok m) :
    m.spec.leaseID = Crd.leaseIDFromAkash lid ∧ m.spec.group.name = g.name ∧
      List.Forall₂ (fun svc ms => ∃ sp, manifestServiceFromProvider S svc sp = .ok ms) g.services
        m.spec.group.services := by
  obtain ⟨hlease, hname, hlen, hall⟩ := newManifest_services h
  refine ⟨hlease, hname, ?_⟩
  have hfst : (g.services.zip settings.schedulerParams).map Prod.fst = g.services :=
    List.map_fst_zip (Nat.le_of_eq hlen)
  rw [← hfst, List.forall₂_map_left_iff]
  exact hall.imp fun e _ he => ⟨e.2, he⟩

variable {services : List Mani.Service}

theorem services_fromCRD (hS : S.Lawful) {stored : List Crd.ManifestService}
    (h : List.Forall₂ (fun svc ms => ∃ sp, manifestServiceFromProvider S svc sp = .ok ms)
      services stored) (hsvc : ∀ svc ∈ services, svc.Storable) :
    stored.mapM (·.fromCRD S) = .ok (services.map (·.stored)) := by
  rw [Except.mapM_eq_ok_iff]
  induction h with
  | nil => exact .nil
  | cons he _ ih =>
    obtain ⟨sp, he⟩ := he
    obtain ⟨hfirst, hrest⟩ := List.forall_mem_cons.mp hsvc
    exact .cons (service_fromCRD hS he hfirst) (ih hrest)

theorem deployment_eq (hS : S.Lawful) (h : newManifest S ns lid g settings = .ok m)
    (hsvc : ∀ svc ∈ g.services, svc.Storable) :
    m.deployment S = ((Crd.leaseIDFromAkash lid).fromCRD S).map fun lid' =>
      { lid := lid'
        group := ⟨g.name, g.services.map (·.stored)⟩
        cparams := reservationParams (g.services.map (·.stored))
          (m.spec.group.services.map (·.schedulerParams))
        resourceVersion := m.resourceVersion } := by
  obtain ⟨hlease, hname, hservices⟩ := newManifest_eq_ok h
  have hgroup : m.spec.group.fromCRD S = .ok (⟨g.name, g.services.map (·.stored)⟩,
      m.spec.group.services.map (·.schedulerParams)) := by
    simp only [Crd.ManifestGroup.fromCRD, services_fromCRD hS hservices hsvc, hname]
    rfl
  simp only [Crd.Manifest.deployment, hlease, hgroup]
  cases (Crd.leaseIDFromAkash lid).fromCRD S <;> rfl

/-! ## Cluster parameters -/

theorem reservationParams_eq (services : List Mani.Service) (sps : List (Option SchedulerParams)) :
    reservationParams services sps =
      ((services.zip sps).map fun e => (e.1.resources.id, e.2)).reverse := by
  have hfold : ∀ (l : List (Mani.Service × Option SchedulerParams))
      (acc : Crd.ReservationClusterSettings),
      l.foldl (fun m e => (e.1.resources.id, e.2) :: m) acc =
        (l.map fun e => (e.1.resources.id, e.2)).reverse ++ acc := by
    intro l
    induction l with
    | nil => exact fun acc => rfl
    | cons e rest ih => simp
  rw [reservationParams, hfold, List.append_nil]

theorem lookup_reservationParams {sps : List (Option SchedulerParams)}
    (hids : (services.map (·.resources.id)).Nodup) (hlen : services.length ≤ sps.length) {i : Nat}
    (hsvc : services[i]? = some svc) (hsp : sps[i]? = some sp) :
    (reservationParams services sps).lookup svc.resources.id = some sp := by
  rw [reservationParams_eq]
  refine Assoc.lookup_of_mem ?_ ?_
  · rw [List.map_reverse, List.nodup_reverse, List.map_map]
    rw [← List.map_fst_zip hlen, List.map_map] at hids
    exact hids
  · rw [List.mem_reverse]
    refine List.mem_of_getElem? (i := i) ?_
    grind

/-! ## Leased IPs -/

theorem accumEndpoints_of_nil {r : Rtypes.Resources} (h : r.endpoints = [])
    (kind : Rtypes.EndpointKind) (accum : List UInt32) :
    accumEndpointsOfResources r kind accum = accum := by
  rw [accumEndpointsOfResources, h]
  rfl

theorem endpointQuantity_of_nil {units : ResourceUnits}
    (h : ∀ u ∈ units, u.resources.endpoints = []) (kind : Rtypes.EndpointKind) :
    getEndpointQuantityOfResourceGroup units kind = 0 := by
  rw [getEndpointQuantityOfResourceGroup]
  induction units with
  | nil => rfl
  | cons u rest ih => grind [accumEndpoints_of_nil]

theorem leasedEndpoints_eq_nil_iff :
    leasedEndpoints exposes = [] ↔ ∀ e ∈ exposes, e.ip = "" := by
  simp [leasedEndpoints, List.filterMap_eq_nil_iff]

theorem stored_eq_self_iff :
    e.stored = e ↔ e.httpOptions.proxy ≠ some .zero := by
  constructor
  · grind [Mani.ServiceExpose.stored]
  · intro h
    simp [Mani.ServiceExpose.stored, h]

/-- A stored service is the same exactly without leased IPs and empty proxy options. -/
theorem stored_sameAs_iff :
    svc.SameAs svc.stored ↔
      ∀ e ∈ svc.expose, e.ip = "" ∧ e.httpOptions.proxy ≠ some .zero := by
  constructor
  · intro h e he
    have hnil : leasedEndpoints svc.expose = [] := h.endpoints.symm
    have hexpose : svc.expose.map (·.stored) = svc.expose.map id :=
      h.expose.trans (List.map_id _).symm
    exact ⟨leasedEndpoints_eq_nil_iff.mp hnil e he,
      stored_eq_self_iff.mp (List.map_inj_left.mp hexpose e he)⟩
  · intro h
    have hexpose : svc.expose.map (·.stored) = svc.expose.map id :=
      List.map_congr_left fun e he => stored_eq_self_iff.mpr (h e he).2
    rw [List.map_id] at hexpose
    have hparams : svc.stored.params.map (·.storage) = svc.params.map (·.storage) ∧
        svc.stored.params.bind (·.permissions) = svc.params.bind (·.permissions) := by
      simp only [Mani.Service.stored]
      cases svc.params <;> exact ⟨rfl, rfl⟩
    refine ⟨rfl, rfl, rfl, rfl, rfl, rfl, rfl, rfl, rfl, rfl, rfl, ?_, hexpose, hparams.1,
      hparams.2, rfl, rfl⟩
    exact (leasedEndpoints_eq_nil_iff.mpr fun e he => (h e he).1).symm

/-! ## The theorem -/

/-- A manifest that was accepted is read back exactly if the addresses of its lease are, and no
expose has a leased IP, or proxy options with nothing set. -/
theorem manifest_round_trip_iff (hS : S.Lawful) {ns : String} {lid : LeaseID} {g : Mani.Group}
    {settings : ClusterSettings} {m : Crd.Manifest} (hnew : newManifest S ns lid g settings = .ok m)
    (hids : (g.services.map (·.resources.id)).Nodup)
    (hsvc : ∀ svc ∈ g.services, svc.Storable) :
    RoundTrip S lid g m ↔ S.CanonicalLease lid ∧
      ∀ svc ∈ g.services, ∀ e ∈ svc.expose, e.ip = "" ∧ e.httpOptions.proxy ≠ some .zero := by
  have hdeployment := deployment_eq hS hnew hsvc
  constructor
  · -- the services alone decide: parameters and quantity are not looked at
    rintro ⟨d, hd, hlid, -, hservices, -, -⟩
    rw [hdeployment] at hd
    obtain ⟨lid', hlease, rfl⟩ := Except.exists_of_map_eq_ok hd
    subst hlid
    refine ⟨leaseID_fromCRD_iff.mp hlease, fun svc hmem => stored_sameAs_iff.mp ?_⟩
    simp_all
  · rintro ⟨hlease, hexposes⟩
    rw [← leaseID_fromCRD_iff] at hlease
    rw [hlease] at hdeployment
    have hids' : ((g.services.map (·.stored)).map (·.resources.id)).Nodup := by
      rw [List.map_map]
      exact hids
    refine ⟨_, hdeployment, rfl, rfl, ?_, ?_, ?_⟩
    · grind [List.forall₂_map_right_iff, List.forall₂_same, stored_sameAs_iff]
    · intro i svc ms hi hms
      have hsvc' : (g.services.map (·.stored))[i]? = some svc.stored := by
        rw [List.getElem?_map, hi]
        rfl
      have hsp : (m.spec.group.services.map (·.schedulerParams))[i]? = some ms.schedulerParams := by
        rw [List.getElem?_map, hms]
        rfl
      have hlen : (g.services.map (·.stored)).length ≤
          (m.spec.group.services.map (·.schedulerParams)).length := by
        rw [List.length_map, List.length_map]
        exact Nat.le_of_eq (newManifest_eq_ok hnew).2.2.length_eq
      have hlookup := lookup_reservationParams hids' hlen hsvc' hsp
      exact hlookup
    · have hzero : exposedIPs g.services = 0 := by
        refine endpointQuantity_of_nil (fun u hu => ?_) _
        grind [leasedEndpoints_eq_nil_iff]
      rw [hzero]
      refine endpointQuantity_of_nil (fun u hu => ?_) _
      have hmem := (hS.resourceUnits_perm _ hids').mem_iff.mp hu
      obtain ⟨svc', hsvc', rfl⟩ := List.mem_map.mp hmem
      obtain ⟨svc, -, rfl⟩ := List.mem_map.mp hsvc'
      rfl

/-- A service that exposes port 80, at a leased IP if `ip` is not empty. -/
def webService (ip : String) : Mani.Service where
  name := "web"
  image := "nginx"
  command := []
  args := []
  env := ["MODE=web"]
  resources := ⟨1, some ⟨100, []⟩, some ⟨1024, []⟩, [⟨"default", 4096, []⟩], some ⟨0, []⟩,
    [⟨.leasedIP, 1⟩]⟩
  count := 2
  expose := [⟨80, 8080, .tcp, "", true, ["web.localhost"],
    ⟨1048576, 60000, 60000, 3, 0, ["error"], some ⟨true, 0, 4, 8, 0, 0⟩⟩, ip, 1⟩]
  params := some ⟨[⟨"default", "/data", false⟩], some ⟨["logs"]⟩, none⟩
  credentials := some ⟨"registry.localhost", "", "user", "password"⟩
  interconnectGroup := ""

def webGroup (ip : String) : Mani.Group := ⟨"group", [webService ip]⟩

def webSettings : ClusterSettings := ⟨[some { SchedulerParams.zero with runtimeClass := "nvidia" }]⟩

def webLease : LeaseID := ⟨"owner", 42, 1, 1, "provider"⟩

theorem webService_storable (ip : String) : (webService ip).Storable := by
  have hports : (80 : UInt32).toNat < 65536 ∧ (8080 : UInt32).toNat < 65536 := by decide
  refine ⟨rfl, rfl, rfl, ?_⟩
  intro e he
  rw [List.mem_singleton.mp he]
  exact hports

/-- Without a leased IP, the service comes back. -/
theorem manifest_round_trip_web :
    ∃ m, newManifest .reference "lease" webLease (webGroup "") webSettings = .ok m ∧
      RoundTrip .reference webLease (webGroup "") m := by
  have hnew : newManifest .reference "lease" webLease (webGroup "") webSettings = .ok _ := rfl
  have hids : ((webGroup "").services.map (·.resources.id)).Nodup := by decide
  refine ⟨_, hnew, (manifest_round_trip_iff ManifestSdk.reference_lawful hnew hids ?_).mpr ?_⟩
  · intro svc hsvc
    rw [List.mem_singleton.mp hsvc]
    exact webService_storable ""
  · refine ⟨⟨rfl, rfl⟩, fun svc hsvc => ?_⟩
    rw [List.mem_singleton.mp hsvc]
    decide

/-- With one, the recovered reservation needs no address. -/
theorem manifest_drops_leased_ip :
    ∃ m d, newManifest .reference "lease" webLease (webGroup "ip") webSettings = .ok m ∧
      (∀ svc ∈ (webGroup "ip").services, svc.Storable) ∧
      ManifestSdk.reference.CanonicalLease webLease ∧
      m.deployment .reference = .ok d ∧
      (recoveredReservation (d.toIDeployment .reference)).endpointQuantity = 0 ∧
      exposedIPs (webGroup "ip").services = 1 ∧
      ¬ RoundTrip .reference webLease (webGroup "ip") m := by
  refine ⟨_, _, rfl, ?_, ⟨rfl, rfl⟩, rfl, rfl, rfl, ?_⟩
  · intro svc hsvc
    rw [List.mem_singleton.mp hsvc]
    exact webService_storable "ip"
  · rintro ⟨d, hd, -, -, -, -, hquantity⟩
    injection hd with hd
    subst hd
    cases hquantity

end AkashProvider
