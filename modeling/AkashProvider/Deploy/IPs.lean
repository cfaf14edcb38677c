import AkashProvider.Deploy.Hosts
import AkashProvider.Kube.DeclaredIPs
import AkashProvider.Lib.Keyed

/-!
# The leased IPs of a deploy

A deploy declares the leased IPs of the manifest and gives up those it no longer has.
`declaredIPs_follow_iff` says when the outcome is one resource for each IP, protocol and external
port of the manifest: a resource of that name is left as it is; giving up one IP deletes all,
after the new ones are declared; and a port of an IP still in use is not given up.
-/

namespace AkashProvider

/-- What a deploy needs besides to declare IPs. -/
structure IPDeployConfig extends DeployConfig where
  manifest : ManifestSdk
  /-- The first bytes of the SHA-256 of a name, in base 32. -/
  nameHash : String → String

variable (cfg : IPDeployConfig)

/-! ## A deploy -/

structure ServiceExposeWithServiceName where
  expose : Mani.ServiceExpose
  name : String

def gatherIPs (mgroup : Mani.Group) : List ServiceExposeWithServiceName :=
  mgroup.services.flatMap fun service =>
    (service.expose.filter fun expose => expose.global && expose.ip ≠ "").map (⟨·, service.name⟩)

def ipsInThisRequest (mgroup : Mani.Group) : List String :=
  (gatherIPs mgroup).map fun v => makeIPSharingKey cfg.nameHash cfg.leaseID v.expose.ip

/-- How the calls of a deploy to other services end. -/
structure DeployCalls where
  checkLeaseActive : Except String Unit
  reserveHostnames : Except String (List String)
  deploy : Except String Unit
  declareHostname : HostEntry → Except String Unit

inductive DeployErr where
  | call (text : String)
  | decode (err : Crd.DecodeErr)
deriving DecidableEq

/-- The IPs to give up, up to the first one with a protocol that is none. -/
def staleIPs (sharingKeys : List String) :
    List ProviderLeasedIPSpec → List PurgeIPEntry × Except DeployErr Unit
  | [] => ([], .ok ())
  | currentIP :: currentIPs =>
    if currentIP.sharingKey ∈ sharingKeys then staleIPs sharingKeys currentIPs
    else match cfg.manifest.parseServiceProtocol currentIP.protocol with
      | none => ([], .error (.decode (.protocol currentIP.protocol)))
      | some proto =>
        let rest := staleIPs sharingKeys currentIPs
        (⟨currentIP.serviceName, currentIP.externalPort, proto⟩ :: rest.1, rest.2)

def declareLeasedIP (s : List ProviderLeasedIP × List String)
    (serviceExpose : ServiceExposeWithServiceName) : List ProviderLeasedIP × List String :=
  let sharingKey := makeIPSharingKey cfg.nameHash cfg.leaseID serviceExpose.expose.ip
  match declareIP cfg.manifest s.1 cfg.leaseID serviceExpose.name serviceExpose.expose.port
      (cfg.externalPort serviceExpose.expose) serviceExpose.expose.proto sharingKey false with
  | .ok store => (store, s.2)
  | .error .alreadyExists => (s.1, s.2 ++ [sharingKey])

/-- The collection that a deploy leaves, and what it returns: the hostnames and the endpoints
that were withheld. -/
def doDeploy (calls : DeployCalls) (mgroup : Mani.Group) (store : List ProviderLeasedIP) :
    List ProviderLeasedIP × Except DeployErr (List String × List String) :=
  match calls.checkLeaseActive with
  | .error text => (store, .error (.call text))
  | .ok () =>
  let currentIPs := getDeclaredIPs store cfg.leaseID
  match calls.reserveHostnames with
  | .error text => (store, .error (.call text))
  | .ok withheldHostnames =>
  match calls.deploy with
  | .error text => (store, .error (.call text))
  | .ok () =>
  let stale := staleIPs cfg (ipsInThisRequest cfg mgroup) currentIPs
  -- the deferred clean-up runs at every return from here on
  let purge := fun store => purgeAllIPs cfg.manifest store cfg.leaseID stale.1
  match stale.2 with
  | .error err => (purge store, .error err)
  | .ok () =>
  match (gatherHosts cfg.toDeployConfig withheldHostnames mgroup).mapM calls.declareHostname with
  | .error text => (purge store, .error (.call text))
  | .ok _ =>
  let declared := (gatherIPs mgroup).foldl (declareLeasedIP cfg) (store, [])
  (purge declared.1, .ok (withheldHostnames, declared.2))

/-! ## What should come out -/

def leasedIPOf (v : ServiceExposeWithServiceName) : ProviderLeasedIP :=
  declaredIP cfg.manifest cfg.leaseID v.name v.expose.port (cfg.externalPort v.expose)
    v.expose.proto (makeIPSharingKey cfg.nameHash cfg.leaseID v.expose.ip)

def endpointOf (v : ServiceExposeWithServiceName) : String × Mani.ServiceProtocol × UInt32 :=
  (v.expose.ip, v.expose.proto, cfg.externalPort v.expose)

/-- The resource is one of those that the client lists for the lease. -/
def OfLease (x : ProviderLeasedIP) : Prop := (kubeSelectorForLease cfg.leaseID).Selects x.labels

instance : DecidablePred (OfLease cfg) :=
  fun x => inferInstanceAs (Decidable ((kubeSelectorForLease cfg.leaseID).Selects x.labels))

/-- The resources of the lease are one for each endpoint of the manifest, as it says. -/
def FollowsManifest (mgroup : Mani.Group) (store : List ProviderLeasedIP) : Prop :=
  ∃ chosen, Keyed.OnePer (endpointOf cfg) (gatherIPs mgroup) chosen ∧
    (store.filter fun x => OfLease cfg x).Perm (chosen.map (leasedIPOf cfg))

/-- There is no leased IP in the manifest, or all that the lease has is in it as it is, no other
lease has a name that is wanted, and endpoints have names of their own. -/
def IPsSettled (mgroup : Mani.Group) (store : List ProviderLeasedIP) : Prop :=
  gatherIPs mgroup = [] ∨
    (∀ x ∈ store, OfLease cfg x → ∃ v ∈ gatherIPs mgroup, leasedIPOf cfg v = x) ∧
    (∀ v ∈ gatherIPs mgroup, ∀ x ∈ store, x.name = (leasedIPOf cfg v).name → OfLease cfg x) ∧
    (∀ v ∈ gatherIPs mgroup, ∀ v' ∈ gatherIPs mgroup,
      (leasedIPOf cfg v).name = (leasedIPOf cfg v').name → endpointOf cfg v = endpointOf cfg v')

variable {cfg}

/-! ## Declaring -/

theorem leasedIPOf_name_congr {v v' : ServiceExposeWithServiceName}
    (h : endpointOf cfg v = endpointOf cfg v') :
    (leasedIPOf cfg v).name = (leasedIPOf cfg v').name := by
  simp_all [endpointOf, Prod.mk.injEq, leasedIPOf, declaredIP]

theorem leasedIPOf_declared (v : ServiceExposeWithServiceName) :
    (leasedIPOf cfg v).Declared cfg.manifest :=
  ⟨_, _, _, _, _, _, rfl⟩

theorem ofLease_leasedIPOf (v : ServiceExposeWithServiceName) : OfLease cfg (leasedIPOf cfg v) :=
  ((leasedIPOf_declared v).selects_lease cfg.leaseID).mpr rfl

theorem declareLeasedIP_fst (s : List ProviderLeasedIP × List String)
    (v : ServiceExposeWithServiceName) :
    (declareLeasedIP cfg s v).1 = Keyed.add (·.name) s.1 (leasedIPOf cfg v) := by
  by_cases htaken : (leasedIPOf cfg v).name ∈ s.1.map (·.name)
  · rw [Keyed.add_of_mem _ htaken]
    simp only [declareLeasedIP, declareIP_of_mem htaken]
  · rw [Keyed.add_of_not_mem _ htaken]
    simp only [declareLeasedIP, declareIP_of_not_mem htaken]
    rfl

theorem foldl_declareLeasedIP (vs : List ServiceExposeWithServiceName) :
    ∀ s : List ProviderLeasedIP × List String,
      (vs.foldl (declareLeasedIP cfg) s).1 =
        Keyed.addAll (·.name) s.1 (vs.map (leasedIPOf cfg)) := by
  induction vs with
  | nil => exact fun _ => rfl
  | cons v vs ih =>
    intro s
    rw [List.foldl_cons, List.map_cons, Keyed.addAll_cons, ih, declareLeasedIP_fst]

theorem staleIPs_eq_nil_iff {keys : List String} {currentIPs : List ProviderLeasedIPSpec}
    (hok : (staleIPs cfg keys currentIPs).2 = .ok ()) :
    (staleIPs cfg keys currentIPs).1 = [] ↔ ∀ ip ∈ currentIPs, ip.sharingKey ∈ keys := by
  induction currentIPs with
  | nil => simp [staleIPs]
  | cons ip currentIPs ih =>
    by_cases huse : ip.sharingKey ∈ keys
    · simp_all [staleIPs]
    · simp only [staleIPs, if_neg huse] at hok ⊢
      grind

/-! ## The whole deploy -/

abbrev staleOf (cfg : IPDeployConfig) (mgroup : Mani.Group) (store : List ProviderLeasedIP) :
    List PurgeIPEntry × Except DeployErr Unit :=
  staleIPs cfg (ipsInThisRequest cfg mgroup) (getDeclaredIPs store cfg.leaseID)

variable {mgroup : Mani.Group} {store : List ProviderLeasedIP}

theorem doDeploy_of_ok {calls : DeployCalls} {withheld : List String × List String}
    (hok : (doDeploy cfg calls mgroup store).2 = .ok withheld) :
    (staleOf cfg mgroup store).2 = .ok () ∧
      (doDeploy cfg calls mgroup store).1 = purgeAllIPs cfg.manifest
        (Keyed.addAll (·.name) store ((gatherIPs mgroup).map (leasedIPOf cfg)))
        cfg.leaseID (staleOf cfg mgroup store).1 := by
  simp only [doDeploy] at hok ⊢
  split at hok
  · cases hok
  split at hok
  · cases hok
  split at hok
  · cases hok
  split at hok
  · cases hok
  next hstale =>
  split at hok
  · cases hok
  refine ⟨hstale, ?_⟩
  simp only [foldl_declareLeasedIP]

theorem mem_getDeclaredIPs {ip : ProviderLeasedIPSpec} :
    ip ∈ getDeclaredIPs store cfg.leaseID ↔ ∃ x ∈ store, OfLease cfg x ∧ x.spec = ip := by
  simp only [getDeclaredIPs, List.mem_map, List.mem_filter, decide_eq_true_eq, OfLease, and_assoc]

theorem staleOf_eq_nil_iff (hok : (staleOf cfg mgroup store).2 = .ok ()) :
    (staleOf cfg mgroup store).1 = [] ↔
      ∀ x ∈ store, OfLease cfg x → x.spec.sharingKey ∈ ipsInThisRequest cfg mgroup := by
  rw [staleIPs_eq_nil_iff hok]
  constructor
  · exact fun h x hx hlease => h x.spec (mem_getDeclaredIPs.mpr ⟨x, hx, hlease, rfl⟩)
  · grind [mem_getDeclaredIPs]

theorem clientMade_addAll {vs : List ServiceExposeWithServiceName} :
    ∀ {store : List ProviderLeasedIP}, ClientMade cfg.manifest store →
      ClientMade cfg.manifest (Keyed.addAll (·.name) store (vs.map (leasedIPOf cfg))) := by
  induction vs with
  | nil => exact fun h => h
  | cons v vs ih =>
    intro store h
    refine ih ?_
    by_cases htaken : (leasedIPOf cfg v).name ∈ store.map (·.name)
    · rw [Keyed.add_of_mem _ htaken]
      exact h
    · rw [Keyed.add_of_not_mem _ htaken]
      exact h.next (.declareIP cfg.leaseID v.name v.expose.port (cfg.externalPort v.expose)
        v.expose.proto (makeIPSharingKey cfg.nameHash cfg.leaseID v.expose.ip) false) trivial
        (congrArg Except.toOption (declareIP_of_not_mem htaken false))

theorem followsManifest_nil_iff :
    FollowsManifest cfg mgroup [] ↔ gatherIPs mgroup = [] := by
  constructor
  · rintro ⟨chosen, hone, hperm⟩
    have hchosen : chosen = [] := List.map_eq_nil_iff.mp hperm.nil_eq.symm
    refine List.eq_nil_iff_forall_not_mem.mpr fun v hv => ?_
    obtain ⟨c, hc, -⟩ := hone.covers v hv
    rw [hchosen] at hc
    cases hc
  · intro h
    refine ⟨[], ⟨fun _ hv => absurd hv List.not_mem_nil, List.nodup_nil, ?_⟩, List.Perm.refl _⟩
    simp_all

theorem FollowsManifest.exists_expose (h : FollowsManifest cfg mgroup store) {x : ProviderLeasedIP}
    (hx : x ∈ store) (hlease : OfLease cfg x) : ∃ v ∈ gatherIPs mgroup, leasedIPOf cfg v = x := by
  obtain ⟨chosen, hone, hperm⟩ := h
  obtain ⟨v, hv, rfl⟩ := List.mem_map.mp
    (hperm.mem_iff.mp (List.mem_filter.mpr ⟨hx, decide_eq_true hlease⟩))
  exact ⟨v, hone.mem v hv, rfl⟩

/-- The IPs of the lease follow the manifest exactly if it has none, or nothing that was there
has to change. -/
theorem declaredIPs_follow_iff {calls : DeployCalls} {mgroup : Mani.Group}
    {store : List ProviderLeasedIP} {withheld : List String × List String}
    (hmade : ClientMade cfg.manifest store)
    (hok : (doDeploy cfg calls mgroup store).2 = .ok withheld) :
    FollowsManifest cfg mgroup (doDeploy cfg calls mgroup store).1 ↔
      IPsSettled cfg mgroup store := by
  obtain ⟨hparsed, hstore⟩ := doDeploy_of_ok hok
  have hstale := staleOf_eq_nil_iff hparsed
  rw [hstore]
  by_cases hnil : (staleOf cfg mgroup store).1 = []
  · -- nothing is given up
    rw [hnil]
    refine Iff.trans (Keyed.onePer_addAll_iff (fun _ _ => leasedIPOf_name_congr)
      ofLease_leasedIPOf hmade.nodup) (or_iff_right_of_imp fun hnone => ?_).symm
    refine ⟨fun x hx hlease => ?_, ?_⟩
    · simp_all [ipsInThisRequest]
    · simp_all
  · -- everything is
    rw [purgeAllIPs_eq_nil (clientMade_addAll hmade) cfg.leaseID hnil, followsManifest_nil_iff]
    refine (or_iff_left_of_imp fun hsettled => ?_).symm
    refine absurd (hstale.mpr fun x hx hlease => ?_) hnil
    obtain ⟨v, hv, rfl⟩ := hsettled.1 x hx hlease
    exact List.mem_map.mpr ⟨v, hv, rfl⟩

/-- A provider whose names need no hash. -/
def plainIPDeploy : IPDeployConfig where
  toDeployConfig := plainDeploy
  manifest := .reference
  nameHash name := name

/-- The other services answer every call. -/
def quietCalls : DeployCalls := ⟨.ok (), .ok [], .ok (), fun _ => .ok ()⟩

/-- A manifest with one service, at port 80 of some IPs. -/
def ipsGroup (name : String) (ips : List String) : Mani.Group :=
  ⟨"group", [plainService name "nginx" (ips.map fun ip =>
    ⟨8080, 80, .tcp, "", true, [], ⟨0, 0, 0, 0, 0, [], none⟩, ip, 0⟩)]⟩

/-- The resource that the service `web` has for `ip1`. -/
def webIP : ProviderLeasedIP :=
  { declaredIP .reference (groupLease 1) "web" 8080 80 .tcp "owner-ip-ip1" with
    name := "owner-ip-ip1-tcp-80" }

theorem clientMade_webIP : ClientMade plainIPDeploy.manifest [webIP] :=
  Runs.of_foldlM [.declareIP (groupLease 1) "web" 8080 80 .tcp "owner-ip-ip1" false] _ _
    (by decide +kernel)

theorem declaredIPs_follow_new_ip :
    FollowsManifest plainIPDeploy (ipsGroup "web" ["ip1", "ip2"])
        (doDeploy plainIPDeploy quietCalls (ipsGroup "web" ["ip1", "ip2"]) [webIP]).1 ∧
      (doDeploy plainIPDeploy quietCalls (ipsGroup "web" ["ip1", "ip2"]) [webIP]).1.map (·.name) =
        ["owner-ip-ip1-tcp-80", "owner-ip-ip2-tcp-80"] := by
  constructor
  · have hok : (doDeploy plainIPDeploy quietCalls (ipsGroup "web" ["ip1", "ip2"]) [webIP]).2 =
      .ok ([], ["owner-ip-ip1"]) := by decide +kernel
    have hnames : (gatherIPs (ipsGroup "web" ["ip1", "ip2"])).map
        (fun v => (leasedIPOf plainIPDeploy v).name) =
          ["owner-ip-ip1-tcp-80", "owner-ip-ip2-tcp-80"] := by decide +kernel
    have hnodup : ((gatherIPs (ipsGroup "web" ["ip1", "ip2"])).map
        fun v => (leasedIPOf plainIPDeploy v).name).Nodup := by
      rw [hnames]
      decide
    refine (declaredIPs_follow_iff clientMade_webIP hok).mpr
      (.inr ⟨by decide +kernel, by decide +kernel, fun v hv v' hv' hname => ?_⟩)
    rw [List.inj_on_of_nodup_map hnodup hv hv' hname]
  · decide +kernel

/-- The service is renamed and the old one keeps the IP.  The IP is exchanged for another, and
there is none. -/
theorem changed_ip_not_followed :
    ClientMade plainIPDeploy.manifest [webIP] ∧
    doDeploy plainIPDeploy quietCalls (ipsGroup "api" ["ip1"]) [webIP] =
      ([webIP], .ok ([], ["owner-ip-ip1"])) ∧
    ¬ FollowsManifest plainIPDeploy (ipsGroup "api" ["ip1"]) [webIP] ∧
    doDeploy plainIPDeploy quietCalls (ipsGroup "web" ["ip2"]) [webIP] = ([], .ok ([], [])) ∧
    ¬ FollowsManifest plainIPDeploy (ipsGroup "web" ["ip2"]) [] := by
  refine ⟨clientMade_webIP, by decide +kernel, ?_, by decide +kernel, ?_⟩
  · intro h
    have hnone : ¬ ∃ v ∈ gatherIPs (ipsGroup "api" ["ip1"]),
        leasedIPOf plainIPDeploy v = webIP := by decide +kernel
    exact hnone (h.exists_expose List.mem_cons_self (by decide +kernel))
  · rw [followsManifest_nil_iff]
    decide +kernel

end AkashProvider
