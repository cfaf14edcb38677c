import AkashProvider.Deploy.Manager
import AkashProvider.Hostname.Holding
import AkashProvider.Manifest.Types

/-!
# The hostnames of a deploy

A deploy reserves the hostnames of the manifest, deploys, and declares the hosts one by one.
Every host should be reserved to the group when it is declared.  Four things stand against it
(`HostsSettled`): withheld names are in lower case and hosts are not; an update between reserving
and gathering; static hosts of an ingress; and names that others release or get transferred.
`declared_hosts_reserved` says that there is nothing else.
-/

namespace AkashProvider

/-! ## A deploy -/

/-- The lease and the configuration of its manager, with the functions of other packages. -/
structure DeployConfig where
  hostnames : HostnameSdk
  leaseID : LeaseID
  deploymentIngressStaticHosts : Bool
  deploymentIngressDomain : String
  isIngress : Mani.ServiceExpose → Bool
  /-- `uint32(expose.GetExternalPort())`. -/
  externalPort : Mani.ServiceExpose → UInt32
  /-- A hash of the lease and the service name. -/
  ingressHost : LeaseID → String → String

structure HostEntry where
  host : String
  expose : Mani.ServiceExpose
  serviceName : String
deriving DecidableEq

def setHost (hosts : List HostEntry) (entry : HostEntry) : List HostEntry :=
  hosts.filter (·.host ≠ entry.host) ++ [entry]

/-- The static host of a service with an ingress, if the provider has static hosts. -/
def staticHosts (cfg : DeployConfig) (service : Mani.Service) (expose : Mani.ServiceExpose) :
    List HostEntry :=
  if cfg.isIngress expose && cfg.deploymentIngressStaticHosts then
    [⟨cfg.ingressHost cfg.leaseID service.name ++ "." ++ cfg.deploymentIngressDomain, expose,
      service.name⟩]
  else []

/-- The hosts of the manifest that were not withheld. -/
def manifestHosts (cfg : DeployConfig) (withheld : List String) (service : Mani.Service)
    (expose : Mani.ServiceExpose) : List HostEntry :=
  if cfg.isIngress expose then
    (expose.hosts.filter (· ∉ withheld)).map fun host => ⟨host, expose, service.name⟩
  else []

def gatherHosts (cfg : DeployConfig) (withheld : List String) (mgroup : Mani.Group) :
    List HostEntry :=
  (mgroup.services.flatMap fun service => service.expose.flatMap fun expose =>
    staticHosts cfg service expose ++ manifestHosts cfg withheld service expose).foldl setHost []

/-- How far the goroutine of a deploy is. -/
inductive DeployThread where
  | idle
  | started
  | reserved (allHostnames withheldHostnames : List String)
  | declaring (withheldHostnames : List String) (hosts : List HostEntry)
  | finished (r : OpResult)
deriving DecidableEq

structure DeclaredHost where
  host : String
  serviceName : String
  externalPort : UInt32

structure DeployWorld where
  dm : DeploymentManager Mani.Group
  svc : HostnameService
  thread : DeployThread
  declared : List DeclaredHost

inductive DeployEvent where
  | manager (e : ManagerEvent Mani.Group)
  | reserve
  | deployed
  /-- A host of the map, in any order, with the answer of `DeclareHostname`. -/
  | declare (host : String) (result : Except String Unit)
  /-- A call before or between these fails, or is cancelled. -/
  | fail (inactive : Bool) (text : String)
  | finish
  /-- Somebody else calls the hostname service. -/
  | request (r : HostnameRequest)

/-- The result of a deploy is there when its goroutine is done. -/
def DeployThread.gives : DeployThread → ManagerEvent Mani.Group → Bool
  | .finished r, .result r' => r = r'
  | .idle, .result _ => true
  | _, .result _ => false
  | _, _ => true

/-- A deploy that the manager starts has a goroutine of its own. -/
def threadAfter (w : DeployWorld) (dm : DeploymentManager Mani.Group)
    (e : ManagerEvent Mani.Group) : DeployThread :=
  if w.dm.started.count .deploy < dm.started.count .deploy then .started
  else match e with
    | .result _ => .idle
    | _ => w.thread

def managerStep (cfg : DeployConfig) (w : DeployWorld) (e : ManagerEvent Mani.Group) :
    Option DeployWorld :=
  if w.thread.gives e then
    (w.dm.step e).map fun dm =>
      { w with
        dm := dm
        thread := threadAfter w dm e
        -- the deferred call of `run`
        svc := if e = .return then w.svc.serve cfg.hostnames (.release cfg.leaseID) else w.svc }
  else none

def deployStep (cfg : DeployConfig) (w : DeployWorld) : DeployEvent → Option DeployWorld
  | .manager e => managerStep cfg w e
  | .reserve =>
    match w.thread with
    | .started =>
      let allHostnames := allHostnamesOfManifestGroup w.dm.deployment
      match w.svc.reserveHostnames cfg.hostnames allHostnames cfg.leaseID with
      | .ok (svc, withheldHostnames) =>
        some { w with svc := svc, thread := .reserved allHostnames withheldHostnames }
      | .error err =>
        some { w with thread := .finished (.err false (err.message cfg.hostnames)) }
    | _ => none
  | .deployed =>
    match w.thread with
    | .reserved _ withheldHostnames =>
      some { w with
        thread := .declaring withheldHostnames
          (gatherHosts cfg withheldHostnames w.dm.deployment) }
    | _ => none
  | .declare host result =>
    match w.thread with
    | .declaring withheldHostnames hosts =>
      (hosts.find? (·.host = host)).map fun entry =>
        { w with
          declared := w.declared ++
            [⟨host, entry.serviceName, cfg.externalPort entry.expose⟩]
          thread := match result with
            | .ok () => .declaring withheldHostnames (hosts.filter (·.host ≠ host))
            | .error text => .finished (.err false text) }
    | _ => none
  | .fail inactive text =>
    match w.thread with
    | .started | .reserved _ _ | .declaring _ _ =>
      some { w with thread := .finished (.err inactive text) }
    | .idle | .finished _ => none
  | .finish =>
    match w.thread with
    | .declaring _ [] => some { w with thread := .finished .ok }
    | _ => none
  | .request r => some { w with svc := w.svc.serve cfg.hostnames r }

/-- A new manager: its first deploy is started. -/
def startDeployWorld (mgroup : Mani.Group) (svc : HostnameService) : DeployWorld :=
  ⟨DeploymentManager.start mgroup, svc, .started, []⟩

/-! ## When it goes well -/

section

variable (S : HostnameSdk)

/-- The request leaves the lease's group every name that it has. -/
def TakesNothing (svc : HostnameService) (l : LeaseID) : HostnameRequest → Prop
  | .reserve hostnames l' => SameGroup S l' l → ∀ n, svc.HeldBy S l n → n ∈ hostnames.map S.toLower
  | .canReserve _ _ => True
  | .prepareForTransfer hostnames l' => ¬ SameGroup S l' l → ∀ n ∈ hostnames, ¬ svc.HeldBy S l n
  | .release l' => ¬ SameGroup S l' l

end

def DeployThread.holdsNames : DeployThread → Bool
  | .reserved _ _ | .declaring _ _ => true
  | .idle | .started | .finished _ => false

/-- Where the deploy and what goes on beside it do not get in each other's way. -/
def HostsSettled (cfg : DeployConfig) (w : DeployWorld) : DeployEvent → Prop
  | .manager (.update mgroup) =>
    ∀ allHostnames withheld, w.thread = .reserved allHostnames withheld →
      ∀ h ∈ allHostnamesOfManifestGroup mgroup, h ∈ allHostnames
  | .manager _ => True
  | .reserve =>
    -- a host that is not in lower case is not withheld
    ∀ h ∈ allHostnamesOfManifestGroup w.dm.deployment, cfg.hostnames.toLower h ≠ h →
      ∀ e, w.svc.inUse (cfg.hostnames.toLower h) = some e →
        hostnameIDFromLeaseID cfg.hostnames cfg.leaseID = .ok e
  | .deployed =>
    ∀ service ∈ w.dm.deployment.services, ∀ expose ∈ service.expose,
      staticHosts cfg service expose = []
  | .request r => w.thread.holdsNames = true → TakesNothing cfg.hostnames w.svc cfg.leaseID r
  | .declare _ _ | .fail _ _ | .finish => True

/-! ## The hostname service beside it -/

variable {S : HostnameSdk}

variable {l : LeaseID} {svc : HostnameService}

theorem serve_heldBy {r : HostnameRequest} (htakes : TakesNothing S svc l r) {n : String}
    (hheld : svc.HeldBy S l n) :
    (svc.serve S r).HeldBy S l n := by
  obtain ⟨hID, hid, hin⟩ := hheld
  obtain ⟨store', hserved, hserve⟩ := HostnameService.exists_served S svc r
  rw [hserve]
  refine ⟨hID, hid, ?_⟩
  cases hserved with
  | unchanged => exact hin
  | reserve hid' himpl =>
    exact reserveHostnamesImpl_keeps himpl hin fun hsame =>
      htakes (hid'.trans (hsame ▸ hid.symm)) n ⟨hID, hid, hin⟩
  | prepareForTransfer hid' himpl =>
    refine prepareHostnamesImpl_keeps himpl hin fun hother hmem => ?_
    refine htakes (fun hsame => hother ?_) n hmem ⟨hID, hid, hin⟩
    exact Except.ok.inj (hid.symm.trans (hsame.symm.trans hid'))
  | release hid' =>
    exact releaseHostnamesImpl_keeps hin fun hsame => htakes (hid'.trans (hsame ▸ hid.symm))

theorem serve_isHostnameBlocked (svc : HostnameService) (r : HostnameRequest) (n : String) :
    (svc.serve S r).isHostnameBlocked n = svc.isHostnameBlocked n := by
  obtain ⟨store', -, hserve⟩ := HostnameService.exists_served S svc r
  rw [hserve]
  rfl

/-! ## Gathering -/

theorem mem_setHost {hosts : List HostEntry} {entry t : HostEntry} (ht : t ∈ setHost hosts entry) :
    t ∈ hosts ∨ t = entry := by
  grind [setHost]

theorem mem_foldl_setHost {entries : List HostEntry} : ∀ {hosts : List HostEntry} {t : HostEntry},
    t ∈ entries.foldl setHost hosts → t ∈ hosts ∨ t ∈ entries := by
  induction entries with
  | nil => exact fun ht => .inl ht
  | cons entry entries ih => grind [mem_setHost, List.mem_cons_of_mem]

variable {cfg : DeployConfig} {withheld : List String}

/-- Without static hosts, every gathered host is a host of the manifest that was not withheld. -/
theorem mem_gatherHosts {mgroup : Mani.Group}
    (hstatic : ∀ service ∈ mgroup.services, ∀ expose ∈ service.expose,
      staticHosts cfg service expose = []) {t : HostEntry}
    (ht : t ∈ gatherHosts cfg withheld mgroup) :
    t.host ∈ allHostnamesOfManifestGroup mgroup ∧ t.host ∉ withheld := by
  rcases mem_foldl_setHost ht with ht | ht
  · cases ht
  obtain ⟨service, hservice, ht⟩ := List.mem_flatMap.mp ht
  obtain ⟨expose, hexpose, ht⟩ := List.mem_flatMap.mp ht
  rw [hstatic service hservice expose hexpose, List.nil_append, manifestHosts] at ht
  grind [allHostnamesOfManifestGroup]

/-! ## The invariant -/

/-- The host is reserved to the lease's group, and it is neither withheld nor blocked. -/
@[grind cases]
structure HostSafe (cfg : DeployConfig) (svc : HostnameService) (withheld : List String)
    (host : String) : Prop where
  held : svc.HeldBy cfg.hostnames cfg.leaseID (cfg.hostnames.toLower host)
  not_withheld : cfg.hostnames.toLower host ∉ withheld
  unblocked : svc.isHostnameBlocked (cfg.hostnames.toLower host) = .ok ()

@[grind cases]
structure HostsInv (cfg : DeployConfig) (w : DeployWorld) : Prop where
  busy : w.thread ≠ .idle → w.dm.runch ≠ none
  reserved : ∀ allHostnames withheld, w.thread = .reserved allHostnames withheld →
    (∀ h ∈ allHostnames, h ∉ withheld → HostSafe cfg w.svc withheld h) ∧
      ∀ h ∈ allHostnamesOfManifestGroup w.dm.deployment, h ∈ allHostnames
  declaring : ∀ withheld hosts, w.thread = .declaring withheld hosts →
    ∀ t ∈ hosts, HostSafe cfg w.svc withheld t.host

namespace HostsInv

variable {cfg : DeployConfig} {w w' : DeployWorld}

theorem of_not_holding (hbusy : w.thread ≠ .idle → w.dm.runch ≠ none)
    (hthread : w.thread.holdsNames = false) : HostsInv cfg w where
  busy := hbusy
  reserved := fun allHostnames withheld hs => by
    rw [hs] at hthread
    cases hthread
  declaring := fun withheld hosts hs => by
    rw [hs] at hthread
    cases hthread

theorem threadAfter_cases (w : DeployWorld) (dm : DeploymentManager Mani.Group)
    (e : ManagerEvent Mani.Group) :
    (threadAfter w dm e = .started ∧ w.dm.started.count .deploy < dm.started.count .deploy) ∨
      threadAfter w dm e = .idle ∨
      (threadAfter w dm e = w.thread ∧ ∀ r, e ≠ .result r) := by
  by_cases hnew : w.dm.started.count .deploy < dm.started.count .deploy
  · exact .inl ⟨if_pos hnew, hnew⟩
  · refine .inr ?_
    simp only [threadAfter, if_neg hnew]
    cases e with
    | result r => exact .inl rfl
    | _ => exact .inr ⟨rfl, fun r hr => by cases hr⟩

variable {e : ManagerEvent Mani.Group}

theorem managerStep_holding (h : HostsInv cfg w) (hok : HostsSettled cfg w (.manager e))
    {dm : DeploymentManager Mani.Group} (hdm : w.dm.step e = some dm) (hactive : w.thread ≠ .idle)
    (hbusy : dm.runch ≠ none) :
    HostsInv cfg { w with
      dm := dm
      svc := if e = .return then w.svc.serve cfg.hostnames (.release cfg.leaseID) else w.svc } := by
  have hreturn : e ≠ .return := fun hs => by
    subst hs
    exact h.busy hactive (DeploymentManager.idle_of_return hdm)
  rw [if_neg hreturn]
  refine ⟨fun _ => hbusy, fun allHostnames withheld hs => ?_, h.declaring⟩
  refine ⟨(h.reserved allHostnames withheld hs).1, ?_⟩
  show ∀ n ∈ allHostnamesOfManifestGroup dm.deployment, n ∈ allHostnames
  by_cases hupdate : ∃ mgroup, e = .update mgroup
  · obtain ⟨mgroup, rfl⟩ := hupdate
    rw [DeploymentManager.update_deployment hdm]
    exact hok allHostnames withheld hs
  · have hmoved := DeploymentManager.Moved.move (DeploymentManager.step_move hdm)
    rw [hmoved.deployment fun mgroup hs => hupdate ⟨mgroup, hs⟩]
    exact (h.reserved allHostnames withheld hs).2

theorem managerStep (h : HostsInv cfg w) (hok : HostsSettled cfg w (.manager e))
    (hstep : AkashProvider.managerStep cfg w e = some w') :
    HostsInv cfg w' := by
  obtain ⟨-, hstep⟩ := Option.ite_none_right_eq_some.mp hstep
  obtain ⟨dm, hdm, rfl⟩ := Option.map_eq_some_iff.mp hstep
  have hmoved := DeploymentManager.Moved.move (DeploymentManager.step_move hdm)
  rcases threadAfter_cases w dm e with ⟨hthread, hnew⟩ | hthread | ⟨hthread, hresult⟩
  · exact of_not_holding (fun _ => by grind [hmoved.started]) (by rw [hthread]; rfl)
  · exact of_not_holding (fun hs => absurd hthread hs) (by rw [hthread]; rfl)
  · rw [hthread]
    by_cases hactive : w.thread = .idle
    · exact of_not_holding (fun hs => absurd hactive hs) (by rw [hactive]; rfl)
    · exact h.managerStep_holding hok hdm hactive (by grind [hmoved.started, h.busy hactive])

theorem hostSafe_of_reserve {allHostnames withheld : List String} {svc : HostnameService}
    (hres : w.svc.reserveHostnames cfg.hostnames allHostnames cfg.leaseID = .ok (svc, withheld))
    (hspelled : ∀ h ∈ allHostnames, cfg.hostnames.toLower h ≠ h →
      ∀ e, w.svc.inUse (cfg.hostnames.toLower h) = some e →
        hostnameIDFromLeaseID cfg.hostnames cfg.leaseID = .ok e)
    {h : String} (hh : h ∈ allHostnames) (hnot : h ∉ withheld) : HostSafe cfg svc withheld h := by
  obtain ⟨hblocked, hID, store', hid, himpl, rfl⟩ :=
    HostnameService.reserveHostnames_eq_ok_iff.mp hres
  obtain ⟨-, hwithheld, -⟩ := reserveHostnamesImpl_eq_ok_iff.mp himpl
  have hlower : cfg.hostnames.toLower h ∈ allHostnames.map cfg.hostnames.toLower :=
    List.mem_map_of_mem hh
  have hfree : cfg.hostnames.toLower h ∉ withheld := by
    intro hmem
    by_cases hsame : cfg.hostnames.toLower h = h
    · exact hnot (hsame ▸ hmem)
    · grind [mem_withheldOf]
  refine ⟨⟨hID, hid, ?_⟩, hfree, ?_⟩
  · grind [reserveHostnamesImpl_apply]
  · exact HostnameService.checkBlocked_eq_ok_iff.mp hblocked _ hlower

theorem of_finished (h : HostsInv cfg w) (hactive : w.thread ≠ .idle) (hdm : w'.dm = w.dm)
    {r : OpResult} (hthread : w'.thread = .finished r) : HostsInv cfg w' := by
  refine of_not_holding (fun _ => ?_) (by rw [hthread]; rfl)
  rw [hdm]
  exact h.busy hactive

theorem reserve (h : HostsInv cfg w) (hok : HostsSettled cfg w .reserve)
    (hstep : deployStep cfg w .reserve = some w') : HostsInv cfg w' := by
  simp only [deployStep] at hstep
  split at hstep
  · next hthread =>
    have hactive : w.thread ≠ .idle := by simp [hthread]
    split at hstep <;> cases hstep
    · refine ⟨fun _ => h.busy hactive, ?_, fun withheld hosts hs => by cases hs⟩
      grind [hostSafe_of_reserve, HostsSettled, deployStep]
    · exact h.of_finished hactive rfl rfl
  · cases hstep

theorem deployed (h : HostsInv cfg w) (hok : HostsSettled cfg w .deployed)
    (hstep : deployStep cfg w .deployed = some w') : HostsInv cfg w' := by
  simp only [deployStep] at hstep
  split at hstep
  · next allHostnames withheld hthread =>
    injection hstep with hstep
    obtain ⟨hsafe, hall⟩ := h.reserved allHostnames withheld hthread
    constructor <;> grind [mem_gatherHosts, HostsSettled, deployStep]
  · cases hstep

theorem declare (h : HostsInv cfg w) {host : String} {result : Except String Unit}
    (hstep : deployStep cfg w (.declare host result) = some w') : HostsInv cfg w' := by
  simp only [deployStep] at hstep
  split at hstep
  · next withheld hosts hthread =>
    obtain ⟨entry, -, rfl⟩ := Option.map_eq_some_iff.mp hstep
    have hactive : w.thread ≠ .idle := by simp [hthread]
    cases result with
    | ok _ =>
      refine ⟨fun _ => h.busy hactive, fun allHostnames withheld hs => (by cases hs), ?_⟩
      rintro withheld' hosts' ⟨⟩ t ht
      exact h.declaring withheld hosts hthread t (List.mem_filter.mp ht).1
    | error text => exact h.of_finished hactive rfl rfl
  · cases hstep

theorem fail (h : HostsInv cfg w) {inactive : Bool} {text : String}
    (hstep : deployStep cfg w (.fail inactive text) = some w') : HostsInv cfg w' := by
  simp only [deployStep] at hstep
  all_goals grind [of_finished]

theorem finish (h : HostsInv cfg w) (hstep : deployStep cfg w .finish = some w') :
    HostsInv cfg w' := by
  simp only [deployStep] at hstep
  split at hstep
  · next hthread => grind [of_finished]
  · cases hstep

theorem request (h : HostsInv cfg w) {r : HostnameRequest} (hok : HostsSettled cfg w (.request r)) :
    HostsInv cfg { w with svc := w.svc.serve cfg.hostnames r } := by
  have hserve : ∀ {withheld host}, w.thread.holdsNames = true → HostSafe cfg w.svc withheld host →
      HostSafe cfg (w.svc.serve cfg.hostnames r) withheld host :=
    fun hholds hsafe => ⟨serve_heldBy (hok hholds) hsafe.held, hsafe.not_withheld,
      (serve_isHostnameBlocked _ _ _).trans hsafe.unblocked⟩
  refine ⟨h.busy, fun allHostnames withheld hs => ?_, fun withheld hosts hs t ht => ?_⟩ <;>
    replace hs : w.thread = _ := hs
  · obtain ⟨hsafe, hall⟩ := h.reserved allHostnames withheld hs
    exact ⟨fun n hn hnot => hserve (by rw [hs]; rfl) (hsafe n hn hnot), hall⟩
  · exact hserve (by rw [hs]; rfl) (h.declaring withheld hosts hs t ht)

theorem step (h : HostsInv cfg w) {e : DeployEvent} (hok : HostsSettled cfg w e)
    (hstep : deployStep cfg w e = some w') : HostsInv cfg w' := by
  cases e with
  | manager e => exact h.managerStep hok hstep
  | reserve => exact h.reserve hok hstep
  | deployed => exact h.deployed hok hstep
  | declare host result => exact h.declare hstep
  | fail inactive text => exact h.fail hstep
  | finish => exact h.finish hstep
  | request r =>
    injection hstep with hstep
    subst hstep
    exact h.request hok

theorem start (mgroup : Mani.Group) (svc : HostnameService) :
    HostsInv cfg (startDeployWorld mgroup svc) :=
  of_not_holding (fun _ => Option.some_ne_none _) rfl

end HostsInv

/-- In every run that meets the conditions, a host that is passed to `DeclareHostname` is reserved
to the group, and neither withheld nor blocked. -/
theorem declared_hosts_reserved {cfg : DeployConfig} {mgroup : Mani.Group} {svc : HostnameService}
    {w w' : DeployWorld}
    (hrun : Runs (deployStep cfg) (HostsSettled cfg) (startDeployWorld mgroup svc) w)
    {host : String} {result : Except String Unit}
    (hstep : deployStep cfg w (.declare host result) = some w') :
    ∃ withheld hosts, w.thread = .declaring withheld hosts ∧
      w.svc.HeldBy cfg.hostnames cfg.leaseID (cfg.hostnames.toLower host) ∧
      cfg.hostnames.toLower host ∉ withheld ∧
      w.svc.isHostnameBlocked (cfg.hostnames.toLower host) = .ok () := by
  have hinv := hrun.invariant (fun _ _ _ hok hstep h => h.step hok hstep)
    (HostsInv.start mgroup svc)
  simp only [deployStep] at hstep
  split at hstep
  · next withheld hosts hthread =>
    obtain ⟨entry, hfind, -⟩ := Option.map_eq_some_iff.mp hstep
    obtain rfl : entry.host = host := by simpa using List.find?_some hfind
    have hsafe := hinv.declaring withheld hosts hthread entry (List.mem_of_find?_eq_some hfind)
    exact ⟨withheld, hosts, hthread, hsafe.held, hsafe.not_withheld, hsafe.unblocked⟩
  · cases hstep

/-- The manager of the first lease of a group, at a provider without static hosts. -/
def plainDeploy : DeployConfig where
  hostnames := .reference
  leaseID := groupLease 1
  deploymentIngressStaticHosts := false
  deploymentIngressDomain := "ingress.com"
  isIngress expose := expose.global
  externalPort expose := expose.externalPort
  ingressHost _ name := name

/-- A manifest with one service that is exposed at some hosts. -/
def hostsGroup (hosts : List String) : Mani.Group :=
  ⟨"group", [plainService "web" "nginx"
    [⟨80, 80, .tcp, "", true, hosts, ⟨0, 0, 0, 0, 0, [], none⟩, "", 0⟩]]⟩

/-- A service where another group of the owner holds a name. -/
def otherGroupHolds (name : String) : HostnameService :=
  ⟨fun h => if h = name then some ⟨"owner", 7, 1⟩ else none, [], []⟩

theorem deployStep_reserve {w : DeployWorld} (hthread : w.thread = .started)
    (hres : w.svc.reserveHostnames cfg.hostnames (allHostnamesOfManifestGroup w.dm.deployment)
      cfg.leaseID = .ok (svc, withheld)) :
    deployStep cfg w .reserve = some { w with
      svc := svc
      thread := .reserved (allHostnamesOfManifestGroup w.dm.deployment) withheld } := by
  simp only [deployStep, hthread, hres]

theorem exists_of_reserveHostnames {hosts withheld : List String} {name : String}
    {held : Option HostnameID} (hres : (svc.reserveHostnames .reference hosts l).toOption.map
      (fun r => (r.1.inUse name, r.2)) = some (held, withheld)) :
    ∃ svc', svc.reserveHostnames .reference hosts l = .ok (svc', withheld) ∧
      svc'.inUse name = held := by
  grind [Option.map_eq_some_iff, Except.eq_ok_of_toOption_eq_some]

/-- A deploy of the hosts that is about to declare them. -/
def declaringWorld (hosts withheld : List String) (svc : HostnameService) : DeployWorld :=
  ⟨DeploymentManager.start (hostsGroup hosts), svc,
    .declaring withheld (gatherHosts plainDeploy withheld (hostsGroup hosts)), []⟩

/-- A host that is withheld is left out.  One in capitals that is free is reserved in lower
case and declared. -/
theorem declared_hosts_reserved_free_host :
    ∃ svc, Runs (deployStep plainDeploy) (HostsSettled plainDeploy)
        (startDeployWorld (hostsGroup ["a.com", "B.com"]) (otherGroupHolds "a.com"))
        (declaringWorld ["a.com", "B.com"] ["a.com"] svc) ∧
      (gatherHosts plainDeploy ["a.com"] (hostsGroup ["a.com", "B.com"])).map (·.host) = ["B.com"] ∧
      svc.HeldBy .reference (groupLease 1) "b.com" := by
  obtain ⟨svc, hres, -⟩ : ∃ svc, (otherGroupHolds "a.com").reserveHostnames .reference
      ["a.com", "B.com"] (groupLease 1) = .ok (svc, ["a.com"]) ∧
        svc.inUse "a.com" = some ⟨"owner", 7, 1⟩ :=
    exists_of_reserveHostnames (by decide +kernel)
  have hstart : Runs (deployStep plainDeploy) (HostsSettled plainDeploy) _
    (startDeployWorld (hostsGroup ["a.com", "B.com"]) (otherGroupHolds "a.com")) := Runs.refl _
  have hsettled : HostsSettled plainDeploy
      (startDeployWorld (hostsGroup ["a.com", "B.com"]) (otherGroupHolds "a.com")) .reserve := by
    have hspelled : ∀ h ∈ ["a.com", "B.com"], h.toLower ≠ h →
        (otherGroupHolds "a.com").inUse h.toLower = none := by decide +kernel
    intro h hh hne e he
    cases (hspelled h hh hne).symm.trans he
  have hreserved := hstart.next .reserve hsettled (deployStep_reserve rfl hres)
  have hrun : Runs _ _ _ (declaringWorld ["a.com", "B.com"] ["a.com"] svc) :=
    hreserved.next .deployed (fun service _ expose _ => by simp [staticHosts, plainDeploy]) rfl
  have hstep : deployStep plainDeploy (declaringWorld ["a.com", "B.com"] ["a.com"] svc)
    (.declare "B.com" (.ok ())) = some _ := rfl
  obtain ⟨withheld, hosts, -, hheld, -, -⟩ := declared_hosts_reserved hrun hstep
  have hlower : plainDeploy.hostnames.toLower "B.com" = "b.com" := by decide +kernel
  exact ⟨svc, hrun, by decide +kernel, hlower ▸ hheld⟩

/-- The host `A.com` is withheld as `a.com`, and is declared.  An update that comes after the names
are reserved has its host declared without a reservation. -/
theorem withheld_host_declared :
    (∃ svc w, Runs (deployStep plainDeploy) (fun _ _ => True)
        (startDeployWorld (hostsGroup ["A.com"]) (otherGroupHolds "a.com"))
        (declaringWorld ["A.com"] ["a.com"] svc) ∧
      deployStep plainDeploy (declaringWorld ["A.com"] ["a.com"] svc)
        (.declare "A.com" (.ok ())) = some w ∧
      plainDeploy.hostnames.toLower "A.com" ∈ ["a.com"] ∧
      ¬ svc.HeldBy .reference (groupLease 1) "a.com") ∧
    (∃ v w, Runs (deployStep plainDeploy) (fun _ _ => True)
        (startDeployWorld (hostsGroup []) ⟨fun _ => none, [], []⟩) v ∧
      deployStep plainDeploy v (.declare "c.com" (.ok ())) = some w ∧
      ¬ v.svc.HeldBy .reference (groupLease 1) "c.com") := by
  have hid : hostnameIDFromLeaseID .reference (groupLease 1) = .ok ⟨"owner", 42, 1⟩ := by
    decide +kernel
  constructor
  · obtain ⟨svc, hres, hother⟩ : ∃ svc, (otherGroupHolds "a.com").reserveHostnames .reference
        ["A.com"] (groupLease 1) = .ok (svc, ["a.com"]) ∧
          svc.inUse "a.com" = some ⟨"owner", 7, 1⟩ :=
      exists_of_reserveHostnames (by decide +kernel)
    refine ⟨svc, _, ?_, rfl, by decide +kernel, ?_⟩
    · exact ((Runs.refl _).next .reserve trivial (deployStep_reserve rfl hres)).next .deployed
        trivial rfl
    · rintro ⟨hID, hhID, hheld⟩
      simp_all
  · obtain ⟨svc, hres, hfree⟩ : ∃ svc, (⟨fun _ => none, [], []⟩ :
        HostnameService).reserveHostnames .reference [] (groupLease 1) = .ok (svc, []) ∧
          svc.inUse "c.com" = none :=
      exists_of_reserveHostnames (by decide +kernel)
    refine ⟨_, _, (((Runs.refl _).next .reserve trivial (deployStep_reserve rfl hres)).next
      (.manager (.update (hostsGroup ["c.com"]))) trivial rfl).next .deployed trivial rfl, rfl, ?_⟩
    rintro ⟨hID, -, hheld⟩
    cases hfree.symm.trans hheld

end AkashProvider
