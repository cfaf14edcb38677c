import AkashProvider.Deploy.Reconcile
import AkashProvider.Kube.MetalLB
import AkashProvider.Lib.Mirror

/-!
# The IP operator

The operator has a service of the MetalLB client for each declared IP.  It remembers what it has
done in a map with one entry for an owner, sharing key and external port; the service of an IP is
named after the service of the lease, the external port and the protocol.  If the entry is of
another lease its service is purged first.  After a start the entries are made from the services
found, without ports and protocols, and every declared IP is new.

The events are applied without error, and the versions of the services are left out.
-/

namespace AkashProvider.Operator

open Kube (ClusterIPPassthroughDirective)

/-! ## Services -/

structure ClusterService where
  ns : String
  obj : ApiObject Kube.ServiceSpec
deriving DecidableEq

def ClusterService.place (x : ClusterService) : String × String := (x.ns, x.obj.name)

/-- A service of MetalLB as it is read back.  Its port is not. -/
structure IPPassthrough where
  lID : LeaseID
  serviceName : String
  externalPort : UInt32
  sharingKey : String
  protocol : Mani.ServiceProtocol

inductive PassthroughErr where
  | wrongType (name : String)
  | wrongPorts (name : String) (found : Nat)
  | leaseLabels (name : String) (err : LabelErr)
  | emptySelector

/-- The labels that `GetIPPassthroughs` lists by. -/
def passthroughSelector : Selector :=
  [(akashManagedLabelName, "true"), (Kube.akashServiceTarget, Kube.akashMetalLB)]

def readPassthrough (service : ApiObject Kube.ServiceSpec) :
    Except PassthroughErr IPPassthrough := do
  if service.spec.type ≠ .loadBalancer then .error (.wrongType service.name)
  match service.spec.ports with
  | [portDefn] =>
    let leaseID ← (recoverLeaseIDFromLabels service.labels).mapError (.leaseLabels service.name)
    let serviceName := (service.spec.selector.lookup Kube.akashManifestServiceLabelName).getD ""
    if serviceName = "" then .error .emptySelector
    .ok
      { lID := leaseID
        serviceName := serviceName
        externalPort := UInt32.ofInt portDefn.port
        sharingKey := (service.annotations.lookup Kube.metalLbAllowSharedIP).getD ""
        protocol := portDefn.protocol }
  | ports => .error (.wrongPorts service.name ports.length)

/-- `GetIPPassthroughs`, of the services of all namespaces in some order. -/
def getIPPassthroughs (services : List ClusterService) :
    Except PassthroughErr (List IPPassthrough) :=
  ((services.filter fun x => passthroughSelector.Selects x.obj.labels ∧
    (x.obj.labels.lookup akashLeaseOwnerLabelName).isSome).map (·.obj)).mapM readPassthrough

/-! ## The operator -/

/-- An entry that was made from a service has no protocol. -/
structure ManagedIP where
  presentLease : LeaseID
  presentServiceName : String
  presentPort : UInt32
  presentExternalPort : UInt32
  presentSharingKey : String
  presentProtocol : Option Mani.ServiceProtocol

def getStateKey (leaseID : LeaseID) (sharingKey : String) (externalPort : UInt32) : String :=
  leaseID.owner ++ "-" ++ sharingKey ++ "-" ++ formatUint32 externalPort

/-- The services, and the map of the operator. -/
structure Passthroughs where
  services : List ClusterService
  state : String → Option ManagedIP

section

variable (S : ManifestSdk) (poolName : String)

def purgeIPPassthrough (services : List ClusterService) (leaseID : LeaseID)
    (serviceName : String) (externalPort : UInt32) (protocol : Option Mani.ServiceProtocol) :
    List ClusterService :=
  Mirror.drop ClusterService.place services
    (S.leaseIDToNamespace leaseID, Kube.createIPPassthroughResourceName serviceName externalPort
      ((protocol.map S.protocolToString).getD ""))

/-- The service of a directive, where it belongs. -/
def serviceOf (directive : ClusterIPPassthroughDirective) : ClusterService :=
  { ns := S.leaseIDToNamespace directive.leaseID
    obj := Kube.ipPassthroughService S directive poolName }

/-- The service that is there is updated, and otherwise created. -/
def createIPPassthrough (services : List ClusterService)
    (directive : ClusterIPPassthroughDirective) : List ClusterService :=
  Mirror.put ClusterService.place services (serviceOf S poolName directive)

def stateKey (directive : ClusterIPPassthroughDirective) : String :=
  getStateKey directive.leaseID directive.sharingKey directive.externalPort

def managed (directive : ClusterIPPassthroughDirective) : ManagedIP :=
  { presentLease := directive.leaseID
    presentServiceName := directive.serviceName
    presentPort := directive.port
    presentExternalPort := directive.externalPort
    presentSharingKey := directive.sharingKey
    presentProtocol := some directive.protocol }

/-- The entry that is made from a service.  The port is zero. -/
def restored (v : IPPassthrough) : ManagedIP :=
  { presentLease := v.lID
    presentServiceName := v.serviceName
    presentPort := 0
    presentExternalPort := v.externalPort
    presentSharingKey := v.sharingKey
    presentProtocol := none }

def hasChanged (entry : ManagedIP) (directive : ClusterIPPassthroughDirective) : Bool :=
  entry.presentServiceName ≠ directive.serviceName || entry.presentPort ≠ directive.port ||
    entry.presentSharingKey ≠ directive.sharingKey ||
    entry.presentExternalPort ≠ directive.externalPort ||
    entry.presentProtocol ≠ some directive.protocol

namespace Passthroughs

def applyDeleteEvent (w : Passthroughs) (directive : ClusterIPPassthroughDirective) :
    Passthroughs where
  services := purgeIPPassthrough S w.services directive.leaseID directive.serviceName
    directive.externalPort (some directive.protocol)
  state := Function.update w.state (stateKey directive) none

def applyAddOrUpdateEvent (w : Passthroughs) (directive : ClusterIPPassthroughDirective) :
    Passthroughs where
  services :=
    match w.state (stateKey directive) with
    | none => createIPPassthrough S poolName w.services directive
    | some entry =>
      if entry.presentLease = directive.leaseID then
        if hasChanged entry directive then createIPPassthrough S poolName w.services directive
        else w.services
      else
        createIPPassthrough S poolName
          (purgeIPPassthrough S w.services entry.presentLease entry.presentServiceName
            entry.presentExternalPort entry.presentProtocol) directive
  state := Function.update w.state (stateKey directive) (some (managed directive))

end Passthroughs

def restoredState (entries : List IPPassthrough) : String → Option ManagedIP :=
  entries.foldl (fun state v =>
    Function.update state (getStateKey v.lID v.sharingKey v.externalPort) (some (restored v)))
    fun _ => none

/-! ## Declared IPs -/

/-- The declared IPs by the names of their resources, and the operator, which may not run. -/
structure IPSystem where
  declared : List (String × ClusterIPPassthroughDirective)
  running : Bool
  world : Passthroughs

inductive IPEvent where
  | declare (name : String) (directive : ClusterIPPassthroughDirective)
  | update (name : String) (directive : ClusterIPPassthroughDirective)
  | delete (name : String)
  | stop
  | start (listed : List ClusterService)
      (ips : List (String × ClusterIPPassthroughDirective))

namespace IPSystem

def init : IPSystem := ⟨[], false, ⟨[], fun _ => none⟩⟩

/-- What the operator does on an event, if it runs. -/
def observed (s : IPSystem) (f : Passthroughs → Passthroughs) : Passthroughs :=
  if s.running then f s.world else s.world

/-- A start lists the services and the declared IPs, each in some order. -/
def step (s : IPSystem) : IPEvent → Option IPSystem
  | .declare name d =>
    if name ∈ s.declared.map (·.1) then none
    else some { s with
      declared := (name, d) :: s.declared
      world := s.observed fun w => w.applyAddOrUpdateEvent S poolName d }
  | .update name d =>
    (s.declared.lookup name).map fun _ =>
      { s with
        declared := (name, d) :: Mirror.drop (·.1) s.declared name
        world := s.observed fun w => w.applyAddOrUpdateEvent S poolName d }
  | .delete name =>
    (s.declared.lookup name).map fun d =>
      { s with
        declared := Mirror.drop (·.1) s.declared name
        world := s.observed fun w => w.applyDeleteEvent S d }
  | .stop => if s.running then some { s with running := false } else none
  | .start listed ips =>
    if s.running = false ∧ listed.Perm s.world.services ∧ ips.Perm s.declared then
      (getIPPassthroughs listed).toOption.map fun entries =>
        { s with
          running := true
          world := (ips.map (·.2)).foldl (Passthroughs.applyAddOrUpdateEvent S poolName)
            ⟨s.world.services, restoredState entries⟩ }
    else none

end IPSystem

/-! ## Mirrors -/

def placeOf (directive : ClusterIPPassthroughDirective) : String × String :=
  (serviceOf S poolName directive).place

/-- The entry of the key is of another lease, and its service is purged. -/
def Passthroughs.Displaces (w : Passthroughs) (d d₁ : ClusterIPPassthroughDirective) : Prop :=
  w.state (stateKey d) = some (managed d₁) ∧ d₁.leaseID ≠ d.leaseID

/-- The services are those of the directives, and the entries that were made by events are right. -/
structure Passthroughs.Synced (w : Passthroughs) (ds : List ClusterIPPassthroughDirective) :
    Prop where
  mirrors : Mirror.Mirrors ClusterService.place (serviceOf S poolName) ds w.services
  entries : ∀ k d, w.state k = some (managed d) → d ∈ ds ∧ stateKey d = k

/-- Places are distinct, and the services are of the MetalLB client. -/
@[grind cases]
structure Passthroughs.Made (w : Passthroughs) : Prop where
  places : (w.services.map ClusterService.place).Nodup
  made : ∀ x ∈ w.services, ∃ d, x = serviceOf S poolName d

def OneLease (ds : List ClusterIPPassthroughDirective) : Prop :=
  ∀ a ∈ ds, ∀ b ∈ ds, stateKey a = stateKey b → a.leaseID = b.leaseID

namespace IPSystem

def directives (s : IPSystem) : List ClusterIPPassthroughDirective := s.declared.map (·.2)

/-- An IP that is declared has a service of its own and displaces none.  One that is updated
displaces its own service, or keeps its place, and keeps its key.  Where the operator was down,
nothing was deleted or moved. -/
def Orderly (s : IPSystem) : IPEvent → Prop
  | .declare _ d => s.running = true →
      placeOf S poolName d ∉ s.directives.map (placeOf S poolName) ∧ ∀ d₁, ¬s.world.Displaces d d₁
  | .update name d' => s.running = true → ∀ d, s.declared.lookup name = some d →
      placeOf S poolName d' ∉
          (Mirror.drop (·.1) s.declared name).map (fun e => placeOf S poolName e.2) ∧
        (s.world.Displaces d' d ∨
          (∀ d₁, ¬s.world.Displaces d' d₁) ∧ placeOf S poolName d' = placeOf S poolName d) ∧
        (s.world.state (stateKey d) = some (managed d) → stateKey d' = stateKey d)
  | .start _ _ =>
    (s.directives.map (placeOf S poolName)).Nodup ∧ OneLease s.directives ∧
      ∀ x ∈ s.world.services, x.place ∈ s.directives.map (placeOf S poolName)
  | _ => True

@[grind cases]
structure WellMade (s : IPSystem) : Prop where
  names : (s.declared.map (·.1)).Nodup
  world : s.world.Made S poolName

/-- While the operator runs, the services are those of the declared IPs. -/
def Synced (s : IPSystem) : Prop :=
  s.running = true → s.world.Synced S poolName s.directives

end IPSystem

end

/-! ## One event -/

section

variable {S : ManifestSdk} {poolName : String} {w : Passthroughs}
  {d d₁ : ClusterIPPassthroughDirective} {ds : List ClusterIPPassthroughDirective}

theorem exists_managed (entry : ManagedIP) (h : entry.presentProtocol ≠ none) :
    ∃ d, entry = managed d := by
  obtain ⟨lease, service, port, external, sharing, protocol⟩ := entry
  cases protocol with
  | none => exact absurd rfl h
  | some p => exact ⟨⟨lease, service, port, external, sharing, p⟩, rfl⟩

theorem managed_injective : Function.Injective managed := by
  rintro ⟨⟩ ⟨⟩ h
  grind [managed]

theorem eq_managed_of_not_hasChanged {entry : ManagedIP} (hlease : entry.presentLease = d.leaseID)
    (h : hasChanged entry d = false) : entry = managed d := by
  obtain ⟨lease, service, port, external, sharing, protocol⟩ := entry
  grind [hasChanged, Bool.or_eq_false_iff, managed]

theorem OneLease.congr {ds' : List ClusterIPPassthroughDirective} (hperm : ds.Perm ds')
    (h : OneLease ds) : OneLease ds' :=
  fun a ha b hb => h a (hperm.mem_iff.mpr ha) b (hperm.mem_iff.mpr hb)

theorem OneLease.append_singleton (h : OneLease ds)
    (hd : ∀ a ∈ ds, stateKey a = stateKey d → a.leaseID = d.leaseID) : OneLease (ds ++ [d]) := by
  grind [OneLease, stateKey]

theorem resourceName_ne_of_empty {proto : String} (hproto : proto ≠ "" ∧ '-' ∉ proto.toList)
    (a b : String) (m n : UInt32) : Kube.createIPPassthroughResourceName a m "" ≠
      Kube.createIPPassthroughResourceName b n proto := by
  intro h
  have hdash : "-".toLower.toList = ['-'] := by decide +kernel
  have hempty : "".toLower.toList = [] := by decide +kernel
  have hne : proto.toLower.toList ≠ [] := by
    rw [Go.toList_toLower]
    simpa using hproto.1
  have hlast := congrArg (fun name => name.toList.getLast?) h
  simp only [Kube.createIPPassthroughResourceName, Go.toLower_append, String.toList_append, hdash,
    hempty, List.append_nil, List.getLast?_append_of_ne_nil _ hne, List.getLast?_concat] at hlast
  exact hproto.2 (Go.mem_of_mem_toLower (by decide) (List.mem_of_getLast? hlast.symm))

theorem purge_of_none
    (hproto : ∀ p, S.protocolToString p ≠ "" ∧ '-' ∉ (S.protocolToString p).toList)
    (hmade : w.Made S poolName) (lid : LeaseID) (name : String) (n : UInt32) :
    purgeIPPassthrough S w.services lid name n none = w.services := by
  refine Mirror.drop_of_notMem fun hmem => ?_
  obtain ⟨x, hx, hplace⟩ := List.mem_map.mp hmem
  obtain ⟨d, rfl⟩ := hmade.made x hx
  exact resourceName_ne_of_empty (hproto d.protocol) _ _ _ _ (congrArg Prod.snd hplace).symm

namespace Passthroughs

theorem services_apply_of_displaces (h : w.Displaces d d₁) :
    (w.applyAddOrUpdateEvent S poolName d).services =
      Mirror.put ClusterService.place
        (Mirror.drop ClusterService.place w.services (placeOf S poolName d₁))
        (serviceOf S poolName d) := by
  have hlease : (managed d₁).presentLease ≠ d.leaseID := h.2
  simp only [applyAddOrUpdateEvent, h.1, if_neg hlease]
  rfl

theorem mem_services_apply
    (hproto : ∀ p, S.protocolToString p ≠ "" ∧ '-' ∉ (S.protocolToString p).toList)
    (hmade : w.Made S poolName) (hfree : ∀ d₁, ¬w.Displaces d d₁)
    (hbacked : w.state (stateKey d) = some (managed d) → serviceOf S poolName d ∈ w.services)
    (x : ClusterService) : x ∈ (w.applyAddOrUpdateEvent S poolName d).services ↔
      x ∈ Mirror.put ClusterService.place w.services (serviceOf S poolName d) := by
  simp only [applyAddOrUpdateEvent]
  cases hentry : w.state (stateKey d) with
  | none => rfl
  | some entry =>
    by_cases hlease : entry.presentLease = d.leaseID
    · simp only [if_pos hlease]
      cases hchanged : hasChanged entry d with
      | true => rfl
      | false =>
        rw [eq_managed_of_not_hasChanged hlease hchanged] at hentry
        exact (Mirror.mem_put_of_mem hmade.places (hbacked hentry)).symm
    · simp only [if_neg hlease]
      cases hprotocol : entry.presentProtocol with
      | none =>
        rw [purge_of_none hproto hmade]
        rfl
      | some p =>
        obtain ⟨d₁, rfl⟩ := exists_managed entry (by simp [hprotocol])
        exact absurd ⟨hentry, hlease⟩ (hfree d₁)

theorem state_apply (w : Passthroughs) (d : ClusterIPPassthroughDirective) (k : String) :
    (w.applyAddOrUpdateEvent S poolName d).state k =
      if k = stateKey d then some (managed d) else w.state k :=
  Function.update_apply _ _ _ _

/-- An entry after an event is that of the event, or was there under another key. -/
theorem entry_of_apply {k : String} {d₁ : ClusterIPPassthroughDirective}
    (h : (w.applyAddOrUpdateEvent S poolName d).state k = some (managed d₁)) :
    (d₁ = d ∧ stateKey d = k) ∨ (k ≠ stateKey d ∧ w.state k = some (managed d₁)) := by
  rw [state_apply] at h
  split at h
  next hk => exact .inl ⟨(managed_injective (Option.some.inj h)).symm, hk.symm⟩
  next hk => exact .inr ⟨hk, h⟩

/-! ### Services of the client -/

theorem Made.drop (h : w.Made S poolName) (k : String × String) :
    Made S poolName { w with services := Mirror.drop ClusterService.place w.services k } where
  places := Mirror.nodup_drop h.places k
  made := fun x hx => h.made x (Mirror.mem_drop.mp hx).1

theorem Made.put (h : w.Made S poolName) (d : ClusterIPPassthroughDirective) :
    Made S poolName
      { w with
        services := Mirror.put ClusterService.place w.services (serviceOf S poolName d) } where
  places := Mirror.nodup_put h.places _
  made := by
    intro x hx
    rcases Mirror.mem_put.mp hx with rfl | ⟨hx, -⟩
    · exact ⟨d, rfl⟩
    · exact h.made x hx

theorem Made.applyAddOrUpdateEvent (h : w.Made S poolName) (d : ClusterIPPassthroughDirective) :
    (w.applyAddOrUpdateEvent S poolName d).Made S poolName := by
  -- the map plays no part in it
  have hservices : ∀ {services : List ClusterService} {state : String → Option ManagedIP},
      Made S poolName ⟨services, w.state⟩ → Made S poolName ⟨services, state⟩ :=
    fun h => ⟨h.places, h.made⟩
  refine hservices ?_
  split
  next => exact h.put d
  next entry _ =>
    split_ifs
    · exact h.put d
    · exact h
    · exact (h.drop _).put d

theorem Made.applyDeleteEvent (h : w.Made S poolName) (d : ClusterIPPassthroughDirective) :
    (w.applyDeleteEvent S d).Made S poolName :=
  ⟨(h.drop _).places, (h.drop _).made⟩

/-! ### Events of a running operator -/

theorem Synced.backed (h : w.Synced S poolName ds) (d : ClusterIPPassthroughDirective)
    (hentry : w.state (stateKey d) = some (managed d)) : serviceOf S poolName d ∈ w.services :=
  h.mirrors.make_mem (h.entries _ d hentry).1

theorem Synced.declare_iff
    (hproto : ∀ p, S.protocolToString p ≠ "" ∧ '-' ∉ (S.protocolToString p).toList)
    (hmade : w.Made S poolName) (h : w.Synced S poolName ds) (d : ClusterIPPassthroughDirective) :
    (w.applyAddOrUpdateEvent S poolName d).Synced S poolName (d :: ds) ↔
      placeOf S poolName d ∉ ds.map (placeOf S poolName) ∧ ∀ d₁, ¬w.Displaces d d₁ := by
  constructor
  · intro h'
    refine ⟨h'.mirrors.tail, fun d₁ hdisplaces => ?_⟩
    have hmirrors := h'.mirrors
    rw [services_apply_of_displaces hdisplaces] at hmirrors
    exact Mirror.Mirrors.not_of_drop (h.entries _ d₁ hdisplaces.1).1 d hmirrors
  · rintro ⟨hfresh, hfree⟩
    constructor
    · rw [Mirror.mirrors_congr (mem_services_apply hproto hmade hfree (h.backed d))]
      exact (h.mirrors.put_iff d).mpr hfresh
    · intro k d₁ hentry
      rcases entry_of_apply hentry with ⟨rfl, hk⟩ | ⟨-, hentry⟩
      · exact ⟨List.mem_cons_self, hk⟩
      · exact (h.entries k d₁ hentry).imp_left (List.mem_cons_of_mem d)

theorem Synced.update_iff
    (hproto : ∀ p, S.protocolToString p ≠ "" ∧ '-' ∉ (S.protocolToString p).toList)
    (hmade : w.Made S poolName) (h : w.Synced S poolName (d :: ds))
    (d' : ClusterIPPassthroughDirective) :
    (w.applyAddOrUpdateEvent S poolName d').Synced S poolName (d' :: ds) ↔
      placeOf S poolName d' ∉ ds.map (placeOf S poolName) ∧
        (w.Displaces d' d ∨
          (∀ d₁, ¬w.Displaces d' d₁) ∧ placeOf S poolName d' = placeOf S poolName d) ∧
        (w.state (stateKey d) = some (managed d) → stateKey d' = stateKey d) := by
  have hfree_iff : (∀ d₁, ¬w.Displaces d' d₁) →
      (Mirror.Mirrors ClusterService.place (serviceOf S poolName) (d' :: ds)
        (w.applyAddOrUpdateEvent S poolName d').services ↔
        placeOf S poolName d' ∉ ds.map (placeOf S poolName) ∧
          placeOf S poolName d' = placeOf S poolName d) := by
    intro hfree
    rw [Mirror.mirrors_congr (mem_services_apply hproto hmade hfree (h.backed d'))]
    exact h.mirrors.replace_iff d'
  constructor
  · intro h'
    refine ⟨h'.mirrors.tail, ?_, fun hentry => ?_⟩
    · by_cases hfree : ∀ d₁, ¬w.Displaces d' d₁
      · exact .inr ⟨hfree, ((hfree_iff hfree).mp h'.mirrors).2⟩
      · obtain ⟨d₁, hdisplaces⟩ := not_forall_not.mp hfree
        rcases List.mem_cons.mp (h.entries _ d₁ hdisplaces.1).1 with rfl | hd₁
        · exact .inl hdisplaces
        · have hmirrors := h'.mirrors
          rw [services_apply_of_displaces hdisplaces] at hmirrors
          exact absurd hmirrors (Mirror.Mirrors.not_of_drop hd₁ d')
    · -- otherwise the entry of the old directive would remain
      by_contra hkey
      have hold : (w.applyAddOrUpdateEvent S poolName d').state (stateKey d) =
          some (managed d) := by
        rw [state_apply, if_neg (Ne.symm hkey), hentry]
      rcases List.mem_cons.mp (h'.entries _ d hold).1 with rfl | hd
      · exact hkey rfl
      · exact h.mirrors.tail (List.mem_map_of_mem hd)
  · rintro ⟨hfresh, hplace, hkey⟩
    constructor
    · rcases hplace with hdisplaces | ⟨hfree, hsame⟩
      · rw [services_apply_of_displaces hdisplaces]
        exact (h.mirrors.drop.put_iff d').mpr hfresh
      · exact (hfree_iff hfree).mpr ⟨hfresh, hsame⟩
    · intro k d₁ hentry
      rcases entry_of_apply hentry with ⟨rfl, hk⟩ | ⟨hk, hentry⟩
      · exact ⟨List.mem_cons_self, hk⟩
      · obtain ⟨hd₁, hk₁⟩ := h.entries k d₁ hentry
        grind

theorem Synced.delete (h : w.Synced S poolName (d :: ds)) :
    (w.applyDeleteEvent S d).Synced S poolName ds where
  mirrors := h.mirrors.drop
  entries := by
    intro k d₁ hentry
    have hentry : Function.update w.state (stateKey d) none k = some (managed d₁) := hentry
    rw [Function.update_apply] at hentry
    split at hentry
    next => cases hentry
    next hk =>
      obtain ⟨hd₁, hk₁⟩ := h.entries k d₁ hentry
      grind

/-! ### A start -/

/-- The entries that were made by events are of these directives. -/
def Remembers (w : Passthroughs) (ds : List ClusterIPPassthroughDirective) : Prop :=
  ∀ k d, w.state k = some (managed d) → d ∈ ds ∧ stateKey d = k

theorem Remembers.apply (h : w.Remembers ds) (d : ClusterIPPassthroughDirective) :
    (w.applyAddOrUpdateEvent S poolName d).Remembers (ds ++ [d]) := by
  intro k d₁ hentry
  rcases entry_of_apply hentry with ⟨rfl, hk⟩ | ⟨-, hentry⟩
  all_goals grind [List.mem_singleton_self, Remembers]

theorem of_mem_services_apply {x : ClusterService}
    (hx : x ∈ (w.applyAddOrUpdateEvent S poolName d).services) :
    x = serviceOf S poolName d ∨ x ∈ w.services := by
  simp only [applyAddOrUpdateEvent] at hx
  split at hx
  next => exact (Mirror.mem_put.mp hx).imp_right And.left
  next =>
    split_ifs at hx
    · exact (Mirror.mem_put.mp hx).imp_right And.left
    · exact .inr hx
    · exact (Mirror.mem_put.mp hx).imp_right fun h => (Mirror.mem_drop.mp h.1).1

theorem notMem_foldl_apply : ∀ {rest : List ClusterIPPassthroughDirective} {w : Passthroughs},
    serviceOf S poolName d ∉ w.services → placeOf S poolName d ∉ rest.map (placeOf S poolName) →
      serviceOf S poolName d ∉
        (rest.foldl (applyAddOrUpdateEvent S poolName) w).services
  | [], _, hgone, _ => hgone
  | d' :: rest, _, hgone, hplace => by
    rw [List.map_cons, List.mem_cons, not_or] at hplace
    rw [List.foldl_cons]
    refine notMem_foldl_apply (fun hmem => ?_) hplace.2
    rcases of_mem_services_apply hmem with heq | hmem
    · exact hplace.1 (congrArg ClusterService.place heq)
    · exact hgone hmem

variable {done rest : List ClusterIPPassthroughDirective}

/-- The next directive displaces nothing if those before with its key are of its lease. -/
theorem Remembers.free (h : w.Remembers done) (hone : OneLease (done ++ d :: rest))
    (d₁ : ClusterIPPassthroughDirective) :
    ¬w.Displaces d d₁ := by
  rintro ⟨hentry, hlease⟩
  obtain ⟨hd₁, hkey⟩ := h _ d₁ hentry
  exact hlease (hone d₁ (List.mem_append_left _ hd₁) d
    (List.mem_append_right _ List.mem_cons_self) hkey)

theorem notMem_of_distinct (hdistinct : ((done ++ d :: rest).map (placeOf S poolName)).Nodup) :
    d ∉ done := by
  grind

/-- Where directives with one key are of one lease, the events of a start put all the services. -/
theorem mem_foldl_apply
    (hproto : ∀ p, S.protocolToString p ≠ "" ∧ '-' ∉ (S.protocolToString p).toList) :
    ∀ {rest done : List ClusterIPPassthroughDirective} {w : Passthroughs}, w.Made S poolName →
      w.Remembers done → ((done ++ rest).map (placeOf S poolName)).Nodup →
      OneLease (done ++ rest) →
      (∀ x, x ∈ (rest.foldl (applyAddOrUpdateEvent S poolName) w).services ↔
        x ∈ rest.foldl (fun services d => Mirror.put ClusterService.place services
          (serviceOf S poolName d)) w.services) ∧
      (rest.foldl (applyAddOrUpdateEvent S poolName) w).Remembers (done ++ rest)
  | [], done, w, _, hremembers, _, _ =>
    ⟨fun _ => Iff.rfl, by rw [List.append_nil]; exact hremembers⟩
  | d :: rest, done, w, hmade, hremembers, hdistinct, hone => by
    have happend : done ++ d :: rest = (done ++ [d]) ++ rest := by simp
    have hrest : (rest.map fun d => (serviceOf S poolName d).place).Nodup := by
      rw [List.map_append, List.map_cons] at hdistinct
      exact (List.nodup_cons.mp hdistinct.of_append_right).2
    have hput := mem_services_apply hproto hmade (hremembers.free hone) fun hentry =>
      absurd (hremembers _ d hentry).1 (notMem_of_distinct hdistinct)
    rw [happend] at hdistinct hone
    obtain ⟨hmem, hfold⟩ := mem_foldl_apply hproto (hmade.applyAddOrUpdateEvent d)
      (hremembers.apply d) hdistinct hone
    refine ⟨fun x => ?_, happend ▸ hfold⟩
    rw [List.foldl_cons, List.foldl_cons, hmem x]
    exact Mirror.mem_foldl_put_congr hrest hput

/-- If a start leaves all the services, directives with one key were of one lease: one of another
lease would have displaced the last one before it. -/
theorem oneLease_of_mem : ∀ {rest done : List ClusterIPPassthroughDirective} {w : Passthroughs},
    w.Remembers done → (∀ a ∈ done, ∃ b ∈ done, w.state (stateKey a) = some (managed b)) →
      OneLease done → ((done ++ rest).map (placeOf S poolName)).Nodup →
      (∀ d ∈ done ++ rest, serviceOf S poolName d ∈
        (rest.foldl (applyAddOrUpdateEvent S poolName) w).services) →
      OneLease (done ++ rest)
  | [], done, _, _, _, hone, _, _ => by rwa [List.append_nil]
  | d :: rest, done, w, hremembers, hcovered, hone, hdistinct, hall => by
    have happend : done ++ d :: rest = (done ++ [d]) ++ rest := by simp
    have hlease : ∀ a ∈ done, stateKey a = stateKey d → a.leaseID = d.leaseID := by
      intro a ha hkey
      by_contra hne
      obtain ⟨b, hb, hentry⟩ := hcovered a ha
      have hb' := hone a ha b hb (hremembers _ b hentry).2.symm
      have hdisplaces : w.Displaces d b := ⟨hkey ▸ hentry, hb' ▸ hne⟩
      rw [List.map_append, List.map_cons] at hdistinct
      have hplace : placeOf S poolName b ∉ (d :: rest).map (placeOf S poolName) :=
        List.disjoint_of_nodup_append hdistinct (List.mem_map_of_mem hb)
      rw [List.map_cons, List.mem_cons, not_or] at hplace
      refine notMem_foldl_apply ?_ hplace.2 (hall b (List.mem_append_left _ hb))
      rw [services_apply_of_displaces hdisplaces, Mirror.mem_put, Mirror.mem_drop, not_or]
      exact ⟨fun heq => hplace.1 (congrArg ClusterService.place heq), fun h => h.1.2 rfl⟩
    have hcovered' : ∀ a ∈ done ++ [d], ∃ b ∈ done ++ [d],
        (w.applyAddOrUpdateEvent S poolName d).state (stateKey a) = some (managed b) := by
      intro a ha
      rw [state_apply]
      by_cases hkey : stateKey a = stateKey d
      · exact ⟨d, by simp, if_pos hkey⟩
      · rw [List.mem_append, List.mem_singleton] at ha
        obtain ⟨b, hb, hentry⟩ := hcovered a (ha.resolve_right fun h => hkey (h ▸ rfl))
        exact ⟨b, List.mem_append_left _ hb, by rw [if_neg hkey, hentry]⟩
    rw [happend] at hdistinct hall ⊢
    exact oneLease_of_mem (hremembers.apply d) hcovered' (hone.append_singleton hlease) hdistinct
      hall

theorem synced_start_iff
    (hproto : ∀ p, S.protocolToString p ≠ "" ∧ '-' ∉ (S.protocolToString p).toList)
    (hmade : w.Made S poolName) (hrestored : ∀ k d, w.state k ≠ some (managed d))
    (ds : List ClusterIPPassthroughDirective) :
    (ds.foldl (applyAddOrUpdateEvent S poolName) w).Synced S poolName ds ↔
      (ds.map (placeOf S poolName)).Nodup ∧ OneLease ds ∧
        ∀ x ∈ w.services, x.place ∈ ds.map (placeOf S poolName) := by
  have hremembers : w.Remembers [] := fun k d hentry => absurd hentry (hrestored k d)
  have hfold := @mem_foldl_apply S poolName hproto ds [] w hmade hremembers
  constructor
  · intro h
    have hdistinct := h.mirrors.distinct
    have hone := @oneLease_of_mem S poolName ds [] w hremembers nofun nofun hdistinct
      fun d hd => h.mirrors.make_mem hd
    have hmirrors := (Mirror.mirrors_congr (hfold hdistinct hone).1).mp h.mirrors
    exact ⟨hdistinct, hone, (Mirror.mirrors_foldl_put_iff hdistinct).mp hmirrors⟩
  · rintro ⟨hdistinct, hone, hall⟩
    have hdistinct : (ds.map fun d => (serviceOf S poolName d).place).Nodup := hdistinct
    refine ⟨?_, (hfold hdistinct hone).2⟩
    rw [Mirror.mirrors_congr (hfold hdistinct hone).1]
    exact (Mirror.mirrors_foldl_put_iff hdistinct).mpr hall

theorem Synced.congr {ds' : List ClusterIPPassthroughDirective} (hperm : ds.Perm ds')
    (h : w.Synced S poolName ds) : w.Synced S poolName ds' where
  mirrors := h.mirrors.congr hperm
  entries := fun k d hentry => ⟨hperm.mem_iff.mp (h.entries k d hentry).1, (h.entries k d hentry).2⟩

end Passthroughs

theorem restoredState_ne (entries : List IPPassthrough) (k : String)
    (d : ClusterIPPassthroughDirective) : restoredState entries k ≠ some (managed d) := by
  have hfold : ∀ (entries : List IPPassthrough) (state : String → Option ManagedIP),
      (∀ k, state k ≠ some (managed d)) → ∀ k, entries.foldl (fun state v => Function.update state
        (getStateKey v.lID v.sharingKey v.externalPort) (some (restored v))) state k ≠
          some (managed d) := by
    intro entries
    induction entries with
    | nil => exact fun _ h => h
    | cons v rest ih =>
      intro state h
      refine ih _ fun k => ?_
      show Function.update state _ _ k ≠ _
      rw [Function.update_apply]
      split
      next =>
        intro heq
        cases congrArg ManagedIP.presentProtocol (Option.some.inj heq)
      next => exact h k
  exact hfold entries (fun _ => none) (fun _ => nofun) k

end

/-! ## Runs -/

namespace IPSystem

variable {S : ManifestSdk} {poolName : String} {s s' : IPSystem}

theorem observed_of_running (h : s.running = true) (f : Passthroughs → Passthroughs) :
    s.observed f = f s.world := if_pos h

theorem directives_perm {name : String} {d : ClusterIPPassthroughDirective}
    (hnames : (s.declared.map (·.1)).Nodup) (hd : s.declared.lookup name = some d) :
    s.directives.Perm (d :: (Mirror.drop (·.1) s.declared name).map (·.2)) := by
  obtain ⟨before, after, hdeclared, -⟩ := List.lookup_eq_some_iff.mp hd
  have hmem : (name, d) ∈ s.declared := by
    rw [hdeclared]
    simp
  exact (Mirror.perm_cons_drop hnames hmem).map (·.2)

theorem WellMade.observed (h : s.WellMade S poolName) (f : Passthroughs → Passthroughs)
    (hf : (f s.world).Made S poolName) : (s.observed f).Made S poolName := by
  unfold IPSystem.observed
  split
  next => exact hf
  next => exact h.world

theorem WellMade.step (h : s.WellMade S poolName) {e : IPEvent}
    (hstep : s.step S poolName e = some s') : s'.WellMade S poolName := by
  cases e with
  | declare name d =>
    obtain ⟨hnew, ⟨⟩⟩ := Option.ite_none_left_eq_some.mp hstep
    exact ⟨List.nodup_cons.mpr ⟨hnew, h.names⟩,
      h.observed (fun w => w.applyAddOrUpdateEvent S poolName d)
        (h.world.applyAddOrUpdateEvent d)⟩
  | update name d =>
    obtain ⟨-, -, rfl⟩ := Option.map_eq_some_iff.mp hstep
    refine ⟨List.nodup_cons.mpr ⟨fun hmem => ?_, Mirror.nodup_drop h.names name⟩,
      h.observed (fun w => w.applyAddOrUpdateEvent S poolName d)
        (h.world.applyAddOrUpdateEvent d)⟩
    obtain ⟨e, he, heq⟩ := List.mem_map.mp hmem
    exact (Mirror.mem_drop.mp he).2 heq
  | delete name =>
    obtain ⟨d, -, rfl⟩ := Option.map_eq_some_iff.mp hstep
    exact ⟨Mirror.nodup_drop h.names name,
      h.observed (fun w => w.applyDeleteEvent S d) (h.world.applyDeleteEvent d)⟩
  | stop =>
    obtain ⟨-, ⟨⟩⟩ := Option.ite_none_right_eq_some.mp hstep
    exact ⟨h.names, h.world⟩
  | start listed ips =>
    obtain ⟨-, hs'⟩ := Option.ite_none_right_eq_some.mp hstep
    obtain ⟨entries, -, rfl⟩ := Option.map_eq_some_iff.mp hs'
    refine ⟨h.names, ?_⟩
    have hfold : ∀ (ds : List ClusterIPPassthroughDirective) {w : Passthroughs},
        w.Made S poolName →
          (ds.foldl (Passthroughs.applyAddOrUpdateEvent S poolName) w).Made S poolName := by
      intro ds
      induction ds with
      | nil => exact fun hw => hw
      | cons d rest ih => exact fun hw => ih (hw.applyAddOrUpdateEvent d)
    exact hfold _ ⟨h.world.places, h.world.made⟩

theorem Synced.step_iff
    (hproto : ∀ p, S.protocolToString p ≠ "" ∧ '-' ∉ (S.protocolToString p).toList)
    (hmade : s.WellMade S poolName) (h : s.Synced S poolName) {e : IPEvent}
    (hstep : s.step S poolName e = some s') : s'.Synced S poolName ↔ s.Orderly S poolName e := by
  cases e with
  | declare name d =>
    obtain ⟨hnew, hs'⟩ := Option.ite_none_left_eq_some.mp hstep
    injection hs' with hs'
    subst hs'
    refine forall_congr' fun hrunning => ?_
    have hrunning : s.running = true := hrunning
    rw [observed_of_running hrunning]
    exact (h hrunning).declare_iff hproto hmade.world d
  | update name d' =>
    obtain ⟨d, hd, rfl⟩ := Option.map_eq_some_iff.mp hstep
    refine forall_congr' fun hrunning => ?_
    have hrunning : s.running = true := hrunning
    have hsynced := (h hrunning).congr (directives_perm hmade.names hd)
    rw [observed_of_running hrunning]
    simp only [hd, Option.some.injEq, forall_eq']
    refine (hsynced.update_iff hproto hmade.world d').trans ?_
    rw [List.map_map]
    rfl
  | delete name =>
    obtain ⟨d, hd, rfl⟩ := Option.map_eq_some_iff.mp hstep
    refine iff_of_true (fun hrunning => ?_) trivial
    have hrunning : s.running = true := hrunning
    rw [observed_of_running hrunning]
    exact ((h hrunning).congr (directives_perm hmade.names hd)).delete
  | stop =>
    obtain ⟨-, hs'⟩ := Option.ite_none_right_eq_some.mp hstep
    grind [Synced, Orderly]
  | start listed ips =>
    obtain ⟨⟨-, -, hperm⟩, hs'⟩ := Option.ite_none_right_eq_some.mp hstep
    obtain ⟨entries, -, rfl⟩ := Option.map_eq_some_iff.mp hs'
    have hds : (ips.map (·.2)).Perm s.directives := hperm.map _
    have hstart := Passthroughs.synced_start_iff (w := ⟨s.world.services, restoredState entries⟩)
      hproto ⟨hmade.world.places, hmade.world.made⟩ (restoredState_ne entries) (ips.map (·.2))
    have hplaces := hds.map (placeOf S poolName)
    constructor
    · intro hsynced
      obtain ⟨hdistinct, hone, hall⟩ := hstart.mp ((hsynced rfl).congr hds.symm)
      exact ⟨hplaces.nodup_iff.mp hdistinct, hone.congr hds,
        fun x hx => hplaces.mem_iff.mp (hall x hx)⟩
    · rintro ⟨hdistinct, hone, hall⟩ -
      refine (hstart.mpr ⟨hplaces.nodup_iff.mpr hdistinct, hone.congr hds.symm, ?_⟩).congr hds
      exact fun x hx => hplaces.mem_iff.mpr (hall x hx)

theorem wellMade_init : init.WellMade S poolName := ⟨List.nodup_nil, List.nodup_nil, nofun⟩

theorem synced_init : init.Synced S poolName := nofun

/-- While events are orderly, there is one service for each declared IP and no other.  Another event
leaves a service missing, too many or in another's place, or a wrong entry. -/
theorem services_mirror_declared
    (hproto : ∀ p, S.protocolToString p ≠ "" ∧ '-' ∉ (S.protocolToString p).toList)
    (h : Runs (step S poolName) (Orderly S poolName) init s) :
    (s.running = true → s.world.services.Perm (s.directives.map (serviceOf S poolName))) ∧
      ∀ e s', s.step S poolName e = some s' → (s'.Synced S poolName ↔ s.Orderly S poolName e) := by
  obtain ⟨hmade, hsynced⟩ := h.invariant
    (I := fun s => s.WellMade S poolName ∧ s.Synced S poolName)
    (fun _ _ _ horderly hstep h => ⟨h.1.step hstep, (h.2.step_iff hproto h.1 hstep).mpr horderly⟩)
    ⟨wellMade_init, synced_init⟩
  exact ⟨fun hrunning => (hsynced hrunning).mirrors.perm hmade.world.places,
    fun e s' hstep => hsynced.step_iff hproto hmade hstep⟩

/-! ## One endpoint of an owner -/

theorem reference_protocols (p : Mani.ServiceProtocol) :
    ManifestSdk.reference.protocolToString p ≠ "" ∧
      '-' ∉ (ManifestSdk.reference.protocolToString p).toList := by
  cases p <;> decide

/-- Port 80 of an endpoint, for a deployment of the owner. -/
def endpointIP (dseq : UInt64) (protocol : Mani.ServiceProtocol) :
    ClusterIPPassthroughDirective :=
  { leaseID := ⟨"owner", dseq, 1, 1, "provider"⟩
    serviceName := "web"
    port := 8080
    externalPort := 80
    sharingKey := "owner-ip-main"
    protocol := protocol }

/-- The operator with one declared IP. -/
def endpointSystem (dseq : UInt64) (protocol : Mani.ServiceProtocol) : IPSystem :=
  { declared := [("ip", endpointIP dseq protocol)]
    running := true
    world := Passthroughs.applyAddOrUpdateEvent .reference "default" ⟨[], fun _ => none⟩
      (endpointIP dseq protocol) }

theorem orderly_declare_first (dseq : UInt64) (protocol : Mani.ServiceProtocol) :
    Runs (step .reference "default") (Orderly .reference "default") init
      (endpointSystem dseq protocol) := by
  have hstart : Runs (step .reference "default") (Orderly .reference "default") init
      ⟨[], true, ⟨[], fun _ => none⟩⟩ :=
    (Runs.refl init).next (.start [] []) ⟨List.nodup_nil, nofun, nofun⟩ rfl
  exact hstart.next (.declare "ip" (endpointIP dseq protocol))
    (fun _ => ⟨List.not_mem_nil, fun _ h => nomatch h.1⟩) rfl

theorem services_mirror_declared_moved :
    ∃ s, Runs (step .reference "default") (Orderly .reference "default") init s ∧
      s.running = true ∧ s.directives = [endpointIP 2 .tcp] ∧
      s.world.services.Perm [serviceOf .reference "default" (endpointIP 2 .tcp)] := by
  have hrun := (orderly_declare_first 1 .tcp).next (.update "ip" (endpointIP 2 .tcp)) (by
    rintro - d hd
    obtain rfl : endpointIP 1 .tcp = d := Option.some.inj hd
    exact ⟨List.not_mem_nil, .inl ⟨rfl, by decide⟩, fun _ => rfl⟩) rfl
  exact ⟨_, hrun, rfl, rfl, (services_mirror_declared reference_protocols hrun).1 rfl⟩

theorem place_endpointIP_ne (p q : Mani.ServiceProtocol) :
    (serviceOf .reference "default" (endpointIP 1 p)).place ≠
      (serviceOf .reference "default" (endpointIP 2 q)).place := by
  intro h
  have hns : "owner" ++ "/" ++ Go.formatUint 1 = "owner" ++ "/" ++ Go.formatUint 2 :=
    congrArg Prod.fst h
  exact absurd hns (by decide)

/-- The UDP port of another deployment takes the service of the TCP port away.  And a service stays
when its IP moves while the operator is down. -/
theorem service_of_other_lease_purged :
    (∃ s, Runs (step .reference "default") (fun _ _ => True) init s ∧ s.running = true ∧
        endpointIP 1 .tcp ∈ s.directives ∧
        serviceOf .reference "default" (endpointIP 1 .tcp) ∉ s.world.services) ∧
      ∃ s, Runs (step .reference "default") (fun _ _ => True) init s ∧ s.running = true ∧
        s.directives = [endpointIP 2 .tcp] ∧
        serviceOf .reference "default" (endpointIP 1 .tcp) ∈ s.world.services := by
  have hfirst : Runs (step .reference "default") (fun _ _ => True) init (endpointSystem 1 .tcp) :=
    (orderly_declare_first 1 .tcp).mono fun _ _ _ => trivial
  constructor
  · refine ⟨_, hfirst.next (.declare "udp" (endpointIP 2 .udp)) trivial rfl, rfl,
      List.mem_cons_of_mem _ List.mem_cons_self, ?_⟩
    have hdisplaces : (endpointSystem 1 .tcp).world.Displaces (endpointIP 2 .udp)
        (endpointIP 1 .tcp) := ⟨rfl, by decide⟩
    show _ ∉ ((endpointSystem 1 .tcp).observed _).services
    rw [observed_of_running rfl, Passthroughs.services_apply_of_displaces hdisplaces,
      Mirror.mem_put, Mirror.mem_drop, not_or]
    exact ⟨fun heq => place_endpointIP_ne _ _ (congrArg ClusterService.place heq),
      fun h => h.1.2 rfl⟩
  · have hread : (getIPPassthroughs
        [serviceOf .reference "default" (endpointIP 1 .tcp)]).toOption.isSome = true := by
      decide +kernel
    obtain ⟨entries, hentries⟩ := Option.isSome_iff_exists.mp hread
    have hdown := (hfirst.next .stop trivial rfl).next
      (.update "ip" (endpointIP 2 .tcp)) trivial rfl
    refine ⟨_, hdown.next (.start [serviceOf .reference "default" (endpointIP 1 .tcp)]
      [("ip", endpointIP 2 .tcp)]) trivial ((if_pos ⟨rfl, .refl _, .refl _⟩).trans
        (congrArg (Option.map _) hentries)), rfl, rfl, ?_⟩
    have hmade : Passthroughs.Made .reference "default"
        ⟨[serviceOf .reference "default" (endpointIP 1 .tcp)], restoredState entries⟩ :=
      ⟨List.nodup_singleton _, fun x hx => ⟨_, List.mem_singleton.mp hx⟩⟩
    refine (Passthroughs.mem_services_apply reference_protocols hmade
      (fun d₁ h => restoredState_ne entries _ d₁ h.1)
      (fun h => absurd h (restoredState_ne entries _ _)) _).mpr ?_
    exact Mirror.mem_put.mpr (.inr ⟨List.mem_singleton_self _, place_endpointIP_ne _ _⟩)

end IPSystem

end AkashProvider.Operator
