import AkashProvider.Deploy.Reconcile
import AkashProvider.Kube.Builder
import AkashProvider.Lib.Forall2
import AkashProvider.Lib.Mirror

/-!
# The hostname operator

For each resource that gives a hostname to a service of a lease, the operator has an ingress, or
with a gateway a route, in the namespace of the lease.  When a hostname moves to another lease the
ingress of the old one is removed first.  Events of a lease in the ignore list are passed over,
except deletions.  After a start it takes the leases from the ingresses, lists the resources as
new, and watches.  An event that fails stops the operator.

Each route is in the namespace of the lease that has its hostname (`routes_follow_hosts`), but for
resources that are deleted while the operator does not watch, or move to a lease in the ignore
list (`route_of_deleted_host_stays`).
-/

namespace AkashProvider.Operator

/-- An ingress or a route.  The hostname is its name and its one host. -/
structure HostRoute where
  ns : String
  hostname : String
  labels : Labels
  serviceName : String
  servicePort : Int32
deriving DecidableEq

def HostRoute.place (x : HostRoute) : String × String := (x.ns, x.hostname)

structure ProviderHost where
  hostname : String
  lid : LeaseID
  serviceName : String
  externalPort : UInt32
deriving DecidableEq

inductive ProviderResourceEvent where
  | add
  | update
  | delete
deriving DecidableEq

structure HostnameEvent where
  eventType : ProviderResourceEvent
  host : ProviderHost

structure ManagedHostname where
  presentLease : LeaseID
  presentServiceName : String
  presentExternalPort : UInt32

/-- The routes, and the map of the operator. -/
structure HostRoutes where
  routes : List HostRoute
  hostnames : String → Option ManagedHostname

/-- Where an event fails: the service is not in the manifest, or the API returns an error. -/
inductive ApplyFailure where
  | locate
  | remove
  | connect
deriving DecidableEq

section

variable (S : ManifestSdk) (mode : Kube.IngressMode)

def routeLabels (lid : LeaseID) : Labels :=
  appendLeaseLabels lid [(akashManagedLabelName, "true")]

def routeOf (host : ProviderHost) : HostRoute :=
  { ns := S.leaseIDToNamespace host.lid
    hostname := host.hostname
    labels := routeLabels host.lid
    serviceName := host.serviceName
    servicePort := host.externalPort.toInt32 }

/-- The routes that are removed with a hostname of a lease.  Ingresses are selected by their
labels too. -/
def Removes (hostname : String) (lid : LeaseID) (x : HostRoute) : Prop :=
  x.place = (S.leaseIDToNamespace lid, hostname) ∧
    (mode = .ingress → (kubeSelectorForLease lid).Selects x.labels)

instance (hostname : String) (lid : LeaseID) : DecidablePred (Removes S mode hostname lid) :=
  fun _ => inferInstanceAs (Decidable (_ ∧ _))

/-- A route that is not there is an error unless it may be missing; ingresses are deleted as a
collection, where it is none. -/
def removeHostnameFromDeployment (routes : List HostRoute) (hostname : String) (lid : LeaseID)
    (allowMissing : Bool) : Option (List HostRoute) :=
  if mode = .gateway ∧ allowMissing = false ∧ ¬routes.any (Removes S mode hostname lid) then
    none
  else some (routes.filter fun x => ¬Removes S mode hostname lid x)

def connectHostnameToDeployment (routes : List HostRoute) (host : ProviderHost) :
    List HostRoute :=
  Mirror.put HostRoute.place routes (routeOf S host)

namespace HostRoutes

/-- The hostname is connected, and remembered. -/
def connect (w : HostRoutes) (host : ProviderHost) : HostRoutes where
  routes := connectHostnameToDeployment S w.routes host
  hostnames := Function.update w.hostnames host.hostname
    (some ⟨host.lid, host.serviceName, host.externalPort⟩)

/-- What is left after an event, and whether it was applied. -/
def applyAddOrUpdateEvent (w : HostRoutes) (host : ProviderHost)
    (failure : Option ApplyFailure) : HostRoutes × Bool :=
  if failure = some .locate then (w, false)
  else
    match w.hostnames host.hostname with
    | some entry =>
      if entry.presentLease = host.lid then
        if failure = some .connect then (w, false) else (w.connect S host, true)
      else if failure = some .remove then (w, false)
      else
        match removeHostnameFromDeployment S mode w.routes host.hostname entry.presentLease
            false with
        | none => (w, false)
        | some routes =>
          let w := ⟨routes, Function.update w.hostnames host.hostname none⟩
          if failure = some .connect then (w, false) else (w.connect S host, true)
    | none => if failure = some .connect then (w, false) else (w.connect S host, true)

def applyDeleteEvent (w : HostRoutes) (host : ProviderHost) (failure : Option ApplyFailure) :
    HostRoutes × Bool :=
  if failure = some .remove then (w, false)
  else
    match removeHostnameFromDeployment S mode w.routes host.hostname host.lid true with
    | none => (w, false)
    | some routes => (⟨routes, Function.update w.hostnames host.hostname none⟩, true)

def applyEvent (flagged : LeaseID → Bool) (w : HostRoutes) (ev : HostnameEvent)
    (failure : Option ApplyFailure) : HostRoutes × Bool :=
  match ev.eventType with
  | .delete => w.applyDeleteEvent S mode ev.host failure
  | .add | .update =>
    if flagged ev.host.lid then (w, true)
    else w.applyAddOrUpdateEvent S mode ev.host failure

end HostRoutes

def leaseIDConnection (x : HostRoute) : Except LabelErr (String × ManagedHostname) := do
  let lid ← recoverLeaseIDFromLabels x.labels
  .ok (x.hostname, ⟨lid, x.serviceName, x.servicePort.toUInt32⟩)

/-- The routes of all namespaces, in some order. -/
def getHostnameDeploymentConnections (routes : List HostRoute) :
    Except LabelErr (List (String × ManagedHostname)) :=
  (routes.filter fun x => Selector.Selects [(akashManagedLabelName, "true")] x.labels).mapM
    leaseIDConnection

def rememberedHostnames (connections : List (String × ManagedHostname)) :
    String → Option ManagedHostname :=
  connections.foldl (fun hostnames conn => Function.update hostnames conn.1 (some conn.2))
    fun _ => none

/-! ## The system -/

inductive OperatorPhase where
  | down
  | listed
  | watching
deriving DecidableEq

/-- The resources, the ignore list, and the operator with the events that it has yet to apply. -/
structure HostSystem where
  hosts : List ProviderHost
  flagged : LeaseID → Bool
  phase : OperatorPhase
  pending : List HostnameEvent
  world : HostRoutes

inductive HostSystemEvent where
  | declare (host : ProviderHost)
  | delete (hostname : String)
  | flag (lid : LeaseID) (flagged : Bool)
  | list (routes : List HostRoute) (hosts : List ProviderHost)
  | watch (hosts : List ProviderHost)
  | apply (failure : Option ApplyFailure)
  | stop

namespace HostSystem

def init : HostSystem := ⟨[], fun _ => false, .down, [], ⟨[], fun _ => none⟩⟩

def notify (s : HostSystem) (ev : HostnameEvent) : List HostnameEvent :=
  if s.phase = .watching then s.pending ++ [ev] else s.pending

/-- Lists have some order. -/
def step (s : HostSystem) : HostSystemEvent → Option HostSystem
  | .declare host =>
    let eventType := if host.hostname ∈ s.hosts.map (·.hostname) then .update else .add
    some { s with
      hosts := Mirror.put (·.hostname) s.hosts host
      pending := s.notify ⟨eventType, host⟩ }
  | .delete hostname =>
    (s.hosts.find? (·.hostname = hostname)).map fun host =>
      { s with
        hosts := Mirror.drop (·.hostname) s.hosts hostname
        pending := s.notify ⟨.delete, host⟩ }
  | .flag lid flagged => some { s with flagged := Function.update s.flagged lid flagged }
  | .list routes hosts =>
    if s.phase = .down ∧ routes.Perm s.world.routes ∧ hosts.Perm s.hosts then
      (getHostnameDeploymentConnections routes).toOption.map fun connections =>
        { s with
          phase := .listed
          pending := hosts.map (⟨.add, ·⟩)
          world := ⟨s.world.routes, rememberedHostnames connections⟩ }
    else none
  | .watch hosts =>
    if s.phase = .listed ∧ hosts.Perm s.hosts then
      some { s with phase := .watching, pending := s.pending ++ hosts.map (⟨.add, ·⟩) }
    else none
  | .apply failure =>
    match s.phase, s.pending with
    | .watching, ev :: rest =>
      let applied := s.world.applyEvent S mode s.flagged ev failure
      if applied.2 then some { s with pending := rest, world := applied.1 }
      else some { s with phase := .down, pending := [], world := applied.1 }
    | _, _ => none
  | .stop => if s.phase ≠ .down then some { s with phase := .down, pending := [] } else none

end HostSystem

/-! ## Routes of the hosts -/

/-- As the operator makes it for a lease. -/
def HostRoute.OfLease (x : HostRoute) (lid : LeaseID) : Prop :=
  x.ns = S.leaseIDToNamespace lid ∧ x.labels = routeLabels lid

namespace HostRoutes

/-- One route for a hostname, and all of them made by the operator. -/
@[grind cases]
structure Tidy (w : HostRoutes) : Prop where
  single : (w.routes.map (·.hostname)).Nodup
  made : ∀ x ∈ w.routes, ∃ lid, x.OfLease S lid

/-- The operator knows the lease of each route. -/
def Remembered (w : HostRoutes) : Prop :=
  ∀ x ∈ w.routes, ∃ entry, w.hostnames x.hostname = some entry ∧ x.OfLease S entry.presentLease

/-- The route of a host in place of any other one with its hostname. -/
def placed (w : HostRoutes) (host : ProviderHost) : HostRoutes where
  routes := Mirror.put (·.hostname) w.routes (routeOf S host)
  hostnames := Function.update w.hostnames host.hostname
    (some ⟨host.lid, host.serviceName, host.externalPort⟩)

end HostRoutes

/-- The last event of a hostname. -/
def lastFor (pending : List HostnameEvent) (hostname : String) : Option HostnameEvent :=
  pending.reverse.find? (·.host.hostname = hostname)

/-- The resource of the hostname is as the event has it. -/
def HostnameEvent.Tells (ev : HostnameEvent) (hosts : List ProviderHost) : Prop :=
  if ev.eventType = .delete then ev.host.hostname ∉ hosts.map (·.hostname) else ev.host ∈ hosts

/-- In the namespace of the lease of the host with its hostname. -/
def HostRoute.Serves (x : HostRoute) (hosts : List ProviderHost) : Prop :=
  ∃ host ∈ hosts, host.hostname = x.hostname ∧ x.ns = S.leaseIDToNamespace host.lid

namespace HostSystem

/-- The route of a hostname serves its host, or the last event of the hostname is to come. -/
def Settled (s : HostSystem) (hostname : String) : Prop :=
  match lastFor s.pending hostname with
  | none => ∀ x ∈ s.world.routes, x.hostname = hostname → x.Serves S s.hosts
  | some ev => ev.Tells s.hosts

@[grind cases]
structure Sound (s : HostSystem) : Prop where
  tidy : s.world.Tidy S
  remembered : s.phase ≠ .down → s.world.Remembered S
  settled : s.phase = .watching → ∀ hostname, s.Settled S hostname

/-- A hostname has one resource, and a list has no deletions. -/
@[grind cases]
structure Formed (s : HostSystem) : Prop where
  hosts : (s.hosts.map (·.hostname)).Nodup
  listed : s.phase = .listed → ∀ ev ∈ s.pending, ev.eventType = .add

/-- What becomes of the route of a hostname with an event.  A deletion is of the lease that has the
route.  An event of a lease in the ignore list is followed by another one, or is of that lease. -/
def Follows (s : HostSystem) (ev : HostnameEvent) (rest : List HostnameEvent) : Prop :=
  match ev.eventType with
  | .delete => ∀ x ∈ s.world.routes, x.hostname = ev.host.hostname →
      Removes S mode ev.host.hostname ev.host.lid x
  | .add | .update => s.flagged ev.host.lid = true →
      (∀ later ∈ rest, later.host.hostname ≠ ev.host.hostname) →
      ∀ x ∈ s.world.routes, x.hostname = ev.host.hostname → x.ns = S.leaseIDToNamespace ev.host.lid

/-- When the operator starts to watch, no host that it has listed and none with a route is
deleted.  The events that are applied follow the routes. -/
def Orderly (s : HostSystem) : HostSystemEvent → Prop
  | .watch _ =>
    (∀ ev ∈ s.pending, ev.host.hostname ∈ s.hosts.map (·.hostname)) ∧
      ∀ x ∈ s.world.routes, x.hostname ∈ s.hosts.map (·.hostname)
  | .apply failure =>
    match s.pending with
    | [] => True
    | ev :: rest =>
      (s.world.applyEvent S mode s.flagged ev failure).2 = true → s.Follows S mode ev rest
  | _ => True

instance (s : HostSystem) (ev : HostnameEvent) (rest : List HostnameEvent) :
    Decidable (s.Follows S mode ev rest) := by
  unfold Follows
  split <;> infer_instance

instance (s : HostSystem) (e : HostSystemEvent) : Decidable (s.Orderly S mode e) := by
  unfold Orderly
  repeat' split
  all_goals infer_instance

end HostSystem

end

/-! ## Labels -/

theorem labelUint_formatUint {bound n : UInt64} (h : n ≤ bound) (field : String) :
    labelUint bound field (Go.formatUint n) = .ok n := by
  rw [labelUint, Go.parseUint_formatUint]
  exact if_pos h

theorem recoverLeaseIDFromLabels_routeLabels (lid : LeaseID) :
    recoverLeaseIDFromLabels (routeLabels lid) = .ok lid := by
  have hdseq : lid.dseq ≤ maxUint64 := UInt64.le_iff_toNat_le.mpr
    (Nat.le_of_lt_succ lid.dseq.toNat_lt)
  have hbound : ∀ n : UInt32, n.toUInt64 ≤ maxUint32 := fun n =>
    UInt64.le_iff_toNat_le.mpr (Nat.le_of_lt_succ (by
      exact n.toNat_lt))
  have hread : recoverLeaseIDFromLabels (routeLabels lid) =
      (labelUint maxUint64 "dseq" (Go.formatUint lid.dseq)).bind fun dseq =>
      (labelUint maxUint32 "gseq" (formatUint32 lid.gseq)).bind fun gseq =>
      (labelUint maxUint32 "oesq" (formatUint32 lid.oseq)).bind fun oseq =>
        .ok ⟨lid.owner, dseq, gseq.toUInt32, oseq.toUInt32, lid.provider⟩ := rfl
  rw [hread, formatUint32, formatUint32, labelUint_formatUint hdseq,
    labelUint_formatUint (hbound _), labelUint_formatUint (hbound _)]
  simp [Except.bind]

theorem selects_routeLabels (lid : LeaseID) :
    (kubeSelectorForLease lid).Selects (routeLabels lid) := by
  simp only [kubeSelectorForLease, Selector.selects_cons, Selector.selects_nil, and_true]
  exact ⟨rfl, rfl, rfl, rfl⟩

theorem managed_routeLabels (lid : LeaseID) :
    Selector.Selects [(akashManagedLabelName, "true")] (routeLabels lid) := by
  rw [Selector.selects_cons]
  exact ⟨rfl, Selector.selects_nil _⟩

/-! ## The list of the routes -/

theorem leaseIDConnection_eq {S : ManifestSdk} {x : HostRoute} {lid : LeaseID}
    (h : x.OfLease S lid) :
    leaseIDConnection x = .ok (x.hostname, ⟨lid, x.serviceName, x.servicePort.toUInt32⟩) := by
  rw [leaseIDConnection, h.2, recoverLeaseIDFromLabels_routeLabels]
  rfl

variable {connections : List (String × ManagedHostname)}

theorem map_fst_connections {routes : List HostRoute}
    (h : List.Forall₂ (fun x conn => leaseIDConnection x = .ok conn) routes connections) :
    connections.map (·.1) = routes.map (·.hostname) := by
  induction h with
  | nil => rfl
  | cons hconn _ ih =>
    obtain ⟨lid, -, hok⟩ := Except.exists_of_bind_eq_ok hconn
    grind

theorem rememberedHostnames_of_mem {conn : String × ManagedHostname}
    (hkeys : (connections.map (·.1)).Nodup) (hconn : conn ∈ connections) :
    rememberedHostnames connections conn.1 = some conn.2 := by
  -- the last connection of the hostname stays, and entries of other hostnames are kept
  obtain ⟨before, after, rfl⟩ := List.append_of_mem hconn
  have hafter : ∀ c ∈ after, c.1 ≠ conn.1 := by grind
  rw [rememberedHostnames, List.foldl_append, List.foldl_cons]
  refine List.foldlRecOn after _
    (motive := fun hostnames : String → Option ManagedHostname => hostnames conn.1 = some conn.2)
    (Function.update_self _ _ _) fun hostnames hsome c hc => ?_
  exact (Function.update_of_ne (hafter c hc).symm _ _).trans hsome

/-! ## One event -/

section

variable {S : ManifestSdk} {mode : Kube.IngressMode} {w : HostRoutes} {host : ProviderHost}
  {hostname : String} {lid : LeaseID} {x : HostRoute}

theorem HostRoute.OfLease.removes (h : x.OfLease S lid) :
    Removes S mode x.hostname lid x :=
  ⟨Prod.ext h.1 rfl, fun _ => h.2 ▸ selects_routeLabels lid⟩

theorem filter_removes {routes : List HostRoute}
    (h : ∀ x ∈ routes, x.hostname = hostname → Removes S mode hostname lid x) :
    routes.filter (fun x => ¬Removes S mode hostname lid x) =
      Mirror.drop (·.hostname) routes hostname := by
  refine List.filter_congr fun x hx => ?_
  rw [decide_eq_decide, not_iff_not]
  exact ⟨fun hremoves => congrArg Prod.snd hremoves.1, h x hx⟩

namespace HostRoutes

theorem connect_eq_placed (h : ∀ x ∈ w.routes, x.hostname = host.hostname →
    x.ns = S.leaseIDToNamespace host.lid) : w.connect S host = w.placed S host := by
  have hdrop : Mirror.drop HostRoute.place w.routes (routeOf S host).place =
      Mirror.drop (·.hostname) w.routes host.hostname := by
    refine List.filter_congr fun x hx => ?_
    rw [decide_eq_decide, not_iff_not]
    exact ⟨fun heq => congrArg Prod.snd heq, fun heq => Prod.ext (h x hx heq) heq⟩
  rw [connect, placed, connectHostnameToDeployment, Mirror.put, Mirror.put, hdrop]
  rfl

theorem placed_of_drop (w : HostRoutes) (host : ProviderHost) :
    placed S ⟨Mirror.drop (·.hostname) w.routes host.hostname,
      Function.update w.hostnames host.hostname none⟩ host = w.placed S host := by
  have hdrop : Mirror.drop (·.hostname)
      (Mirror.drop (·.hostname) w.routes host.hostname) host.hostname =
      Mirror.drop (·.hostname) w.routes host.hostname :=
    Mirror.drop_of_notMem fun hmem => by
      obtain ⟨x, hx, heq⟩ := List.mem_map.mp hmem
      exact (Mirror.mem_drop.mp hx).2 heq
  rw [placed, placed, Mirror.put, Mirror.put, Function.update_idem]
  exact congrArg (HostRoutes.mk · _) (congrArg (· ++ [routeOf S host]) hdrop)

theorem Remembered.connect (h : w.Remembered S)
    (hentry : ∀ entry, w.hostnames host.hostname = some entry → entry.presentLease = host.lid) :
    w.connect S host = w.placed S host := by
  refine connect_eq_placed fun x hx heq => ?_
  obtain ⟨entry, hsome, hof⟩ := h x hx
  rw [heq] at hsome
  rw [hof.1, hentry entry hsome]

variable {routes : List HostRoute}

theorem Remembered.remove {entry : ManagedHostname} (h : w.Remembered S)
    (hentry : w.hostnames hostname = some entry) {allowMissing : Bool}
    (hremove : removeHostnameFromDeployment S mode w.routes hostname entry.presentLease
      allowMissing = some routes) : routes = Mirror.drop (·.hostname) w.routes hostname := by
  obtain ⟨-, hroutes⟩ := Option.ite_none_left_eq_some.mp hremove
  rw [← Option.some.inj hroutes]
  refine filter_removes fun x hx heq => ?_
  obtain ⟨entry', hsome, hof⟩ := h x hx
  grind [HostRoute.OfLease.removes]

/-- An event of a host fails and leaves some of the routes, or the route of the host is there and
no other one of the hostname. -/
def Leaves (S : ManifestSdk) (w : HostRoutes) (host : ProviderHost) (applied : HostRoutes × Bool) :
    Prop :=
  (applied.2 = false ∧ applied.1.routes.Sublist w.routes) ∨ applied = (w.placed S host, true)

theorem leaves_failed (w : HostRoutes) (host : ProviderHost) : Leaves S w host (w, false) :=
  .inl ⟨rfl, .refl _⟩

variable {w' : HostRoutes}

theorem leaves_connect (hsub : w'.routes.Sublist w.routes)
    (hconnect : w'.connect S host = w.placed S host) (failure : Option ApplyFailure) :
    Leaves S w host
      (if failure = some .connect then (w', false) else (w'.connect S host, true)) := by
  split
  next => exact .inl ⟨rfl, hsub⟩
  next => exact .inr (congrArg (·, true) hconnect)

theorem Remembered.leaves (h : w.Remembered S) (mode : Kube.IngressMode) (host : ProviderHost)
    (failure : Option ApplyFailure) :
    Leaves S w host (w.applyAddOrUpdateEvent S mode host failure) := by
  rw [HostRoutes.applyAddOrUpdateEvent]
  split
  next => exact leaves_failed w host
  next =>
    split
    next entry hentry =>
      split
      next hlease =>
        refine leaves_connect (.refl _) (h.connect fun entry' hentry' => ?_) failure
        simp_all
      next =>
        split
        next => exact leaves_failed w host
        next =>
          split
          next => exact leaves_failed w host
          next routes hremove =>
            obtain rfl := h.remove hentry hremove
            refine leaves_connect List.filter_sublist ?_ failure
            rw [connect_eq_placed fun x hx heq => absurd heq (Mirror.mem_drop.mp hx).2]
            exact placed_of_drop w host
    next hnone =>
      refine leaves_connect (.refl _) (h.connect fun entry hentry => ?_) failure
      rw [hnone] at hentry
      cases hentry

variable {ev : HostnameEvent} {failure : Option ApplyFailure} {flagged : LeaseID → Bool}

theorem applyEvent_of_ne_delete (h : ev.eventType ≠ .delete) :
    w.applyEvent S mode flagged ev failure =
      if flagged ev.host.lid then (w, true)
      else w.applyAddOrUpdateEvent S mode ev.host failure := by
  rw [applyEvent]
  split
  next hdelete => exact absurd hdelete h
  next => rfl
  next => rfl

/-- The removal of a deletion has no other error than that of the API. -/
theorem applyEvent_of_delete (h : ev.eventType = .delete) :
    w.applyEvent S mode flagged ev failure =
      if failure = some .remove then (w, false)
      else (⟨w.routes.filter fun x => ¬Removes S mode ev.host.hostname ev.host.lid x,
        Function.update w.hostnames ev.host.hostname none⟩, true) := by
  grind [removeHostnameFromDeployment, Removes, applyEvent, applyDeleteEvent]

theorem Tidy.of_sublist (h : w.Tidy S) (hsub : w'.routes.Sublist w.routes) :
    w'.Tidy S :=
  ⟨h.single.sublist (hsub.map _), fun x hx => h.made x (hsub.subset hx)⟩

theorem Tidy.placed (h : w.Tidy S) (host : ProviderHost) : (w.placed S host).Tidy S where
  single := Mirror.nodup_put h.single _
  made := by
    intro x hx
    rcases Mirror.mem_put.mp hx with rfl | ⟨hx, -⟩
    · exact ⟨host.lid, rfl, rfl⟩
    · exact h.made x hx

theorem Remembered.placed (h : w.Remembered S) (host : ProviderHost) :
    (w.placed S host).Remembered S := by
  intro x hx
  rcases Mirror.mem_put.mp hx with rfl | ⟨hx, hne⟩
  · exact ⟨_, Function.update_self _ _ _, rfl, rfl⟩
  · obtain ⟨entry, hentry, hof⟩ := h x hx
    exact ⟨entry, (Function.update_of_ne hne _ _).trans hentry, hof⟩

theorem Remembered.forget_iff (h : w.Remembered S) (hsub : routes.Sublist w.routes)
    (hostname : String) :
    Remembered S ⟨routes, Function.update w.hostnames hostname none⟩ ↔
      ∀ x ∈ routes, x.hostname ≠ hostname := by
  constructor
  · intro hforget x hx heq
    obtain ⟨entry, hentry, -⟩ := hforget x hx
    simp_all
  · intro hne x hx
    obtain ⟨entry, hentry, hof⟩ := h x (hsub.subset hx)
    simp_all

theorem Tidy.remembered_list (h : w.Tidy S) (hperm : routes.Perm w.routes)
    {connections : List (String × ManagedHostname)}
    (hlist : getHostnameDeploymentConnections routes = .ok connections) :
    Remembered S ⟨w.routes, rememberedHostnames connections⟩ := by
  have hmanaged : (routes.filter fun x =>
      Selector.Selects [(akashManagedLabelName, "true")] x.labels) = routes := by
    refine List.filter_eq_self.mpr fun x hx => decide_eq_true ?_
    obtain ⟨lid, hof⟩ := h.made x (hperm.mem_iff.mp hx)
    exact hof.2 ▸ managed_routeLabels lid
  rw [getHostnameDeploymentConnections, hmanaged] at hlist
  have hread := Except.mapM_eq_ok_iff.mp hlist
  have hkeys : (connections.map (·.1)).Nodup := by
    rw [map_fst_connections hread]
    exact (hperm.map _).nodup_iff.mpr h.single
  intro x hx
  obtain ⟨lid, hof⟩ := h.made x hx
  obtain ⟨conn, hconn, heq⟩ := hread.exists_of_mem_left (hperm.mem_iff.mpr hx)
  rw [leaseIDConnection_eq hof] at heq
  obtain rfl := Except.ok.inj heq
  exact ⟨_, rememberedHostnames_of_mem hkeys hconn, hof⟩

end HostRoutes

end

/-! ## Events to come -/

section

variable {pending rest : List HostnameEvent} {ev : HostnameEvent} {hostname : String}

theorem lastFor_append (pending later : List HostnameEvent) (hostname : String) :
    lastFor (pending ++ later) hostname =
      (lastFor later hostname).or (lastFor pending hostname) := by
  rw [lastFor, List.reverse_append, List.find?_append]
  rfl

theorem lastFor_singleton (ev : HostnameEvent) (hostname : String) :
    lastFor [ev] hostname = if ev.host.hostname = hostname then some ev else none := by
  by_cases h : ev.host.hostname = hostname <;> simp [lastFor, h]

theorem lastFor_eq_none_iff :
    lastFor pending hostname = none ↔ ∀ ev ∈ pending, ev.host.hostname ≠ hostname := by
  simp [lastFor, List.find?_eq_none]

theorem mem_of_lastFor (h : lastFor pending hostname = some ev) :
    ev ∈ pending ∧ ev.host.hostname = hostname :=
  ⟨List.mem_reverse.mp (List.mem_of_find?_eq_some h), by simpa using List.find?_some h⟩

theorem lastFor_cons (ev : HostnameEvent) (rest : List HostnameEvent) (hostname : String) :
    lastFor (ev :: rest) hostname =
      (lastFor rest hostname).or (if ev.host.hostname = hostname then some ev else none) := by
  rw [← List.singleton_append, lastFor_append, lastFor_singleton]

end

/-! ## One step -/

namespace HostSystem

section

variable {S : ManifestSdk} {mode : Kube.IngressMode} {s s' : HostSystem} {hostname : String}

variable {ev : HostnameEvent} {hosts : List ProviderHost}

theorem tells_of_ne_delete (h : ev.eventType ≠ .delete) : ev.Tells hosts ↔ ev.host ∈ hosts := by
  rw [HostnameEvent.Tells, if_neg h]

theorem settled_of_none (h : lastFor s.pending hostname = none) : s.Settled S hostname ↔
    ∀ x ∈ s.world.routes, x.hostname = hostname → x.Serves S s.hosts := by
  rw [Settled, h]

theorem settled_of_some (h : lastFor s.pending hostname = some ev) :
    s.Settled S hostname ↔ ev.Tells s.hosts := by
  rw [Settled, h]

/-- A resource changes and the watch sends an event.  Other hostnames keep their resources. -/
theorem Settled.notify (h : s.Settled S hostname) (htells : ev.Tells hosts)
    (hother : ∀ host, host.hostname ≠ ev.host.hostname → (host ∈ hosts ↔ host ∈ s.hosts)) :
    Settled S { s with hosts := hosts, pending := s.pending ++ [ev] } hostname := by
  have hlast : lastFor (s.pending ++ [ev]) hostname =
      (if ev.host.hostname = hostname then some ev else none).or (lastFor s.pending hostname) := by
    rw [lastFor_append, lastFor_singleton]
  by_cases heq : ev.host.hostname = hostname
  · rw [if_pos heq] at hlast
    exact (settled_of_some hlast).mpr htells
  rw [if_neg heq, Option.none_or] at hlast
  cases hold : lastFor s.pending hostname with
  | none =>
    rw [settled_of_none hold] at h
    refine (settled_of_none (hlast.trans hold)).mpr fun x hx hname => ?_
    obtain ⟨host, hmem, hhost, hns⟩ := h x hx hname
    refine ⟨host, (hother host fun hsame => heq ?_).mpr hmem, hhost, hns⟩
    rw [← hname, ← hhost, hsame]
  | some ev' =>
    obtain ⟨-, hname⟩ := mem_of_lastFor hold
    have hne : ev'.host.hostname ≠ ev.host.hostname := fun hsame => heq (hsame ▸ hname)
    rw [settled_of_some hold] at h
    refine (settled_of_some (hlast.trans hold)).mpr ?_
    rw [HostnameEvent.Tells] at h ⊢
    split
    next hdelete => grind
    next hdelete => simp_all

variable {rest : List HostnameEvent}

theorem settled_next_iff {w : HostRoutes} (h : ∀ hostname, s.Settled S hostname)
    (hpending : s.pending = ev :: rest)
    (hother : ∀ x, x.hostname ≠ ev.host.hostname → (x ∈ w.routes ↔ x ∈ s.world.routes)) :
    (∀ hostname, Settled S { s with pending := rest, world := w } hostname) ↔
      ((∀ later ∈ rest, later.host.hostname ≠ ev.host.hostname) →
        ∀ x ∈ w.routes, x.hostname = ev.host.hostname → x.Serves S s.hosts) := by
  have hlast : ∀ hostname, lastFor s.pending hostname = (lastFor rest hostname).or
      (if ev.host.hostname = hostname then some ev else none) := fun hostname => by
    rw [hpending, lastFor_cons]
  constructor
  · intro hnext hlater
    exact (settled_of_none (lastFor_eq_none_iff.mpr hlater)).mp (hnext ev.host.hostname)
  · intro hserves hostname
    cases hrest : lastFor rest hostname with
    | some ev' =>
      have hold : lastFor s.pending hostname = some ev' := by rw [hlast, hrest, Option.some_or]
      exact (settled_of_some hrest).mpr ((settled_of_some hold).mp (h hostname))
    | none =>
      refine (settled_of_none hrest).mpr fun x hx hname => ?_
      by_cases heq : ev.host.hostname = hostname
      · grind [lastFor_eq_none_iff]
      · have hnone : lastFor s.pending hostname = none := by
          rw [hlast, hrest, if_neg heq, Option.none_or]
        refine (settled_of_none hnone).mp (h hostname) x ((hother x ?_).mp hx) hname
        exact fun hsame => heq (hsame ▸ hname)

theorem settled_watch_iff (hlisted : ∀ ev ∈ s.pending, ev.eventType = .add)
    (hperm : hosts.Perm s.hosts) :
    (∀ hostname, Settled S { s with
        phase := .watching, pending := s.pending ++ hosts.map (⟨.add, ·⟩) } hostname) ↔
      (∀ ev ∈ s.pending, ev.host.hostname ∈ s.hosts.map (·.hostname)) ∧
        ∀ x ∈ s.world.routes, x.hostname ∈ s.hosts.map (·.hostname) := by
  have hname : ∀ ev ∈ hosts.map (HostnameEvent.mk .add), ev.eventType = .add ∧ ev.host ∈ s.hosts :=
    List.forall_mem_map.mpr fun host hhost => ⟨rfl, hperm.mem_iff.mp hhost⟩
  constructor
  · intro hsettled
    -- a hostname without a resource has nothing that is to come and no route
    have hnone : ∀ hostname, hostname ∉ s.hosts.map (·.hostname) →
        lastFor (s.pending ++ hosts.map (⟨.add, ·⟩)) hostname = none := by
      intro hostname hnot
      cases hlast : lastFor (s.pending ++ hosts.map (⟨.add, ·⟩)) hostname with
      | none => rfl
      | some ev =>
        obtain ⟨hmem, hsame⟩ := mem_of_lastFor hlast
        have hadd : ev.eventType = .add := (List.mem_append.mp hmem).elim (hlisted ev)
          fun hev => (hname ev hev).1
        have htells := (tells_of_ne_delete (hadd ▸ nofun)).mp
          ((settled_of_some hlast).mp (hsettled hostname))
        exact absurd (hsame ▸ List.mem_map_of_mem htells) hnot
    constructor
    · grind [lastFor_eq_none_iff]
    · intro x hx
      by_contra hnot
      obtain ⟨host, hhost, hsame, -⟩ :=
        (settled_of_none (hnone _ hnot)).mp (hsettled x.hostname) x hx rfl
      exact hnot (hsame ▸ List.mem_map_of_mem hhost)
  · rintro ⟨hpending, hroutes⟩ hostname
    cases hadds : lastFor (hosts.map (HostnameEvent.mk .add)) hostname with
    | some ev =>
      have hlast : lastFor (s.pending ++ hosts.map (⟨.add, ·⟩)) hostname = some ev := by
        rw [lastFor_append, hadds, Option.some_or]
      obtain ⟨hadd, hhost⟩ := hname ev (mem_of_lastFor hadds).1
      exact (settled_of_some hlast).mpr ((tells_of_ne_delete (hadd ▸ nofun)).mpr hhost)
    | none =>
      have hnot : hostname ∉ s.hosts.map (·.hostname) := by
        grind [lastFor_eq_none_iff, List.mem_map_of_mem]
      have hlast : lastFor (s.pending ++ hosts.map (⟨.add, ·⟩)) hostname = none := by
        grind [lastFor_eq_none_iff]
      exact (settled_of_none hlast).mpr fun x hx hsame => absurd (hsame ▸ hroutes x hx) hnot

theorem Formed.serves_iff (h : s.Formed) {host : ProviderHost} (hhost : host ∈ s.hosts)
    {x : HostRoute} (hname : x.hostname = host.hostname) :
    x.Serves S s.hosts ↔ x.ns = S.leaseIDToNamespace host.lid := by
  constructor
  · rintro ⟨host', hhost', hsame, hns⟩
    rwa [List.inj_on_of_nodup_map h.hosts hhost' hhost (hsame.trans hname)] at hns
  · exact fun hns => ⟨host, hhost, hname.symm, hns⟩

theorem Sound.tells (h : s.Sound S) (hphase : s.phase = .watching)
    (hpending : s.pending = ev :: rest)
    (hlater : ∀ later ∈ rest, later.host.hostname ≠ ev.host.hostname) : ev.Tells s.hosts := by
  refine (settled_of_some ?_).mp (h.settled hphase ev.host.hostname)
  rw [hpending, lastFor_cons, lastFor_eq_none_iff.mpr hlater, if_pos rfl, Option.none_or]

theorem follows_of_ne_delete (h : ev.eventType ≠ .delete) :
    s.Follows S mode ev rest ↔ (s.flagged ev.host.lid = true →
      (∀ later ∈ rest, later.host.hostname ≠ ev.host.hostname) →
      ∀ x ∈ s.world.routes, x.hostname = ev.host.hostname →
        x.ns = S.leaseIDToNamespace ev.host.lid) := by
  rw [Follows]
  split
  next hdelete => exact absurd hdelete h
  next => rfl
  next => rfl

theorem Sound.delete_iff (h : s.Sound S) (hphase : s.phase = .watching)
    (hpending : s.pending = ev :: rest) :
    Sound S { s with
        pending := rest
        world := ⟨s.world.routes.filter fun x => ¬Removes S mode ev.host.hostname ev.host.lid x,
          Function.update s.world.hostnames ev.host.hostname none⟩ } ↔
      ∀ x ∈ s.world.routes, x.hostname = ev.host.hostname →
        Removes S mode ev.host.hostname ev.host.lid x := by
  have hup : s.phase ≠ .down := hphase ▸ nofun
  have hforget := (h.remembered hup).forget_iff
    (List.filter_sublist (p := fun x => ¬Removes S mode ev.host.hostname ev.host.lid x))
    ev.host.hostname
  constructor
  · grind
  · intro hall
    have hgone : ∀ x ∈ s.world.routes.filter fun x =>
        ¬Removes S mode ev.host.hostname ev.host.lid x, x.hostname ≠ ev.host.hostname :=
      fun x hx hname => of_decide_eq_true (List.mem_filter.mp hx).2
        (hall x (List.mem_filter.mp hx).1 hname)
    refine ⟨h.tidy.of_sublist List.filter_sublist, fun _ => hforget.mpr hgone, fun _ => ?_⟩
    refine (settled_next_iff (h.settled hphase) hpending fun x hne => ?_).mpr
      fun _ x hx hname => absurd hname (hgone x hx)
    refine List.mem_filter.trans (and_iff_left (decide_eq_true fun hremoves => hne ?_))
    exact congrArg Prod.snd hremoves.1

theorem Sound.ignored_iff (h : s.Sound S) (hformed : s.Formed) (hphase : s.phase = .watching)
    (hpending : s.pending = ev :: rest) (hne : ev.eventType ≠ .delete) :
    Sound S { s with pending := rest } ↔
      ((∀ later ∈ rest, later.host.hostname ≠ ev.host.hostname) →
        ∀ x ∈ s.world.routes, x.hostname = ev.host.hostname →
          x.ns = S.leaseIDToNamespace ev.host.lid) := by
  have hsettled := settled_next_iff (w := s.world) (h.settled hphase) hpending fun _ _ => .rfl
  have hserves : (∀ later ∈ rest, later.host.hostname ≠ ev.host.hostname) →
      ∀ x : HostRoute, x.hostname = ev.host.hostname →
        (x.Serves S s.hosts ↔ x.ns = S.leaseIDToNamespace ev.host.lid) := fun hlater _ =>
    hformed.serves_iff ((tells_of_ne_delete hne).mp (h.tells hphase hpending hlater))
  constructor
  · grind
  · intro hall
    refine ⟨h.tidy, h.remembered, fun _ => hsettled.mpr fun hlater x hx hname => ?_⟩
    simp_all

theorem Sound.placed (h : s.Sound S) (hphase : s.phase = .watching)
    (hpending : s.pending = ev :: rest) (hne : ev.eventType ≠ .delete) :
    Sound S { s with pending := rest, world := s.world.placed S ev.host } := by
  refine ⟨h.tidy.placed ev.host, fun hup => (h.remembered hup).placed ev.host, fun _ => ?_⟩
  refine (settled_next_iff (h.settled hphase) hpending fun x hother => ?_).mpr ?_
  · refine Mirror.mem_put.trans ⟨?_, fun hx => .inr ⟨hx, hother⟩⟩
    rintro (rfl | ⟨hx, -⟩)
    · exact absurd rfl hother
    · exact hx
  · intro hlater x hx hname
    have hhost := (tells_of_ne_delete hne).mp (h.tells hphase hpending hlater)
    rcases Mirror.mem_put.mp hx with rfl | ⟨-, hother⟩
    · exact ⟨ev.host, hhost, rfl, rfl⟩
    · exact absurd hname hother

variable {failure : Option ApplyFailure}

theorem Sound.apply_iff (h : s.Sound S) (hformed : s.Formed) (hphase : s.phase = .watching)
    (hpending : s.pending = ev :: rest)
    (hok : (s.world.applyEvent S mode s.flagged ev failure).2 = true) :
    Sound S { s with
        pending := rest, world := (s.world.applyEvent S mode s.flagged ev failure).1 } ↔
      s.Follows S mode ev rest := by
  by_cases hdelete : ev.eventType = .delete
  · rw [HostRoutes.applyEvent_of_delete hdelete] at hok ⊢
    split at hok
    next => cases hok
    next hfail =>
      rw [if_neg hfail, Follows, hdelete]
      exact h.delete_iff hphase hpending
  · rw [follows_of_ne_delete hdelete]
    rw [HostRoutes.applyEvent_of_ne_delete hdelete] at hok ⊢
    split at hok
    next hflag => grind [Sound.ignored_iff]
    next hflag =>
      rw [if_neg hflag]
      refine iff_of_true ?_ fun hflag' => absurd hflag' hflag
      rcases (h.remembered (hphase ▸ nofun)).leaves mode ev.host failure with
        ⟨hfail, -⟩ | heq
      · rw [hfail] at hok
        cases hok
      · rw [heq]
        exact h.placed hphase hpending hdelete

theorem Sound.notify (h : s.Sound S) (htells : ev.Tells hosts)
    (hother : ∀ host, host.hostname ≠ ev.host.hostname → (host ∈ hosts ↔ host ∈ s.hosts)) :
    Sound S { s with hosts := hosts, pending := s.notify ev } where
  tidy := h.tidy
  remembered := h.remembered
  settled := by
    intro hphase hostname
    have hnotify : s.notify ev = s.pending ++ [ev] := if_pos hphase
    rw [hnotify]
    exact (h.settled hphase hostname).notify htells hother

theorem Sound.declare (h : s.Sound S) (host : ProviderHost) {eventType : ProviderResourceEvent}
    (hne : eventType ≠ .delete) :
    Sound S { s with
      hosts := Mirror.put (·.hostname) s.hosts host, pending := s.notify ⟨eventType, host⟩ } := by
  have hmem : host ∈ Mirror.put (·.hostname) s.hosts host := Mirror.mem_put.mpr (.inl rfl)
  refine h.notify ((tells_of_ne_delete hne).mpr hmem) fun host' hother => ?_
  refine Mirror.mem_put.trans ⟨?_, fun hmem => .inr ⟨hmem, hother⟩⟩
  rintro (rfl | ⟨hmem, -⟩)
  · exact absurd rfl hother
  · exact hmem

theorem Sound.delete (h : s.Sound S) (host : ProviderHost) :
    Sound S { s with
      hosts := Mirror.drop (·.hostname) s.hosts host.hostname
      pending := s.notify ⟨.delete, host⟩ } := by
  refine h.notify ?_ fun host' hother => Mirror.mem_drop.trans (and_iff_left hother)
  intro hmem
  obtain ⟨host', hdrop, hsame⟩ := List.mem_map.mp hmem
  exact (Mirror.mem_drop.mp hdrop).2 hsame

theorem sound_of_down (h : s.world.Tidy S) (hphase : s.phase = .down) : s.Sound S :=
  ⟨h, fun hup => absurd hphase hup, fun hwatching => nomatch hphase.symm.trans hwatching⟩

theorem Sound.routes_of_failed (h : s.Sound S) (hup : s.phase ≠ .down)
    (hfail : (s.world.applyEvent S mode s.flagged ev failure).2 = false) :
    (s.world.applyEvent S mode s.flagged ev failure).1.routes.Sublist s.world.routes := by
  by_cases hdelete : ev.eventType = .delete
  · rw [HostRoutes.applyEvent_of_delete hdelete] at hfail ⊢
    split at hfail
    next hremove => rw [if_pos hremove]
    next => cases hfail
  · rw [HostRoutes.applyEvent_of_ne_delete hdelete] at hfail ⊢
    split at hfail
    next => cases hfail
    next hflag =>
      rw [if_neg hflag]
      rcases (h.remembered hup).leaves mode ev.host failure with
        ⟨-, hsub⟩ | heq
      · exact hsub
      · rw [heq] at hfail
        cases hfail

theorem step_apply_eq_some (hstep : s.step S mode (.apply failure) = some s') :
    ∃ ev rest, s.phase = .watching ∧ s.pending = ev :: rest ∧
      (((s.world.applyEvent S mode s.flagged ev failure).2 = true ∧
          s' = { s with
            pending := rest
            world := (s.world.applyEvent S mode s.flagged ev failure).1 }) ∨
        ((s.world.applyEvent S mode s.flagged ev failure).2 = false ∧
          s' = { s with
            phase := .down
            pending := []
            world := (s.world.applyEvent S mode s.flagged ev failure).1 })) := by
  rw [step] at hstep
  grind

variable {e : HostSystemEvent}

theorem Formed.step (h : s.Formed) (hstep : s.step S mode e = some s') : s'.Formed := by
  have hnotify : ∀ ev, s.phase = .listed → s.notify ev = s.pending :=
    fun _ hphase => if_neg (hphase ▸ nofun)
  cases e with
  | declare host =>
    obtain rfl := Option.some.inj hstep
    exact ⟨Mirror.nodup_put h.hosts host, fun hphase => (hnotify _ hphase).symm ▸ h.listed hphase⟩
  | delete hostname =>
    obtain ⟨host, -, rfl⟩ := Option.map_eq_some_iff.mp hstep
    exact ⟨Mirror.nodup_drop h.hosts hostname,
      fun hphase => (hnotify _ hphase).symm ▸ h.listed hphase⟩
  | flag lid flagged =>
    obtain rfl := Option.some.inj hstep
    exact ⟨h.hosts, h.listed⟩
  | list routes hosts =>
    obtain ⟨-, hs'⟩ := Option.ite_none_right_eq_some.mp hstep
    obtain ⟨connections, -, rfl⟩ := Option.map_eq_some_iff.mp hs'
    exact ⟨h.hosts, fun _ => List.forall_mem_map.mpr fun _ _ => rfl⟩
  | watch hosts =>
    obtain ⟨-, ⟨⟩⟩ := Option.ite_none_right_eq_some.mp hstep
    exact ⟨h.hosts, nofun⟩
  | apply failure =>
    obtain ⟨ev, rest, hphase, -, ⟨-, rfl⟩ | ⟨-, rfl⟩⟩ := step_apply_eq_some hstep
    · exact ⟨h.hosts, fun hlisted => nomatch hphase.symm.trans hlisted⟩
    · exact ⟨h.hosts, nofun⟩
  | stop =>
    obtain ⟨-, ⟨⟩⟩ := Option.ite_none_right_eq_some.mp hstep
    exact ⟨h.hosts, nofun⟩

theorem Sound.step_iff (h : s.Sound S) (hformed : s.Formed) (hstep : s.step S mode e = some s') :
    s'.Sound S ↔ s.Orderly S mode e := by
  cases e with
  | declare host =>
    obtain rfl := Option.some.inj hstep
    refine iff_of_true (h.declare host ?_) trivial
    split <;> nofun
  | delete hostname =>
    obtain ⟨host, hfind, rfl⟩ := Option.map_eq_some_iff.mp hstep
    have hname : host.hostname = hostname := by simpa using List.find?_some hfind
    exact iff_of_true (hname ▸ h.delete host) trivial
  | flag lid flagged =>
    obtain rfl := Option.some.inj hstep
    exact iff_of_true ⟨h.tidy, h.remembered, h.settled⟩ trivial
  | list routes hosts =>
    obtain ⟨⟨-, hperm, -⟩, hs'⟩ := Option.ite_none_right_eq_some.mp hstep
    obtain ⟨connections, hlist, rfl⟩ := Option.map_eq_some_iff.mp hs'
    have hread := Except.eq_ok_of_toOption_eq_some hlist
    exact iff_of_true ⟨⟨h.tidy.single, h.tidy.made⟩,
      fun _ => h.tidy.remembered_list hperm hread, nofun⟩ trivial
  | watch hosts =>
    obtain ⟨⟨hphase, hperm⟩, ⟨⟩⟩ := Option.ite_none_right_eq_some.mp hstep
    refine Iff.trans ?_ (settled_watch_iff (S := S) (hformed.listed hphase) hperm)
    exact ⟨fun hsound => hsound.settled rfl,
      fun hsettled => ⟨h.tidy, fun _ => h.remembered (hphase ▸ nofun), fun _ => hsettled⟩⟩
  | apply failure =>
    obtain ⟨ev, rest, hphase, hpending, hs'⟩ := step_apply_eq_some hstep
    rw [Orderly, hpending]
    rcases hs' with ⟨hok, rfl⟩ | ⟨hfail, rfl⟩
    · grind [Sound.apply_iff]
    · have hsub := h.routes_of_failed (hphase ▸ nofun) hfail
      refine iff_of_true (sound_of_down (h.tidy.of_sublist hsub) rfl) fun hok => ?_
      exact nomatch hfail.symm.trans hok
  | stop =>
    obtain ⟨-, ⟨⟩⟩ := Option.ite_none_right_eq_some.mp hstep
    exact iff_of_true (sound_of_down h.tidy rfl) trivial

theorem formed_init : init.Formed := ⟨List.nodup_nil, nofun⟩

theorem sound_init : init.Sound S := sound_of_down ⟨List.nodup_nil, nofun⟩ rfl

/-- While events are orderly and all have been applied, there is one route for a hostname, in the
namespace of the lease of its resource.  After another event, a route stays where it does not
belong. -/
theorem routes_follow_hosts (h : Runs (step S mode) (Orderly S mode) init s) :
    (s.phase = .watching → s.pending = [] →
        (s.world.routes.map (·.hostname)).Nodup ∧ ∀ x ∈ s.world.routes, x.Serves S s.hosts) ∧
      ∀ e s', s.step S mode e = some s' → (s'.Sound S ↔ s.Orderly S mode e) := by
  obtain ⟨hformed, hsound⟩ := h.invariant (I := fun s => s.Formed ∧ s.Sound S)
    (fun _ _ _ horderly hstep h => ⟨h.1.step hstep, (h.2.step_iff h.1 hstep).mpr horderly⟩)
    ⟨formed_init, sound_init⟩
  refine ⟨fun hphase hpending => ⟨hsound.tidy.single, fun x hx => ?_⟩,
    fun e s' hstep => hsound.step_iff hformed hstep⟩
  have hnone : lastFor s.pending x.hostname = none := by
    rw [hpending]
    rfl
  exact (settled_of_none hnone).mp (hsound.settled hphase x.hostname) x hx rfl

end

/-! ## One hostname -/

/-- A hostname of the deployment. -/
def shopHost (dseq : UInt64) : ProviderHost :=
  ⟨"shop.example", ⟨"owner", dseq, 1, 1, "provider"⟩, "web", 80⟩

/-- The operator starts, and the hostname is given to the first deployment. -/
def shopEvents : List HostSystemEvent :=
  [.list [] [], .watch [], .declare (shopHost 1), .apply none]

/-- The hostname moves to the second deployment. -/
def moveEvents : List HostSystemEvent := [.declare (shopHost 2), .apply none]

/-- The operator runs and has applied all events. -/
def AtRest (s : HostSystem) (hosts : List ProviderHost) (routes : List HostRoute) : Prop :=
  s.phase = .watching ∧ s.pending = [] ∧ s.hosts = hosts ∧ s.world.routes = routes

instance (s : HostSystem) (hosts : List ProviderHost) (routes : List HostRoute) :
    Decidable (s.AtRest hosts routes) :=
  inferInstanceAs (Decidable (_ ∧ _))

theorem routes_follow_hosts_moved :
    ∃ s, Runs (step .reference .ingress) (Orderly .reference .ingress) init s ∧
      s.AtRest [shopHost 2] [routeOf .reference (shopHost 2)] ∧
      ∀ x ∈ s.world.routes, x.Serves .reference s.hosts := by
  have hrun : ((shopEvents ++ moveEvents).foldlM
      (fun s e => if Orderly .reference .ingress s e then step .reference .ingress s e else none)
      init).any (fun s => AtRest s [shopHost 2] [routeOf .reference (shopHost 2)]) = true := by
    decide +kernel
  obtain ⟨s, hs, hend⟩ := (Option.any_eq_true _ _).mp hrun
  have hmoved := Runs.of_guarded _ _ _ hs
  have hrest := of_decide_eq_true hend
  exact ⟨s, hmoved, hrest, ((routes_follow_hosts hmoved).1 hrest.1 hrest.2.1).2⟩

theorem runs_atRest (es : List HostSystemEvent) (hosts : List ProviderHost)
    (routes : List HostRoute) (h : ((shopEvents ++ es).foldlM (step .reference .ingress) init).any
      (fun s => AtRest s hosts routes) = true) :
    ∃ s, Runs (step .reference .ingress) (fun _ _ => True) init s ∧ s.AtRest hosts routes := by
  obtain ⟨s, hs, hend⟩ := (Option.any_eq_true _ _).mp h
  exact ⟨s, Runs.of_foldlM _ _ _ hs, of_decide_eq_true hend⟩

/-- The resource is deleted while the operator is down, and the route stays.  And it stays when the
hostname moves to a lease in the ignore list. -/
theorem route_of_deleted_host_stays :
    (∃ s, Runs (step .reference .ingress) (fun _ _ => True) init s ∧
        s.AtRest [] [routeOf .reference (shopHost 1)]) ∧
      ∃ s, Runs (step .reference .ingress) (fun _ _ => True) init s ∧
        s.AtRest [shopHost 2] [routeOf .reference (shopHost 1)] ∧
        (routeOf .reference (shopHost 1)).ns ≠ (routeOf .reference (shopHost 2)).ns := by
  constructor
  · exact runs_atRest
      [.stop, .delete "shop.example", .list [routeOf .reference (shopHost 1)] [], .watch []] _ _
      (by decide +kernel)
  · obtain ⟨s, hs, hrest⟩ := runs_atRest (.flag (shopHost 2).lid true :: moveEvents)
      [shopHost 2] [routeOf .reference (shopHost 1)] (by decide +kernel)
    exact ⟨s, hs, hrest, by decide +kernel⟩

end HostSystem

end AkashProvider.Operator
