import AkashProvider.Lib.Run
import AkashProvider.Lib.Selector
import AkashProvider.Manifest.Codec

/-!
# The declared IPs of all leases

Every leased IP of every lease is a resource of one collection.  `PurgeDeclaredIP` builds the
selector for one IP and then deletes by another one, which every resource matches
(`purgeDeclaredIP_exact_iff`, `purgeDeclaredIP_eq_nil`).
-/

namespace AkashProvider

variable (S : ManifestSdk)

/-! ## Resources -/

structure ProviderLeasedIPSpec where
  leaseID : Crd.LeaseID
  serviceName : String
  port : UInt32
  externalPort : UInt32
  sharingKey : String
  protocol : String
deriving DecidableEq

structure ProviderLeasedIP where
  name : String
  labels : Labels
  spec : ProviderLeasedIPSpec
deriving DecidableEq

def serviceNameLabel : String := "service-name"
def externalPortLabel : String := "external-port"
def protoLabel : String := "proto"
def akashManagedLabelName : String := "akash.network"
def akashLeaseOwnerLabelName : String := "akash.network/lease.id.owner"
def akashLeaseDSeqLabelName : String := "akash.network/lease.id.dseq"
def akashLeaseGSeqLabelName : String := "akash.network/lease.id.gseq"
def akashLeaseOSeqLabelName : String := "akash.network/lease.id.oseq"
def akashLeaseProviderLabelName : String := "akash.network/lease.id.provider"

def formatUint32 (n : UInt32) : String := Go.formatUint n.toUInt64

def appendLeaseLabels (lid : LeaseID) (labels : Labels) : Labels :=
  labels ++
    [(akashLeaseOwnerLabelName, lid.owner), (akashLeaseDSeqLabelName, Go.formatUint lid.dseq),
      (akashLeaseGSeqLabelName, formatUint32 lid.gseq),
      (akashLeaseOSeqLabelName, formatUint32 lid.oseq),
      (akashLeaseProviderLabelName, lid.provider)]

def kubeSelectorForLease (lid : LeaseID) : Selector :=
  [(akashLeaseOwnerLabelName, lid.owner), (akashLeaseDSeqLabelName, Go.formatUint lid.dseq),
    (akashLeaseGSeqLabelName, formatUint32 lid.gseq),
    (akashLeaseOSeqLabelName, formatUint32 lid.oseq)]

/-! ## Sharing keys -/

/-- `^[a-z\d\-]+$`. -/
def allowedIPEndpointName (name : String) : Bool :=
  name ≠ "" && name.toList.all fun c => c.isLower || c.isDigit || c = '-'

/-- The key that the IPs of one endpoint share.  `nameHash` is the SHA-256 of a name, cut to
fifteen bytes and written in base 32. -/
def makeIPSharingKey (nameHash : String → String) (lID : LeaseID) (endpointName : String) :
    String :=
  let effectiveName :=
    if allowedIPEndpointName endpointName then endpointName
    else (nameHash endpointName).toLower
  lID.owner ++ "-ip-" ++ effectiveName

/-! ## The client -/

def purgeDeclaredIP (store : List ProviderLeasedIP) (leaseID : LeaseID) (serviceName : String)
    (externalPort : UInt32) (proto : Mani.ServiceProtocol) : List ProviderLeasedIP :=
  let _labelSelector : Selector := kubeSelectorForLease leaseID ++
    [(serviceNameLabel, serviceName), (protoLabel, S.protocolToString proto),
      (externalPortLabel, formatUint32 externalPort)]
  -- the selector above is not the one that is passed on
  Selector.deleteCollection (·.labels) [(akashManagedLabelName, "true")] store

def purgeDeclaredIPs (store : List ProviderLeasedIP) (lid : LeaseID) : List ProviderLeasedIP :=
  Selector.deleteCollection (·.labels)
    ((akashManagedLabelName, "true") :: kubeSelectorForLease lid) store

/-- The resource that `DeclareIP` writes. -/
def declaredIP (lid : LeaseID) (serviceName : String) (port externalPort : UInt32)
    (proto : Mani.ServiceProtocol) (sharingKey : String) : ProviderLeasedIP where
  name := (sharingKey ++ "-" ++ S.protocolToString proto ++ "-" ++
    formatUint32 externalPort).toLower
  labels := appendLeaseLabels lid
    [(akashManagedLabelName, "true"), (serviceNameLabel, serviceName),
      (externalPortLabel, formatUint32 externalPort), (protoLabel, S.protocolToString proto)]
  spec :=
    { leaseID := Crd.leaseIDFromAkash lid
      serviceName := serviceName
      port := port
      externalPort := externalPort
      sharingKey := sharingKey
      protocol := S.protocolToString proto }

inductive KubeErr where
  | alreadyExists

def declareIP (store : List ProviderLeasedIP) (lid : LeaseID) (serviceName : String)
    (port externalPort : UInt32) (proto : Mani.ServiceProtocol) (sharingKey : String)
    (overwrite : Bool) : Except KubeErr (List ProviderLeasedIP) :=
  let obj := declaredIP S lid serviceName port externalPort proto sharingKey
  let found := store.any (·.name = obj.name)
  if found && !overwrite then .error .alreadyExists
  else if found then .ok (store.map fun x => if x.name = obj.name then obj else x)
  else .ok (store ++ [obj])

def getDeclaredIPs (store : List ProviderLeasedIP) (leaseID : LeaseID) :
    List ProviderLeasedIPSpec :=
  (store.filter fun x => (kubeSelectorForLease leaseID).Selects x.labels).map (·.spec)

/-- An entry of the clean-up of a deployment update. -/
structure PurgeIPEntry where
  serviceName : String
  port : UInt32
  proto : Mani.ServiceProtocol

/-- The part of `purgeAll` that is about IPs. -/
def purgeAllIPs (store : List ProviderLeasedIP) (lease : LeaseID) (entries : List PurgeIPEntry) :
    List ProviderLeasedIP :=
  entries.foldl (fun store e => purgeDeclaredIP S store lease e.serviceName e.port e.proto) store

/-! ## One purge -/

def ProviderLeasedIP.Managed (x : ProviderLeasedIP) : Prop :=
  x.labels.lookup akashManagedLabelName = some "true"

/-- The resource is the IP of a lease, service, external port and protocol. -/
def ProviderLeasedIP.IsOf (x : ProviderLeasedIP) (lid : LeaseID) (serviceName : String)
    (externalPort : UInt32) (proto : Mani.ServiceProtocol) : Prop :=
  x.spec.leaseID = Crd.leaseIDFromAkash lid ∧ x.spec.serviceName = serviceName ∧
    x.spec.externalPort = externalPort ∧ x.spec.protocol = S.protocolToString proto

instance (lid : LeaseID) (serviceName : String) (externalPort : UInt32)
    (proto : Mani.ServiceProtocol) :
    DecidablePred (ProviderLeasedIP.IsOf S · lid serviceName externalPort proto) :=
  fun _ => inferInstanceAs (Decidable (_ ∧ _))

variable {x : ProviderLeasedIP}

theorem selects_managed :
    Selector.Selects [(akashManagedLabelName, "true")] x.labels ↔ x.Managed := by
  rw [Selector.selects_cons]
  exact and_iff_left (Selector.selects_nil _)

/-- After a purge exactly the other IPs remain, if the managed resources are those of the one
IP. -/
theorem purgeDeclaredIP_exact_iff (store : List ProviderLeasedIP) (lid : LeaseID)
    (serviceName : String) (externalPort : UInt32) (proto : Mani.ServiceProtocol) :
    purgeDeclaredIP S store lid serviceName externalPort proto =
        (store.filter fun x => ¬ x.IsOf S lid serviceName externalPort proto) ↔
      ∀ x ∈ store, x.Managed ↔ x.IsOf S lid serviceName externalPort proto := by
  refine Selector.deleteCollection_eq_filter_iff.trans (forall₂_congr fun x _ => ?_)
  rw [selects_managed]

/-! ## Collections that the client has made -/

inductive ClientCall where
  | declareIP (lid : LeaseID) (serviceName : String) (port externalPort : UInt32)
      (proto : Mani.ServiceProtocol) (sharingKey : String) (overwrite : Bool)
  | purgeDeclaredIP (lid : LeaseID) (serviceName : String) (externalPort : UInt32)
      (proto : Mani.ServiceProtocol)
  | purgeDeclaredIPs (lid : LeaseID)

def clientStep (store : List ProviderLeasedIP) : ClientCall → Option (List ProviderLeasedIP)
  | .declareIP lid serviceName port externalPort proto sharingKey overwrite =>
    (declareIP S store lid serviceName port externalPort proto sharingKey overwrite).toOption
  | .purgeDeclaredIP lid serviceName externalPort proto =>
    some (purgeDeclaredIP S store lid serviceName externalPort proto)
  | .purgeDeclaredIPs lid => some (purgeDeclaredIPs store lid)

/-- The collection is reached from an empty one by calls of the client, for any leases. -/
abbrev ClientMade (store : List ProviderLeasedIP) : Prop :=
  Runs (clientStep S) (fun _ _ => True) [] store

def ProviderLeasedIP.Declared (x : ProviderLeasedIP) : Prop :=
  ∃ lid serviceName port externalPort proto sharingKey,
    x = declaredIP S lid serviceName port externalPort proto sharingKey

variable {S}

section

variable {store : List ProviderLeasedIP} {lid : LeaseID} {serviceName : String}
  {port externalPort : UInt32} {proto : Mani.ServiceProtocol} {sharingKey : String}

theorem any_name_eq {name : String} :
    store.any (·.name = name) = true ↔ name ∈ store.map (·.name) := by
  simp only [List.any_eq_true, decide_eq_true_eq, List.mem_map]

theorem declareIP_of_mem
    (h : (declaredIP S lid serviceName port externalPort proto sharingKey).name ∈
      store.map (·.name)) :
    declareIP S store lid serviceName port externalPort proto sharingKey false =
      .error .alreadyExists := by
  simp only [declareIP, any_name_eq.mpr h, Bool.not_false, Bool.and_self, if_true]

theorem declareIP_of_not_mem
    (h : (declaredIP S lid serviceName port externalPort proto sharingKey).name ∉
      store.map (·.name)) (overwrite : Bool) :
    declareIP S store lid serviceName port externalPort proto sharingKey overwrite =
      .ok (store ++ [declaredIP S lid serviceName port externalPort proto sharingKey]) := by
  grind [declareIP]

theorem declareIP_overwrite_of_mem
    (h : (declaredIP S lid serviceName port externalPort proto sharingKey).name ∈
      store.map (·.name)) :
    declareIP S store lid serviceName port externalPort proto sharingKey true =
      .ok (store.map fun x =>
        if x.name = (declaredIP S lid serviceName port externalPort proto sharingKey).name then
          declaredIP S lid serviceName port externalPort proto sharingKey
        else x) := by
  grind [declareIP, any_name_eq]

theorem nodup_declareIP {store' : List ProviderLeasedIP} {overwrite : Bool}
    (hok : declareIP S store lid serviceName port externalPort proto sharingKey overwrite =
      .ok store') (h : (store.map (·.name)).Nodup) : (store'.map (·.name)).Nodup := by
  by_cases htaken : (declaredIP S lid serviceName port externalPort proto sharingKey).name ∈
      store.map (·.name)
  · cases overwrite with
    | false => cases (declareIP_of_mem htaken).symm.trans hok
    | true => grind [declareIP_overwrite_of_mem]
  · grind [declareIP_of_not_mem]

end

theorem declareIP_mem {store store' : List ProviderLeasedIP} {lid : LeaseID} {serviceName : String}
    {port externalPort : UInt32} {proto : Mani.ServiceProtocol} {sharingKey : String}
    {overwrite : Bool}
    (h : declareIP S store lid serviceName port externalPort proto sharingKey overwrite =
      .ok store') (hx : x ∈ store') :
    x ∈ store ∨ x = declaredIP S lid serviceName port externalPort proto sharingKey := by
  simp only [declareIP] at h
  grind

theorem clientStep_declared (store : List ProviderLeasedIP) (c : ClientCall)
    (store' : List ProviderLeasedIP) (h : clientStep S store c = some store')
    (hstore : ∀ x ∈ store, x.Declared S) : ∀ x ∈ store', x.Declared S := by
  intro x hx
  cases c with
  | declareIP lid serviceName port externalPort proto sharingKey overwrite =>
    rcases declareIP_mem (Except.eq_ok_of_toOption_eq_some h) hx with hx | hx
    · exact hstore x hx
    · exact ⟨lid, serviceName, port, externalPort, proto, sharingKey, hx⟩
  | purgeDeclaredIP lid serviceName externalPort proto =>
    injection h with h
    subst h
    exact hstore x (Selector.mem_deleteCollection.mp hx).1
  | purgeDeclaredIPs lid =>
    injection h with h
    subst h
    exact hstore x (Selector.mem_deleteCollection.mp hx).1

variable {store : List ProviderLeasedIP}

theorem ClientMade.declared (h : ClientMade S store) :
    ∀ x ∈ store, x.Declared S :=
  Runs.invariant (fun s c s' _ hstep => clientStep_declared s c s' hstep) h
    (fun _ hx => absurd hx List.not_mem_nil)

theorem ClientMade.nodup (h : ClientMade S store) :
    (store.map (·.name)).Nodup := by
  refine Runs.invariant (I := fun store => (store.map (·.name)).Nodup)
    (fun s c s' _ hstep hs => ?_) h List.nodup_nil
  cases c with
  | declareIP lid serviceName port externalPort proto sharingKey overwrite =>
    exact nodup_declareIP (Except.eq_ok_of_toOption_eq_some hstep) hs
  | purgeDeclaredIP lid serviceName externalPort proto =>
    cases hstep
    exact hs.sublist (List.filter_sublist.map _)
  | purgeDeclaredIPs lid =>
    cases hstep
    exact hs.sublist (List.filter_sublist.map _)

theorem ProviderLeasedIP.Declared.managed (h : x.Declared S) :
    x.Managed := by
  obtain ⟨lid, serviceName, port, externalPort, proto, sharingKey, rfl⟩ := h
  rfl

/-- The IPs of two tenants; the client is asked to purge the first. -/
def ownerIP : ProviderLeasedIP :=
  declaredIP .reference ⟨"owner", 42, 1, 1, "provider"⟩ "web" 8080 80 .tcp "owner"

def tenantIP : ProviderLeasedIP :=
  declaredIP .reference ⟨"tenant", 7, 1, 1, "provider"⟩ "db" 5432 5432 .tcp "tenant"

theorem purgeDeclaredIP_other_tenant :
    ClientMade .reference [ownerIP, tenantIP] ∧
    purgeDeclaredIP .reference [ownerIP, tenantIP] ⟨"owner", 42, 1, 1, "provider"⟩ "web" 80 .tcp ≠
      [ownerIP, tenantIP].filter fun x =>
        ¬ x.IsOf .reference ⟨"owner", 42, 1, 1, "provider"⟩ "web" 80 .tcp := by
  constructor
  · exact Runs.of_foldlM
      [.declareIP ⟨"owner", 42, 1, 1, "provider"⟩ "web" 8080 80 .tcp "owner" false,
        .declareIP ⟨"tenant", 7, 1, 1, "provider"⟩ "db" 5432 5432 .tcp "tenant" false] _ _
      (by decide +kernel)
  · decide +kernel

/-- Purging one IP removes every IP of every lease. -/
theorem purgeDeclaredIP_eq_nil (h : ClientMade S store) (lid : LeaseID) (serviceName : String)
    (externalPort : UInt32) (proto : Mani.ServiceProtocol) :
    purgeDeclaredIP S store lid serviceName externalPort proto = [] :=
  Selector.deleteCollection_eq_nil_iff.mpr fun x hx => selects_managed.mpr (h.declared x hx).managed

/-- A deployment update that gives up an IP removes every IP of every lease. -/
theorem purgeAllIPs_eq_nil (h : ClientMade S store) (lease : LeaseID) {entries : List PurgeIPEntry}
    (hentries : entries ≠ []) :
    purgeAllIPs S store lease entries = [] := by
  induction entries generalizing store with
  | nil => exact absurd rfl hentries
  | cons e entries ih =>
    have hnext : ClientMade S (purgeDeclaredIP S store lease e.serviceName e.port e.proto) :=
      h.next (.purgeDeclaredIP lease e.serviceName e.port e.proto) trivial rfl
    cases entries with
    | nil => exact purgeDeclaredIP_eq_nil h lease e.serviceName e.port e.proto
    | cons e' rest => exact ih hnext (List.cons_ne_nil e' rest)

/-! ## The IPs of a lease

The labels of a lease leave out the provider: they are those of its order. -/

theorem formatUint32_inj {m n : UInt32} : formatUint32 m = formatUint32 n ↔ m = n := by
  constructor
  · intro h
    exact UInt32.toUInt64_inj.mp (Go.formatUint_injective h)
  · exact congrArg formatUint32

def ProviderLeasedIP.IsOfOrder (x : ProviderLeasedIP) (lid : LeaseID) : Prop :=
  x.spec.leaseID = { Crd.leaseIDFromAkash lid with provider := x.spec.leaseID.provider }

theorem ProviderLeasedIP.Declared.selects_lease (h : x.Declared S) (lid : LeaseID) :
    (kubeSelectorForLease lid).Selects x.labels ↔ x.IsOfOrder lid := by
  obtain ⟨lid', serviceName, port, externalPort, proto, sharingKey, rfl⟩ := h
  have howner : (declaredIP S lid' serviceName port externalPort proto sharingKey).labels.lookup
      akashLeaseOwnerLabelName = some lid'.owner := rfl
  have hdseq : (declaredIP S lid' serviceName port externalPort proto sharingKey).labels.lookup
      akashLeaseDSeqLabelName = some (Go.formatUint lid'.dseq) := rfl
  have hgseq : (declaredIP S lid' serviceName port externalPort proto sharingKey).labels.lookup
      akashLeaseGSeqLabelName = some (formatUint32 lid'.gseq) := rfl
  have hoseq : (declaredIP S lid' serviceName port externalPort proto sharingKey).labels.lookup
      akashLeaseOSeqLabelName = some (formatUint32 lid'.oseq) := rfl
  simp only [kubeSelectorForLease, Selector.selects_cons, Selector.selects_nil, and_true, howner,
    hdseq, hgseq, hoseq, Option.some_inj, formatUint32_inj]
  simp only [ProviderLeasedIP.IsOfOrder, declaredIP, Crd.leaseIDFromAkash, Crd.LeaseID.mk.injEq,
    and_true]

end AkashProvider
