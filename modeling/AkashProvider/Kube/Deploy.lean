import AkashProvider.Kube.Workload
import AkashProvider.Lib.Prog

/-!
# Deploying a lease

`Deploy` writes the manifest of a lease, its namespace and network policies, removes stale objects
and writes the objects of each service.  What it creates and finds is noted in `PreviousObj`, and
`recover` uses the notes when it ends early.  Any call may fail (`fails`), and then changes
nothing; every call is logged.

The applies follow one pattern, `applyObject`, but for `applyDeployment`, which forgets the result
of its update, and `applyNetPolicies`, which ends its loop on an error and returns none.
-/

namespace AkashProvider.Kube

/-! ## State -/

inductive Verb where
  | get
  | list
  | create
  | update
  | patch
  | delete
  | deleteCollection
deriving DecidableEq

structure Call where
  kind : Kind
  verb : Verb
  err : Option ApiErr
deriving DecidableEq

/-- The groups of fields of `previousObj`. -/
inductive Slot where
  | manifest
  | ns
  | netPolicies
  | serviceAccounts
  | roles
  | roleBindings
  | serviceCreds
  | statefulSets
  | deployments
  | localServices
  | globalServices
deriving DecidableEq

@[reducible] def Slot.kind : Slot → Kind
  | .manifest => .manifest
  | .ns => .namespace
  | .netPolicies => .networkPolicy
  | .serviceAccounts => .serviceAccount
  | .roles => .role
  | .roleBindings => .roleBinding
  | .serviceCreds => .secret
  | .statefulSets => .statefulSet
  | .deployments => .deployment
  | .localServices | .globalServices => .service

/-- `previousObj`.  An object that was not found is empty in the source; it is left out here,
since writing it back names no object. -/
structure PreviousObj where
  created : (s : Slot) → List (Object s.kind)
  old : (s : Slot) → List (Object s.kind)

def PreviousObj.empty : PreviousObj := ⟨fun _ => [], fun _ => []⟩

def PreviousObj.add (po : PreviousObj) (slot : Slot) (nobj oobj : List (Object slot.kind)) :
    PreviousObj where
  created := Function.update po.created slot (po.created slot ++ nobj)
  old := Function.update po.old slot (po.old slot ++ oobj)

structure Deploying where
  cluster : ClusterState
  calls : List Call
  po : PreviousObj

def Deploying.start (cl : ClusterState) : Deploying := ⟨cl, [], .empty⟩

inductive DeployErr where
  | notConfigured
  | settings (message : String)
  | build (err : BuildErr)
  | api (err : ApiErr)
  | noRoCERailNetworks (ns : String)
  | renamed (service : String)
  | removed
  | selector
deriving DecidableEq

abbrev DeployM := Prog Deploying DeployErr

/-! ## Calls -/

section Calls

variable (fails : Nat → Bool) {α : Type}

def call (k : Kind) (verb : Verb)
    (op : Collection k.Spec → Except ApiErr (α × Collection k.Spec)) :
    DeployM (Except ApiErr α) := fun s =>
  match if fails s.calls.length then .error .unavailable else op (s.cluster k) with
  | .error e => (.ok (.error e), { s with calls := s.calls ++ [⟨k, verb, some e⟩] })
  | .ok (a, C) =>
    (.ok (.ok a),
      { s with cluster := s.cluster.set k C, calls := s.calls ++ [⟨k, verb, none⟩] })

def callGet (k : Kind) (name : String) : DeployM (Except ApiErr (Object k)) :=
  call fails k .get fun C => (C.get name).map (·, C)

/-- The objects whose labels meet all requirements. -/
def callList (k : Kind) (rs : List Requirement) : DeployM (Except ApiErr (List (Object k))) :=
  call fails k .list fun C => .ok (C.objs.filter fun o => Requirement.MeetsAll rs o.labels, C)

def callCreate (k : Kind) (o : Object k) : DeployM (Except ApiErr (Object k)) :=
  call fails k .create (·.create o)

def callUpdate (k : Kind) (o : Object k) : DeployM (Except ApiErr (Object k)) :=
  call fails k .update (·.update o)

def callPatch (k : Kind) (name : String) (f : k.Spec → k.Spec) :
    DeployM (Except ApiErr (Object k)) :=
  call fails k .patch (·.patch name f)

def callDelete (k : Kind) (name : String) : DeployM (Except ApiErr Unit) :=
  call fails k .delete fun C => (C.delete name).map ((), ·)

def callDeleteCollection (k : Kind) (rs : List Requirement) : DeployM (Except ApiErr Unit) :=
  call fails k .deleteCollection fun C =>
    .ok ((), C.removeAll fun o => Requirement.MeetsAll rs o.labels)

def ignore (x : DeployM α) : DeployM PUnit := x >>= fun _ => pure ⟨⟩

/-- `if err != nil { return err }`. -/
def orReturn (x : DeployM (Except ApiErr α)) : DeployM α := do
  match ← x with
  | .ok a => pure a
  | .error e => Prog.throw (.api e)

def built (x : Except BuildErr α) : DeployM α := Prog.ofExcept (x.mapError .build)

end Calls

/-! ## Applies -/

variable (K : KubeSdk) (fails : Nat → Bool) (d : ClusterDeployment)

/-- The created object, or the one that was there. -/
abbrev Applied (k : Kind) := List (Object k) × List (Object k)

/-- An object is written if it is outdated, and created if it is missing. -/
def applyObject {k : Kind} (outdated : Object k → Object k → Bool) (b : Builder k) :
    DeployM (Applied k) := do
  match ← callGet fails k b.name with
  | .ok oobj =>
    let uobj ← built (b.update oobj)
    Prog.when (outdated uobj oobj) (ignore (orReturn (callUpdate fails k uobj)))
    pure ([], [oobj])
  | .error .notFound =>
    let obj ← built b.create
    let nobj ← orReturn (callCreate fails k obj)
    pure ([nobj], [])
  | .error e => Prog.throw (.api e)

/-- Whether the labels, or the specs, of two objects differ. -/
def differ {k : Kind} (uobj oobj : Object k) : Bool :=
  uobj.spec ≠ oobj.spec || ¬ uobj.labels.Same oobj.labels

def applyNS : Builder .namespace → DeployM (Applied .namespace) :=
  applyObject fails fun uobj oobj => !d.isObjectRevisionLatest oobj.labels || differ uobj oobj

def applyServiceCredentials : Builder .secret → DeployM (Applied .secret) :=
  applyObject fails fun uobj oobj => !d.isObjectRevisionLatest uobj.labels || differ uobj oobj

def applyRole : Builder .role → DeployM (Applied .role) :=
  applyObject fails fun uobj oobj => !d.isObjectRevisionLatest uobj.labels || differ uobj oobj

def applyServiceAccount : Builder .serviceAccount → DeployM (Applied .serviceAccount) :=
  applyObject fails fun uobj oobj =>
    !d.isObjectRevisionLatest uobj.labels || ¬ uobj.labels.Same oobj.labels

def applyRoleBinding : Builder .roleBinding → DeployM (Applied .roleBinding) :=
  applyObject fails fun uobj oobj =>
    !d.isObjectRevisionLatest uobj.labels || ¬ uobj.labels.Same oobj.labels

def applyStatefulSet : Builder .statefulSet → DeployM (Applied .statefulSet) :=
  applyObject fails fun uobj oobj => d.isObjectRevisionLatest uobj.labels || differ uobj oobj

def applyService : Builder .service → DeployM (Applied .service) :=
  applyObject fails fun uobj oobj => d.isObjectRevisionLatest uobj.labels || differ uobj oobj

/-- The patches of a deployment whose history limit was `rev`.  The strategy is compared
with a pointer to itself, which is never equal. -/
def deploymentPatch (rev : Option Int) (spec : DeploymentSpec) : DeploymentSpec :=
  { spec with
    revisionHistoryLimit := if rev = some 10 then spec.revisionHistoryLimit else some 10
    strategy := rollingUpdate }

def applyDeployment (b : Builder .deployment) : DeployM (Applied .deployment) := do
  match ← callGet fails .deployment b.name with
  | .ok oobj =>
    let uobj ← built (b.update oobj)
    -- the patch below assigns the error again
    Prog.when (d.isObjectRevisionLatest uobj.labels || differ uobj oobj)
      (ignore (callUpdate fails .deployment uobj))
    let spec : DeploymentSpec := oobj.spec
    let patched ← orReturn
      (callPatch fails .deployment oobj.name (deploymentPatch spec.revisionHistoryLimit))
    pure ([], [patched])
  | .error .notFound =>
    let obj ← built b.create
    let nobj ← orReturn (callCreate fails .deployment obj)
    pure ([nobj], [])
  | .error e => Prog.throw (.api e)

/-- The loop of `applyNetPolicies`, with the policies it creates.  Its errors are those of a
variable of the loop. -/
def applyPolicies : List (Object .networkPolicy) → DeployM (List (Object .networkPolicy))
  | [] => pure []
  | pol :: rest => do
    match ← callGet fails .networkPolicy pol.name with
    | .ok oobj =>
      let uobj := netPolUpdate K d pol
      if !d.isObjectRevisionLatest uobj.labels || differ uobj oobj then
        match ← callUpdate fails .networkPolicy pol with
        | .ok _ => applyPolicies rest
        | .error _ => pure []
      else applyPolicies rest
    | .error .notFound =>
      match ← callCreate fails .networkPolicy pol with
      | .ok nobj => do
        let nobjs ← applyPolicies rest
        pure (nobj :: nobjs)
      | .error _ => pure []
    | .error _ => pure []

def applyNetPolicies (policies : List (Object .networkPolicy)) :
    DeployM (Applied .networkPolicy) := do
  let oobjs ← orReturn (callList fails .networkPolicy [])
  let nobjs ← applyPolicies K fails d policies
  pure (nobjs, oobjs)

/-! ## Stale objects -/

/-- The names of a `NotIn` requirement are checked when it is made, and there must be one. -/
def checkValues (values : List String) : DeployM Unit :=
  if values ≠ [] ∧ values.all K.isValidLabelValue then pure () else Prog.throw .selector

def staleSelector (svcnames : List String) : List Requirement :=
  [.notIn akashManifestServiceLabelName svcnames, .equals akashServiceTarget "true",
    .notIn akashManagedLabelName [akashMetalLB]]

def staleRBACSelector (servicesWithPermissions : List String) : List Requirement :=
  (if servicesWithPermissions ≠ [] then
    [.notIn akashManifestServiceLabelName servicesWithPermissions] else []) ++
  [.equals akashManagedLabelName "true"]

/-- The objects are listed, and deleted one by one. -/
def deleteListed (k : Kind) (rs : List Requirement) : DeployM Unit := do
  let objs ← orReturn (callList fails k rs)
  Prog.forEach (fun o => orReturn (callDelete fails k (ApiObject.name o))) objs

def cleanupStaleRBACResources (servicesWithPermissions : List String) : DeployM Unit := do
  Prog.when (servicesWithPermissions ≠ []) (checkValues K servicesWithPermissions)
  let rs := staleRBACSelector servicesWithPermissions
  deleteListed fails .serviceAccount rs
  deleteListed fails .role rs
  deleteListed fails .roleBinding rs

def cleanupStaleResources (group : Mani.Group) (servicesWithPermissions : List String) :
    DeployM Unit := do
  let svcnames := group.services.map (·.name)
  checkValues K svcnames
  let rs := staleSelector svcnames
  orReturn (callDeleteCollection fails .deployment rs)
  orReturn (callDeleteCollection fails .statefulSet rs)
  deleteListed fails .service rs
  cleanupStaleRBACResources K fails servicesWithPermissions

/-! ## Recovery -/

inductive RecoverStep where
  | deleteCreated (slot : Slot)
  | updateOld (slot : Slot)
  | deleteNamespace
deriving DecidableEq

/-- The steps of `recover`.  Deployments, StatefulSets and manifests that were created are not
among them. -/
def recoverSteps : List RecoverStep :=
  [.deleteCreated .globalServices, .updateOld .globalServices,
    .deleteCreated .localServices, .updateOld .localServices,
    .updateOld .deployments,
    .updateOld .statefulSets,
    .deleteCreated .roleBindings, .updateOld .roleBindings,
    .deleteCreated .roles, .updateOld .roles,
    .deleteCreated .serviceAccounts, .updateOld .serviceAccounts,
    .deleteCreated .serviceCreds, .updateOld .serviceCreds,
    .deleteCreated .netPolicies, .updateOld .netPolicies,
    .deleteNamespace, .updateOld .ns,
    .updateOld .manifest]

/-- Errors are only collected. -/
def recoverDelete (k : Kind) (cl : ClusterState) (o : Object k) : ClusterState :=
  match (cl k).delete o.name with
  | .ok C => cl.set k C
  | .error _ => cl

def recoverUpdate (k : Kind) (cl : ClusterState) (o : Object k) : ClusterState :=
  match (cl k).update o with
  | .ok (_, C) => cl.set k C
  | .error _ => cl

def recoverDeleteNamespace (cl : ClusterState) (o : Object .namespace) : ClusterState :=
  match (cl .namespace).delete o.name with
  | .ok C => (cl.set .namespace C).clearNamespace
  | .error _ => cl

def PreviousObj.recoverStep (po : PreviousObj) (cl : ClusterState) : RecoverStep → ClusterState
  | .deleteCreated slot => (po.created slot).reverse.foldl (recoverDelete slot.kind) cl
  | .updateOld slot => (po.old slot).reverse.foldl (recoverUpdate slot.kind) cl
  | .deleteNamespace => (po.created .ns).foldl recoverDeleteNamespace cl

def PreviousObj.recover (po : PreviousObj) (cl : ClusterState) : ClusterState :=
  recoverSteps.foldl po.recoverStep cl

/-! ## Deploy -/

/-- One object of a service with the fields it is noted in. -/
structure Apply where
  slot : Slot
  builder : Builder slot.kind

def applyBuilder : (slot : Slot) → Builder slot.kind → DeployM (Applied slot.kind)
  | .serviceAccounts, b => applyServiceAccount fails d b
  | .roles, b => applyRole fails d b
  | .roleBindings, b => applyRoleBinding fails d b
  | .serviceCreds, b => applyServiceCredentials fails d b
  | .statefulSets, b => applyStatefulSet fails d b
  | .deployments, b => applyDeployment fails d b
  | .localServices, b | .globalServices, b => applyService fails d b
  | .ns, b => applyNS fails d b
  -- not applied by a builder
  | .manifest, _ | .netPolicies, _ => pure ([], [])

def note (slot : Slot) (r : Applied slot.kind) : DeployM Unit :=
  Prog.modify fun s => { s with po := s.po.add slot r.1 r.2 }

def apply (a : Apply) : DeployM Unit := do
  let r ← applyBuilder fails d a.slot a.builder
  note a.slot r

/-- Whether the service of the deployment has a persistent volume. -/
def Workload.persistent (w : Workload) : Bool :=
  w.service.resources.storage.any fun vol => K.findPersistent vol.attributes = some true

/-- The objects of a service, in the order they are applied. -/
def serviceApplies (w : Workload) : List Apply :=
  (if w.hasPermissions then
    [⟨.serviceAccounts, buildServiceAccount K w⟩, ⟨.roles, buildRole K w⟩,
      ⟨.roleBindings, buildRoleBinding K w⟩] else []) ++
  w.service.credentials.elim [] (fun c => [⟨.serviceCreds, newServiceCredentials K w c⟩]) ++
  (if w.persistent K then [⟨.statefulSets, buildStatefulSet K w⟩]
    else [⟨.deployments, newDeployment K w⟩]) ++
  (if w.serviceAny K false then [⟨.localServices, buildService K w false⟩] else []) ++
  if w.serviceAny K true then [⟨.globalServices, buildService K w true⟩] else []

/-- A manifest must have the services of the one before. -/
def checkServiceNames (old new : List String) : Except DeployErr Unit := do
  let rest ← new.foldlM (fun curr name =>
    if name ∈ curr then .ok (curr.filter (· ≠ name)) else .error (.renamed name)) old
  if rest = [] then .ok () else .error .removed

/-- The manifest of the lease is created or updated, if the deployment asks for it. -/
def applyManifest (mns : String) (omani : Option (Object .manifest)) :
    DeployM (Option (Object .manifest)) := do
  let b := buildManifest K d mns
  match omani with
  | none =>
    let obj ← built b.create
    let nmani ← orReturn (callCreate fails .manifest obj)
    note .manifest ([nmani], [])
    pure (some nmani)
  | some omani =>
    let umani ← built (b.update omani)
    let ospec : Crd.ManifestSpec := omani.spec
    let uspec : Crd.ManifestSpec := umani.spec
    Prog.ofExcept (checkServiceNames (ospec.group.services.map (·.name))
      (uspec.group.services.map (·.name)))
    if differ umani omani then
      let umani ← orReturn (callUpdate fails .manifest umani)
      pure (some umani)
    else pure (some umani)

def getManifest (name : String) : DeployM (Option (Object .manifest)) := do
  match ← callGet fails .manifest name with
  | .ok omani =>
    note .manifest ([], [omani])
    pure (some omani)
  | .error .notFound => pure none
  | .error e => Prog.throw (.api e)

/-- The manifest that the objects are built from. -/
def currentManifest (mns : String) : DeployM (Option (Object .manifest)) := do
  let omani ← getManifest fails (d.ns K)
  if d.updateManifest then applyManifest K fails d mns omani else pure omani

/-- `SetResourceVersion`, unless there is one.  Without a manifest the source panics. -/
def withResourceVersion (currManifest : Option (Object .manifest)) :
    Except BuildErr ClusterDeployment :=
  if d.resourceVersion ≠ "" then .ok d
  else
    match currManifest with
    | none => .error .panics
    | some m => .ok { d with resourceVersion := toString m.resourceVersion }

def buildWorkloads (settings : Settings) (currManifest : Option (Object .manifest)) :
    Except BuildErr (List Workload) :=
  (List.range d.group.services.length).mapM fun idx =>
    match currManifest with
    | none => .error .panics
    | some m => newWorkloadBuilder K settings d m.spec idx

/-- The part of `Deploy` that works on the cluster. -/
def deployObjects (mns : String) (settings : Settings) : DeployM Unit := do
  let currManifest ← currentManifest K fails d mns
  let d ← built (withResourceVersion d currManifest)
  let workloads ← built (buildWorkloads K d settings currManifest)
  apply fails d ⟨.ns, buildNS K d⟩
  let policies ← applyNetPolicies K fails d (netPolCreate K d settings)
  note .netPolicies policies
  cleanupStaleResources K fails d.group
    ((workloads.filter (·.hasPermissions)).map (·.name))
  -- their results are read by nobody
  let _ ← orReturn (callList fails .service [])
  let _ ← orReturn (callList fails .deployment [])
  let _ ← orReturn (callList fails .statefulSet [])
  Prog.forEach (apply fails d) (workloads.flatMap (serviceApplies K))

def validateSettings (settings : Settings) : Except DeployErr Unit :=
  if settings.deploymentIngressStaticHosts then
    if settings.deploymentIngressDomain = "" then .error (.settings "empty ingress domain")
    else if ¬ K.isDomainName settings.deploymentIngressDomain then
      .error (.settings ("invalid domain name \"" ++ settings.deploymentIngressDomain ++ "\""))
    else .ok ()
  else .ok ()

def deploymentNeedsRoCENetworks : Bool :=
  d.sparams.schedulerParams.any fun sp =>
    (sparamsInterconnect sp).any fun ic => ic.enabled && ic.fabric = Workload.interconnectFabricRoCE

/-- `nads` are the names of the network attachments of a namespace. -/
def interconnectRoCENetworks (nads : String → Except ApiErr (List String)) (ns : String) :
    Except DeployErr String :=
  if ns = "" then .ok ""
  else
    match nads ns with
    | .error .notFound | .ok [] => .error (.noRoCERailNetworks ns)
    | .error e => .error (.api e)
    | .ok names => .ok (String.intercalate ","
        ((names.map fun name => ns ++ "/" ++ name).mergeSort (fun a b => decide (a ≤ b))))

/-- What a deployment is given: the namespace of manifests, the settings of the context and the
network attachments. -/
structure DeployContext where
  mns : String
  settings : Option Settings
  nads : String → Except ApiErr (List String)

/-- The checks before anything is read or written. -/
def prepareDeploy (ctx : DeployContext) (deployment : Deployment) :
    Except DeployErr (Settings × ClusterDeployment) := do
  match ctx.settings with
  | none => .error .notConfigured
  | some settings =>
    validateSettings K settings
    let d ← (clusterDeploymentFromDeployment deployment).mapError .build
    if deploymentNeedsRoCENetworks d ∧ settings.interconnectRoCENetworksNamespace ≠ "" then
      let networks ← interconnectRoCENetworks ctx.nads settings.interconnectRoCENetworksNamespace
      .ok ({ settings with interconnectRoCENetworks := networks }, d)
    else .ok (settings, d)

def deployForward (ctx : DeployContext) (deployment : Deployment) (cl : ClusterState) :
    Except DeployErr Unit × Deploying :=
  match prepareDeploy K ctx deployment with
  | .error e => (.error e, .start cl)
  | .ok (settings, d) => deployObjects K fails d ctx.mns settings (.start cl)

/-- `Deploy`: its result, and what it leaves behind.  A run that ends early is undone. -/
def deploy (ctx : DeployContext) (deployment : Deployment) (cl : ClusterState) :
    Except DeployErr Unit × Deploying :=
  match deployForward K fails ctx deployment cl with
  | (.ok _, s) => (.ok (), s)
  | (.error e, s) => (.error e, { s with cluster := s.po.recover s.cluster })

/-! ## A small lease

Settings and services to evaluate the model with. -/

def plainSettings : Settings where
  deploymentIngressStaticHosts := false
  deploymentIngressDomain := ""
  clusterPublicHostname := ""
  networkPoliciesEnabled := true
  apiServerEndpoints := []
  cpuCommitLevel := 1
  gpuCommitLevel := 1
  memoryCommitLevel := 1
  storageCommitLevel := 1
  dockerImagePullSecretsName := ""
  ingressMode := .ingress
  gatewayNamespace := ""
  interconnectRoCENetworksNamespace := ""
  interconnectRoCENetworks := ""

def plainContext : DeployContext := ⟨"lease", some plainSettings, fun _ => .ok []⟩

def plainExpose (port : UInt32) (global : Bool) : Mani.ServiceExpose where
  port := port
  externalPort := 0
  proto := .tcp
  service := ""
  global := global
  hosts := []
  httpOptions := ⟨0, 0, 0, 0, 0, [], none⟩
  ip := ""
  endpointSequenceNumber := 0

def plainDeployment (services : List Mani.Service) : Deployment where
  leaseID := ⟨"owner", 5, 1, 1, "provider"⟩
  manifestGroup := ⟨"group", services⟩
  clusterParams := .reservation [(1, none)]
  resourceVersion := ""

end AkashProvider.Kube
