import AkashProvider.Kube.Run
import AkashProvider.Kube.Stale

/-!
# Openings of a lease over its history

Network policies and services are never removed: a lease has the policies of all its deployments
(`Deploys.policies`), and a service keeps its type (`Deploys.opens`).  So what the last manifest
asks for is what there is exactly if no earlier deployment has opened anything else.
-/

namespace AkashProvider.Kube

variable {K : KubeSdk} {fails : Nat → Bool} {d d' : ClusterDeployment} {settings : Settings}
  {workloads : List Workload} {s s' : Deploying} {cl cl' : ClusterState}

/-! ## What a manifest opens -/

abbrev DeployArgs := DeployContext × Deployment

def desiredPolicies (K : KubeSdk) (args : DeployArgs) : List (Object .networkPolicy) :=
  match prepareDeploy K args.1 args.2 with
  | .ok (settings, d) => netPolCreate K d settings
  | .error _ => []

/-- The services that are made for a service of the manifest, with their types. -/
def serviceObjects (K : KubeSdk) (service : Mani.Service) : List (String × ServiceType) :=
  (if service.expose.any (Workload.belongs K false) then [(service.name, .clusterIP)] else []) ++
  if service.expose.any (Workload.belongs K true) then
    [(makeGlobalServiceNameFromBasename service.name, .nodePort)] else []

def desiredServices (K : KubeSdk) (args : DeployArgs) : List (String × ServiceType) :=
  args.2.manifestGroup.services.flatMap (serviceObjects K)

def typeOf (C : Collection (Kind.Spec .service)) (name : String) : Option ServiceType :=
  (C.find name).map fun o => ServiceSpec.type o.spec

/-- No service has the label that the clean-up asks for. -/
def Unmarked (C : Collection (Kind.Spec .service)) : Prop :=
  ∀ name o, C.find name = some o → o.labels.lookup akashServiceTarget ≠ some "true"

/-! ## One service -/

/-- What happens to the services: those of a list are made unless they are there. -/
structure Opens (objects : List (String × ServiceType)) (C C' : Collection (Kind.Spec .service)) :
    Prop where
  types : ∀ name, typeOf C' name = (typeOf C name).or (objects.lookup name)
  unmarked : Unmarked C → Unmarked C'

namespace Opens

variable {C C' C'' : Collection (Kind.Spec .service)}
  {objects objects' : List (String × ServiceType)}

theorem of_find (h : ∀ name, C'.find name = C.find name) : Opens [] C C' where
  types name := by rw [List.lookup_nil, Option.or_none, typeOf, typeOf, h]
  unmarked hunmarked name o ho := hunmarked name o (h name ▸ ho)

theorem trans (h : Opens objects C C') (h' : Opens objects' C' C'') :
    Opens (objects ++ objects') C C'' where
  types name := by rw [h'.types, h.types, List.lookup_append, Option.or_assoc]
  unmarked hunmarked := h'.unmarked (h.unmarked hunmarked)

end Opens

def serviceType (requireNodePort : Bool) : ServiceType :=
  if requireNodePort then .nodePort else .clusterIP

variable {requireNodePort : Bool} {w : Workload}

theorem buildService_create {obj : Object .service}
    (h : (buildService K w requireNodePort).create = .ok obj) :
    ServiceSpec.type obj.spec = serviceType requireNodePort ∧ obj.labels = w.labels K := by
  obtain ⟨ports, -, h⟩ := Except.bind_eq_ok_iff.mp h
  cases h
  exact ⟨rfl, rfl⟩

theorem buildService_update {oobj uobj : Object .service}
    (h : (buildService K w requireNodePort).update oobj = .ok uobj) :
    ServiceSpec.type uobj.spec = ServiceSpec.type oobj.spec ∧
      uobj.labels = updateAkashLabels oobj.labels (w.labels K) := by
  obtain ⟨ports, -, h⟩ := Except.bind_eq_ok_iff.mp h
  cases h
  exact ⟨rfl, rfl⟩

/-- The object of a service after its apply: it has the type it was first made with. -/
structure Opened (C : Collection (Kind.Spec .service)) (name : String) (type : ServiceType)
    (C' : Collection (Kind.Spec .service)) (o : Object .service) : Prop where
  find : C'.find name = some o
  type_eq : some (ServiceSpec.type o.spec) = (typeOf C name).or (some type)
  unmarked : Unmarked C → o.labels.lookup akashServiceTarget ≠ some "true"

theorem Opens.of_opened {C C' : Collection (Kind.Spec .service)} {name : String}
    {type : ServiceType} {o : Object .service}
    (hothers : ∀ other, other ≠ name → C'.find other = C.find other)
    (h : Opened C name type C' o) : Opens [(name, type)] C C' where
  types other := by
    by_cases hother : other = name
    · rw [hother, List.lookup_cons_self, ← h.type_eq, typeOf, h.find, Option.map_some]
    · have hlookup : [(name, type)].lookup other = none := by
        simpa [List.lookup_eq_none_iff] using hother
      rw [hlookup, Option.or_none, typeOf, typeOf, hothers other hother]
  unmarked hunmarked other o' ho' := by
    by_cases hother : other = name
    · rw [hother, h.find] at ho'
      exact Option.some.inj ho' ▸ h.unmarked hunmarked
    · exact hunmarked other o' (hothers other hother ▸ ho')

theorem builder_labels_target (w : Workload) (current : Labels) :
    (updateAkashLabels current (w.labels K)).lookup akashServiceTarget ≠ some "true" := by
  rw [updateAkashLabels_lookup (by decide), workload_labels_target]
  exact nofun

theorem applyService_opens : (applyService fails d (buildService K w requireNodePort)).Meets s
    fun _ s' => Opens [(w.serviceObjectName requireNodePort, serviceType requireNodePort)]
      (s.cluster .service) (s'.cluster .service) := by
  have hb : (buildService K w requireNodePort).Named := buildService_named w requireNodePort
  suffices h : (applyService fails d (buildService K w requireNodePort)).Meets s fun _ s' =>
      ∃ o, Opened (s.cluster .service) (w.serviceObjectName requireNodePort)
        (serviceType requireNodePort) (s'.cluster .service) o by
    intro r s' hrun
    obtain ⟨o, hopened⟩ := h r s' hrun
    have hframed := applyObject_frames (W := fun k name => k = .service ∧
      name = w.serviceObjectName requireNodePort) hb ⟨rfl, rfl⟩ s r s' hrun
    exact .of_opened (fun other hother => hframed.find .service other fun h => hother h.2) hopened
  refine callGet_meets.bind fun r s₁ hgot => ?_
  cases hgot with
  | @failed e he =>
    cases e with
    | notFound => exact absurd rfl he
    | _ => exact .throw
  | missing hfind =>
    refine .seq (built_meets fun obj hbuild => ?_)
    refine .seq (orReturn_meets (call_meets nofun fun nobj C hwrite _ _ => ?_))
    rw [Deploying.written_cluster_self] at hwrite
    obtain ⟨-, -, rfl⟩ := Collection.create_eq_ok hwrite
    obtain ⟨htype, hlabels⟩ := buildService_create hbuild
    refine .pure ⟨(s.cluster .service).stored obj, ?_, ?_, fun _ => ?_⟩
    · rw [Deploying.written_cluster_self, ← Collection.find_put_self, hb.create obj hbuild]
      rfl
    · rw [typeOf, show (s.cluster .service).find (w.serviceObjectName requireNodePort) = _ from
        hfind]
      exact congrArg some htype
    · rw [Collection.stored, hlabels, workload_labels_target]
      exact nofun
  | @found oobj hfind =>
    have htypeOf : typeOf (s.cluster .service) (w.serviceObjectName requireNodePort) =
        some (ServiceSpec.type oobj.spec) := congrArg (Option.map _) hfind
    refine .seq (built_meets fun uobj hbuild => ?_)
    refine .seq (.when (fun _ => ?_) fun _ => .pure ⟨oobj, ?_, ?_, fun h => h _ oobj hfind⟩)
    · refine .seq (orReturn_meets (call_meets nofun fun o C hwrite _ _ => ?_))
      obtain ⟨hfind', hspec, -, -⟩ := Collection.find_update hwrite
      obtain ⟨htype, hlabels⟩ := buildService_update hbuild
      refine .pure (.pure ⟨o, ?_, ?_, fun _ => ?_⟩)
      · rw [Deploying.written_cluster_self, ← hfind',
          hb.update oobj uobj (Collection.find_mem hfind).2 hbuild]
        rfl
      · rw [htypeOf, Option.some_or, hspec, htype]
      · rw [Collection.labels_update hwrite, hlabels]
        exact builder_labels_target w oobj.labels
    · rw [Deploying.written_cluster_self]
      exact hfind
    · rw [htypeOf, Option.some_or]

/-! ## One deployment -/

def applyObjects (a : Apply) : List (String × ServiceType) :=
  match a.slot with
  | .localServices => [(a.builder.name, .clusterIP)]
  | .globalServices => [(a.builder.name, .nodePort)]
  | _ => []

theorem apply_opens {a : Apply} (ha : ServiceApply K w a) :
    (apply fails d a).Meets s fun _ s' =>
      Opens (applyObjects a) (s.cluster .service) (s'.cluster .service) := by
  -- the objects of other kinds do not matter
  have hothers (hkind : Kind.service ≠ a.slot.kind) : (apply fails d a).Meets s fun _ s' =>
      Opens [] (s.cluster .service) (s'.cluster .service) :=
    (apply_frames (W := fun k _ => k = a.slot.kind) ha.named rfl s).mono fun _ s' hframed =>
      .of_find fun name => hframed.find .service name hkind
  cases ha with
  | serviceAccount | role | roleBinding | serviceCreds | statefulSet | deployment =>
    exact hothers Kind.noConfusion
  | localService | globalService => exact applyService_opens.bind fun _ _ h => .modify h

theorem applies_opens : ∀ (l : List Apply) (s : Deploying), (∀ a ∈ l, ∃ w, ServiceApply K w a) →
    (Prog.forEach (apply fails d) l).Meets s fun _ s' =>
      Opens (l.flatMap applyObjects) (s.cluster .service) (s'.cluster .service)
  | [], _, _ => .pure (.of_find fun _ => rfl)
  | a :: l, s, hl => by
    obtain ⟨w, ha⟩ := hl a List.mem_cons_self
    exact (apply_opens ha).bind fun _ s₁ hopens =>
      (applies_opens l s₁ fun a ha => hl a (List.mem_cons_of_mem _ ha)).mono
        fun _ _ hrest => hopens.trans hrest

theorem serviceApplies_objects (w : Workload) :
    (serviceApplies K w).flatMap applyObjects = serviceObjects K w.service := by
  unfold serviceApplies serviceObjects Workload.serviceAny
  cases w.service.credentials <;> split_ifs <;> rfl

theorem workloads_objects {currManifest : Option (Object .manifest)}
    (h : buildWorkloads K d settings currManifest = .ok workloads) :
    (workloads.flatMap (serviceApplies K)).flatMap applyObjects =
      d.group.services.flatMap (serviceObjects K) := by
  rw [← buildWorkloads_services h, List.flatMap_assoc, List.flatMap_map]
  grind [serviceApplies_objects]

theorem netPolCreate_version (version : String) :
    (netPolCreate K { d with resourceVersion := version } settings).map
        (fun p => (p.name, p.spec)) =
      (netPolCreate K d settings).map fun p => (p.name, p.spec) := by
  unfold netPolCreate
  split
  · rfl
  · rw [List.map_cons, List.map_cons, List.map_flatMap, List.map_flatMap]
    refine congrArg₂ _ rfl
      (congrArg (fun f => d.group.services.flatMap f) (funext fun service => ?_))
    simp only [netPolService]
    split_ifs <;> rfl

/-- What a deployment has done to policies and services when it ends without an error. -/
structure Deployed (K : KubeSdk) (d : ClusterDeployment) (settings : Settings) (s s' : Deploying) :
    Prop where
  policies : NoFailure s'.calls → (s'.cluster .networkPolicy).specOf =
    Collection.overwritten (s.cluster .networkPolicy).specOf (netPolCreate K d settings)
  opens : Unmarked (s.cluster .service) →
    Opens (d.group.services.flatMap (serviceObjects K)) (s.cluster .service) (s'.cluster .service)

theorem deployObjects_meets {mns : String} :
    (deployObjects K fails d mns settings).Meets s fun _ => Deployed K d settings s := by
  refine (currentManifest_frames (W := fun k _ => k = .manifest) (fun _ => rfl) s).bind
    fun currManifest s₁ hmanifest => ?_
  refine .seq (built_meets fun d' hversion => ?_)
  obtain ⟨version, rfl⟩ := withResourceVersion_eq_ok hversion
  refine .seq (built_meets fun workloads hworkloads => ?_)
  refine (apply_frames (W := fun k _ => k = .namespace) buildNS_named rfl s₁).bind
    fun _ s₂ hns => ?_
  refine applyNetPolicies_meets.bind fun policies s₃ ⟨hpolicies, hspecs⟩ => ?_
  refine .seq (.modify ?_)
  refine ((cleanupStaleResources_frames (W := fun k _ => k ≠ .networkPolicy)
    (fun _ hk _ => hk) _).and cleanupStaleResources_meets).bind fun _ s₄ ⟨hclean, hstale⟩ => ?_
  -- lists change nothing
  refine (callList_frames (W := fun _ _ => False) |>.orReturn s₄).bind fun _ s₅ h₅ => ?_
  refine (callList_frames (W := fun _ _ => False) |>.orReturn s₅).bind fun _ s₆ h₆ => ?_
  refine (callList_frames (W := fun _ _ => False) |>.orReturn s₆).bind fun _ s₇ h₇ => ?_
  have hlists := (h₅.trans h₆).trans h₇
  have hservices : ∀ a ∈ workloads.flatMap (serviceApplies K), ∃ w, ServiceApply K w a := by
    intro a ha
    obtain ⟨w, -, ha⟩ := List.mem_flatMap.mp ha
    exact ⟨w, serviceApply_of_mem ha⟩
  have happlies : Frames (fun k _ => k ≠ .networkPolicy) (Prog.forEach
      (apply fails { d with resourceVersion := version }) (workloads.flatMap (serviceApplies K))) :=
    .forEach _ fun a ha =>
      let ⟨w, ha⟩ := hservices a ha
      apply_service_frames ha fun _ hk _ => hk
  refine ((happlies s₇).and (applies_opens _ s₇ hservices)).mono fun _ s' ⟨hframed, hopens⟩ =>
    ⟨fun hcalls => ?_, fun hunmarked => ?_⟩
  · have hafter : (s'.cluster .networkPolicy).specOf = (s₃.cluster .networkPolicy).specOf := by
      funext name
      rw [Collection.specOf, hframed.find _ _ (not_not.mpr rfl), hlists.find _ _ id,
        hclean.find _ _ (not_not.mpr rfl), Collection.specOf]
    have hbefore : (s₂.cluster .networkPolicy).specOf = (s.cluster .networkPolicy).specOf := by
      funext name
      rw [Collection.specOf, hns.find .networkPolicy name (by simp),
        hmanifest.find .networkPolicy name (by simp), Collection.specOf]
    have hcalls₃ : NoFailure s₃.calls :=
      fun c hc => hcalls c (hframed.calls.subset (hlists.calls.subset (hclean.calls.subset hc)))
    rw [hafter, hspecs hcalls₃, hbefore,
      Collection.overwritten_congr (netPolCreate_version version)]
  · have hkept : ∀ name, (s₃.cluster .service).find name = (s.cluster .service).find name := by
      intro name
      rw [hpolicies.find .service name (by simp), hns.find .service name (by simp),
        hmanifest.find .service name (by simp)]
    have hcleaned : ∀ name, (s₇.cluster .service).find name = (s.cluster .service).find name := by
      intro name
      rw [hlists.find _ _ id, hstale .service (by decide), filter_stale_eq fun o ho => ?_]
      · exact hkept name
      · exact hunmarked o.name o (by rw [← hkept]; exact Collection.find_of_mem ho)
    have htotal := (Opens.of_find hcleaned).trans hopens
    rwa [workloads_objects hworkloads] at htotal

theorem deploy_eq_ok {ctx : DeployContext} {deployment : Deployment} {cl : ClusterState}
    (h : (deploy K fails ctx deployment cl).1 = .ok ()) :
    ∃ settings d, prepareDeploy K ctx deployment = .ok (settings, d) ∧
      Deployed K d settings (.start cl) (deploy K fails ctx deployment cl).2 := by
  unfold deploy deployForward at h ⊢
  cases hprepare : prepareDeploy K ctx deployment with
  | error e =>
    rw [hprepare] at h
    cases h
  | ok p =>
    obtain ⟨settings, d⟩ := p
    rw [hprepare] at h
    dsimp only at h ⊢
    cases hrun : deployObjects K fails d ctx.mns settings (.start cl) with
    | mk r s =>
      rw [hrun] at h
      cases r with
      | error e => cases h
      | ok _ => exact ⟨settings, d, rfl, deployObjects_meets _ _ hrun⟩

/-! ## Histories -/

/-- Deployments of a lease one after the other, each without an error and without a failure. -/
inductive Deploys (K : KubeSdk) : List DeployArgs → ClusterState → ClusterState → Prop where
  | nil {cl : ClusterState} : Deploys K [] cl cl
  | cons {args : DeployArgs} {history : List DeployArgs} {cl cl' : ClusterState}
      {fails : Nat → Bool} (hok : (deploy K fails args.1 args.2 cl).1 = .ok ())
      (hcalls : NoFailure (deploy K fails args.1 args.2 cl).2.calls)
      (hrest : Deploys K history (deploy K fails args.1 args.2 cl).2.cluster cl') :
      Deploys K (args :: history) cl cl'

variable {history : List DeployArgs}

theorem Deploys.policies (h : Deploys K history cl cl') :
    (cl' .networkPolicy).specOf =
      Collection.overwritten (cl .networkPolicy).specOf (history.flatMap (desiredPolicies K)) := by
  induction h with
  | nil => rfl
  | cons hok hcalls _ ih =>
    obtain ⟨settings, d, hprepare, hdeployed⟩ := deploy_eq_ok hok
    rw [ih, hdeployed.policies hcalls, List.flatMap_cons, Collection.overwritten_append,
      desiredPolicies, hprepare]
    rfl

theorem Deploys.opens (h : Deploys K history cl cl') (hunmarked : Unmarked (cl .service)) :
    Opens (history.flatMap (desiredServices K)) (cl .service) (cl' .service) := by
  induction h with
  | nil => exact .of_find fun _ => rfl
  | cons hok _ _ ih =>
    obtain ⟨settings, d, hprepare, hdeployed⟩ := deploy_eq_ok hok
    have hopens := hdeployed.opens hunmarked
    rw [(prepareDeploy_eq_ok hprepare).2] at hopens
    exact hopens.trans (ih (hopens.unmarked hunmarked))

/-! ## What is open in the end -/

def Unopened (cl : ClusterState) : Prop :=
  ∀ name, (cl .networkPolicy).find name = none ∧ (cl .service).find name = none

def OpensPort (K : KubeSdk) (service : Mani.Service) : Prop :=
  ∃ expose ∈ service.expose, opensPort K expose = true

/-- Policies of one name are the same. -/
def ConsistentPolicies (policies : List (Object .networkPolicy)) : Prop :=
  ∀ p ∈ policies, ∀ q ∈ policies, p.name = q.name → p.spec = q.spec

theorem ConsistentPolicies.specOf {policies : List (Object .networkPolicy)}
    (h : ConsistentPolicies policies) {pol : Object .networkPolicy} (hpol : pol ∈ policies)
    (specs : String → Option (Kind.Spec .networkPolicy)) :
    Collection.overwritten specs policies pol.name = some pol.spec := by
  obtain ⟨o, ho, hname, hspec⟩ := Collection.overwritten_of_mem specs (List.mem_map_of_mem hpol)
  rw [hspec, h o ho pol hpol hname]

/-- The policies and the node ports of a lease are those of one deployment. -/
@[grind cases]
structure Mirrors (K : KubeSdk) (args : DeployArgs) (cl : ClusterState) : Prop where
  policies : ∀ name spec, (cl .networkPolicy).specOf name = some spec ↔
    ∃ pol ∈ desiredPolicies K args, pol.name = name ∧ pol.spec = spec
  nodePorts : ∀ name, typeOf (cl .service) name = some .nodePort ↔
    ∃ service ∈ args.2.manifestGroup.services, OpensPort K service ∧
      makeGlobalServiceNameFromBasename service.name = name

/-- No deployment before the last has opened what the last does not open, and no two policies or
services of the last get in each other's way. -/
@[grind cases]
structure NothingDropped (K : KubeSdk) (earlier : List DeployArgs) (last : DeployArgs) : Prop where
  policies : ∀ args ∈ earlier, ∀ pol ∈ desiredPolicies K args,
    pol.name ∈ (desiredPolicies K last).map (·.name)
  consistent : ConsistentPolicies (desiredPolicies K last)
  /-- A service has the type it was first made with. -/
  nodePorts : ∀ name,
    ((earlier ++ [last]).flatMap (desiredServices K)).lookup name = some .nodePort ↔
      ∃ service ∈ last.2.manifestGroup.services, OpensPort K service ∧
        makeGlobalServiceNameFromBasename service.name = name

theorem overwritten_iff {specs : String → Option (Kind.Spec .networkPolicy)}
    (earlier last : List (Object .networkPolicy)) (hspecs : ∀ name, specs name = none) :
    (∀ name spec, Collection.overwritten specs (earlier ++ last) name = some spec ↔
      ∃ pol ∈ last, pol.name = name ∧ pol.spec = spec) ↔
    (∀ pol ∈ earlier, pol.name ∈ last.map (·.name)) ∧ ConsistentPolicies last := by
  simp only [Collection.overwritten_append]
  refine ⟨fun h => ⟨fun pol hpol => ?_, fun p hp q hq hname => ?_⟩,
    fun ⟨hearlier, hconsistent⟩ name spec => ⟨fun hspec => ?_, ?_⟩⟩
  · by_contra hlast
    obtain ⟨o, -, -, hspec⟩ := Collection.overwritten_of_mem specs
      (List.mem_map_of_mem (f := fun o : Object .networkPolicy => o.name) hpol)
    rw [← Collection.overwritten_of_notMem (Collection.overwritten specs earlier) hlast, h] at hspec
    grind
  · have hp' := (h p.name p.spec).mpr ⟨p, hp, rfl, rfl⟩
    have hq' := (h p.name q.spec).mpr ⟨q, hq, hname.symm, rfl⟩
    exact Option.some.inj (hp'.symm.trans hq')
  · by_cases hlast : name ∈ last.map (·.name)
    · obtain ⟨o, ho, hname, hspec'⟩ := Collection.overwritten_of_mem
        (Collection.overwritten specs earlier) hlast
      grind
    · rw [Collection.overwritten_of_notMem _ hlast] at hspec
      by_cases hname : name ∈ earlier.map (·.name)
      · grind
      · rw [Collection.overwritten_of_notMem _ hname, hspecs] at hspec
        cases hspec
  · rintro ⟨pol, hpol, rfl, rfl⟩
    exact hconsistent.specOf hpol _

/-- After any history of deployments, the policies and node ports are those of the last exactly if
nothing that was open before has been dropped. -/
theorem openings_mirrored_iff {earlier : List DeployArgs} {last : DeployArgs}
    {cl cl' : ClusterState}
    (hcl : Unopened cl) (h : Deploys K (earlier ++ [last]) cl cl') :
    Mirrors K last cl' ↔ NothingDropped K earlier last := by
  have hpolicies := h.policies
  rw [List.flatMap_append, List.flatMap_singleton] at hpolicies
  have htypes := (h.opens fun name o ho => by rw [(hcl name).2] at ho; cases ho).types
  have hnone : ∀ name, (cl .networkPolicy).specOf name = none := fun name => by
    rw [Collection.specOf, (hcl name).1, Option.map_none]
  have htypes' : ∀ name, typeOf (cl' .service) name =
      ((earlier ++ [last]).flatMap (desiredServices K)).lookup name := fun name => by
    rw [htypes, typeOf, (hcl name).2, Option.map_none, Option.none_or]
  have hiff := overwritten_iff (earlier.flatMap (desiredPolicies K)) (desiredPolicies K last) hnone
  rw [← hpolicies] at hiff
  constructor
  · rintro ⟨hpol, hports⟩
    obtain ⟨hearlier, hconsistent⟩ := hiff.mp hpol
    refine ⟨fun args hargs pol hpol => hearlier pol (List.mem_flatMap.mpr ⟨args, hargs, hpol⟩),
      hconsistent, fun name => ?_⟩
    rw [← htypes', hports]
  · rintro ⟨hearlier, hconsistent, hports⟩
    refine ⟨hiff.mpr ⟨fun pol hpol => ?_, hconsistent⟩, fun name => ?_⟩
    · grind
    · rw [htypes', hports]

/-- A deployment of one service with the given exposes. -/
def webArgs (expose : List Mani.ServiceExpose) : DeployArgs :=
  (plainContext, plainDeployment [plainService "web" "image" expose])

def deployed (args : DeployArgs) (cl : ClusterState) : ClusterState :=
  (deploy KubeSdk.reference (fun _ => false) args.1 args.2 cl).2.cluster

theorem deploys_cons {args : DeployArgs} {cl cl' : ClusterState}
    (hok : (deploy KubeSdk.reference (fun _ => false) args.1 args.2 cl).1 = .ok ())
    (hcalls : NoFailure (deploy KubeSdk.reference (fun _ => false) args.1 args.2 cl).2.calls)
    (hrest : Deploys KubeSdk.reference history (deployed args cl) cl') :
    Deploys KubeSdk.reference (args :: history) cl cl' :=
  .cons hok hcalls hrest

theorem unopened_empty : Unopened .empty := fun _ => ⟨rfl, rfl⟩

/-- The first deployment of a lease. -/
theorem openings_mirrored_first : Mirrors KubeSdk.reference (webArgs [plainExpose 8080 true])
    (deployed (webArgs [plainExpose 8080 true]) .empty) := by
  have hdeploys : Deploys KubeSdk.reference ([] ++ [webArgs [plainExpose 8080 true]]) .empty
      (deployed (webArgs [plainExpose 8080 true]) .empty) :=
    deploys_cons (by decide +kernel) (by decide +kernel) .nil
  refine (openings_mirrored_iff unopened_empty hdeploys).mpr
    ⟨fun _ h => absurd h List.not_mem_nil, ?_, fun name => ?_⟩
  · unfold ConsistentPolicies
    decide +kernel
  · have hservices : ([] ++ [webArgs [plainExpose 8080 true]]).flatMap
        (desiredServices KubeSdk.reference) = [("web-np", .nodePort)] := by decide +kernel
    have hopens : OpensPort KubeSdk.reference
        (plainService "web" "image" [plainExpose 8080 true]) :=
      ⟨plainExpose 8080 true, List.mem_singleton_self _, by decide⟩
    rw [hservices]
    constructor
    · intro hlookup
      refine ⟨_, List.mem_singleton_self _, hopens, ?_⟩
      by_contra hname
      have hnone : [("web-np", ServiceType.nodePort)].lookup name = none := by
        rw [List.lookup_eq_none_iff]
        intro e he
        obtain rfl := List.mem_singleton.mp he
        exact bne_iff_ne.mpr fun heq => hname heq.symm
      rw [hnone] at hlookup
      cases hlookup
    · rintro ⟨service, hservice, -, rfl⟩
      obtain rfl := List.mem_singleton.mp hservice
      decide +kernel

/-- A port that the second deployment does not ask for is still open. -/
theorem openings_stay_open :
    Deploys KubeSdk.reference [webArgs [plainExpose 8080 true], webArgs []] .empty
        (deployed (webArgs []) (deployed (webArgs [plainExpose 8080 true]) .empty)) ∧
      Unopened .empty ∧
      ¬ Mirrors KubeSdk.reference (webArgs [])
        (deployed (webArgs []) (deployed (webArgs [plainExpose 8080 true]) .empty)) := by
  have hsecond : Deploys KubeSdk.reference [webArgs []]
      (deployed (webArgs [plainExpose 8080 true]) .empty)
      (deployed (webArgs []) (deployed (webArgs [plainExpose 8080 true]) .empty)) :=
    deploys_cons (by decide +kernel) (by decide +kernel) .nil
  refine ⟨deploys_cons (by decide +kernel) (by decide +kernel) hsecond, unopened_empty, fun h => ?_⟩
  have hopen := (h.nodePorts "web-np").mp (by decide +kernel)
  obtain ⟨service, hservice, ⟨expose, hexpose, -⟩, -⟩ := hopen
  obtain rfl := List.mem_singleton.mp hservice
  exact absurd hexpose List.not_mem_nil

end AkashProvider.Kube
