import AkashProvider.Kube.Apply
import AkashProvider.Lib.Forall2

/-!
# The objects of the services

Every object that is applied for a service (`ServiceApply`) has a builder that keeps to one name,
so it leaves the network policies and the objects of other services alone.
-/

namespace AkashProvider.Kube

variable {K : KubeSdk} {fails : Nat → Bool} {d : ClusterDeployment} {settings : Settings}
  {workloads : List Workload}

/-! ## Builders -/

theorem newDeployment_named (w : Workload) : (newDeployment K w).Named where
  create obj h := by
    obtain ⟨template, -, h⟩ := Except.bind_eq_ok_iff.mp h
    cases h
    rfl
  update oobj uobj hname h := by
    obtain ⟨template, -, h⟩ := Except.bind_eq_ok_iff.mp h
    cases h
    exact hname

theorem buildStatefulSet_named (w : Workload) : (buildStatefulSet K w).Named where
  create obj h := by
    obtain ⟨template, -, h⟩ := Except.bind_eq_ok_iff.mp h
    cases h
    rfl
  update oobj uobj hname h := by
    obtain ⟨template, -, h⟩ := Except.bind_eq_ok_iff.mp h
    cases h
    exact hname

theorem buildService_named (w : Workload) (requireNodePort : Bool) :
    (buildService K w requireNodePort).Named where
  create obj h := by
    obtain ⟨ports, -, h⟩ := Except.bind_eq_ok_iff.mp h
    cases h
    rfl
  update oobj uobj hname h := by
    obtain ⟨ports, -, h⟩ := Except.bind_eq_ok_iff.mp h
    cases h
    exact hname

variable {a : Apply} {w : Workload}

/-- One of the objects of a service. -/
inductive ServiceApply (K : KubeSdk) (w : Workload) : Apply → Prop where
  | serviceAccount (h : w.hasPermissions = true) :
      ServiceApply K w ⟨.serviceAccounts, buildServiceAccount K w⟩
  | role (h : w.hasPermissions = true) : ServiceApply K w ⟨.roles, buildRole K w⟩
  | roleBinding (h : w.hasPermissions = true) :
      ServiceApply K w ⟨.roleBindings, buildRoleBinding K w⟩
  | serviceCreds {c : Mani.ImageCredentials} (h : w.service.credentials = some c) :
      ServiceApply K w ⟨.serviceCreds, newServiceCredentials K w c⟩
  | statefulSet (h : w.persistent K = true) : ServiceApply K w ⟨.statefulSets, buildStatefulSet K w⟩
  | deployment (h : w.persistent K = false) : ServiceApply K w ⟨.deployments, newDeployment K w⟩
  | localService (h : w.serviceAny K false = true) :
      ServiceApply K w ⟨.localServices, buildService K w false⟩
  | globalService (h : w.serviceAny K true = true) :
      ServiceApply K w ⟨.globalServices, buildService K w true⟩

theorem serviceApply_of_mem (h : a ∈ serviceApplies K w) :
    ServiceApply K w a := by
  simp only [serviceApplies, List.mem_append, List.mem_ite_nil_right] at h
  obtain (((⟨hperm, h⟩ | h) | h) | ⟨hany, h⟩) | ⟨hany, h⟩ := h
  · obtain rfl | rfl | rfl := by simpa only [List.mem_cons, List.not_mem_nil, or_false] using h
    exacts [.serviceAccount hperm, .role hperm, .roleBinding hperm]
  · cases hcreds : w.service.credentials <;> rw [hcreds] at h
    · cases h
    · obtain rfl := List.mem_singleton.mp h
      exact .serviceCreds hcreds
  · split at h <;> obtain rfl := List.mem_singleton.mp h
    exacts [.statefulSet ‹_›, .deployment (Bool.not_eq_true _ ▸ ‹¬_›)]
  all_goals obtain rfl := List.mem_singleton.mp h
  exacts [.localService hany, .globalService hany]

theorem ServiceApply.named (h : ServiceApply K w a) :
    a.builder.Named := by
  cases h with
  | deployment => exact newDeployment_named w
  | statefulSet => exact buildStatefulSet_named w
  | localService => exact buildService_named w false
  | globalService => exact buildService_named w true
  | serviceCreds =>
    exact ⟨fun obj h => by cases h; rfl, fun oobj uobj hname h => by cases h; exact hname⟩
  | serviceAccount | role | roleBinding =>
    exact ⟨fun obj h => by cases h; rfl, fun oobj uobj hname h => by cases h; rfl⟩

theorem buildNS_named : (buildNS K d).Named :=
  ⟨fun obj h => by cases h; rfl, fun oobj uobj hname h => by cases h; rfl⟩

theorem apply_service_frames {W : Kind → String → Prop} (ha : ServiceApply K w a)
    (hW : ∀ k, k ≠ .networkPolicy → ∀ name, W k name) : Frames W (apply fails d a) :=
  apply_frames ha.named (hW _ (by cases ha <;> exact Kind.noConfusion) _)

/-! ## Workloads -/

theorem newWorkloadBuilder_eq_ok {mani : Crd.ManifestSpec} {idx : Nat}
    (h : newWorkloadBuilder K settings d mani idx = .ok w) :
    w.deployment = d ∧ d.group.services[idx]? = some w.service := by
  obtain ⟨⟨group, sparams⟩, -, h⟩ := Except.bind_eq_ok_iff.mp h
  grind

variable {currManifest : Option (Object .manifest)}

theorem buildWorkloads_forall₂ (h : buildWorkloads K d settings currManifest = .ok workloads) :
    List.Forall₂ (fun idx w => w.deployment = d ∧ d.group.services[idx]? = some w.service)
      (List.range d.group.services.length) workloads := by
  refine (Except.mapM_eq_ok_iff.mp h).imp fun idx w hw => ?_
  cases currManifest with
  | none => cases hw
  | some m => exact newWorkloadBuilder_eq_ok hw

theorem buildWorkloads_services (h : buildWorkloads K d settings currManifest = .ok workloads) :
    workloads.map (·.service) = d.group.services := by
  have hforall := buildWorkloads_forall₂ h
  have hlength : d.group.services.length = workloads.length := by simpa using hforall.length_eq
  refine List.ext_getElem (by simp [hlength]) fun i hi hi' => ?_
  have hi : i < workloads.length := by simpa using hi
  have hget := (hforall.get (i := i) (by simpa using hi') hi).2
  simpa [List.getElem?_eq_getElem hi'] using hget.symm

end AkashProvider.Kube
