import AkashProvider.Kube.Apply
import AkashProvider.Kube.MetalLB

/-!
# Stale objects

The selector of `cleanupStaleResources` asks for the label `service-target` with the value `true`,
which no builder sets and to which the MetalLB client gives another value.  So nothing is removed.
-/

namespace AkashProvider.Kube

variable {K : KubeSdk} {fails : Nat → Bool} {group : Mani.Group}
  {servicesWithPermissions svcnames : List String} {s s' : Deploying}

/-! ## Who has made an object -/

/-- The labels that a builder gives to a new object, or to one that is there. -/
def ByBuilder (K : KubeSdk) (labels : Labels) : Prop :=
  ∃ w : Workload, labels.Same (w.labels K) ∨
    ∃ current, labels.Same (updateAkashLabels current (w.labels K))

def ByMetalLB (labels : Labels) : Prop := ∃ lid, labels.Same (ipPassthroughLabels lid)

/-- The objects of a lease as builders and the MetalLB client make them. -/
@[grind cases]
structure Contents (K : KubeSdk) (cl : ClusterState) : Prop where
  workloads : ∀ k, k = .deployment ∨ k = .statefulSet → ∀ o ∈ (cl k).objs, ByBuilder K o.labels
  services : ∀ o ∈ (cl .service).objs, ByBuilder K o.labels ∨ ByMetalLB o.labels

/-- The label names a service of the group. -/
def InGroup (group : Mani.Group) (labels : Labels) : Prop :=
  ∃ svc ∈ group.services, labels.lookup akashManifestServiceLabelName = some svc.name

instance (labels : Labels) : Decidable (InGroup group labels) :=
  inferInstanceAs (Decidable (∃ svc ∈ group.services, _))

/-- A service at a leased IP. -/
def IsMetalLB (labels : Labels) : Prop := labels.lookup akashServiceTarget = some akashMetalLB

instance (labels : Labels) : Decidable (IsMetalLB labels) :=
  by unfold IsMetalLB; infer_instance

/-! ## Labels -/

theorem updateAkashLabels_lookup {current new : Labels} {key : String}
    (hkey : akashManagedLabelName.toList.isPrefixOf key.toList = true) :
    (updateAkashLabels current new).lookup key = new.lookup key := by
  have hcurrent : (current.filter fun e =>
      ¬ akashManagedLabelName.toList.isPrefixOf e.1.toList).lookup key = none := by
    grind
  rw [updateAkashLabels, List.lookup_append, hcurrent, Option.or_none]

theorem workload_labels_target (w : Workload) : (w.labels K).lookup akashServiceTarget = none := by
  unfold Workload.labels
  split_ifs <;> simp [ClusterDeployment.labels, List.lookup, akashServiceTarget,
    akashManagedLabelName, akashNetworkNamespace, akashManifestResourceVersion,
    akashManifestServiceLabelName, akashInterconnectGroupLabelName]

variable {labels : Labels}

theorem ByBuilder.target (h : ByBuilder K labels) :
    labels.lookup akashServiceTarget = none := by
  obtain ⟨w, hsame | ⟨current, hsame⟩⟩ := h
  · rw [hsame.lookup_eq, workload_labels_target]
  · rw [hsame.lookup_eq, updateAkashLabels_lookup (by decide), workload_labels_target]

theorem ByMetalLB.isMetalLB (h : ByMetalLB labels) : IsMetalLB labels := by
  obtain ⟨lid, hsame⟩ := h
  rw [IsMetalLB, hsame.lookup_eq]
  rfl

/-! ## What is removed -/

theorem not_stale_of_target (h : labels.lookup akashServiceTarget ≠ some "true") :
    ¬ Requirement.MeetsAll (staleSelector svcnames) labels := fun hmeets =>
  h (hmeets (.equals akashServiceTarget "true") (by simp [staleSelector]))

variable {k : Kind}

theorem filter_stale_eq {C : Collection k.Spec}
    (htarget : ∀ o ∈ C.objs, o.labels.lookup akashServiceTarget ≠ some "true") (name : String) :
    ((C.find name).filter fun o => ¬ Requirement.MeetsAll (staleSelector svcnames) o.labels) =
      C.find name := by
  cases hfind : C.find name with
  | none => rfl
  | some o =>
    have hstale := htarget o (Collection.find_mem hfind).1
    grind [not_stale_of_target]

theorem Contents.target (h : Contents K s.cluster) (hk : k ∈ staleKinds) :
    ∀ o ∈ (s.cluster k).objs, o.labels.lookup akashServiceTarget ≠ some "true" := by
  intro o ho
  have hmade : ByBuilder K o.labels ∨ ByMetalLB o.labels := by
    grind [staleKinds]
  obtain hbuilder | hmetalLB := hmade
  · simp [hbuilder.target]
  · rw [show o.labels.lookup akashServiceTarget = some akashMetalLB from hmetalLB.isMetalLB]
    decide

def Stays (group : Mani.Group) (k : Kind) (labels : Labels) : Prop :=
  InGroup group labels ∨ k = .service ∧ IsMetalLB labels

instance (k : Kind) (labels : Labels) : Decidable (Stays group k labels) :=
  inferInstanceAs (Decidable (_ ∨ _ ∧ _))

/-- A clean-up leaves what is to stay exactly if there is nothing else, and services at leased IPs
in any case. -/
theorem cleanupStaleResources_exact_iff (K : KubeSdk) (fails : Nat → Bool) (group : Mani.Group)
    (servicesWithPermissions : List String) {s s' : Deploying} (hcontents : Contents K s.cluster)
    (h : cleanupStaleResources K fails group servicesWithPermissions s = (.ok (), s')) :
    ((∀ k ∈ staleKinds, ∀ name, (s'.cluster k).find name =
        ((s.cluster k).find name).filter fun o => Stays group k o.labels) ↔
      ∀ k ∈ staleKinds, ∀ o ∈ (s.cluster k).objs, Stays group k o.labels) ∧
    ∀ o ∈ (s.cluster .service).objs, IsMetalLB o.labels → o ∈ (s'.cluster .service).objs := by
  have hfind : ∀ k ∈ staleKinds, ∀ name,
      (s'.cluster k).find name = (s.cluster k).find name := fun k hk name => by
    rw [cleanupStaleResources_meets _ _ h k hk name, filter_stale_eq (hcontents.target hk)]
  refine ⟨⟨fun hexact k hk o ho => ?_, fun hall k hk name => ?_⟩, fun o ho _ => ?_⟩
  · have hkept := hexact k hk o.name
    rw [hfind k hk, Collection.find_of_mem ho, Option.filter_some] at hkept
    split at hkept
    · next hstays => exact of_decide_eq_true hstays
    · cases hkept
  · rw [hfind k hk]
    cases hname : (s.cluster k).find name with
    | none => rfl
    | some o =>
      have hstays := hall k hk o (Collection.find_mem hname).1
      grind
  · rw [Collection.mem_objs_iff, hfind .service (by decide)]
    exact Collection.find_of_mem ho

/-- The lease of two services after its deployment. -/
def twoServices : Deploying :=
  (deploy KubeSdk.reference (fun _ => false) plainContext
    (plainDeployment [plainService "web" "image" [], plainService "old" "image" []]) .empty).2

/-- The workload of one of them. -/
def oneOfTwo (name : String) : Workload where
  settings := plainSettings
  deployment :=
    { lid := ⟨"owner", 5, 1, 1, "provider"⟩
      group := ⟨"group", []⟩
      sparams := ⟨[]⟩
      resourceVersion := "1"
      updateManifest := true }
  service := plainService name "image" []
  stored := plainService name "image" []
  sparams := none

theorem twoServices_contents : Contents KubeSdk.reference twoServices.cluster := by
  have hdeployments : (twoServices.cluster .deployment).objs.map (·.labels) =
      [(oneOfTwo "web").labels KubeSdk.reference, (oneOfTwo "old").labels KubeSdk.reference] := by
    decide +kernel
  have hstatefulSets : (twoServices.cluster .statefulSet).objs = [] := by decide +kernel
  have hservices : (twoServices.cluster .service).objs = [] := by decide +kernel
  refine ⟨fun k hk o ho => ?_, fun o ho => ?_⟩
  · obtain rfl | rfl := hk
    · have hlabels := List.mem_map_of_mem (f := fun o : Object .deployment => o.labels) ho
      rw [hdeployments, List.mem_cons, List.mem_singleton] at hlabels
      obtain hlabels | hlabels := hlabels
      · exact ⟨oneOfTwo "web", .inl (hlabels ▸ .refl _)⟩
      · exact ⟨oneOfTwo "old", .inl (hlabels ▸ .refl _)⟩
    · simp_all
  · simp_all

/-- With both services in the group, both stay. -/
theorem cleanupStaleResources_exact_same_group :
    Contents KubeSdk.reference twoServices.cluster ∧ ∀ k ∈ staleKinds, ∀ name,
      ((cleanupStaleResources KubeSdk.reference (fun _ => false)
        ⟨"group", [plainService "web" "image" [], plainService "old" "image" []]⟩ []
          twoServices).2.cluster k).find name =
      ((twoServices.cluster k).find name).filter fun o =>
        Stays ⟨"group", [plainService "web" "image" [], plainService "old" "image" []]⟩ k
          o.labels := by
  have h : (cleanupStaleResources KubeSdk.reference (fun _ => false)
      ⟨"group", [plainService "web" "image" [], plainService "old" "image" []]⟩ []
        twoServices).1 = .ok () := by decide +kernel
  have hstays : ∀ k ∈ staleKinds, ∀ o ∈ (twoServices.cluster k).objs,
      Stays ⟨"group", [plainService "web" "image" [], plainService "old" "image" []]⟩ k
        o.labels := by decide +kernel
  cases hrun : cleanupStaleResources KubeSdk.reference (fun _ => false)
      ⟨"group", [plainService "web" "image" [], plainService "old" "image" []]⟩ []
        twoServices with
  | mk r s' =>
    rw [hrun] at h
    cases h
    exact ⟨twoServices_contents,
      (cleanupStaleResources_exact_iff _ _ _ _ twoServices_contents hrun).1.mpr hstays⟩

/-- A service that the group does not have stays. -/
theorem cleanupStaleResources_keeps_stale :
    Contents KubeSdk.reference twoServices.cluster ∧
      (cleanupStaleResources KubeSdk.reference (fun _ => false)
        ⟨"group", [plainService "web" "image" []]⟩ [] twoServices).1 = .ok () ∧
      "old" ∈ ((cleanupStaleResources KubeSdk.reference (fun _ => false)
        ⟨"group", [plainService "web" "image" []]⟩ [] twoServices).2.cluster .deployment).names :=
  ⟨twoServices_contents, by decide +kernel, by decide +kernel⟩

end AkashProvider.Kube
